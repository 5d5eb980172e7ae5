import SchedulerOperator.Proofs.Changes

namespace SchedulerOperator.Cluster
variable {hand : Option RootKey} {s t : Cluster} {k : RootKey} {r : InferenceScheduler}

theorem Change.refl (s : Cluster) : Change hand s s :=
  .still (Nat.le_refl _) rfl rfl fun _ mem => mem

theorem Change.spared (later : s.version ≤ t.version) (uids : t.uids = s.uids)
    (roots : t.roots = s.roots) (objects : t.objects = s.objects) : Change hand s t :=
  .still later uids roots fun _ mem => objects ▸ mem

theorem change_putRoot {u : Cluster} {old : InferenceScheduler} (accounted : s.Accounted)
    (found : Assoc.get? k s.roots = some old) (version : u.version = s.version + 1)
    (uids : u.uids = s.uids) (roots : u.roots = s.roots) (objects : u.objects = s.objects)
    (inNamespace : r.metadata.namespace_ = old.metadata.namespace_) (named : r.name = old.name)
    (uid : r.metadata.uid = old.metadata.uid)
    (stamp : r.metadata.resourceVersion = some (toString (s.version + 1)))
    (kept : hand = some k ∨ r.finalizers = old.finalizers) :
    Change hand s (u.putRoot k r) := by
  obtain ⟨m, _, stamped⟩ := accounted.stamped found
  have later : s.version < u.version := by omega
  refine .edited later found ⟨⟨?_, ?_⟩, ?_, ?_⟩ uids uid kept (congrArg (Assoc.set k r) roots) objects
  · exact inNamespace.trans stamped.located.namespace_
  · exact named.trans stamped.located.name
  · rw [uid]
    exact stamped.uid
  · exact stamp.trans (congrArg (fun n => some (toString n)) version.symm)

theorem change_dropRoot {u : Cluster} {old : InferenceScheduler}
    (found : Assoc.get? k s.roots = some old) (later : s.version ≤ u.version)
    (uids : u.uids = s.uids) (roots : u.roots = s.roots) (objects : u.objects = s.objects)
    (uid : r.metadata.uid = old.metadata.uid) (free : hand = some k ∨ old.finalizers = []) :
    Change hand s (u.dropRoot k r) := by
  refine .dropped later found uids free (congrArg (Assoc.erase k) roots) fun e mem => ?_
  obtain ⟨there, unowned⟩ := List.mem_filter.mp mem
  rw [← uid]
  exact ⟨objects ▸ there, by simpa using unowned⟩

theorem change_setFinalizers (accounted : s.Accounted) (root : InferenceScheduler)
    (finalizers : List String) :
    Change (some ⟨root.namespaceOr "", root.name⟩) s (s.setFinalizers root finalizers).2 := by
  cases s.setFinalizers_outcome root finalizers with
  | refused _ out =>
    rw [out]
    exact .spared (Nat.le_succ _) rfl rfl rfl
  | released found _ _ _ out =>
    rw [out]
    exact change_dropRoot found (Nat.le_succ _) rfl rfl rfl rfl (.inl rfl)
  | stored found _ _ out =>
    rw [out]
    exact change_putRoot accounted found rfl rfl rfl rfl rfl rfl rfl rfl (.inl rfl)

theorem setFinalizers_marks (root : InferenceScheduler) {finalizers : List String}
    (marker : finalizerMarker ∈ finalizers) :
    (∃ e, (s.setFinalizers root finalizers).1 = .error e ∧
      (s.setFinalizers root finalizers).2.roots = s.roots) ∨
    ∃ stored r, Assoc.get? ⟨root.namespaceOr "", root.name⟩ s.roots = some stored ∧
      stored.metadata.resourceVersion = root.metadata.resourceVersion ∧
      r.metadata.uid = stored.metadata.uid ∧ r.hasMarker = true ∧
      (s.setFinalizers root finalizers).2.roots =
        Assoc.set ⟨root.namespaceOr "", root.name⟩ r s.roots := by
  cases s.setFinalizers_outcome root finalizers with
  | refused _ out =>
    rw [out]
    exact .inl ⟨_, rfl, rfl⟩
  | released _ _ _ none =>
    rw [none] at marker
    cases marker
  | @stored old found read _ out =>
    rw [out]
    refine .inr ⟨old, old.finalized finalizers (s.version + 1), found, read, rfl, ?_, rfl⟩
    rw [InferenceScheduler.hasMarker, old.finalized_finalizers]
    exact List.contains_iff_mem.mpr marker

theorem Guarded.setFinalizers {uid : Option String} {root : InferenceScheduler}
    {finalizers : List String} (guarded : Guarded k uid s)
    (marker : finalizerMarker ∈ finalizers) :
    Guarded k uid (s.setFinalizers root finalizers).2 := by
  obtain ⟨r, found, same, marked⟩ := guarded
  rcases setFinalizers_marks (s := s) root marker with
    ⟨_, _, roots⟩ | ⟨stored, r', there, _, uid', marked', roots⟩
  · exact ⟨r, by rw [roots]; exact found, same, marked⟩
  · by_cases here : k = ⟨root.namespaceOr "", root.name⟩
    · rw [← here] at there roots
      rw [found, Option.some.injEq] at there
      exact ⟨r', by rw [roots, Assoc.get?_set_self], by rw [uid', ← there, same], marked'⟩
    · exact ⟨r, by rw [roots, Assoc.get?_set_other _ _ here]; exact found, same, marked⟩

theorem RootSeen.attached {root : InferenceScheduler} {finalizers : List String}
    (seen : RootSeen k root s) (marker : finalizerMarker ∈ finalizers)
    (done : (s.setFinalizers root finalizers).1 = .ok ()) :
    Guarded k root.metadata.uid (s.setFinalizers root finalizers).2 := by
  rcases setFinalizers_marks (s := s) root marker with
    ⟨e, failed, _⟩ | ⟨stored, r, there, version, uid, marked, roots⟩
  · rw [failed] at done
    cases done
  · rw [seen.located.key ""] at there roots
    exact ⟨r, by rw [roots, Assoc.get?_set_self], uid.trans (seen.2 stored there version), marked⟩

theorem change_writeStatus (accounted : s.Accounted) (ns name : String)
    (status : SchedulerStatus) : Change hand s (s.writeStatus ns name status).2 := by
  cases s.writeStatus_outcome ns name status with
  | missing _ out | same _ _ out =>
    rw [out]
    exact .spared (Nat.le_succ _) rfl rfl rfl
  | stored found _ out =>
    rw [out]
    exact change_putRoot accounted found rfl rfl rfl rfl rfl rfl rfl rfl (.inr rfl)

theorem change_updateSpec (accounted : s.Accounted) (ns name : String)
    (edit : SchedulerSpec → SchedulerSpec) : Change hand s (s.updateSpec ns name edit).2 := by
  cases s.updateSpec_outcome ns name edit with
  | missing out =>
    rw [out]
    exact .spared (Nat.le_succ _) rfl rfl rfl
  | stored found out =>
    rw [out]
    exact change_putRoot accounted found rfl rfl rfl rfl rfl rfl rfl rfl (.inr rfl)

theorem change_requestDeletion (accounted : s.Accounted) (now ns name : String) :
    Change hand s (s.requestDeletion now ns name).2 := by
  cases s.requestDeletion_outcome now ns name with
  | missing out =>
    rw [out]
    exact .spared (Nat.le_succ _) rfl rfl rfl
  | gone found free out =>
    rw [out]
    exact change_dropRoot found (Nat.le_succ _) rfl rfl rfl rfl (.inr free)
  | stored found _ out =>
    rw [out]
    exact change_putRoot accounted found rfl rfl rfl rfl rfl rfl rfl rfl (.inr rfl)

theorem change_insertRoot (unnamed : r.metadata.uid = none)
    (free : Assoc.get? ⟨r.namespaceOr "default", r.name⟩ s.roots = none) :
    Change hand s (s.insertRoot r).2 := by
  obtain ⟨uid, uids, ⟨known, _⟩ | ⟨_, rfl, rfl⟩, out⟩ := s.insertRoot_outcome r
  · exact nomatch unnamed.symm.trans known
  · rw [out]
    refine .added (Nat.lt_succ_self _) free ?_ rfl ?_ rfl rfl
    · exact ⟨⟨rfl, rfl⟩, rfl, rfl⟩
    · rfl

theorem resourceVersion_simulate {v : Json} (kind : String) :
    resourceVersion (s.simulate kind v).1 = resourceVersion v :=
  congrArg (·.get "resourceVersion") (metadata_simulate kind)

theorem isOwnedBy_simulate {v : Json} {uid : String} (kind : String) :
    isOwnedBy uid (s.simulate kind v).1 = isOwnedBy uid v :=
  isOwnedBy_congr (congrArg (·.get "ownerReferences") (metadata_simulate kind))

theorem change_simulate {u : Cluster} {key : ObjectKey} {kind : String} {object version v : Json}
    {t : Cluster} (simulated : s.simulate kind (setMetadata "resourceVersion" version object) = (v, t))
    (live : s.OwnersLive object) (later : s.version ≤ u.version) (uids : u.uids = s.uids)
    (roots : u.roots = s.roots) (objects : u.objects = s.objects)
    (fresh : s.version < u.version ∧ version = .str (toString u.version) ∨
      ∃ old, (key, old) ∈ s.objects ∧ version = resourceVersion old ∧
        ∀ uid, isOwnedBy uid object = isOwnedBy uid old) :
    Change hand s (u.putObject key v) := by
  obtain rfl : _ = v := congrArg Prod.fst simulated
  have owners : ∀ uid, isOwnedBy uid (s.simulate kind
      (setMetadata "resourceVersion" version object)).1 = isOwnedBy uid object := fun uid =>
    (isOwnedBy_simulate kind).trans (isOwnedBy_setMetadata (by decide))
  have stamp : resourceVersion (s.simulate kind
      (setMetadata "resourceVersion" version object)).1 = version :=
    (resourceVersion_simulate kind).trans resourceVersion_set
  refine .written later uids (live.congr owners) ?_ roots (congrArg (Assoc.set key _) objects)
  rcases fresh with ⟨newer, same⟩ | ⟨old, there, same, alike⟩
  · exact .inl ⟨newer, stamp.trans same⟩
  · exact .inr ⟨old, there, stamp.trans same, fun uid => (owners uid).trans (alike uid)⟩

theorem change_create {api : ApiResource} {ns : Option String} {object : Json}
    (live : s.OwnersLive object) : Change hand s (s.create api ns object).2 := by
  cases s.create_outcome api ns object with
  | refused _ out =>
    rw [out]
    exact .refl s
  | stored _ _ simulated out =>
    rw [out]
    have placed : s.OwnersLive (placeIn ns object) := live.congr fun uid => isOwnedBy_placeIn ns
    refine change_simulate simulated placed (Nat.le_succ _) rfl rfl rfl ?_
    exact .inl ⟨Nat.lt_succ_self _, rfl⟩

theorem change_replace {api : ApiResource} {ns : Option String} {name : String} {object : Json}
    (live : ∀ existing, s.object? api ns name = some existing → Replaces object existing →
      s.OwnersLive object) : Change hand s (s.replace api ns name object).2 := by
  have owners : ∀ existing uid, isOwnedBy uid (keepStatus existing (placeIn ns object)) =
      isOwnedBy uid object := fun existing uid =>
    (isOwnedBy_keepStatus existing).trans (isOwnedBy_placeIn ns)
  cases s.replace_outcome api ns name object with
  | refused _ out =>
    rw [out]
    exact .refl s
  | @changed existing _ _ found sent _ simulated out =>
    rw [out]
    have kept := (live existing found sent).congr (owners existing)
    refine change_simulate simulated kept (Nat.le_succ _) rfl rfl rfl ?_
    exact .inl ⟨Nat.lt_succ_self _, rfl⟩
  | @unchanged existing _ _ found sent compared simulated out =>
    rw [out]
    have kept := (live existing found sent).congr (owners existing)
    refine change_simulate simulated kept (Nat.le_refl _) rfl rfl rfl ?_
    exact .inr ⟨existing, Assoc.mem_of_get? found, rfl, fun uid => (isOwnedBy_of_content compared).symm⟩

theorem change_delete {api : ApiResource} {ns : Option String} {name : String} :
    Change hand s (s.delete api ns name).2 := by
  cases s.delete_outcome api ns name with
  | refused _ _ out =>
    rw [out]
    exact .refl s
  | removed _ out =>
    rw [out]
    exact .still (Nat.le_refl _) rfl rfl fun _ mem => (List.mem_filter.mp mem).1

theorem change_insertObject {api : ApiResource} {ns : Option String} {object : Json}
    (live : s.OwnersLive object) : Change hand s (s.insertObject api ns object) := by
  unfold Cluster.insertObject
  refine .written (Nat.le_succ _) rfl (live.congr fun uid => ?_) (.inl ⟨Nat.lt_succ_self _, ?_⟩) rfl rfl
  · rw [isOwnedBy_setMetadata (by decide), isOwnedBy_placeIn, isOwnedBy_set (by decide),
      isOwnedBy_set (by decide)]
  · exact resourceVersion_set

theorem change_setReadyReplicas (accounted : s.Accounted) (api : ApiResource) (ns name : String)
    (ready : Int) : Change hand s (s.setReadyReplicas api ns name ready).2 := by
  cases s.setReadyReplicas_outcome api ns name ready with
  | missing _ out =>
    rw [out]
    exact .spared (Nat.le_succ _) rfl rfl rfl
  | stored found out =>
    rw [out]
    have live := accounted.owners _ (Assoc.mem_of_get? found)
    refine .written (Nat.le_succ _) rfl (live.congr fun uid => ?_) (.inl ⟨Nat.lt_succ_self _, ?_⟩) rfl rfl
    · rw [isOwnedBy_setMetadata (by decide)]
      exact isOwnedBy_set (by decide)
    · exact resourceVersion_set

end SchedulerOperator.Cluster

namespace SchedulerOperator
open Cluster
variable {s : Cluster}

namespace StoreCall

def hand? : StoreCall → Option RootKey
  | .setFinalizers root _ => some ⟨root.namespaceOr "", root.name⟩
  | _ => none

def OwnersLive (s : Cluster) : StoreCall → Prop
  | .create _ _ object => s.OwnersLive object
  | .replace api ns name object =>
    ∀ existing, s.object? api ns name = some existing → Replaces object existing →
      s.OwnersLive object
  | _ => True

end StoreCall

theorem change_answer {c : StoreCall} (accounted : s.Accounted) (live : c.OwnersLive s) :
    Change c.hand? s (s.answer c).2 := by
  rcases answer_cases (s := s) c with ⟨e, failed⟩ | performed
  · rw [failed]
    exact .refl s
  · rw [performed]
    cases c with
    | getRoot ns name => exact .refl s
    | setFinalizers root finalizers => exact change_setFinalizers accounted root finalizers
    | writeStatus ns name status => exact change_writeStatus accounted ns name status
    | get api ns name => exact .refl s
    | create api ns object => exact change_create live
    | replace api ns name object => exact change_replace live
    | delete api ns name => exact change_delete
    | listNames api ns limit => exact .refl s

/-- What other clients do: they leave finalizers and statuses to the engine, add roots that
have no uid yet where there is none, and name as owners only roots that are stored. -/
def Operation.Permitted (s : Cluster) : Operation → Prop
  | .call (.setFinalizers ..) | .call (.writeStatus ..) => False
  | .call (.create _ _ object) | .call (.replace _ _ _ object) | .insertObject _ _ object =>
    s.OwnersLive object
  | .insertRoot r => r.metadata.uid = none ∧ s.root? (r.namespaceOr "default") r.name = none
  | _ => True

theorem answer_ok {c : StoreCall} {a : c.Answer} (done : (s.answer c).1 = .ok a) :
    s.answer c = perform c s := by
  rcases answer_cases (s := s) c with ⟨e, failed⟩ | performed
  · rw [failed] at done
    cases done
  · exact performed

theorem Guarded.answer {c : StoreCall} {k : RootKey} {uid : Option String} (accounted : s.Accounted)
    (live : c.OwnersLive s) (guarded : Guarded k uid s)
    (marks : ∀ root finalizers, c = .setFinalizers root finalizers →
      finalizerMarker ∈ finalizers) : Guarded k uid (s.answer c).2 := by
  have change := change_answer accounted live
  cases c with
  | setFinalizers root finalizers =>
    rcases answer_cases (s := s) (.setFinalizers root finalizers) with ⟨e, failed⟩ | performed
    · rw [failed]
      exact guarded
    · rw [performed]
      exact guarded.setFinalizers (marks root finalizers rfl)
  | _ => exact change.guarded (by simp [StoreCall.hand?]) guarded

theorem change_apply {o : Operation} (accounted : s.Accounted)
    (permitted : o.Permitted s) : Change none s (o.apply s) := by
  cases o with
  | call c =>
    have inHand : c.hand? = none := by
      cases c <;> first
        | rfl
        | cases permitted
    have live : c.OwnersLive s := by
      cases c <;> first
        | trivial
        | exact permitted
        | exact fun _ _ _ => permitted
    exact inHand ▸ change_answer accounted live
  | install api =>
    obtain ⟨types, out⟩ := s.install_outcome api
    exact (congrArg (Change none s) out).mpr (.spared (Nat.le_refl _) rfl rfl rfl)
  | insertRoot r => exact change_insertRoot permitted.1 permitted.2
  | updateSpec ns name edit => exact change_updateSpec accounted ns name edit
  | requestDeletion now ns name => exact change_requestDeletion accounted now ns name
  | insertObject api ns object => exact change_insertObject permitted
  | setReadyReplicas api ns name ready => exact change_setReadyReplicas accounted api ns name ready
  | _ => exact .spared (Nat.le_refl _) rfl rfl rfl

end SchedulerOperator
