import SchedulerOperator.Proofs.CallEffects
import SchedulerOperator.Proofs.RootWrites

/-!
Where a stored root comes from, whoever acts on the cluster. Whatever is changed of a root gets a
version that no root had before, so a root that still has the version which was read is the root
that was read.
-/
namespace SchedulerOperator

def StoreCall.SparesRoot (c : StoreCall) : Prop := c.op ≠ .setFinalizers ∧ c.op ≠ .writeStatus

/-- A root stays who it was, and is still being deleted if it was. -/
structure InferenceScheduler.Continues (old r : InferenceScheduler) : Prop where
  uid : r.metadata.uid = old.metadata.uid
  deletion : ∀ time, old.metadata.deletionTimestamp = some time →
    r.metadata.deletionTimestamp = some time

namespace InferenceScheduler.Continues
variable {r r' r'' : InferenceScheduler}

theorem refl (r : InferenceScheduler) : r.Continues r := ⟨rfl, fun _ set => set⟩

theorem trans (first : r.Continues r') (second : r'.Continues r'') : r.Continues r'' where
  uid := second.uid.trans first.uid
  deletion time set := second.deletion time (first.deletion time set)

theorem deleted (continues : r.Continues r') (asked : r.metadata.deletionTimestamp.isSome) :
    r'.metadata.deletionTimestamp.isSome := by
  obtain ⟨time, set⟩ := Option.isSome_iff_exists.mp asked
  rw [continues.deletion time set]
  rfl

end InferenceScheduler.Continues

namespace Cluster
variable {s t : Cluster} {k : RootKey} {r old : InferenceScheduler} {c : StoreCall}

def Versioned (s : Cluster) : Prop :=
  ∀ k r, Assoc.get? k s.roots = some r → ∃ m, m ≤ s.version ∧ Stamped k m r

/-- How an operation rewrites the root at `k`. -/
inductive Rewrites (o : Operation) (k : RootKey) (version : Nat) (old : InferenceScheduler) :
    InferenceScheduler → Prop where
  | finalized {root : InferenceScheduler} {finalizers : List String}
      (call : o = .call (.setFinalizers root finalizers))
      (here : k = ⟨root.namespaceOr "", root.name⟩)
      (read : old.metadata.resourceVersion = root.metadata.resourceVersion)
      (held : old.metadata.deletionTimestamp.isSome → finalizers ≠ []) :
      Rewrites o k version old (old.finalized finalizers version)
  | reported {status : SchedulerStatus}
      (call : o = .call (.writeStatus k.namespace_ k.name status)) :
      Rewrites o k version old (old.reported status version)
  | edited {edit : SchedulerSpec → SchedulerSpec}
      (call : o = .updateSpec k.namespace_ k.name edit) :
      Rewrites o k version old (old.edited edit version)
  | doomed {now : String} (call : o = .requestDeletion now k.namespace_ k.name)
      (held : old.finalizers ≠ []) : Rewrites o k version old (old.doomed now version)

/-- What becomes of a root that stays. -/
def Descends (o : Operation) (s t : Cluster) (k : RootKey) (old r : InferenceScheduler) : Prop :=
  r = old ∨ s.version < t.version ∧ Rewrites o k t.version old r

inductive Rooted (o : Operation) (s t : Cluster) : Prop where
  | fewer (later : s.version ≤ t.version)
      (roots : ∀ k r, Assoc.get? k t.roots = some r → Assoc.get? k s.roots = some r)
  | rewritten {k : RootKey} {old r : InferenceScheduler} (found : Assoc.get? k s.roots = some old)
      (later : s.version < t.version) (rewrites : Rewrites o k t.version old r)
      (roots : t.roots = Assoc.set k r s.roots) (objects : t.objects = s.objects)
  | added {new : InferenceScheduler} {uid : String} (inserted : o = .insertRoot new)
      (later : s.version < t.version)
      (roots : t.roots = Assoc.set ⟨new.namespaceOr "default", new.name⟩
        (new.admitted uid t.version) s.roots)
      (objects : t.objects = s.objects)

theorem Rooted.same {o : Operation} (later : s.version ≤ t.version) (roots : t.roots = s.roots) :
    Rooted o s t :=
  .fewer later fun _ _ found => roots ▸ found

theorem Rooted.erased {o : Operation} (later : s.version ≤ t.version)
    (roots : t.roots = Assoc.erase k s.roots) : Rooted o s t :=
  .fewer later fun _ _ found => (Assoc.get?_of_erase (roots ▸ found)).2

theorem answer_spares (spares : c.SparesRoot) : (s.answer c).2.roots = s.roots := by
  cases (answer_effect s c).touch with
  | finalized call => exact absurd (congrArg StoreCall.op call) spares.1
  | reported call => exact absurd (congrArg StoreCall.op call) spares.2
  | released call => exact absurd (congrArg StoreCall.op call) spares.1
  | nothing roots | written _ roots | deleted _ roots => exact roots

theorem rooted_answer (c : StoreCall) : Rooted (.call c) s (s.answer c).2 := by
  have later := (answer_effect s c).later
  rcases answer_cases (s := s) c with ⟨e, failed⟩ | performed
  · rw [failed]
    exact .same (Nat.le_refl _) rfl
  · cases c with
    | setFinalizers root finalizers =>
      rw [performed]
      change Rooted _ s (s.setFinalizers root finalizers).2
      cases s.setFinalizers_outcome root finalizers with
      | refused _ out =>
        rw [out]
        exact .same (Nat.le_succ _) rfl
      | released _ _ _ _ out =>
        rw [out]
        exact .erased (Nat.le_succ _) rfl
      | stored found read held out =>
        rw [out]
        exact .rewritten found (Nat.lt_succ_self _) (.finalized rfl rfl read held) rfl rfl
    | writeStatus ns name status =>
      rw [performed]
      change Rooted _ s (s.writeStatus ns name status).2
      cases s.writeStatus_outcome ns name status with
      | missing _ out | same _ _ out =>
        rw [out]
        exact .same (Nat.le_succ _) rfl
      | stored found _ out =>
        rw [out]
        exact .rewritten found (Nat.lt_succ_self _) (.reported rfl) rfl rfl
    | _ => exact .same later (answer_spares ⟨nofun, nofun⟩)

theorem rooted_apply (o : Operation) : Rooted o s (o.apply s) := by
  cases o with
  | call c => exact rooted_answer c
  | install api =>
    obtain ⟨types, out⟩ := s.install_outcome api
    exact (congrArg (Rooted _ s) out).mpr (.same (Nat.le_refl _) rfl)
  | insertRoot new =>
    obtain ⟨uid, uids, _, out⟩ := s.insertRoot_outcome new
    refine (congrArg (fun x => Rooted _ s x.2) out).mpr ?_
    exact .added rfl (Nat.lt_succ_self _) rfl rfl
  | updateSpec ns name edit =>
    change Rooted _ s (s.updateSpec ns name edit).2
    cases s.updateSpec_outcome ns name edit with
    | missing out =>
      rw [out]
      exact .same (Nat.le_succ _) rfl
    | stored found out =>
      rw [out]
      exact .rewritten found (Nat.lt_succ_self _) (.edited rfl) rfl rfl
  | requestDeletion now ns name =>
    change Rooted _ s (s.requestDeletion now ns name).2
    cases s.requestDeletion_outcome now ns name with
    | missing out =>
      rw [out]
      exact .same (Nat.le_succ _) rfl
    | gone _ _ out =>
      rw [out]
      exact .erased (Nat.le_succ _) rfl
    | stored found held out =>
      rw [out]
      exact .rewritten found (Nat.lt_succ_self _) (.doomed rfl held) rfl rfl
  | insertObject api ns object => exact .same (Nat.le_succ _) rfl
  | setReadyReplicas api ns name ready =>
    change Rooted _ s (s.setReadyReplicas api ns name ready).2
    cases s.setReadyReplicas_outcome api ns name ready with
    | missing _ out | stored _ out =>
      rw [out]
      exact .same (Nat.le_succ _) rfl
  | _ => exact .same (Nat.le_refl _) rfl

theorem version_le_apply (s : Cluster) (o : Operation) : s.version ≤ (o.apply s).version := by
  cases rooted_apply (s := s) o with
  | fewer later => exact later
  | rewritten _ later => exact Nat.le_of_lt later
  | added _ later => exact Nat.le_of_lt later

theorem Rewrites.version {o : Operation} {m : Nat} (rewrites : Rewrites o k m old r) :
    r.metadata.resourceVersion = some (toString m) := by
  cases rewrites <;> rfl

namespace Descends
variable {o : Operation}

theorem continues (descends : Descends o s t k old r) : old.Continues r := by
  rcases descends with rfl | ⟨_, rewrites⟩
  · exact .refl r
  · cases rewrites with
    | doomed =>
      refine ⟨rfl, fun time set => ?_⟩
      simp only [InferenceScheduler.doomed, set, Option.getD_some]
    | _ => exact ⟨rfl, fun _ set => set⟩

theorem located (descends : Descends o s t k old r) (located : Located k old) : Located k r := by
  rcases descends with rfl | ⟨_, rewrites⟩
  · exact located
  · obtain ⟨namespace_, name⟩ := located
    cases rewrites <;> exact ⟨namespace_, name⟩

theorem status (descends : Descends o s t k old r) : r.status = old.status ∨
    ∃ status, o = .call (.writeStatus k.namespace_ k.name status) ∧ r.status = some status := by
  rcases descends with rfl | ⟨_, rewrites⟩
  · exact .inl rfl
  · cases rewrites with
    | reported call => exact .inr ⟨_, call, rfl⟩
    | _ => exact .inl rfl

theorem renewed (descends : Descends (.call c) s t k old r) : old.Renewed r := by
  rcases descends with rfl | ⟨_, rewrites⟩
  · exact .refl r
  · cases rewrites with
    | finalized | reported => exact ⟨rfl, rfl⟩
    | edited call | doomed call => cases call

theorem finalizers (descends : Descends (.call c) s t k old r) :
    r.finalizers = old.finalizers ∨ ∃ root finalizers, c = .setFinalizers root finalizers ∧
      k = ⟨root.namespaceOr "", root.name⟩ ∧
      old.metadata.resourceVersion = root.metadata.resourceVersion ∧ r.finalizers = finalizers := by
  rcases descends with rfl | ⟨_, rewrites⟩
  · exact .inl rfl
  · cases rewrites with
    | finalized call here read =>
      exact .inr ⟨_, _, Operation.call.inj call, here, read, old.finalized_finalizers _ _⟩
    | _ => exact .inl rfl

end Descends

inductive Origin (o : Operation) (s t : Cluster) (k : RootKey) (r : InferenceScheduler) : Prop where
  | kept {old : InferenceScheduler} (found : Assoc.get? k s.roots = some old)
      (descends : Descends o s t k old r)
  | added {new : InferenceScheduler} {uid : String} (inserted : o = .insertRoot new)
      (here : k = ⟨new.namespaceOr "default", new.name⟩) (later : s.version < t.version)
      (stored : r = new.admitted uid t.version)

theorem Rooted.origin {o : Operation} (rooted : Rooted o s t)
    (found : Assoc.get? k t.roots = some r) : Origin o s t k r := by
  cases rooted with
  | fewer _ roots => exact .kept (roots k r found) (.inl rfl)
  | rewritten there later rewrites roots =>
    rcases Assoc.get?_set_cases (roots ▸ found) with ⟨rfl, rfl⟩ | ⟨_, before⟩
    · exact .kept there (.inr ⟨later, rewrites⟩)
    · exact .kept before (.inl rfl)
  | added inserted later roots =>
    rcases Assoc.get?_set_cases (roots ▸ found) with ⟨rfl, rfl⟩ | ⟨_, before⟩
    · exact .added inserted rfl later rfl
    · exact .kept before (.inl rfl)

theorem apply_origin (o : Operation) (found : Assoc.get? k (o.apply s).roots = some r) :
    Origin o s (o.apply s) k r :=
  (rooted_apply o).origin found

theorem answer_descends (c : StoreCall) (found : Assoc.get? k (s.answer c).2.roots = some r) :
    ∃ old, Assoc.get? k s.roots = some old ∧ Descends (.call c) s (s.answer c).2 k old r := by
  cases (rooted_answer c).origin found with
  | kept found descends => exact ⟨_, found, descends⟩
  | added inserted => cases inserted

theorem setFinalizers_done {root : InferenceScheduler} {finalizers : List String}
    (done : (s.setFinalizers root finalizers).1 = .ok ()) :
    ∃ stored, Assoc.get? ⟨root.namespaceOr "", root.name⟩ s.roots = some stored ∧
      stored.metadata.resourceVersion = root.metadata.resourceVersion ∧
      ((∃ after, Assoc.get? ⟨root.namespaceOr "", root.name⟩
            (s.setFinalizers root finalizers).2.roots = some after ∧
          stored.Renewed after ∧ after.status = stored.status ∧ after.finalizers = finalizers) ∨
        (stored.metadata.deletionTimestamp.isSome ∧ finalizers = [] ∧
          Assoc.get? ⟨root.namespaceOr "", root.name⟩
            (s.setFinalizers root finalizers).2.roots = none)) := by
  cases s.setFinalizers_outcome root finalizers with
  | refused _ out =>
    rw [out] at done
    cases done
  | released found read deleted none out =>
    rw [out]
    exact ⟨_, found, read, .inr ⟨deleted, none, Assoc.get?_erase_self _ _⟩⟩
  | @stored old found read _ out =>
    rw [out]
    refine ⟨_, found, read, .inl ⟨_, Assoc.get?_set_self _ _ _, ⟨rfl, rfl⟩, rfl, ?_⟩⟩
    exact old.finalized_finalizers finalizers _

/-- A root that is stored after an operation was stored before it, or has a new version. -/
theorem Origin.stored {o : Operation} (origin : Origin o s t k r) (versioned : s.Versioned) :
    Assoc.get? k s.roots = some r ∨ s.version < t.version ∧ Stamped k t.version r := by
  cases origin with
  | kept found descends =>
    obtain ⟨m, _, stamped⟩ := versioned _ _ found
    rcases descends with rfl | ⟨later, rewrites⟩
    · exact .inl found
    · have descends : Descends o s t k _ r := .inr ⟨later, rewrites⟩
      refine .inr ⟨later, descends.located stamped.located, ?_, rewrites.version⟩
      rw [descends.continues.uid]
      exact stamped.uid
  | added _ here later stored =>
    subst here stored
    exact .inr ⟨later, ⟨rfl, rfl⟩, rfl, rfl⟩

theorem versioned_empty : Versioned {} := fun _ _ found => by cases found

theorem Versioned.apply (versioned : s.Versioned) (o : Operation) : (o.apply s).Versioned := by
  intro k r found
  rcases (apply_origin o found).stored versioned with before | ⟨_, stamped⟩
  · obtain ⟨m, low, stamped⟩ := versioned k r before
    exact ⟨m, Nat.le_trans low (version_le_apply s o), stamped⟩
  · exact ⟨_, Nat.le_refl _, stamped⟩

theorem Reachable.versioned (reached : Reachable s) : s.Versioned := by
  induction reached with
  | empty => exact versioned_empty
  | next o _ _ ih => exact ih.apply o

/-- While the root at `k` has the version that was read, nothing of it was changed. -/
structure Unaltered (k : RootKey) (r : InferenceScheduler) (s : Cluster) : Prop where
  stamped : ∃ m, m ≤ s.version ∧ Stamped k m r
  same : ∀ r', Assoc.get? k s.roots = some r' →
    r'.metadata.resourceVersion = r.metadata.resourceVersion → r' = r

theorem Unaltered.located (unaltered : Unaltered k r s) : Located k r := by
  obtain ⟨m, _, stamped⟩ := unaltered.stamped
  exact stamped.located

theorem Versioned.unaltered (versioned : s.Versioned) (found : Assoc.get? k s.roots = some r) :
    Unaltered k r s := by
  refine ⟨versioned k r found, fun r' found' _ => ?_⟩
  rw [found, Option.some.injEq] at found'
  exact found'.symm

theorem Unaltered.apply (unaltered : Unaltered k r s) (versioned : s.Versioned) (o : Operation) :
    Unaltered k r (o.apply s) := by
  obtain ⟨m, low, stamped⟩ := unaltered.stamped
  refine ⟨⟨m, Nat.le_trans low (version_le_apply s o), stamped⟩, fun r' found version => ?_⟩
  rcases (apply_origin o found).stored versioned with before | ⟨later, stamped'⟩
  · exact unaltered.same r' before version
  · exact absurd version (stamped'.unseen stamped low later)

end Cluster
end SchedulerOperator
