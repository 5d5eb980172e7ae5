import SchedulerOperator.Proofs.CallEffects
import SchedulerOperator.Proofs.Children
import SchedulerOperator.Proofs.RootOrigins
import SchedulerOperator.Store.Hook

/-!
Versions are numbered: whatever changes an object hands out a number that no object had before, so
an object that was changed after a look at it, or deleted and created anew, never has the version
that was seen.
-/
namespace SchedulerOperator

def Operation.applyAll (os : List Operation) (s : Cluster) : Cluster :=
  os.foldl (fun s o => o.apply s) s

theorem Operation.applyAll_append (front : List Operation) (o : Operation) (back : List Operation)
    (s : Cluster) :
    applyAll (front ++ o :: back) s = applyAll back (o.apply (applyAll front s)) :=
  List.foldl_append

namespace Cluster
variable {s t : Cluster} {c : StoreCall} {k : ObjectKey} {v : Json} {m : Nat} {o : Operation}

/-- What becomes of the objects: some go, or one is put in place, with a version that is new or,
if it is replaced, with the one that it had. -/
inductive Restocked (o : Operation) (s t : Cluster) : Prop where
  | fewer (objects : t.objects.Sublist s.objects)
  | renewed {k : ObjectKey} {v : Json} (later : s.version < t.version)
      (version : resourceVersion v = .str (toString t.version))
      (objects : t.objects = Assoc.set k v s.objects)
  | restored {api : ApiResource} {ns : Option String} {name : String} {object v old : Json}
      (call : o = .call (.replace api ns name object)) (found : s.object? api ns name = some old)
      (version : resourceVersion v = resourceVersion old)
      (objects : t.objects = Assoc.set (api.objectKey ns name) v s.objects)

theorem Restocked.same (objects : t.objects = s.objects) : Restocked o s t :=
  .fewer (objects ▸ List.Sublist.refl _)

theorem simulated_version {kind : String} {version object : Json}
    (simulated : s.simulate kind (setMetadata "resourceVersion" version object) = (v, t)) :
    resourceVersion v = version := by
  obtain rfl : _ = v := congrArg Prod.fst simulated
  exact (resourceVersion_simulate kind).trans resourceVersion_set

theorem restocked_answer (c : StoreCall) : Restocked (.call c) s (s.answer c).2 := by
  rcases answer_cases (s := s) c with ⟨e, failed⟩ | performed
  · rw [failed]
    exact .same rfl
  rw [performed]
  cases c with
  | create api ns object =>
    change Restocked _ s (s.create api ns object).2
    cases s.create_outcome api ns object with
    | refused _ out =>
      rw [out]
      exact .same rfl
    | stored _ _ simulated out =>
      rw [out]
      exact .renewed (Nat.lt_succ_self _) (simulated_version simulated) rfl
  | replace api ns name object =>
    change Restocked _ s (s.replace api ns name object).2
    cases s.replace_outcome api ns name object with
    | refused _ out =>
      rw [out]
      exact .same rfl
    | changed _ _ _ simulated out =>
      rw [out]
      exact .renewed (Nat.lt_succ_self _) (simulated_version simulated) rfl
    | unchanged found _ _ simulated out =>
      rw [out]
      exact .restored rfl found (simulated_version simulated) rfl
  | _ =>
    rw [← performed]
    cases (answer_effect s _).touch with
    | nothing _ objects | finalized _ _ _ _ _ objects | reported _ _ _ _ objects => exact .same objects
    | released _ _ _ _ _ objects | deleted _ _ objects =>
      refine .fewer ?_
      rw [objects]
      exact List.filter_sublist
    | written address _ _ => cases address

theorem restocked_apply (o : Operation) : Restocked o s (o.apply s) := by
  cases o with
  | call c => exact restocked_answer c
  | install api =>
    obtain ⟨types, out⟩ := s.install_outcome api
    exact (congrArg (Restocked _ s) out).mpr (.same rfl)
  | insertRoot new =>
    obtain ⟨uid, uids, _, out⟩ := s.insertRoot_outcome new
    exact (congrArg (fun x => Restocked _ s x.2) out).mpr (.same rfl)
  | updateSpec ns name edit =>
    change Restocked _ s (s.updateSpec ns name edit).2
    cases s.updateSpec_outcome ns name edit with
    | missing out | stored _ out =>
      rw [out]
      exact .same rfl
  | requestDeletion now ns name =>
    change Restocked _ s (s.requestDeletion now ns name).2
    cases s.requestDeletion_outcome now ns name with
    | missing out | stored _ _ out =>
      rw [out]
      exact .same rfl
    | gone _ _ out =>
      rw [out]
      exact .fewer List.filter_sublist
  | insertObject api ns object =>
    exact .renewed (Nat.lt_succ_self _) resourceVersion_set rfl
  | setReadyReplicas api ns name ready =>
    change Restocked _ s (s.setReadyReplicas api ns name ready).2
    cases s.setReadyReplicas_outcome api ns name ready with
    | missing _ out =>
      rw [out]
      exact .same rfl
    | stored _ out =>
      rw [out]
      exact .renewed (Nat.lt_succ_self _) resourceVersion_set rfl
  | _ => exact .same rfl

/-- Every object is stored once, with a version that was handed out. -/
structure Numbered (s : Cluster) : Prop where
  unique : Assoc.Unique s.objects
  version : ∀ e ∈ s.objects, ∃ n, n ≤ s.version ∧ resourceVersion e.2 = .str (toString n)

def Newer (k : ObjectKey) (m : Nat) (s : Cluster) : Prop :=
  ∀ v, Assoc.get? k s.objects = some v →
    ∃ n, m < n ∧ n ≤ s.version ∧ resourceVersion v = .str (toString n)

theorem Restocked.numbered (restocked : Restocked o s t) (numbered : s.Numbered)
    (later : s.version ≤ t.version) : t.Numbered := by
  have kept : ∀ e ∈ s.objects, ∃ n, n ≤ t.version ∧ resourceVersion e.2 = .str (toString n) := by
    intro e mem
    obtain ⟨n, low, stamp⟩ := numbered.version e mem
    exact ⟨n, Nat.le_trans low later, stamp⟩
  have put : ∀ {k v}, t.objects = Assoc.set k v s.objects →
      (∃ n, n ≤ t.version ∧ resourceVersion v = .str (toString n)) → t.Numbered := by
    intro k v objects stamped
    refine ⟨objects ▸ numbered.unique.set, fun e mem => ?_⟩
    rcases Assoc.mem_set (objects ▸ mem) with rfl | before
    · exact stamped
    · exact kept e before
  cases restocked with
  | fewer objects =>
    exact ⟨numbered.unique.sublist objects, fun e mem => kept e (objects.subset mem)⟩
  | renewed _ version objects => exact put objects ⟨_, Nat.le_refl _, version⟩
  | restored _ found version objects =>
    obtain ⟨n, low, stamp⟩ := kept _ (Assoc.mem_of_get? found)
    exact put objects ⟨n, low, version.trans stamp⟩

theorem numbered_empty : Numbered {} :=
  ⟨List.nodup_nil, nofun⟩

theorem Numbered.apply (numbered : s.Numbered) (o : Operation) : (o.apply s).Numbered :=
  (restocked_apply o).numbered numbered (version_le_apply s o)

theorem Numbered.applyAll (numbered : s.Numbered) (os : List Operation) :
    (Operation.applyAll os s).Numbered := by
  induction os generalizing s with
  | nil => exact numbered
  | cons o os ih => exact ih (numbered.apply o)

theorem Reachable.numbered (reached : Reachable s) : s.Numbered := by
  induction reached with
  | empty => exact numbered_empty
  | next o _ _ ih => exact ih.apply o

theorem version_le_applyAll (s : Cluster) (os : List Operation) :
    s.version ≤ (Operation.applyAll os s).version := by
  induction os generalizing s with
  | nil => exact Nat.le_refl _
  | cons o os ih => exact Nat.le_trans (version_le_apply s o) (ih _)

theorem Newer.apply (newer : Newer k m s) (unique : Assoc.Unique s.objects) (low : m ≤ s.version)
    (o : Operation) : Newer k m (o.apply s) := by
  have later := version_le_apply s o
  intro v found
  have kept : ∀ {v}, Assoc.get? k s.objects = some v →
      ∃ n, m < n ∧ n ≤ (o.apply s).version ∧ resourceVersion v = .str (toString n) := by
    intro v found
    obtain ⟨n, after, low, stamp⟩ := newer v found
    exact ⟨n, after, Nat.le_trans low later, stamp⟩
  cases restocked_apply (s := s) o with
  | fewer objects =>
    exact kept (unique.get?_of_mem (objects.subset (Assoc.mem_of_get? found)))
  | renewed later' version objects =>
    rcases Assoc.get?_set_cases (objects ▸ found) with ⟨_, rfl⟩ | ⟨_, before⟩
    · exact ⟨_, Nat.lt_of_le_of_lt low later', Nat.le_refl _, version⟩
    · exact kept before
  | restored _ there version objects =>
    rcases Assoc.get?_set_cases (objects ▸ found) with ⟨rfl, rfl⟩ | ⟨_, before⟩
    · obtain ⟨n, after, low, stamp⟩ := kept there
      exact ⟨n, after, low, version.trans stamp⟩
    · exact kept before

theorem Newer.applyAll (newer : Newer k m s) (numbered : s.Numbered) (low : m ≤ s.version)
    (os : List Operation) : Newer k m (Operation.applyAll os s) := by
  induction os generalizing s with
  | nil => exact newer
  | cons o os ih =>
    exact ih (newer.apply numbered.unique low o) (numbered.apply o)
      (Nat.le_trans low (version_le_apply s o))

theorem create_taken {api : ApiResource} {ns : Option String} {object v : Json} {name : String}
    (calm : s.failure? .create api.kind = none) (installed : s.hasType api)
    (named : ((object.get "metadata").get "name").str? = some name)
    (taken : s.object? api ns name = some v) :
    s.answer (.create api ns object) =
      (.error (.conflict (api.describe ns name ++ " already exists")), s) := by
  rw [answer_of_unarranged calm]
  change s.create api ns object = _
  cases s.create_outcome api ns object with
  | refused why out =>
    cases why with
    | uninstalled lacking => exact nomatch installed.symm.trans lacking
    | unnamed nameless => exact nomatch named.symm.trans nameless
    | taken named' =>
      obtain rfl := Option.some.inj (named.symm.trans named')
      exact out
  | stored named' absent =>
    obtain rfl := Option.some.inj (named.symm.trans named')
    exact nomatch taken.symm.trans absent

section
variable {api : ApiResource} {ns : Option String} {object : Json} {name : String}

theorem replace_gone (calm : s.failure? .replace api.kind = none) (installed : s.hasType api)
    (gone : s.object? api ns name = none) :
    s.answer (.replace api ns name object) = (.error (.notFound (api.describe ns name)), s) := by
  rw [answer_of_unarranged calm]
  change s.replace api ns name object = _
  cases s.replace_outcome api ns name object with
  | refused why out =>
    cases why with
    | uninstalled lacking => exact nomatch installed.symm.trans lacking
    | gone => exact out
    | modified found | immutable found => exact nomatch gone.symm.trans found
  | changed found | unchanged found => exact nomatch gone.symm.trans found

theorem replace_modified (calm : s.failure? .replace api.kind = none) (installed : s.hasType api)
    (found : s.object? api ns name = some v) (wanted : (resourceVersion object).isNull = false)
    (other : (resourceVersion object).same (resourceVersion v) = false) :
    s.answer (.replace api ns name object) =
      (.error (.conflict (api.describe ns name ++ " has been modified")), s) := by
  have unsent : ∀ {old}, s.object? api ns name = some old → ¬ Replaces object old := by
    intro old there sent
    obtain rfl := Option.some.inj (found.symm.trans there)
    simp [Replaces, wanted, other] at sent
  rw [answer_of_unarranged calm]
  change s.replace api ns name object = _
  cases s.replace_outcome api ns name object with
  | refused why out =>
    cases why with
    | uninstalled lacking => cases installed.symm.trans lacking
    | gone absent => cases found.symm.trans absent
    | modified => exact out
    | immutable there sent => exact absurd sent (unsent there)
  | changed there sent | unchanged there sent => exact absurd sent (unsent there)

end

end Cluster

/-- The operation puts an object under `k` that is new, changed or seeded, or reports replicas of
the one there ready. -/
inductive Operation.Renews (k : ObjectKey) (s : Cluster) : Operation → Prop where
  | created {api : ApiResource} {ns : Option String} {object v : Json} {name : String}
      (named : ((object.get "metadata").get "name").str? = some name)
      (here : api.objectKey ns name = k)
      (done : (s.answer (.create api ns object)).1 = .ok v) :
      Renews k s (.call (.create api ns object))
  | replaced {api : ApiResource} {ns : Option String} {name : String} {object : Json}
      {w : LoggedWrite} (here : api.objectKey ns name = k)
      (logged : (s.answer (.replace api ns name object)).2.writes = w :: s.writes)
      (changed : w.changed = true) :
      Renews k s (.call (.replace api ns name object))
  | seeded {api : ApiResource} {ns : Option String} {object : Json}
      (here : api.objectKey ns (((object.get "metadata").get "name").str?.getD "") = k) :
      Renews k s (.insertObject api ns object)
  | readied {api : ApiResource} {ns name : String} {ready : Int}
      (here : api.objectKey (some ns) name = k) : Renews k s (.setReadyReplicas api ns name ready)

theorem Cluster.newer_put {s t : Cluster} {k : ObjectKey} {v : Json} {m : Nat}
    (objects : t.objects = Assoc.set k v s.objects)
    (version : Cluster.resourceVersion v = .str (toString t.version)) (later : m < t.version) :
    Cluster.Newer k m t := by
  intro w found
  rw [objects, Assoc.get?_set_self] at found
  exact ⟨_, later, Nat.le_refl _, Option.some.inj found ▸ version⟩

theorem newer_of_created {s : Cluster} {m : Nat} {api : ApiResource} {ns : Option String}
    {name : String} {object v : Json} (low : m ≤ s.version)
    (named : ((object.get "metadata").get "name").str? = some name)
    (done : (s.answer (.create api ns object)).1 = .ok v) :
    Cluster.Newer (api.objectKey ns name) m (s.answer (.create api ns object)).2 := by
  have performed := answer_ok done
  rw [performed] at done ⊢
  change (s.create api ns object).1 = .ok v at done
  change Cluster.Newer _ m (s.create api ns object).2
  cases s.create_outcome api ns object with
  | refused _ out =>
    rw [out] at done
    cases done
  | stored named' _ simulated out =>
    obtain rfl := Option.some.inj (named.symm.trans named')
    rw [out]
    exact Cluster.newer_put rfl (Cluster.simulated_version simulated) (Nat.lt_succ_of_le low)

theorem newer_of_replaced {s : Cluster} {m : Nat} {api : ApiResource} {ns : Option String}
    {name : String} {object : Json} {w : LoggedWrite} (low : m ≤ s.version)
    (logged : (s.answer (.replace api ns name object)).2.writes = w :: s.writes)
    (changed : w.changed = true) :
    Cluster.Newer (api.objectKey ns name) m (s.answer (.replace api ns name object)).2 := by
  rcases answer_cases (s := s) (.replace api ns name object) with ⟨e, failed⟩ | performed
  · rw [failed] at logged
    simp at logged
  · rw [performed] at logged ⊢
    change (s.replace api ns name object).2.writes = _ at logged
    change Cluster.Newer _ m (s.replace api ns name object).2
    cases s.replace_outcome api ns name object with
    | refused _ out =>
      rw [out] at logged
      simp at logged
    | changed _ _ _ simulated out =>
      rw [out]
      exact Cluster.newer_put rfl (Cluster.simulated_version simulated) (Nat.lt_succ_of_le low)
    | unchanged _ _ _ _ out =>
      rw [out] at logged
      cases (List.cons.inj logged).1
      cases changed

theorem newer_of_readied {s : Cluster} {m : Nat} {api : ApiResource} {ns name : String} {ready : Int}
    (low : m ≤ s.version) :
    Cluster.Newer (api.objectKey (some ns) name) m (s.setReadyReplicas api ns name ready).2 := by
  cases s.setReadyReplicas_outcome api ns name ready with
  | missing absent out =>
    intro v found
    rw [out] at found
    exact nomatch found.symm.trans absent
  | stored _ out =>
    rw [out]
    exact Cluster.newer_put rfl Cluster.resourceVersion_set (Nat.lt_succ_of_le low)

theorem Operation.Renews.newer {s : Cluster} {k : ObjectKey} {o : Operation} {m : Nat}
    (renews : o.Renews k s) (low : m ≤ s.version) : Cluster.Newer k m (o.apply s) := by
  cases renews with
  | created named here done => exact here ▸ newer_of_created low named done
  | replaced here logged changed => exact here ▸ newer_of_replaced low logged changed
  | seeded here =>
    exact here ▸ Cluster.newer_put rfl Cluster.resourceVersion_set (Nat.lt_succ_of_le low)
  | readied here => exact here ▸ newer_of_readied low

theorem Operation.Renews.version_ne {s : Cluster} {k : ObjectKey} {o : Operation} {v w : Json}
    {front back : List Operation} (renews : o.Renews k (applyAll front s)) (numbered : s.Numbered)
    (seen : Assoc.get? k s.objects = some v)
    (found : Assoc.get? k (applyAll (front ++ o :: back) s).objects = some w) :
    Cluster.resourceVersion w ≠ Cluster.resourceVersion v := by
  obtain ⟨m, low, stamp⟩ := numbered.version _ (Assoc.mem_of_get? seen)
  have before := s.version_le_applyAll front
  have newer : Cluster.Newer k s.version (applyAll (front ++ o :: back) s) := by
    rw [applyAll_append]
    exact (renews.newer before).applyAll ((numbered.applyAll front).apply o)
      (Nat.le_trans before (Cluster.version_le_apply _ o)) back
  obtain ⟨n, later, _, stamp'⟩ := newer w found
  rw [stamp, stamp']
  intro same
  have equal := Cluster.toString_injective (Json.str.inj same)
  omega

namespace Attempt
variable {σ α : Type} {store : Store σ} {c : StoreCall} {f : c.Answer → Attempt α} {x y : σ}

theorem run_bind_ok {a : c.Answer} (answered : store.answer c x = (.ok a, y)) :
    (request c >>= f).run.run store x = (f a).run.run store y := by
  change (ExceptT.bindCont f (store.answer c x).1).run store (store.answer c x).2 = _
  rw [answered]
  rfl

theorem run_bind_error {e : StoreError} (answered : store.answer c x = (.error e, y)) :
    (request c >>= f).run.run store x = (.error e, y) := by
  change (ExceptT.bindCont f (store.answer c x).1).run store (store.answer c x).2 = _
  rw [answered]
  rfl

end Attempt

def Operation.beforeWrites (others : List Operation) (kind : String) : List (Hook Cluster) :=
  [StoreOp.create, .replace].map fun op => ⟨op, kind, 0, Operation.applyAll others, none⟩

theorem hooked_look (others : List Operation) (s : Cluster) (kind : String) (api : ApiResource)
    (ns : Option String) (name : String) :
    (Cluster.asStore "").hooked.answer (.get api ns name)
        ⟨s, Operation.beforeWrites others kind⟩ =
      ((s.answer (.get api ns name)).1,
        ⟨(s.answer (.get api ns name)).2, Operation.beforeWrites others kind⟩) := rfl

theorem hooked_write (others : List Operation) (s : Cluster) {c : StoreCall}
    (op : c.op = .create ∨ c.op = .replace) :
    ∃ hooks, (Cluster.asStore "").hooked.answer c ⟨s, Operation.beforeWrites others c.kind⟩ =
      (((Operation.applyAll others s).answer c).1,
        ⟨((Operation.applyAll others s).answer c).2, hooks⟩) := by
  obtain ⟨hooks, taken⟩ : ∃ hooks,
      Hooked.takeHook c.op c.kind (Operation.beforeWrites others c.kind) =
        (some ⟨c.op, c.kind, 0, Operation.applyAll others, none⟩, hooks) := by
    rcases op with op | op <;> exact ⟨_, by simp [Hooked.takeHook, Operation.beforeWrites, op]; rfl⟩
  refine ⟨hooks, ?_⟩
  simp only [Store.hooked, Hooked.answer, taken]
  rfl

namespace ChildObject

/-- The writing of a child on a store where others act meanwhile, after the look at what is
stored. -/
def writeAmid (registry : TypeRegistry) (d : ChildObject) (others : List Operation) (s : Cluster) :
    Except StoreError ChildWrite × Cluster :=
  let (result, after) := (d.write registry).run.run (Cluster.asStore "").hooked
    ⟨s, Operation.beforeWrites others (registry.api d.resource).kind⟩
  (result, after.state)

def sent (registry : TypeRegistry) (d : ChildObject) (seen : Option Json) : StoreCall :=
  let api := registry.api d.resource
  let ns := d.resource.within d.namespace_
  match seen with
  | none => .create api ns (withOwners [d.owner.toJson] d.payload)
  | some old => .replace api ns d.name (d.replacement old)

variable {registry : TypeRegistry} {d : ChildObject} {others : List Operation} {s : Cluster}

theorem writeAmid_refused {seen : Option Json} {e : StoreError}
    (look : s.answer (.get (registry.api d.resource) (d.resource.within d.namespace_) d.name) =
      (.ok seen, s))
    (refused : (Operation.applyAll others s).answer (d.sent registry seen) =
      (.error e, Operation.applyAll others s)) :
    d.writeAmid registry others s = (.error e, Operation.applyAll others s) := by
  have looked := (hooked_look others s (registry.api d.resource).kind ..).trans
    (congrArg (fun reply => (reply.1, (⟨reply.2, _⟩ : Hooked Cluster))) look)
  have op : (d.sent registry seen).op = .create ∨ (d.sent registry seen).op = .replace := by
    cases seen
    · exact .inl rfl
    · exact .inr rfl
  have kind : (d.sent registry seen).kind = (registry.api d.resource).kind := by
    cases seen <;> rfl
  obtain ⟨hooks, late⟩ := hooked_write others s op
  rw [refused, kind] at late
  have run : (d.write registry).run.run (Cluster.asStore "").hooked
      ⟨s, Operation.beforeWrites others (registry.api d.resource).kind⟩ =
      (.error e, ⟨Operation.applyAll others s, hooks⟩) := by
    refine (Attempt.run_bind_ok looked).trans ?_
    cases seen with
    | none => exact Attempt.run_bind_error late
    | some old => exact Attempt.run_bind_error late
  rw [writeAmid, run]

end ChildObject

/-- A child is never written over a version that was not looked at. -/
theorem stale_writes_are_refused {plan : Plan} {d : ChildObject} {s : Cluster}
    (built : d ∈ plan.children) (reached : s.Reachable) (registry : TypeRegistry)
    (looked : s.failure? .get (registry.api d.resource).kind = none) (others : List Operation) :
    let api := registry.api d.resource
    let ns := d.resource.within d.namespace_
    let t := Operation.applyAll others s
    (t.hasType api → t.failure? .create api.kind = none →
      s.object? api ns d.name = none → (t.object? api ns d.name).isSome →
      d.writeAmid registry others s =
        (.error (.conflict (api.describe ns d.name ++ " already exists")), t)) ∧
    (t.hasType api → t.failure? .replace api.kind = none →
      (s.object? api ns d.name).isSome → t.object? api ns d.name = none →
      d.writeAmid registry others s = (.error (.notFound (api.describe ns d.name)), t)) ∧
    ∀ v w, s.object? api ns d.name = some v → t.object? api ns d.name = some w →
      (t.hasType api → t.failure? .replace api.kind = none →
        Cluster.resourceVersion w ≠ Cluster.resourceVersion v →
        d.writeAmid registry others s =
          (.error (.conflict (api.describe ns d.name ++ " has been modified")), t)) ∧
      ∀ front o back, others = front ++ o :: back →
        o.Renews (api.objectKey ns d.name) (Operation.applyAll front s) →
        Cluster.resourceVersion w ≠ Cluster.resourceVersion v := by
  intro api ns t
  have look : s.answer (.get api ns d.name) = (.ok (s.object? api ns d.name), s) := by
    simp only [Cluster.answer, StoreCall.op, StoreCall.kind, looked, Cluster.perform, api]
  have numbered := reached.numbered
  refine ⟨?_, ?_, ?_⟩
  · intro installed calm missing there
    obtain ⟨w, found⟩ := Option.isSome_iff_exists.mp there
    refine ChildObject.writeAmid_refused look ?_
    rw [missing]
    have tidy := Plan.children_tidy built
    refine Cluster.create_taken calm installed ?_ found
    rw [ChildObject.withOwners, Json.get_modify_self, Json.get_set_other _ _ (by decide), tidy.named]
    rfl
  · intro installed calm there missing
    obtain ⟨v, found⟩ := Option.isSome_iff_exists.mp there
    refine ChildObject.writeAmid_refused look ?_
    rw [found]
    exact Cluster.replace_gone calm installed missing
  · intro v w seen found
    obtain ⟨m, low, stamp⟩ := numbered.version _ (Assoc.mem_of_get? seen)
    obtain ⟨n, _, stamp'⟩ := (numbered.applyAll others).version _ (Assoc.mem_of_get? found)
    refine ⟨?_, ?_⟩
    · intro installed calm other
      refine ChildObject.writeAmid_refused look ?_
      rw [seen]
      refine Cluster.replace_modified calm installed found ?_ ?_
      all_goals rw [ChildObject.replacement_version]
      · rw [stamp]
        rfl
      · rw [stamp, stamp'] at other ⊢
        exact beq_eq_false_iff_ne.mpr fun same => other (congrArg Json.str same.symm)
    · rintro front o back rfl renews
      exact renews.version_ne numbered seen found

theorem recreated_account_is_left :
    let api := ResourceType.serviceAccount.builtinApi
    let name := "demo-epp-identity"
    let account := Json.obj [("metadata", .obj [("name", .str name)])]
    let s := Cluster.fresh.insertObject api (some "default") account
    let others : List Operation :=
      [.call (.delete api (some "default") name), .call (.create api (some "default") account)]
    let t := Operation.applyAll others s
    ∃ r plan d v w, Cluster.fresh.root? "default" "demo" = some r ∧ Plan.resolve r = .ok plan ∧
      d ∈ plan.children ∧ s.object? api (some "default") name = some v ∧
      t.object? api (some "default") name = some w ∧
      Cluster.resourceVersion w ≠ Cluster.resourceVersion v ∧
      d.writeAmid .builtin others s = (.error (.conflict
        (api.describe (some "default") name ++ " has been modified")), t) := by
  intro api name account s others t
  obtain ⟨r, found, named, placed, sound⟩ : ∃ r, Cluster.fresh.root? "default" "demo" = some r ∧
      r.name = "demo" ∧ r.namespaceOr "default" = "default" ∧ (Plan.resolve r).isOk = true :=
    ⟨_, rfl, by decide +kernel, by decide +kernel, by decide +kernel⟩
  cases resolved : Plan.resolve r with
  | error e => simp [resolved, Except.isOk, Except.toBool] at sound
  | ok plan =>
    obtain ⟨named', placed', _⟩ := Plan.resolve_root resolved
    let d := Payload.child plan .serviceAccount .routingIdentity (Payload.Picker.serviceAccount plan)
    have built : d ∈ plan.children :=
      ChildKind.routingIdentity.build_children List.mem_cons_self
    have name' : d.name = name := by
      change ChildKind.routingIdentity.childName plan.name = name
      rw [named', named]
      decide
    have place : d.resource.within d.namespace_ = some "default" := by
      change ResourceType.serviceAccount.within plan.namespace_ = some "default"
      rw [placed', placed]
      decide
    have reached : s.Reachable :=
      Cluster.fresh_reachable.next (.insertObject _ _ _) ⟨⟨trivial, trivial⟩, trivial⟩
    have calm : s.failure? .get api.kind = none ∧ t.failure? .replace api.kind = none ∧
        t.hasType api = true := by decide +kernel
    obtain ⟨v, seen⟩ : ∃ v, s.object? api (some "default") name = some v :=
      Option.isSome_iff_exists.mp (by decide +kernel)
    obtain ⟨w, there⟩ : ∃ w, t.object? api (some "default") name = some w :=
      Option.isSome_iff_exists.mp (by decide +kernel)
    have created : ((Operation.applyAll (others.take 1) s).answer
        (.create api (some "default") account)).1.isOk = true := by decide +kernel
    have held := stale_writes_are_refused built reached .builtin calm.1 others
    simp only [name', place] at held
    obtain ⟨_, _, modified⟩ := held
    obtain ⟨refused, renewed⟩ := modified v w seen there
    have other : Cluster.resourceVersion w ≠ Cluster.resourceVersion v := by
      refine renewed (others.take 1) _ [] rfl ?_
      cases reply : ((Operation.applyAll (others.take 1) s).answer
          (.create api (some "default") account)).1 with
      | error e => simp [reply, Except.isOk, Except.toBool] at created
      | ok created => exact .created (by rfl) rfl reply
    exact ⟨r, plan, d, v, w, found, resolved, built, seen, there, other,
      refused calm.2.2 calm.2.1 other⟩

end SchedulerOperator
