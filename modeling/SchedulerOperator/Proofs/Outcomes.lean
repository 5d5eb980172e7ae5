import SchedulerOperator.Cluster

/-!
What each operation on a cluster comes to, told once: why it is refused, or all that it leaves.
-/
namespace SchedulerOperator

/-! A root as operations store it with the `version`-th version. -/

namespace InferenceScheduler
variable (r : InferenceScheduler)

def finalized (finalizers : List String) (version : Nat) : InferenceScheduler :=
  { r with
    metadata := { r.metadata with
      finalizers := if finalizers.isEmpty then none else some finalizers
      resourceVersion := some (toString version) } }

def reported (status : SchedulerStatus) (version : Nat) : InferenceScheduler :=
  { r with
    metadata := { r.metadata with resourceVersion := some (toString version) }
    status := some status }

def edited (edit : SchedulerSpec → SchedulerSpec) (version : Nat) : InferenceScheduler :=
  { r with
    metadata := { r.metadata with
      generation := some (r.metadata.generation.getD 0 + 1)
      resourceVersion := some (toString version) }
    spec := edit r.spec }

def doomed (now : String) (version : Nat) : InferenceScheduler :=
  { r with
    metadata := { r.metadata with
      deletionTimestamp := some (r.metadata.deletionTimestamp.getD now)
      resourceVersion := some (toString version) } }

def admitted (uid : String) (version : Nat) : InferenceScheduler :=
  { r with
    metadata := { r.metadata with
      namespace_ := some (r.namespaceOr "default")
      uid := some uid
      generation := some (r.metadata.generation.getD 1)
      resourceVersion := some (toString version) } }

theorem finalized_finalizers (finalizers : List String) (version : Nat) :
    (r.finalized finalizers version).finalizers = finalizers := by
  cases finalizers <;> rfl

end InferenceScheduler

namespace Cluster
variable (s : Cluster)

/-! Calls that write a root. -/

inductive SetFinalizers (root : InferenceScheduler) (finalizers : List String)
    (out : Except StoreError Unit × Cluster) : Prop where
  | refused {e : StoreError} (unread : ∀ old,
        Assoc.get? ⟨root.namespaceOr "", root.name⟩ s.roots = some old →
          old.metadata.resourceVersion ≠ root.metadata.resourceVersion)
      (out : out = (.error e, { s with version := s.version + 1 }))
  | released {old : InferenceScheduler}
      (found : Assoc.get? ⟨root.namespaceOr "", root.name⟩ s.roots = some old)
      (read : old.metadata.resourceVersion = root.metadata.resourceVersion)
      (deleted : old.metadata.deletionTimestamp.isSome) (none : finalizers = [])
      (out : out = (.ok (), dropRoot ⟨root.namespaceOr "", root.name⟩ old
        { s with
          version := s.version + 1
          writes := ⟨.setFinalizers, InferenceScheduler.kind, some (root.namespaceOr ""), root.name,
            old.finalizers != finalizers⟩ :: s.writes }))
  | stored {old : InferenceScheduler}
      (found : Assoc.get? ⟨root.namespaceOr "", root.name⟩ s.roots = some old)
      (read : old.metadata.resourceVersion = root.metadata.resourceVersion)
      (held : old.metadata.deletionTimestamp.isSome → finalizers ≠ [])
      (out : out = (.ok (), putRoot ⟨root.namespaceOr "", root.name⟩
        (old.finalized finalizers (s.version + 1))
        { s with
          version := s.version + 1
          writes := ⟨.setFinalizers, InferenceScheduler.kind, some (root.namespaceOr ""), root.name,
            old.finalizers != finalizers⟩ :: s.writes }))

theorem setFinalizers_outcome (root : InferenceScheduler) (finalizers : List String) :
    s.SetFinalizers root finalizers (s.setFinalizers root finalizers) := by
  unfold Cluster.setFinalizers
  simp only
  split
  next missing => exact .refused (fun old found => nomatch found.symm.trans missing) rfl
  next old found =>
    split
    next other =>
      refine .refused (fun old' found' => ?_) rfl
      rwa [Option.some.inj (found'.symm.trans found)]
    next read =>
      split
      next both =>
        obtain ⟨deleted, none⟩ := Bool.and_eq_true_iff.mp both
        exact .released found (Decidable.not_not.mp read) deleted (List.isEmpty_iff.mp none) rfl
      next stays =>
        refine .stored found (Decidable.not_not.mp read) (fun deleted none => stays ?_) rfl
        exact Bool.and_eq_true_iff.mpr ⟨deleted, List.isEmpty_iff.mpr none⟩

inductive WriteStatus (ns name : String) (status : SchedulerStatus)
    (out : Except StoreError Unit × Cluster) : Prop where
  | missing (absent : Assoc.get? ⟨ns, name⟩ s.roots = none)
      (out : out = (.error (rootMissing ns name), { s with version := s.version + 1 }))
  | same {old : InferenceScheduler} (found : Assoc.get? ⟨ns, name⟩ s.roots = some old)
      (same : old.status = some status)
      (out : out = (.ok (), { s with
        version := s.version + 1
        writes := ⟨.writeStatus, InferenceScheduler.kind, some ns, name, false⟩ :: s.writes }))
  | stored {old : InferenceScheduler} (found : Assoc.get? ⟨ns, name⟩ s.roots = some old)
      (other : old.status ≠ some status)
      (out : out = (.ok (), putRoot ⟨ns, name⟩ (old.reported status (s.version + 1))
        { s with
          version := s.version + 1
          writes := ⟨.writeStatus, InferenceScheduler.kind, some ns, name, true⟩ :: s.writes }))

theorem writeStatus_outcome (ns name : String) (status : SchedulerStatus) :
    s.WriteStatus ns name status (s.writeStatus ns name status) := by
  unfold Cluster.writeStatus
  simp only
  split
  next missing => exact .missing missing rfl
  next old found =>
    cases changed : old.status != some status with
    | true => exact .stored found (by simpa using changed) rfl
    | false => exact .same found (by simpa using changed) rfl

theorem writeStatus_leaves {s : Cluster} {ns name : String} {r : InferenceScheduler}
    (found : s.root? ns name = some r) (status : SchedulerStatus) :
    (s.writeStatus ns name status).1 = .ok () ∧
      ∃ r', (s.writeStatus ns name status).2.root? ns name = some r' ∧ r'.status = some status := by
  cases s.writeStatus_outcome ns name status with
  | missing absent => cases absent.symm.trans found
  | same found same out =>
    rw [out]
    exact ⟨rfl, _, found, same⟩
  | stored _ _ out =>
    rw [out]
    exact ⟨rfl, _, Assoc.get?_set_self _ _ _, rfl⟩

/-! What users do to a root. -/

inductive UpdateSpec (ns name : String) (edit : SchedulerSpec → SchedulerSpec)
    (out : Except StoreError Unit × Cluster) : Prop where
  | missing (out : out = (.error (rootMissing ns name), { s with version := s.version + 1 }))
  | stored {old : InferenceScheduler} (found : Assoc.get? ⟨ns, name⟩ s.roots = some old)
      (out : out = (.ok (), putRoot ⟨ns, name⟩ (old.edited edit (s.version + 1))
        { s with version := s.version + 1 }))

theorem updateSpec_outcome (ns name : String) (edit : SchedulerSpec → SchedulerSpec) :
    s.UpdateSpec ns name edit (s.updateSpec ns name edit) := by
  unfold Cluster.updateSpec
  simp only
  split
  next => exact .missing rfl
  next old found => exact .stored found rfl

inductive RequestDeletion (now ns name : String) (out : Except StoreError Unit × Cluster) : Prop where
  | missing (out : out = (.error (rootMissing ns name), { s with version := s.version + 1 }))
  | gone {old : InferenceScheduler} (found : Assoc.get? ⟨ns, name⟩ s.roots = some old)
      (free : old.finalizers = [])
      (out : out = (.ok (), dropRoot ⟨ns, name⟩ old { s with version := s.version + 1 }))
  | stored {old : InferenceScheduler} (found : Assoc.get? ⟨ns, name⟩ s.roots = some old)
      (held : old.finalizers ≠ [])
      (out : out = (.ok (), putRoot ⟨ns, name⟩ (old.doomed now (s.version + 1))
        { s with version := s.version + 1 }))

theorem requestDeletion_outcome (now ns name : String) :
    s.RequestDeletion now ns name (s.requestDeletion now ns name) := by
  unfold Cluster.requestDeletion
  simp only
  split
  next => exact .missing rfl
  next old found =>
    split
    next none => exact .gone found (List.isEmpty_iff.mp none) rfl
    next some => exact .stored found (fun none => some (List.isEmpty_iff.mpr none)) rfl

theorem insertRoot_outcome (new : InferenceScheduler) :
    ∃ uid uids, (new.metadata.uid = some uid ∧ uids = s.uids ∨
        new.metadata.uid = none ∧ uid = uidText (s.uids + 1) ∧ uids = s.uids + 1) ∧
      s.insertRoot new = (new.admitted uid (s.version + 1),
        putRoot ⟨new.namespaceOr "default", new.name⟩ (new.admitted uid (s.version + 1))
          { s with version := s.version + 1, uids := uids }) := by
  unfold Cluster.insertRoot
  cases new.metadata.uid with
  | none => exact ⟨_, _, .inr ⟨rfl, rfl, rfl⟩, rfl⟩
  | some uid => exact ⟨uid, _, .inl ⟨rfl, rfl⟩, rfl⟩

theorem install_outcome (api : ApiResource) : ∃ types, s.install api = { s with types := types } := by
  unfold Cluster.install
  split
  · exact ⟨s.types, rfl⟩
  · exact ⟨_, rfl⟩

/-! Objects. -/

theorem simulate_spends (kind : String) (object : Json) : ∃ addresses, s.addresses ≤ addresses ∧
    (s.simulate kind object).2 = { s with addresses := addresses } := by
  change ∃ addresses, _ ∧ (s.assignAddress kind object).2 = _
  unfold Cluster.assignAddress
  split
  · exact ⟨_, Nat.le_succ _, rfl⟩
  · exact ⟨_, Nat.le_refl _, rfl⟩

theorem le_of_simulate {kind : String} {object v : Json} {addresses : Nat}
    (simulated : s.simulate kind object = (v, { s with addresses := addresses })) :
    s.addresses ≤ addresses := by
  obtain ⟨more, grown, spent⟩ := s.simulate_spends kind object
  rw [simulated] at spent
  obtain rfl : addresses = more := congrArg Cluster.addresses spent
  exact grown

theorem simulate_versioned (version : Nat) (kind : String) (object : Json) :
    simulate kind object { s with version := version } =
      ((s.simulate kind object).1, { (s.simulate kind object).2 with version := version }) := by
  unfold Cluster.simulate Cluster.assignAddress
  by_cases bare : kind = "Service" ∧ ((object.get "spec").get "clusterIP").isNull
  · simp only [if_pos bare]
  · simp only [if_neg bare]

section
variable (api : ApiResource) (ns : Option String) (name : String) (object : Json)

inductive CreateRefusal : StoreError → Prop where
  | uninstalled (lacking : s.hasType api = false) : CreateRefusal api.missing
  | unnamed (nameless : ((object.get "metadata").get "name").str? = none) :
      CreateRefusal (.rejected "metadata.name is required")
  | taken {name : String} {v : Json} (named : ((object.get "metadata").get "name").str? = some name)
      (found : s.object? api ns name = some v) :
      CreateRefusal (.conflict (api.describe ns name ++ " already exists"))

inductive Create (out : Except StoreError Json × Cluster) : Prop where
  | refused {e : StoreError} (why : s.CreateRefusal api ns object e) (out : out = (.error e, s))
  | stored {name : String} {v : Json} {addresses : Nat}
      (named : ((object.get "metadata").get "name").str? = some name)
      (absent : s.object? api ns name = none)
      (simulated : s.simulate api.kind (setMetadata "resourceVersion"
          (.str (toString (s.version + 1))) (placeIn ns object)) =
        (v, { s with addresses := addresses }))
      (out : out = (.ok v, putObject (api.objectKey ns name) v
        { s with
          version := s.version + 1
          addresses := addresses
          writes := ⟨.create, api.kind, ns, name, true⟩ :: s.writes }))

theorem create_outcome : s.Create api ns object (s.create api ns object) := by
  unfold Cluster.create
  split
  next lacking => exact .refused (.uninstalled (by simpa using lacking)) rfl
  next =>
    split
    next nameless => exact .refused (.unnamed nameless) rfl
    next name named =>
      simp only
      split
      next taken =>
        obtain ⟨v, found⟩ := Option.isSome_iff_exists.mp taken
        exact .refused (.taken named found) rfl
      next free =>
        obtain ⟨addresses, _, spent⟩ := s.simulate_spends api.kind
          (setMetadata "resourceVersion" (.str (toString (s.version + 1))) (placeIn ns object))
        have absent : s.object? api ns name = none := by simpa [Assoc.contains, object?] using free
        refine .stored named absent (Prod.ext rfl spent) ?_
        unfold bump
        rw [simulate_versioned, spent]
        rfl

/-- Whether a replace is sent over this object: it is conditional if it carries a version. -/
def Replaces (object existing : Json) : Prop :=
  (resourceVersion object).isNull = true ∨
    (resourceVersion object).same (resourceVersion existing) = true

inductive ReplaceRefusal : StoreError → Prop where
  | uninstalled (lacking : s.hasType api = false) : ReplaceRefusal api.missing
  | gone (absent : s.object? api ns name = none) : ReplaceRefusal (.notFound (api.describe ns name))
  | modified {old : Json} (found : s.object? api ns name = some old) (other : ¬ Replaces object old) :
      ReplaceRefusal (.conflict (api.describe ns name ++ " has been modified"))
  | immutable {old : Json} (found : s.object? api ns name = some old) (sent : Replaces object old)
      (cleared : clearsAddress api.kind old object = true) :
      ReplaceRefusal (.rejected (api.describe ns name ++ ": spec.clusterIP: field is immutable"))

inductive Replace (out : Except StoreError Json × Cluster) : Prop where
  | refused {e : StoreError} (why : s.ReplaceRefusal api ns name object e) (out : out = (.error e, s))
  | changed {old v : Json} {addresses : Nat} (found : s.object? api ns name = some old)
      (sent : Replaces object old)
      (compared : (content old).same (content (keepStatus old (placeIn ns object))) = false)
      (simulated : s.simulate api.kind (setMetadata "resourceVersion"
          (.str (toString (s.version + 1))) (keepStatus old (placeIn ns object))) =
        (v, { s with addresses := addresses }))
      (out : out = (.ok v, putObject (api.objectKey ns name) v
        { s with
          version := s.version + 1
          addresses := addresses
          writes := ⟨.replace, api.kind, ns, name, true⟩ :: s.writes }))
  | unchanged {old v : Json} {addresses : Nat} (found : s.object? api ns name = some old)
      (sent : Replaces object old)
      (compared : (content old).same (content (keepStatus old (placeIn ns object))) = true)
      (simulated : s.simulate api.kind (setMetadata "resourceVersion"
          (resourceVersion old) (keepStatus old (placeIn ns object))) =
        (v, { s with addresses := addresses }))
      (out : out = (.ok v, putObject (api.objectKey ns name) v
        { s with
          addresses := addresses
          writes := ⟨.replace, api.kind, ns, name, false⟩ :: s.writes }))

theorem replace_outcome : s.Replace api ns name object (s.replace api ns name object) := by
  unfold Cluster.replace
  split
  next lacking => exact .refused (.uninstalled (by simpa using lacking)) rfl
  next =>
    split
    next absent => exact .refused (.gone absent) rfl
    next old found =>
      simp only
      split
      next other => exact .refused (.modified found (by simpa [Replaces] using other)) rfl
      next fits =>
        have sent : Replaces object old := by
          simpa [Replaces, Decidable.or_iff_not_imp_left] using fits
        split
        next cleared => exact .refused (.immutable found sent cleared) rfl
        next =>
          cases compared : (content old).same (content (keepStatus old (placeIn ns object))) with
          | false =>
            obtain ⟨addresses, _, spent⟩ := s.simulate_spends api.kind (setMetadata "resourceVersion"
              (.str (toString (s.version + 1))) (keepStatus old (placeIn ns object)))
            refine .changed found sent compared (Prod.ext rfl spent) ?_
            unfold bump
            simp only [Bool.not_false, if_true]
            rw [simulate_versioned, spent]
            rfl
          | true =>
            obtain ⟨addresses, _, spent⟩ := s.simulate_spends api.kind (setMetadata "resourceVersion"
              (resourceVersion old) (keepStatus old (placeIn ns object)))
            refine .unchanged found sent compared (Prod.ext rfl spent) ?_
            simp only [Bool.not_true, Bool.false_eq_true, if_false]
            rw [spent]
            rfl

inductive Delete (out : Except StoreError Unit × Cluster) : Prop where
  | refused {e : StoreError} (harmless : e.isNotFound || e.isNoMatchingType)
      (absent : s.hasType api → Assoc.contains (api.objectKey ns name) s.objects = false)
      (out : out = (.error e, s))
  | removed (installed : s.hasType api)
      (out : out = (.ok (), { s with
        objects := Assoc.erase (api.objectKey ns name) s.objects
        writes := ⟨.delete, api.kind, ns, name, true⟩ :: s.writes }))

theorem delete_outcome : s.Delete api ns name (s.delete api ns name) := by
  unfold Cluster.delete
  split
  next lacking => exact .refused rfl (fun installed => by simp [installed] at lacking) rfl
  next installed =>
    split
    next => exact .removed (by simpa using installed) rfl
    next absent => exact .refused rfl (fun _ => by simpa using absent) rfl

end

inductive SetReadyReplicas (api : ApiResource) (ns name : String) (ready : Int)
    (out : Except StoreError Unit × Cluster) : Prop where
  | missing {e : StoreError} (absent : s.object? api (some ns) name = none)
      (out : out = (.error e, { s with version := s.version + 1 }))
  | stored {old : Json} (found : s.object? api (some ns) name = some old)
      (out : out = (.ok (), putObject (api.objectKey (some ns) name)
        (setMetadata "resourceVersion" (.str (toString (s.version + 1)))
          (old.modify "status" (·.set "readyReplicas" (.int ready))))
        { s with version := s.version + 1 }))

theorem setReadyReplicas_outcome (api : ApiResource) (ns name : String) (ready : Int) :
    s.SetReadyReplicas api ns name ready (s.setReadyReplicas api ns name ready) := by
  unfold Cluster.setReadyReplicas
  simp only
  split
  next absent => exact .missing absent rfl
  next old found => exact .stored found rfl

end Cluster

/-! An injected failure comes before all of this. -/

theorem answer_of_unarranged {s : Cluster} {c : StoreCall}
    (unarranged : s.failure? c.op c.kind = none) : s.answer c = Cluster.perform c s := by
  rw [Cluster.answer, unarranged]

theorem answer_cases {s : Cluster} (c : StoreCall) :
    (∃ e, s.answer c = (.error e, s)) ∨ s.answer c = Cluster.perform c s := by
  cases arranged : s.failure? c.op c.kind with
  | some e => exact .inl ⟨e, by rw [Cluster.answer, arranged]⟩
  | none => exact .inr (answer_of_unarranged arranged)

end SchedulerOperator
