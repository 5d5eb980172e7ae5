import SchedulerOperator.Proofs.ChildOrder
import SchedulerOperator.Proofs.OperationChanges

/-!
What one call does to a cluster: it changes one root or one object at most, except that a root
which goes takes along the objects that it owns.
-/
namespace SchedulerOperator

namespace Cluster
variable {s t : Cluster} {c : StoreCall}

/-- What a call makes of the roots and the objects of a cluster. -/
inductive Touch (c : StoreCall) (s t : Cluster) : Prop where
  | nothing (roots : t.roots = s.roots) (objects : t.objects = s.objects)
  | finalized {root old : InferenceScheduler} {finalizers : List String}
      (call : c = .setFinalizers root finalizers)
      (found : Assoc.get? ⟨root.namespaceOr "", root.name⟩ s.roots = some old)
      (version : old.metadata.resourceVersion = root.metadata.resourceVersion)
      (later : s.version < t.version)
      (roots : t.roots = Assoc.set ⟨root.namespaceOr "", root.name⟩
        (old.finalized finalizers t.version) s.roots)
      (objects : t.objects = s.objects)
  | reported {ns name : String} {status : SchedulerStatus} {old : InferenceScheduler}
      (call : c = .writeStatus ns name status)
      (found : Assoc.get? ⟨ns, name⟩ s.roots = some old) (later : s.version < t.version)
      (roots : t.roots = Assoc.set ⟨ns, name⟩ (old.reported status t.version) s.roots)
      (objects : t.objects = s.objects)
  | released {root old : InferenceScheduler} (call : c = .setFinalizers root [])
      (found : Assoc.get? ⟨root.namespaceOr "", root.name⟩ s.roots = some old)
      (version : old.metadata.resourceVersion = root.metadata.resourceVersion)
      (deleted : old.metadata.deletionTimestamp.isSome)
      (roots : t.roots = Assoc.erase ⟨root.namespaceOr "", root.name⟩ s.roots)
      (objects : t.objects =
        s.objects.filter fun e => !isOwnedBy (old.metadata.uid.getD "") e.2)
  | written {a : Address} {v : Json} (address : c.address? = some a) (roots : t.roots = s.roots)
      (objects : t.objects = Assoc.set (a.api.objectKey a.ns a.name) v s.objects)
  | deleted {api : ApiResource} {ns : Option String} {name : String}
      (call : c = .delete api ns name) (roots : t.roots = s.roots)
      (objects : t.objects = Assoc.erase (api.objectKey ns name) s.objects)

structure Effect (c : StoreCall) (s t : Cluster) : Prop where
  later : s.version ≤ t.version
  failures : t.failures = s.failures
  touch : Touch c s t

theorem Effect.nothing (s : Cluster) (c : StoreCall) : Effect c s s :=
  ⟨Nat.le_refl _, rfl, .nothing rfl rfl⟩

theorem Effect.spared {t : Cluster} (later : s.version ≤ t.version) (failures : t.failures = s.failures)
    (roots : t.roots = s.roots) (objects : t.objects = s.objects) : Effect c s t :=
  ⟨later, failures, .nothing roots objects⟩

theorem effect_setFinalizers (root : InferenceScheduler) (finalizers : List String) :
    Effect (.setFinalizers root finalizers) s (s.setFinalizers root finalizers).2 := by
  cases s.setFinalizers_outcome root finalizers with
  | refused _ out =>
    rw [out]
    exact .spared (Nat.le_succ _) rfl rfl rfl
  | released found read deleted none out =>
    subst none
    rw [out]
    exact ⟨Nat.le_succ _, rfl, .released rfl found read deleted rfl rfl⟩
  | stored found read _ out =>
    rw [out]
    exact ⟨Nat.le_succ _, rfl, .finalized rfl found read (Nat.lt_succ_self _) rfl rfl⟩

theorem effect_writeStatus (ns name : String) (status : SchedulerStatus) :
    Effect (.writeStatus ns name status) s (s.writeStatus ns name status).2 := by
  cases s.writeStatus_outcome ns name status with
  | missing _ out | same _ _ out =>
    rw [out]
    exact .spared (Nat.le_succ _) rfl rfl rfl
  | stored found _ out =>
    rw [out]
    exact ⟨Nat.le_succ _, rfl, .reported rfl found (Nat.lt_succ_self _) rfl rfl⟩

theorem effect_create (api : ApiResource) (ns : Option String) (object : Json) :
    Effect (.create api ns object) s (s.create api ns object).2 := by
  cases s.create_outcome api ns object with
  | refused _ out =>
    rw [out]
    exact .nothing s _
  | @stored name _ _ named _ _ out =>
    have address : (StoreCall.create api ns object).address? = some ⟨api, ns, name⟩ := by
      simp only [StoreCall.address?, named, Option.map_some]
    rw [out]
    exact ⟨Nat.le_succ _, rfl, .written address rfl rfl⟩

theorem effect_replace (api : ApiResource) (ns : Option String) (name : String) (object : Json) :
    Effect (.replace api ns name object) s (s.replace api ns name object).2 := by
  have address : (StoreCall.replace api ns name object).address? = some ⟨api, ns, name⟩ := rfl
  cases s.replace_outcome api ns name object with
  | refused _ out =>
    rw [out]
    exact .nothing s _
  | changed _ _ _ _ out =>
    rw [out]
    exact ⟨Nat.le_succ _, rfl, .written address rfl rfl⟩
  | unchanged _ _ _ _ out =>
    rw [out]
    exact ⟨Nat.le_refl _, rfl, .written address rfl rfl⟩

theorem effect_delete (api : ApiResource) (ns : Option String) (name : String) :
    Effect (.delete api ns name) s (s.delete api ns name).2 := by
  cases s.delete_outcome api ns name with
  | refused _ _ out =>
    rw [out]
    exact .nothing s _
  | removed _ out =>
    rw [out]
    exact ⟨Nat.le_refl _, rfl, .deleted rfl rfl rfl⟩

theorem answer_effect (s : Cluster) (c : StoreCall) : Effect c s (s.answer c).2 := by
  cases answer_cases (s := s) c with
  | inl failed =>
    obtain ⟨e, failed⟩ := failed
    rw [failed]
    exact .nothing s c
  | inr performed =>
    rw [performed]
    cases c with
    | setFinalizers root finalizers => exact effect_setFinalizers root finalizers
    | writeStatus ns name status => exact effect_writeStatus ns name status
    | create api ns object => exact effect_create api ns object
    | replace api ns name object => exact effect_replace api ns name object
    | delete api ns name => exact effect_delete api ns name
    | _ => exact .nothing s _

end Cluster
end SchedulerOperator
