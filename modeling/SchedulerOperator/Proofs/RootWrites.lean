import SchedulerOperator.Proofs.StepEffects

namespace SchedulerOperator
open Cluster Attempt Pass

structure InferenceScheduler.Renewed (r r' : InferenceScheduler) : Prop where
  spec : r'.spec = r.spec
  metadata : r'.metadata =
    { r.metadata with
      finalizers := r'.metadata.finalizers
      resourceVersion := r'.metadata.resourceVersion }

namespace InferenceScheduler.Renewed
variable {r r' r'' : InferenceScheduler}

theorem refl (r : InferenceScheduler) : r.Renewed r := ⟨rfl, rfl⟩

theorem trans (first : r.Renewed r') (second : r'.Renewed r'') : r.Renewed r'' where
  spec := second.spec.trans first.spec
  metadata := by rw [second.metadata, first.metadata]

theorem name (renewed : r.Renewed r') : r'.name = r.name := by
  rw [InferenceScheduler.name, renewed.metadata]
  rfl

theorem namespaceOr (renewed : r.Renewed r') (fallback : String) :
    r'.namespaceOr fallback = r.namespaceOr fallback := by
  rw [InferenceScheduler.namespaceOr, renewed.metadata]
  rfl

theorem generation (renewed : r.Renewed r') : r'.metadata.generation = r.metadata.generation := by
  rw [renewed.metadata]

theorem deletionTimestamp (renewed : r.Renewed r') :
    r'.metadata.deletionTimestamp = r.metadata.deletionTimestamp := by
  rw [renewed.metadata]

theorem uid (renewed : r.Renewed r') : r'.metadata.uid = r.metadata.uid := by
  rw [renewed.metadata]

theorem resolve (renewed : r.Renewed r') : Plan.resolve r' = Plan.resolve r := by
  have owner : r'.ownerReference? = r.ownerReference? := by
    unfold ownerReference?
    rw [renewed.uid, renewed.name]
  unfold Plan.resolve Plan.checkRoot
  rw [owner, renewed.name, renewed.spec, renewed.namespaceOr]

end InferenceScheduler.Renewed

namespace Cluster
variable {s t u : Cluster} {ns name : String} {r r' : InferenceScheduler}

/-- `t` has the root `r'`, and the objects and settings of `s`. -/
structure Holds (ns name : String) (r' : InferenceScheduler) (s t : Cluster) : Prop where
  root : t.root? ns name = some r'
  objects : t.objects = s.objects
  types : t.types = s.types
  autoReady : t.autoReady = s.autoReady
  failures : t.failures = s.failures
  addresses : t.addresses = s.addresses
  sound : t.Sound

theorem Holds.alike (holds : Holds ns name r' s t) (keys : ObjectKey → Prop) : Alike keys s t where
  types := holds.types
  autoReady := holds.autoReady
  failures := holds.failures
  classes := by rw [classNames, holds.objects, classNames]
  objects k _ := by rw [holds.objects]

theorem Holds.calm (holds : Holds ns name r' s t) (calm : s.Calm) : t.Calm :=
  holds.failures.trans calm

theorem Holds.refl (found : s.root? ns name = some r) (sound : s.Sound) : Holds ns name r s s :=
  ⟨found, rfl, rfl, rfl, rfl, rfl, sound⟩

theorem Holds.trans (first : Holds ns name r s t) (second : Holds ns name r' t u) :
    Holds ns name r' s u where
  root := second.root
  objects := second.objects.trans first.objects
  types := second.types.trans first.types
  autoReady := second.autoReady.trans first.autoReady
  failures := second.failures.trans first.failures
  addresses := second.addresses.trans first.addresses
  sound := second.sound

theorem root_key (placed : Placed ⟨ns, name⟩ r) (fallback : String) :
    r.namespaceOr fallback = ns ∧ r.name = name := by
  refine ⟨?_, placed.name⟩
  rw [InferenceScheduler.namespaceOr, placed.namespace_]
  rfl

structure Dropped (ns name : String) (r : InferenceScheduler) (s t : Cluster) : Prop where
  root : t.root? ns name = none
  objects : t.objects = s.objects.filter fun e => !isOwnedBy (r.metadata.uid.getD "") e.2
  failures : t.failures = s.failures

theorem setFinalizers_stored (found : s.root? ns name = some r) (sound : s.Sound)
    (finalizers : List String) :
    (s.setFinalizers r finalizers).1 = .ok () ∧
      (¬ (r.metadata.deletionTimestamp.isSome ∧ finalizers = []) →
        ∃ r', r.Renewed r' ∧ r'.finalizers = finalizers ∧ r'.status = r.status ∧
          Holds ns name r' s (s.setFinalizers r finalizers).2) ∧
      (r.metadata.deletionTimestamp.isSome ∧ finalizers = [] →
        Dropped ns name r s (s.setFinalizers r finalizers).2) := by
  obtain ⟨inNamespace, named⟩ := root_key (sound.root found) ""
  have here : (⟨r.namespaceOr "", r.name⟩ : RootKey) = ⟨ns, name⟩ := by rw [inNamespace, named]
  have after := sound.setFinalizers r finalizers
  cases s.setFinalizers_outcome r finalizers with
  | refused unread => exact absurd rfl (unread r (here ▸ found))
  | released found' _ deleted none out =>
    rw [here] at found'
    obtain rfl := Option.some.inj (found'.symm.trans found)
    rw [out, here]
    refine ⟨rfl, fun stays => absurd ⟨deleted, none⟩ stays, fun _ => ?_⟩
    exact ⟨Assoc.get?_erase_self _ _, rfl, rfl⟩
  | @stored old found' _ held out =>
    rw [here] at found'
    obtain rfl := Option.some.inj (found'.symm.trans found)
    rw [out, here] at after ⊢
    refine ⟨rfl, fun _ => ⟨old.finalized finalizers (s.version + 1), ⟨rfl, rfl⟩,
      old.finalized_finalizers finalizers _, rfl, ?_⟩, fun goes => absurd goes.2 (held goes.1)⟩
    exact ⟨Assoc.get?_set_self _ _ _, rfl, rfl, rfl, rfl, rfl, after⟩

theorem writeStatus_stored (found : s.root? ns name = some r) (sound : s.Sound)
    {status : SchedulerStatus} (differs : r.status ≠ some status) :
    (s.writeStatus ns name status).1 = .ok () ∧
      ∃ r', r.Renewed r' ∧ r'.finalizers = r.finalizers ∧ r'.status = some status ∧
        Holds ns name r' s (s.writeStatus ns name status).2 := by
  have after := sound.writeStatus ns name status
  cases s.writeStatus_outcome ns name status with
  | missing absent => cases absent.symm.trans found
  | same found' same =>
    obtain rfl := Option.some.inj (found'.symm.trans found)
    exact absurd same differs
  | @stored old found' _ out =>
    obtain rfl := Option.some.inj (found'.symm.trans found)
    rw [out] at after ⊢
    refine ⟨rfl, old.reported status (s.version + 1), ⟨rfl, rfl⟩, rfl, rfl, ?_⟩
    exact ⟨Assoc.get?_set_self _ _ _, rfl, rfl, rfl, rfl, rfl, after⟩

end Cluster

namespace InferenceScheduler
variable {s t : Cluster} {ns name : String} {r : InferenceScheduler}

theorem hasMarker_append (r : InferenceScheduler) :
    (r.finalizers ++ [finalizerMarker]).contains finalizerMarker = true := by simp

theorem ensureMarker_yields (found : s.root? ns name = some r) (sound : s.Sound) (calm : s.Calm)
    (alive : r.metadata.deletionTimestamp = none) :
    ∃ wrote r' t, Yields r.ensureMarker s (.ok wrote) t ∧ r.Renewed r' ∧ r'.hasMarker = true ∧
      r'.status = r.status ∧ Holds ns name r' s t := by
  unfold ensureMarker
  cases marker : r.hasMarker with
  | true =>
    exact ⟨false, r, s, yields_pure false, .refl r, marker, rfl, .refl found sound⟩
  | false =>
    have set := yields_request calm (.setFinalizers r (r.finalizers ++ [finalizerMarker]))
    obtain ⟨done, stays, _⟩ := setFinalizers_stored found sound (r.finalizers ++ [finalizerMarker])
    simp only [Cluster.perform, done] at set
    obtain ⟨r', renewed, finalizers, status, holds⟩ := stays (by simp [alive])
    refine ⟨true, r', _, yields_bind set (yields_pure true), renewed, ?_, status, holds⟩
    rw [hasMarker, finalizers]
    exact r.hasMarker_append

theorem ensureMarker_marked (marker : r.hasMarker = true) : Yields r.ensureMarker s (.ok false) s := by
  unfold ensureMarker
  rw [marker]
  exact yields_pure false

structure Swept (registry : TypeRegistry) (ns : String) (keys : List (ResourceType × String))
    (s t : Cluster) : Prop where
  roots : t.roots = s.roots
  types : t.types = s.types
  failures : t.failures = s.failures
  sound : t.Sound
  objects : ∀ e ∈ t.objects, e ∈ s.objects
  cleared : ∀ key ∈ keys, s.hasType (registry.api key.1) = true →
    ∀ e ∈ t.objects, e.1 ≠ (registry.api key.1).objectKey (key.1.within ns) key.2

theorem Swept.cons {registry : TypeRegistry} {u : Cluster} {key : ResourceType × String}
    {keys : List (ResourceType × String)} (first : Swept registry ns [key] s t)
    (rest : Swept registry ns keys t u) : Swept registry ns (key :: keys) s u where
  roots := rest.roots.trans first.roots
  types := rest.types.trans first.types
  failures := rest.failures.trans first.failures
  sound := rest.sound
  objects e mem := first.objects e (rest.objects e mem)
  cleared l mem installed e there := by
    rcases List.mem_cons.mp mem with rfl | later
    · exact first.cleared l List.mem_cons_self installed e (rest.objects e there)
    · refine rest.cleared l later ?_ e there
      rw [hasType, first.types]
      exact installed

theorem delete_sweeps (registry : TypeRegistry) (ns : String) (key : ResourceType × String)
    (sound : s.Sound) :
    ∃ out t, s.delete (registry.api key.1) (key.1.within ns) key.2 = (out, t) ∧
      (∀ e, out = .error e → (e.isNotFound || e.isNoMatchingType) = true) ∧
      Swept registry ns [key] s t := by
  have after : (s.delete (registry.api key.1) (key.1.within ns) key.2).2.Sound :=
    sound.delete _ _ _
  cases s.delete_outcome (registry.api key.1) (key.1.within ns) key.2 with
  | refused harmless absent out =>
    refine ⟨_, s, out, ?_, rfl, rfl, rfl, sound, fun _ mem => mem, fun l mem installed => ?_⟩
    · rintro _ ⟨rfl⟩
      exact harmless
    · rw [List.mem_singleton.mp mem] at installed ⊢
      exact Assoc.fst_ne_of_absent (absent installed)
  | removed _ out =>
    rw [out] at after
    refine ⟨_, _, out, nofun, rfl, rfl, rfl, after, ?_, fun l mem _ e there => ?_⟩
    · exact fun e mem => (List.mem_filter.mp mem).1
    · rw [List.mem_singleton.mp mem]
      simpa using (List.mem_filter.mp there).2

theorem sweep_yields (registry : TypeRegistry) (ns : String) (keys : List (ResourceType × String))
    (sound : s.Sound) (calm : s.Calm) :
    ∃ t, Yields (sweep registry ns keys) s (.ok ()) t ∧ Swept registry ns keys s t := by
  induction keys generalizing s with
  | nil => exact ⟨s, yields_pure (), rfl, rfl, rfl, sound, fun _ mem => mem, by simp⟩
  | cons key rest ih =>
    obtain ⟨out, t, deleted, harmless, first⟩ := delete_sweeps registry ns key sound
    have tried := yields_outcome calm (.delete (registry.api key.1) (key.1.within ns) key.2)
    simp only [Cluster.perform, deleted] at tried
    obtain ⟨u, yields, swept⟩ := ih first.sound (first.failures.trans calm)
    refine ⟨u, yields_bind tried ?_, first.cons swept⟩
    cases out with
    | ok _ => exact yields
    | error e =>
      simp only [harmless e rfl, if_true]
      exact yields

def CleanedUp (registry : TypeRegistry) (r : InferenceScheduler) (s t : Cluster) :
    CleanupPolicy → Prop
  | .cascade => t = s
  | .sweep => Swept registry (r.namespaceOr "") (childKeys r.name).reverse s t

theorem CleanedUp.kept {registry : TypeRegistry} {policy : CleanupPolicy}
    (cleaned : CleanedUp registry r s t policy) (sound : s.Sound) :
    t.roots = s.roots ∧ t.failures = s.failures ∧ t.Sound := by
  cases policy with
  | cascade =>
    cases cleaned
    exact ⟨rfl, rfl, sound⟩
  | sweep => exact ⟨cleaned.roots, cleaned.failures, cleaned.sound⟩

structure Released (ns name : String) (r : InferenceScheduler) (s t : Cluster) : Prop where
  last : r.withoutMarker = [] → Dropped ns name r s t
  others : r.withoutMarker ≠ [] → ∃ r', r.Renewed r' ∧ r'.finalizers = r.withoutMarker ∧
    r'.status = r.status ∧ Holds ns name r' s t

theorem release_yields (registry : TypeRegistry) (policy : CleanupPolicy)
    (found : s.root? ns name = some r) (sound : s.Sound) (calm : s.Calm)
    (deleted : r.metadata.deletionTimestamp.isSome) (marked : r.hasMarker = true) :
    ∃ u t, Yields (r.release registry policy) s (.ok .released) t ∧
      CleanedUp registry r s u policy ∧ Released ns name r u t := by
  have cleaned : ∃ u, CleanedUp registry r s u policy ∧ ∀ {t : Cluster},
      Yields (do (request (.setFinalizers r r.withoutMarker)); return ReleaseOutcome.released) u
        (.ok .released) t → Yields (r.release registry policy) s (.ok .released) t := by
    unfold release
    rw [marked]
    cases policy with
    | cascade => exact ⟨s, rfl, id⟩
    | sweep =>
      obtain ⟨u, swept, kept⟩ := sweep_yields registry (r.namespaceOr "")
        (childKeys r.name).reverse sound calm
      exact ⟨u, kept, fun dropped => yields_bind swept dropped⟩
  obtain ⟨u, cleaned, follows⟩ := cleaned
  obtain ⟨roots, failures, sound'⟩ := cleaned.kept sound
  have there : u.root? ns name = some r := by rw [root?, roots]; exact found
  have set := yields_request (failures.trans calm) (.setFinalizers r r.withoutMarker)
  obtain ⟨done, stays, goes⟩ := setFinalizers_stored there sound' r.withoutMarker
  simp only [Cluster.perform, done] at set
  refine ⟨u, (u.setFinalizers r r.withoutMarker).2, follows (yields_bind set (yields_pure _)),
    cleaned, fun last => goes ⟨deleted, last⟩, fun others => stays fun both => others both.2⟩

structure LetGo (ns name : String) (t : Cluster) : Prop where
  calm : t.Calm
  gone : ∀ r, t.root? ns name = some r →
    r.metadata.deletionTimestamp.isSome ∧ r.hasMarker = false

theorem Released.letGo (released : Released ns name r s t) (calm : s.Calm)
    (deleted : r.metadata.deletionTimestamp.isSome) : LetGo ns name t := by
  by_cases last : r.withoutMarker = []
  · have dropped := released.last last
    refine ⟨dropped.failures.trans calm, fun r' found => ?_⟩
    rw [dropped.root] at found
    cases found
  · obtain ⟨r', renewed, finalizers, _, holds⟩ := released.others last
    refine ⟨holds.calm calm, fun r'' found => ?_⟩
    rw [holds.root] at found
    cases found
    refine ⟨renewed.deletionTimestamp ▸ deleted, ?_⟩
    rw [hasMarker, finalizers, withoutMarker]
    simp

end InferenceScheduler
end SchedulerOperator
