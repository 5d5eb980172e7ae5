import SchedulerOperator.Proofs.RootOrigins
import SchedulerOperator.Proofs.Upkeep

namespace SchedulerOperator.Engine
open Cluster InferenceScheduler Pass
variable {g : Engine} {s t : Cluster} {r : InferenceScheduler} {ns name : String}
  {out : Except ReconcileError Requeue}

theorem release_runs (sound : s.Sound) (calm : s.Calm) (found : s.root? ns name = some r)
    (deleted : r.metadata.deletionTimestamp.isSome) (marked : r.hasMarker = true)
    (run : RunsOn Cluster.answer (g.release r) s out t) :
    out = .ok .never ∧
      ∃ u, CleanedUp g.registry r s u g.settings.cleanup ∧ Released ns name r u t := by
  obtain ⟨outcome, z, front, back⟩ := runsOn_bind.mp run
  obtain ⟨u, t', yields, cleaned, released⟩ := release_yields g.registry g.settings.cleanup
    found sound calm deleted marked
  obtain ⟨rfl, rfl⟩ := yields _ _ front
  obtain ⟨rfl, rfl⟩ := runsOn_done.mp back
  exact ⟨rfl, u, cleaned, released⟩

structure TornDown (g : Engine) (ns name : String) (r r' : InferenceScheduler) (s u t : Cluster) :
    Prop where
  renewed : r.Renewed r'
  finalizers : r'.finalizers = r.finalizers
  phase : ∃ status, r'.status = some status ∧ status.phase = some .finalizing
  cleaned : ∃ z, Holds ns name r' s z ∧ CleanedUp g.registry r' z u g.settings.cleanup
  released : Released ns name r' u t

theorem tearDown_runs (sound : s.Sound) (calm : s.Calm) (found : s.root? ns name = some r)
    (deleted : r.metadata.deletionTimestamp.isSome) (marked : r.hasMarker = true)
    (run : RunsOn Cluster.answer (g.tearDown r) s out t) :
    out = .ok .never ∧ ∃ r' u, TornDown g ns name r r' s u t := by
  obtain ⟨inNamespace, named⟩ := root_key (sound.root found) "default"
  unfold tearDown at run
  simp only [marked, Bool.not_true, Bool.false_eq_true, if_false, inNamespace, named] at run
  split at run
  · rename_i unchanged
    obtain ⟨rfl, u, cleaned, released⟩ := release_runs sound calm found deleted marked run
    refine ⟨rfl, r, u, .refl r, rfl, ?_, ⟨s, .refl found sound, cleaned⟩, released⟩
    -- The phase is stored already.
    have same : ((StatusBoard.start r.status r.metadata.generation).setPhase .finalizing).current =
        ((StatusBoard.start r.status r.metadata.generation).setPhase .finalizing).stored := by
      simpa [StatusBoard.changed, transition] using unchanged
    have equal : { r.status.getD {} with
        observedGeneration := r.metadata.generation, phase := some .finalizing } =
      r.status.getD {} := same
    cases there : r.status with
    | none =>
      rw [there] at equal
      cases congrArg SchedulerStatus.phase equal
    | some status =>
      rw [there] at equal
      exact ⟨status, rfl, (congrArg SchedulerStatus.phase equal).symm⟩
  · obtain ⟨⟨saved, b⟩, z, save, rest⟩ := runsOn_bind.mp run
    have reported : Reported ns name r ((StatusBoard.start r.status
        r.metadata.generation).setPhase .finalizing) s := by
      refine ⟨found, ?_⟩
      cases there : r.status with
      | some st => exact .inl rfl
      | none => exact .inr ⟨rfl, rfl, rfl⟩
    obtain ⟨rfl, _, r', renewed, finalizers, status, holds⟩ := saveStatus_runs reported sound calm save
    have calm' : z.Calm := holds.calm calm
    have after := runsOn_call.mp rest
    rw [answer_calm calm'] at after
    simp only [Cluster.perform] at after
    rw [inNamespace, named, holds.root] at after
    have deleted' : r'.metadata.deletionTimestamp.isSome := renewed.deletionTimestamp ▸ deleted
    have marked' : r'.hasMarker = true := by
      rw [hasMarker, finalizers]
      exact marked
    obtain ⟨rfl, u, cleaned, released⟩ :=
      release_runs holds.sound calm' holds.root deleted' marked' after
    exact ⟨rfl, r', u, renewed, finalizers, ⟨_, status, rfl⟩, ⟨z, holds, cleaned⟩, released⟩

section
variable {r' : InferenceScheduler} {u : Cluster}

theorem TornDown.withoutMarker (torn : TornDown g ns name r r' s u t) :
    r'.withoutMarker = r.withoutMarker := by
  rw [InferenceScheduler.withoutMarker, torn.finalizers, InferenceScheduler.withoutMarker]

theorem TornDown.objects (torn : TornDown g ns name r r' s u t) : ∀ e ∈ t.objects, e ∈ u.objects := by
  intro e mem
  by_cases last : r'.withoutMarker = []
  · rw [(torn.released.last last).objects] at mem
    exact (List.mem_filter.mp mem).1
  · obtain ⟨_, _, _, _, holds⟩ := torn.released.others last
    rw [← holds.objects]
    exact mem

theorem TornDown.letGo (torn : TornDown g ns name r r' s u t) (calm : s.Calm)
    (deleted : r.metadata.deletionTimestamp.isSome) : LetGo ns name t := by
  obtain ⟨z, holds, cleaned⟩ := torn.cleaned
  obtain ⟨_, failures, _⟩ := cleaned.kept holds.sound
  exact torn.released.letGo (failures.trans (holds.calm calm))
    (torn.renewed.deletionTimestamp ▸ deleted)

theorem TornDown.swept (torn : TornDown g ns name r r' s u t) (placed : Placed ⟨ns, name⟩ r)
    (policy : g.settings.cleanup = .sweep) : ∀ key ∈ childKeys name,
    s.hasType (g.registry.api key.1) = true →
      ∀ e ∈ t.objects, e.1 ≠ (g.registry.api key.1).objectKey (key.1.within ns) key.2 := by
  intro key mem installed e there
  obtain ⟨inNamespace, named⟩ := root_key placed ""
  obtain ⟨z, holds, cleaned⟩ := torn.cleaned
  rw [policy] at cleaned
  have sweep : Swept g.registry (r'.namespaceOr "") (childKeys r'.name).reverse z u := cleaned
  rw [torn.renewed.namespaceOr, torn.renewed.name, inNamespace, named] at sweep
  refine sweep.cleared key (List.mem_reverse.mpr mem) ?_ e (torn.objects e there)
  rw [hasType, holds.types]
  exact installed

theorem TornDown.cascaded (torn : TornDown g ns name r r' s u t)
    (policy : g.settings.cleanup = .cascade) :
    t.objects = if r.withoutMarker = []
      then s.objects.filter fun e => !isOwnedBy (r.metadata.uid.getD "") e.2 else s.objects := by
  obtain ⟨z, holds, cleaned⟩ := torn.cleaned
  rw [policy] at cleaned
  have still : u = z := cleaned
  subst still
  rw [← torn.withoutMarker]
  split
  · rename_i last
    rw [(torn.released.last last).objects, torn.renewed.uid, holds.objects]
  · rename_i others
    obtain ⟨_, _, _, _, kept⟩ := torn.released.others others
    exact kept.objects.trans holds.objects

end

/-- However much of the children is left, one pass over a root that is being deleted and carries
the marker is enough, as long as no failures are arranged: the root is gone, and with it all
that it owned, or it is stored in phase `finalizing` with its other finalizers. -/
theorem one_pass_tears_down {settings : PassSettings} (reached : s.Reachable)
    (calm : s.failures = []) (found : s.root? ns name = some r)
    (deleted : r.metadata.deletionTimestamp.isSome) (marked : r.hasMarker = true)
    (run : RunsOn Cluster.answer ((Engine.mk .builtin settings).reconcile ns name) s out t) :
    out = .ok .never ∧
    (∃ uid, r.metadata.uid = some uid ∧
      (r.withoutMarker = [] →
        t.root? ns name = none ∧ ∀ e ∈ t.objects, isOwnedBy uid e.2 = false) ∧
      (r.withoutMarker ≠ [] → ∃ r' status, t.root? ns name = some r' ∧
        r'.status = some status ∧ status.phase = some .finalizing ∧
        r'.finalizers = r.finalizers.filter fun f => f ≠ finalizerMarker) ∧
      (settings.cleanup = .sweep → ∀ key ∈ childKeys name, s.hasType key.1.builtinApi = true →
        ∀ e ∈ t.objects, e.1 ≠ key.1.builtinApi.objectKey (key.1.within ns) key.2) ∧
      (settings.cleanup = .cascade → t.objects = if r.withoutMarker = []
        then s.objects.filter fun e => !isOwnedBy uid e.2 else s.objects)) := by
  have sound := reached.sound
  have after := reconcile_runs_some calm found run
  rw [if_pos deleted] at after
  obtain ⟨rfl, r', u, torn⟩ := tearDown_runs sound calm found deleted marked after
  obtain ⟨m, _, stamped⟩ := reached.versioned _ r found
  obtain ⟨uid, known⟩ := Option.isSome_iff_exists.mp stamped.uid
  refine ⟨rfl, uid, known, fun last => ?_, fun others => ?_, ?_, fun policy => ?_⟩
  · have dropped := torn.released.last (torn.withoutMarker.trans last)
    refine ⟨dropped.root, fun e mem => ?_⟩
    rw [dropped.objects, torn.renewed.uid, known] at mem
    simpa using (List.mem_filter.mp mem).2
  · obtain ⟨r'', _, finalizers, status', holds⟩ :=
      torn.released.others fun last => others (torn.withoutMarker.symm.trans last)
    obtain ⟨status, reported, phase⟩ := torn.phase
    exact ⟨r'', status, holds.root, status'.trans reported, phase,
      finalizers.trans torn.withoutMarker⟩
  · exact torn.swept (sound.root found)
  · rw [torn.cascaded policy, known]
    rfl

def doomedOperations : List Operation :=
  let owned (name : String) : Json :=
    .obj [("metadata", .obj [("name", .str name),
      ("ownerReferences", .arr [.obj [("uid", .str (uidText 1))]])])]
  [.install ResourceType.deployment.builtinApi, .install ResourceType.configMap.builtinApi,
   .insertRoot
     { metadata := { name := some "demo", finalizers := some [finalizerMarker] }
       spec := { modelServer := { modelName := "m", hfTokenSecretName := "s" } }
       status := none },
   .insertObject ResourceType.deployment.builtinApi (some "default") (owned "demo-model-server"),
   .insertObject ResourceType.configMap.builtinApi (some "default") (owned "extra"),
   .requestDeletion "" "default" "demo"]

def doomed : Cluster := doomedOperations.foldl (fun s o => o.apply s) {}

theorem doomed_reachable : doomed.Reachable := by
  refine Cluster.Reachable.empty.foldl doomedOperations fun o mem => ?_
  simp only [doomedOperations, List.mem_cons, List.not_mem_nil, or_false] at mem
  rcases mem with rfl | rfl | rfl | rfl | rfl | rfl
  · trivial
  · trivial
  · intro n field
    simp at field
  · exact ⟨⟨trivial, ⟨⟨trivial, trivial⟩, trivial⟩, trivial⟩, trivial⟩
  · exact ⟨⟨trivial, ⟨⟨trivial, trivial⟩, trivial⟩, trivial⟩, trivial⟩
  · trivial

theorem one_pass_tears_down_doomed :
    let once := ((Engine.mk .builtin { cleanup := .sweep }).reconcile "default" "demo").run
      (Cluster.asStore "") doomed
    once.1 = .ok .never ∧ once.2.root? "default" "demo" = none ∧
      (∀ e ∈ once.2.objects, isOwnedBy (uidText 1) e.2 = false) ∧
      ∀ e ∈ once.2.objects, e.1 ≠ ResourceType.deployment.builtinApi.objectKey (some "default")
        (ChildKind.workload.childName "demo") := by
  obtain ⟨r, found, deleted, marked, last, known⟩ : ∃ r, doomed.root? "default" "demo" = some r ∧
      r.metadata.deletionTimestamp.isSome ∧ r.hasMarker = true ∧ r.withoutMarker = [] ∧
      r.metadata.uid = some (uidText 1) :=
    ⟨_, rfl, by decide +kernel, by decide +kernel, by decide +kernel, by decide +kernel⟩
  obtain ⟨never, uid, known', gone, _, swept, _⟩ := one_pass_tears_down doomed_reachable
    (by decide +kernel) found deleted marked (runsOn_run (Cluster.asStore "")
      ((Engine.mk .builtin { cleanup := .sweep }).reconcile "default" "demo") doomed)
  obtain rfl : uidText 1 = uid := Option.some.inj (known.symm.trans known')
  obtain ⟨dropped, unowned⟩ := gone last
  exact ⟨never, dropped, unowned,
    swept rfl (.deployment, ChildKind.workload.childName "demo") (by decide) (by decide +kernel)⟩

end SchedulerOperator.Engine
