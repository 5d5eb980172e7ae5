import SchedulerOperator.Proofs.Teardown

namespace SchedulerOperator
open Cluster Attempt Step Pass

namespace Engine
variable {g : Engine} {s t u : Cluster} {r : InferenceScheduler} {ns name : String}

theorem alignment_repeats (builtin : g.registry = .builtin) (r : InferenceScheduler)
    (sound : s.Sound) (calm : s.Calm) :
    ∃ result notes t touched written, Note.Separate notes ∧
      Repeats (g.alignment r) touched written s result notes t := by
  have accept := fun u => acceptSpec_does (g := g) (s := u) r
  unfold alignment
  cases resolved : Plan.resolve r with
  | error e =>
    simp only [resolved] at accept
    refine ⟨_, _, s, fun _ => False, fun _ => False, ?_,
      repeats_bind_error (repeats_of_still sound fun u _ => accept u)⟩
    simp [Note.Separate, Note.topic]
  | ok plan =>
    simp only [resolved] at accept
    obtain ⟨named, placed, _⟩ := Plan.resolve_root resolved
    have accepted : Repeats (g.acceptSpec r) (fun _ => False) (fun _ => False) s (.ok plan) _ s :=
      repeats_of_still sound fun u _ => accept u
    have looked : Repeats (g.preflight plan) (fun _ => False) (fun _ => False) s
        (.ok (g.preflightResult (missingIn s plan))) (preflightNotes (missingIn s plan)) s :=
      repeats_of_still sound fun u alike => by
        rw [← missingIn_alike alike]
        exact preflight_does builtin (alike.calm calm) plan
    cases found : missingIn s plan with
    | missing items =>
      rw [found] at looked
      have waited : Repeats (pure (g.waitAfter .prerequisitesMissing) : Step Requeue)
          (fun _ => False) (fun _ => False) s _ [] s :=
        repeats_of_still sound fun u _ => does_pure _
      refine ⟨_, _, s, _, _, ?_, repeats_bind accepted (repeats_bind looked waited ?_) ?_⟩
      · simp [Note.Separate, Note.topic, preflightNotes]
      · exact fun _ _ none => none
      · exact fun _ _ none => none
    | satisfied =>
      rw [found] at looked
      obtain ⟨result, notes, t, topics, wrote⟩ :
          ∃ result notes t, ChildTopics ChildKind.all (notes.map Note.topic) ∧
            Repeats (g.writeChildren plan.namespace_ plan.name plan ChildKind.all) _ _ s
              result notes t := writeChildren_repeats builtin Plan.apart_all sound calm
      rw [named, placed] at wrote
      refine ⟨result, _, t, _, _, ?_, repeats_bind accepted (repeats_bind looked wrote ?_) ?_⟩
      · exact childTopics_separate topics
      · exact fun _ _ none => none
      · exact fun _ _ none => none

theorem alignment_renewed {r' : InferenceScheduler} (renewed : r.Renewed r') :
    g.alignment r' = g.alignment r := by
  unfold alignment acceptSpec
  rw [renewed.resolve, renewed.namespaceOr, renewed.name]

theorem conclude_saved {b : StatusBoard} {result out : Except ReconcileError Requeue}
    (equal : b.current = b.stored)
    (run : RunsOn Cluster.answer (conclude ns name (result, b)) s out t) :
    out = result ∧ t = s := by
  have same : b.changed = false := by simpa [StatusBoard.changed] using equal
  unfold conclude saveStatus at run
  simp only [same, Bool.not_false, if_true] at run
  exact runsOn_done.mp run

/-- Where a pass over `r` came to `result` and would come to it again, with notes that change
nothing on the status `current`. -/
structure Rested (g : Engine) (ns name : String) (r : InferenceScheduler)
    (current : SchedulerStatus) (notes : List Note) (result : Except ReconcileError Requeue)
    (s : Cluster) : Prop where
  root : s.root? ns name = some r
  alive : r.metadata.deletionTimestamp = none
  marked : r.hasMarker = true
  status : r.status = some current
  phase : current.phase.isSome
  observed : current.observedGeneration = r.metadata.generation
  shown : ∀ {after}, Entered r.metadata.generation notes current after → after = current
  calm : s.Calm
  placed : Placed ⟨ns, name⟩ r
  again : ∃ t, Does (g.alignment r) s result notes t ∧ Quiet s t

/-- Wherever a pass over a root that is not being deleted starts, it comes to rest. -/
theorem upkeep_rests {out : Except ReconcileError Requeue} (builtin : g.registry = .builtin)
    (sound : s.Sound) (calm : s.Calm) (found : s.root? ns name = some r)
    (alive : r.metadata.deletionTimestamp = none)
    (run : RunsOn Cluster.answer (g.upkeep ns name r) s out t) :
    ∃ r' current notes, Rested g ns name r' current notes out t := by
  obtain ⟨_, before, u, holds, phase, observed, aligned⟩ := upkeep_runs sound calm found alive run
  obtain ⟨result, notes, v, touched, written, separate, repeats⟩ :=
    alignment_repeats (g := g) builtin r holds.sound (holds.calm calm)
  obtain ⟨rfl, r', current, renewed, marked, status, entered, holds'⟩ :=
    aligned repeats.first repeats.framed
  refine ⟨r', current, notes, holds'.root, ?_, marked, status, entered.phase phase, ?_, ?_, ?_,
    holds'.sound.root holds'.root, ?_⟩
  · rw [renewed.deletionTimestamp]
    exact alive
  · rw [entered.observedGeneration, observed, renewed.generation]
  · rw [renewed.generation]
    exact fun {after} again => Note.entered_again entered separate again
  · exact holds'.calm (repeats.framed.calm (holds.calm calm))
  · rw [alignment_renewed renewed]
    exact repeats.again t (holds'.alike touched)

theorem Rested.repeats {current : SchedulerStatus} {notes : List Note}
    {result out : Except ReconcileError Requeue} (rested : Rested g ns name r current notes result s)
    (run : RunsOn Cluster.answer (g.upkeep ns name r) s out t) : out = result ∧ Quiet s t := by
  obtain ⟨inNamespace, named⟩ := root_key rested.placed "default"
  obtain ⟨attached, s₁, attach, rest⟩ := runsOn_bind.mp run
  obtain ⟨rfl, rfl⟩ := InferenceScheduler.ensureMarker_marked rested.marked _ _ attach
  obtain ⟨⟨result', b⟩, s₂, align, finish⟩ := runsOn_bind.mp rest
  have start : StatusBoard.start r.status r.metadata.generation =
      ⟨current, current, r.metadata.generation⟩ := by
    rw [rested.status, ← rested.observed]
    rfl
  rw [bringInLine_eq, inNamespace, named, start] at align
  obtain ⟨⟨observed, b₁⟩, s₃, observe, aligned⟩ := runsOn_bind.mp align
  obtain ⟨rfl, rfl, rfl⟩ := observeFirst_known rested.phase observe
  obtain ⟨t', does, quiet⟩ := rested.again
  obtain ⟨rfl, ⟨stored, _, entered⟩, rfl⟩ := does _ (result', b) _ aligned
  obtain ⟨rfl, rfl⟩ := conclude_saved ((rested.shown entered).trans stored.symm) finish
  exact ⟨rfl, quiet⟩

theorem tearDown_lets_go {out : Except ReconcileError Requeue} (sound : s.Sound) (calm : s.Calm)
    (found : s.root? ns name = some r) (deleted : r.metadata.deletionTimestamp.isSome)
    (run : RunsOn Cluster.answer (g.tearDown r) s out t) :
    out = .ok .never ∧ InferenceScheduler.LetGo ns name t := by
  cases marked : r.hasMarker with
  | false =>
    rw [tearDown_unmarked g marked] at run
    obtain ⟨rfl, rfl⟩ := runsOn_done.mp run
    refine ⟨rfl, calm, fun r' found' => ?_⟩
    rw [found] at found'
    cases found'
    exact ⟨deleted, marked⟩
  | true =>
    obtain ⟨rfl, r', u, torn⟩ := tearDown_runs sound calm found deleted marked run
    exact ⟨rfl, torn.letGo calm deleted⟩

theorem let_go_rests {out : Except ReconcileError Requeue}
    (letGo : InferenceScheduler.LetGo ns name s)
    (run : RunsOn Cluster.answer (g.reconcile ns name) s out t) : out = .ok .never ∧ t = s := by
  cases found : s.root? ns name with
  | none => exact reconcile_runs_none letGo.calm found run
  | some r =>
    obtain ⟨deleted, marked⟩ := letGo.gone r found
    have after := reconcile_runs_some letGo.calm found run
    rw [if_pos deleted] at after
    rw [tearDown_unmarked g marked] at after
    exact runsOn_done.mp after

/-- Whatever the cluster is like, as long as no failures are arranged: a pass that follows
another one at once comes to the same result and leaves the cluster as it is, but for the log,
which gains replacements of objects by themselves. -/
theorem second_pass_changes_nothing {settings : PassSettings} {ns name : String}
    {s s₁ s₂ : Cluster} {first second : Except ReconcileError Requeue} (reached : s.Reachable)
    (calm : s.failures = [])
    (run : RunsOn Cluster.answer ((Engine.mk .builtin settings).reconcile ns name) s first s₁)
    (again : RunsOn Cluster.answer ((Engine.mk .builtin settings).reconcile ns name) s₁ second s₂) :
    second = first ∧ s₂.roots = s₁.roots ∧ s₂.objects = s₁.objects ∧
      ∃ log, s₂ = { s₁ with writes := log ++ s₁.writes } ∧
        ∀ w ∈ log, w.op = .replace ∧ w.changed = false := by
  have sound := reached.sound
  have rests : second = first ∧ Quiet s₁ s₂ := by
    cases found : s.root? ns name with
    | none =>
      obtain ⟨rfl, rfl⟩ := reconcile_runs_none calm found run
      obtain ⟨rfl, rfl⟩ := reconcile_runs_none calm found again
      exact ⟨rfl, .refl _⟩
    | some r =>
      have after := reconcile_runs_some calm found run
      cases deleted : r.metadata.deletionTimestamp with
      | some time =>
        rw [if_pos (by rw [deleted]; rfl)] at after
        obtain ⟨rfl, letGo⟩ := tearDown_lets_go sound calm found (by rw [deleted]; rfl) after
        obtain ⟨rfl, rfl⟩ := let_go_rests letGo again
        exact ⟨rfl, .refl _⟩
      | none =>
        rw [if_neg (by rw [deleted]; simp)] at after
        obtain ⟨r', current, notes, rested⟩ := upkeep_rests rfl sound calm found deleted after
        have anew := reconcile_runs_some rested.calm rested.root again
        rw [if_neg (by rw [rested.alive]; simp)] at anew
        exact rested.repeats anew
  obtain ⟨same, log, rfl, quiet⟩ := rests
  exact ⟨same, rfl, rfl, log, rfl, quiet⟩

theorem second_pass_over_fresh_root :
    let engine : Engine := ⟨.builtin, { cleanup := .sweep }⟩
    let once := (engine.reconcile "default" "demo").run (Cluster.asStore "") Cluster.fresh
    let twice := (engine.reconcile "default" "demo").run (Cluster.asStore "") once.2
    twice.1 = once.1 ∧ twice.2.roots = once.2.roots ∧ twice.2.objects = once.2.objects ∧
      ∃ log, twice.2 = { once.2 with writes := log ++ once.2.writes } ∧
        ∀ w ∈ log, w.op = .replace ∧ w.changed = false :=
  second_pass_changes_nothing fresh_reachable (by decide +kernel)
    (runsOn_run (Cluster.asStore "") _ _) (runsOn_run (Cluster.asStore "") _ _)

end Engine
end SchedulerOperator
