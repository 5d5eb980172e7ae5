import SchedulerOperator.Proofs.PassEffects
import SchedulerOperator.Proofs.RootWrites
import SchedulerOperator.Proofs.Stretches

namespace SchedulerOperator
open Cluster Attempt Step Pass

theorem Entered.observedGeneration {generation : Option Int64} {notes : List Note}
    {s t : SchedulerStatus} (entered : Entered generation notes s t) :
    t.observedGeneration = s.observedGeneration := by
  induction entered with
  | nil s => rfl
  | cons n now more ih =>
    rw [ih]
    cases n <;> rfl

theorem Entered.phase {generation : Option Int64} {notes : List Note} {s t : SchedulerStatus}
    (entered : Entered generation notes s t) (known : s.phase.isSome) : t.phase.isSome := by
  rw [Note.lastPhase_of_entered entered]
  rcases Note.lastPhase_cases notes with ⟨p, fixed⟩ | first | kept
  · rw [fixed]
    rfl
  · rw [first]
    rfl
  · rw [kept]
    exact known

namespace Engine
variable {g : Engine} {s t u : Cluster} {r : InferenceScheduler} {ns name : String}

/-- What is stored of a board's status, and what is not stored yet. -/
structure Reported (ns name : String) (r : InferenceScheduler) (b : StatusBoard) (s : Cluster) :
    Prop where
  root : s.root? ns name = some r
  stored : r.status = some b.stored ∨ r.status = none ∧ b.stored = {} ∧ b.current.phase.isSome

theorem saved_of_equal {b : StatusBoard} (equal : b.current = b.stored) : b.saved = b := by
  cases b with
  | mk stored current generation =>
    cases equal
    rfl

theorem saveStatus_runs {b b' : StatusBoard} {out : Except StoreError Unit}
    (reported : Reported ns name r b s) (sound : s.Sound) (calm : s.Calm)
    (run : RunsOn Cluster.answer (saveStatus ns name b) s (out, b') t) :
    out = .ok () ∧ b' = b.saved ∧ ∃ r', r.Renewed r' ∧ r'.finalizers = r.finalizers ∧
      r'.status = some b.current ∧ Holds ns name r' s t := by
  unfold saveStatus at run
  cases changed : b.changed with
  | false =>
    simp only [changed, Bool.not_false, if_true] at run
    obtain ⟨same, rfl⟩ := runsOn_done.mp run
    have equal : b.current = b.stored := by simpa [StatusBoard.changed] using changed
    obtain ⟨done, board⟩ := Prod.mk.inj same
    refine ⟨done, ?_, r, .refl r, rfl, ?_, .refl reported.root sound⟩
    · rw [board, saved_of_equal equal]
    · rcases reported.stored with stored | ⟨_, empty, known⟩
      · rw [stored, equal]
      · rw [equal, empty] at known
        cases known
  | true =>
    simp only [changed, Bool.not_true, Bool.false_eq_true, if_false] at run
    have unequal : b.current ≠ b.stored := by simpa [StatusBoard.changed] using changed
    have differs : r.status ≠ some b.current := by
      rcases reported.stored with stored | ⟨none, _⟩
      · rw [stored]
        exact fun same => unequal (Option.some.inj same).symm
      · rw [none]
        nofun
    obtain ⟨done, r', renewed, finalizers, status, holds⟩ :=
      writeStatus_stored reported.root sound differs
    have after := runsOn_call.mp run
    rw [answer_calm calm] at after
    simp only [Cluster.perform, done] at after
    obtain ⟨same, rfl⟩ := runsOn_done.mp after
    obtain ⟨saved, board⟩ := Prod.mk.inj same
    exact ⟨saved, board, r', renewed, finalizers, status, holds⟩

structure Shown (ns name : String) (current : Option Int64) (r : InferenceScheduler)
    (b : StatusBoard) (s t : Cluster) : Prop where
  generation : b.generation = current
  observed : b.current.observedGeneration = current
  phase : b.current.phase.isSome
  status : r.status = some b.stored
  holds : Holds ns name r s t

theorem observeFirst_known {b b' : StatusBoard} {out : Except ReconcileError Unit}
    (known : b.stored.phase.isSome)
    (run : RunsOn Cluster.answer ((g.observeFirst ns name).run b) s (out, b') t) :
    out = .ok () ∧ b' = b ∧ t = s := by
  change RunsOn _ ((if b.stored.phase.isNone = true then _ else _ : Step Unit).run _) _ _ _ at run
  have there : b.stored.phase.isNone = false := by simpa using known
  simp only [there, Bool.false_eq_true, if_false] at run
  obtain ⟨same, rfl⟩ := runsOn_done.mp run
  obtain ⟨done, board⟩ := Prod.mk.inj same
  exact ⟨done, board, rfl⟩

theorem observeFirst_unknown {generation : Option Int64} {out : Except ReconcileError Unit}
    {b : StatusBoard} (unknown : (StatusBoard.start r.status generation).stored.phase = none)
    (found : s.root? ns name = some r) (sound : s.Sound) (calm : s.Calm)
    (run : RunsOn Cluster.answer
      ((g.observeFirst ns name).run (.start r.status generation)) s (out, b) t) :
    out = .ok () ∧ ∃ r', r.Renewed r' ∧ r'.finalizers = r.finalizers ∧
      Shown ns name generation r' b s t := by
  change RunsOn _ ((if (StatusBoard.start r.status generation).stored.phase.isNone = true
    then _ else _ : Step Unit).run _) _ _ _ at run
  rw [unknown] at run
  simp only [Option.isNone_none, if_true] at run
  obtain ⟨⟨directive, b₁⟩, z, moved, rest⟩ := runsOn_bind.mp run
  obtain ⟨same, rfl⟩ := runsOn_done.mp moved
  obtain ⟨rfl, rfl⟩ := Prod.mk.inj same
  obtain ⟨⟨saved, b₂⟩, y, save, rest⟩ := runsOn_bind.mp rest
  have reported : Reported ns name r ((StatusBoard.start r.status generation).setPhase
      (transition g.settings.timing (StatusBoard.start r.status generation).current.phase
        .firstObserved).phase) z := by
    refine ⟨found, ?_⟩
    cases there : r.status with
    | some st => exact .inl rfl
    | none => exact .inr ⟨rfl, rfl, rfl⟩
  obtain ⟨rfl, rfl, r', renewed, finalizers, status, holds⟩ :=
    saveStatus_runs reported sound calm save
  obtain ⟨same, rfl⟩ := runsOn_done.mp rest
  obtain ⟨rfl, rfl⟩ := Prod.mk.inj same
  exact ⟨rfl, r', renewed, finalizers, rfl, rfl, rfl, status, holds⟩

theorem observeFirst_runs {generation : Option Int64} {out : Except ReconcileError Unit}
    {b : StatusBoard} (found : s.root? ns name = some r) (sound : s.Sound) (calm : s.Calm)
    (run : RunsOn Cluster.answer
      ((g.observeFirst ns name).run (.start r.status generation)) s (out, b) t) :
    out = .ok () ∧ ∃ r', r.Renewed r' ∧ r'.finalizers = r.finalizers ∧
      Shown ns name generation r' b s t := by
  cases phase : (StatusBoard.start r.status generation).stored.phase with
  | none => exact observeFirst_unknown phase found sound calm run
  | some p =>
    have known : (StatusBoard.start r.status generation).stored.phase.isSome := by
      rw [phase]
      rfl
    obtain ⟨rfl, rfl, rfl⟩ := observeFirst_known known run
    cases there : r.status with
    | none =>
      rw [there] at known
      cases known
    | some st =>
      rw [there] at known
      exact ⟨rfl, r, .refl r, rfl, rfl, rfl, known, there, .refl found sound⟩

theorem conclude_runs {b : StatusBoard} {result out : Except ReconcileError Requeue}
    (reported : Reported ns name r b s) (sound : s.Sound) (calm : s.Calm)
    (run : RunsOn Cluster.answer (conclude ns name (result, b)) s out t) :
    out = result ∧ ∃ r', r.Renewed r' ∧ r'.finalizers = r.finalizers ∧
      r'.status = some b.current ∧ Holds ns name r' s t := by
  obtain ⟨⟨saved, b'⟩, z, save, rest⟩ := runsOn_bind.mp run
  obtain ⟨rfl, rfl, r', renewed, finalizers, status, holds⟩ :=
    saveStatus_runs reported sound calm save
  obtain ⟨rfl, rfl⟩ := runsOn_done.mp rest
  exact ⟨rfl, r', renewed, finalizers, status, holds⟩

theorem reconcile_runs_none {out : Except ReconcileError Requeue} (calm : s.Calm)
    (found : s.root? ns name = none)
    (run : RunsOn Cluster.answer (g.reconcile ns name) s out t) : out = .ok .never ∧ t = s := by
  have after := runsOn_call.mp run
  rw [answer_calm calm] at after
  simp only [Cluster.perform, found] at after
  exact runsOn_done.mp after

theorem reconcile_runs_some {out : Except ReconcileError Requeue} (calm : s.Calm)
    (found : s.root? ns name = some r)
    (run : RunsOn Cluster.answer (g.reconcile ns name) s out t) :
    RunsOn Cluster.answer
      (if r.metadata.deletionTimestamp.isSome then g.tearDown r else g.upkeep ns name r)
      s out t := by
  have after := runsOn_call.mp run
  rw [answer_calm calm] at after
  simp only [Cluster.perform, found] at after
  exact after

theorem reconcile_turns_some {out : Except ReconcileError Requeue} {trace : List Turn}
    (calm : s.Calm) (found : s.root? ns name = some r)
    (turns : TurnsOn Cluster.answer (g.reconcile ns name) s trace out t) :
    ∃ rest, trace = ⟨.getRoot ns name, .ok (some r)⟩ :: rest ∧
      TurnsOn Cluster.answer
        (if r.metadata.deletionTimestamp.isSome then g.tearDown r else g.upkeep ns name r)
        s rest out t := by
  obtain ⟨rest, rfl, tail⟩ := turnsOn_call turns
  rw [answer_calm calm] at tail ⊢
  simp only [Cluster.perform, found] at tail ⊢
  exact ⟨rest, rfl, tail⟩

/-- Where the alignment of a root begins: the root has the marker and a status, which the board
shows. -/
structure Begun (ns name : String) (r r₂ : InferenceScheduler) (b : StatusBoard)
    (s t : Cluster) : Prop extends Shown ns name r.metadata.generation r₂ b s t where
  renewed : r.Renewed r₂
  marked : r₂.hasMarker = true

theorem upkeep_parts {out : Except ReconcileError Requeue} {trace : List Turn} (sound : s.Sound)
    (calm : s.Calm) (found : s.root? ns name = some r) (alive : r.metadata.deletionTimestamp = none)
    (turns : TurnsOn Cluster.answer (g.upkeep ns name r) s trace out t) :
    ∃ r₂ b u front middle back result b' v, trace = front ++ middle ++ back ∧
      Begun ns name r r₂ b s u ∧
      TurnsOn Cluster.answer ((g.alignment r).run b) u middle (result, b') v ∧
      TurnsOn Cluster.answer (conclude ns name (result, b')) v back out t := by
  obtain ⟨inNamespace, named⟩ := root_key (sound.root found) "default"
  obtain ⟨first, rest, attached, s₁, rfl, attach, turns⟩ := turnsOn_bind turns
  obtain ⟨wrote, r₁, t₁, yields, renewed₁, marker, status₁, holds₁⟩ :=
    InferenceScheduler.ensureMarker_yields found sound calm alive
  obtain ⟨rfl, rfl⟩ := yields _ _ attach.runsOn
  obtain ⟨body, back, ⟨result, b'⟩, v, rfl, align, finish⟩ := turnsOn_bind turns
  rw [bringInLine_eq, inNamespace, named] at align
  obtain ⟨second, middle, ⟨observed, b⟩, u, rfl, observe, align⟩ := turnsOn_bind align
  have observe := observe.runsOn
  rw [← status₁] at observe
  obtain ⟨rfl, r₂, renewed₂, finalizers₂, shown⟩ :=
    observeFirst_runs holds₁.root holds₁.sound (holds₁.calm calm) observe
  refine ⟨r₂, b, u, first ++ second, middle, back, result, b', v, by simp, ?_, align, finish⟩
  refine ⟨{ shown with holds := holds₁.trans shown.holds }, renewed₁.trans renewed₂, ?_⟩
  rw [InferenceScheduler.hasMarker, finalizers₂]
  exact marker

theorem upkeep_runs {out : Except ReconcileError Requeue} (sound : s.Sound) (calm : s.Calm)
    (found : s.root? ns name = some r) (alive : r.metadata.deletionTimestamp = none)
    (run : RunsOn Cluster.answer (g.upkeep ns name r) s out t) :
    ∃ r₂ before u, Holds ns name r₂ s u ∧ before.phase.isSome ∧
      before.observedGeneration = r.metadata.generation ∧
      ∀ {result notes written v}, Does (g.alignment r) u result notes v → Framed written u v →
        out = result ∧ ∃ r' current, r.Renewed r' ∧ r'.hasMarker = true ∧
          r'.status = some current ∧ Entered r.metadata.generation notes before current ∧
          Holds ns name r' v t := by
  obtain ⟨trace, turns⟩ := turnsOn_of_runsOn run
  obtain ⟨r₂, b₁, u, front, middle, back, result, b, v, _, begun, align, finish⟩ :=
    upkeep_parts sound calm found alive turns
  refine ⟨r₂, b₁.current, u, begun.holds, begun.phase, begun.observed, ?_⟩
  intro result' notes written v' does framed
  obtain ⟨rfl, ⟨stored, generation, entered⟩, rfl⟩ := does b₁ (result, b) _ align.runsOn
  have reported : Reported ns name r₂ b v := by
    refine ⟨?_, .inl (by rw [begun.status, stored])⟩
    rw [root?, framed.roots]
    exact begun.holds.root
  obtain ⟨rfl, r₃, renewed₃, finalizers₃, status₃, holds₃⟩ :=
    conclude_runs reported framed.sound (framed.calm (begun.holds.calm calm)) finish.runsOn
  rw [begun.generation] at entered
  refine ⟨rfl, r₃, b.current, begun.renewed.trans renewed₃, ?_, status₃, entered, holds₃⟩
  rw [InferenceScheduler.hasMarker, finalizers₃]
  exact begun.marked

end Engine
end SchedulerOperator
