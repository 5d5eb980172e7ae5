import SchedulerOperator.Engine

/-!
Notes on different things do not disturb each other, so a board that was taken through a list of
notes is not changed by the same notes again: only the phase moves, and it ends where it ended
before.
-/
namespace SchedulerOperator

inductive Note where
  | phase (p : Phase)
  | keepPhase
  | condition (t : ConditionType) (status : ConditionStatus) (reason message : String)
  | prerequisites (validated : Bool) (message : Option String)
  | modelServerReplicas (n : Int)
  | eppReplicas (n : Int)
  | inferencePoolReady
  | gatewayReady

inductive Topic where
  | phase
  | condition (t : ConditionType)
  | prerequisites
  | modelServerReplicas
  | eppReplicas
  | inferencePoolReady
  | gatewayReady
  deriving DecidableEq

namespace Note

def topic : Note → Topic
  | .phase _ | .keepPhase => .phase
  | .condition t .. => .condition t
  | .prerequisites .. => .prerequisites
  | .modelServerReplicas _ => .modelServerReplicas
  | .eppReplicas _ => .eppReplicas
  | .inferencePoolReady => .inferencePoolReady
  | .gatewayReady => .gatewayReady

def put (generation : Option Int64) (now : String) : Note → SchedulerStatus → SchedulerStatus
  | .phase p, s => { s with phase := some p }
  | .keepPhase, s => { s with phase := some (s.phase.getD .initializing) }
  | .condition t status reason message, s =>
    { s with
      conditions :=
        StatusBoard.putCondition generation t status reason message now s.conditions }
  | .prerequisites validated message, s =>
    { s with prerequisitesValidated := validated, prerequisiteMessage := message }
  | .modelServerReplicas n, s => { s with modelServerReplicas := n }
  | .eppReplicas n, s => { s with eppReplicas := n }
  | .inferencePoolReady, s => { s with inferencePoolReady := true }
  | .gatewayReady, s => { s with gatewayReady := true }

def nextPhase : Note → Option Phase → Option Phase
  | .phase p, _ => some p
  | .keepPhase, old => some (old.getD .initializing)
  | _, old => old

def lastPhase (notes : List Note) (old : Option Phase) : Option Phase :=
  notes.foldl (fun p n => n.nextPhase p) old

/-- Of the notes on one thing other than the phase there is one at most. -/
def Separate (notes : List Note) : Prop :=
  (notes.map topic).Pairwise fun a b => a = .phase ∨ a ≠ b

def Shown (generation : Option Int64) (n : Note) (s : SchedulerStatus) : Prop :=
  ∀ now p, n.put generation now { s with phase := p } = { s with phase := n.nextPhase p }

end Note

/-- A status from another by a list of notes, each at some time. -/
inductive Entered (generation : Option Int64) :
    List Note → SchedulerStatus → SchedulerStatus → Prop where
  | nil (s : SchedulerStatus) : Entered generation [] s s
  | cons (n : Note) (now : String) {rest : List Note} {s t : SchedulerStatus}
      (more : Entered generation rest (n.put generation now s) t) :
      Entered generation (n :: rest) s t

namespace StatusBoard

theorem putCondition_again {generation : Option Int64} {t : ConditionType}
    {status : ConditionStatus} {reason message : String} (now now' : String)
    (conditions : List Condition) :
    putCondition generation t status reason message now'
        (putCondition generation t status reason message now conditions) =
      putCondition generation t status reason message now conditions := by
  induction conditions with
  | nil => simp [putCondition, renew]
  | cons c rest ih =>
    by_cases same : c.type_ = t
    · simp [putCondition, same, renew]
    · simp [putCondition, same, ih]

theorem putCondition_comm {generation : Option Int64} {t u : ConditionType} (other : t ≠ u)
    {status status' : ConditionStatus} {reason message reason' message' now now' : String}
    {conditions : List Condition}
    (shown : putCondition generation t status reason message now conditions = conditions) :
    putCondition generation t status reason message now
        (putCondition generation u status' reason' message' now' conditions) =
      putCondition generation u status' reason' message' now' conditions := by
  induction conditions with
  | nil => simp [putCondition] at shown
  | cons c rest ih =>
    by_cases same : c.type_ = t
    · have unlike : c.type_ ≠ u := fun h => other (same.symm.trans h)
      simp only [putCondition, if_pos same, List.cons.injEq, and_true] at shown
      simp [putCondition, if_neg unlike, if_pos same, shown]
    · simp only [putCondition, if_neg same, List.cons.injEq, true_and] at shown
      by_cases here : c.type_ = u
      · simp [putCondition, renew, Ne.symm other, here, shown]
      · simp [putCondition, if_neg here, if_neg same, ih shown]

end StatusBoard

namespace Note
variable {generation : Option Int64} {s t : SchedulerStatus} {notes : List Note}

theorem put_phase (n : Note) (now : String) (s : SchedulerStatus) :
    (n.put generation now s).phase = n.nextPhase s.phase := by
  cases n <;> rfl

theorem shown_put (n : Note) (now : String) (s : SchedulerStatus) :
    n.Shown generation (n.put generation now s) := by
  intro now' p
  cases n with
  | condition t status reason message =>
    simp only [put, nextPhase, StatusBoard.putCondition_again]
  | _ => rfl

theorem Shown.put {n m : Note} (shown : n.Shown generation s) (now : String)
    (apart : n.topic = .phase ∨ n.topic ≠ m.topic) :
    n.Shown generation (m.put generation now s) := by
  intro now' p
  have before := shown now' p
  cases n with
  | condition t status reason message =>
    cases m with
    | condition u status' reason' message' =>
      have other : t ≠ u := fun same => by simp [topic, same] at apart
      simp only [Note.put, nextPhase, SchedulerStatus.mk.injEq, true_and, and_true] at before ⊢
      exact StatusBoard.putCondition_comm other before
    | _ =>
      simp only [Note.put, nextPhase, SchedulerStatus.mk.injEq, true_and, and_true] at before ⊢
      exact before
  | _ =>
    cases m <;> simp_all [Note.put, nextPhase, topic]

theorem Shown.lasts {n : Note} (shown : n.Shown generation s)
    (entered : Entered generation notes s t)
    (apart : ∀ m ∈ notes, n.topic = .phase ∨ n.topic ≠ m.topic) : n.Shown generation t := by
  induction entered with
  | nil s => exact shown
  | cons m now more ih =>
    exact ih (shown.put now (apart m List.mem_cons_self)) fun l mem =>
      apart l (List.mem_cons_of_mem _ mem)

theorem shown_of_entered (entered : Entered generation notes s t) (separate : Separate notes) :
    ∀ n ∈ notes, n.Shown generation t := by
  induction entered with
  | nil s => exact fun n mem => absurd mem List.not_mem_nil
  | cons n now more ih =>
    obtain ⟨first, rest⟩ := List.pairwise_cons.mp separate
    intro m mem
    rcases List.mem_cons.mp mem with rfl | later
    · exact (shown_put m now _).lasts more fun l mem => first _ (List.mem_map_of_mem mem)
    · exact ih rest m later

theorem lastPhase_of_entered (entered : Entered generation notes s t) :
    t.phase = lastPhase notes s.phase := by
  induction entered with
  | nil s => rfl
  | cons n now more ih =>
    rw [ih, put_phase]
    rfl

theorem lastPhase_cases (notes : List Note) :
    (∃ p, ∀ old, lastPhase notes old = some p) ∨
      (∀ old, lastPhase notes old = some (old.getD .initializing)) ∨
      (∀ old, lastPhase notes old = old) := by
  induction notes with
  | nil => exact .inr (.inr fun _ => rfl)
  | cons n rest ih =>
    have step : ∀ old, lastPhase (n :: rest) old = lastPhase rest (n.nextPhase old) := fun _ => rfl
    rcases ih with ⟨p, fixed⟩ | first | kept
    · exact .inl ⟨p, fun old => by rw [step, fixed]⟩
    · cases n with
      | phase p => exact .inl ⟨p, fun old => by rw [step, first]; rfl⟩
      | keepPhase => exact .inr (.inl fun old => by rw [step, first]; rfl)
      | _ => exact .inr (.inl fun old => by rw [step, first]; rfl)
    · cases n with
      | phase p => exact .inl ⟨p, fun old => by rw [step, kept]; rfl⟩
      | keepPhase => exact .inr (.inl fun old => by rw [step, kept]; rfl)
      | _ => exact .inr (.inr fun old => by rw [step, kept]; rfl)

theorem lastPhase_again (notes : List Note) (old : Option Phase) :
    lastPhase notes (lastPhase notes old) = lastPhase notes old := by
  rcases lastPhase_cases notes with ⟨p, fixed⟩ | first | kept
  · rw [fixed, fixed]
  · rw [first, first]
    rfl
  · rw [kept, kept]

theorem entered_shown {p : Option Phase} (entered : Entered generation notes { s with phase := p } t)
    (shown : ∀ n ∈ notes, n.Shown generation s) : t = { s with phase := lastPhase notes p } := by
  induction notes generalizing p with
  | nil =>
    cases entered
    rfl
  | cons n rest ih =>
    cases entered with
    | cons _ now more =>
      rw [shown n List.mem_cons_self] at more
      exact ih more fun m mem => shown m (List.mem_cons_of_mem _ mem)

/-- The same notes again change nothing, whenever they are made. -/
theorem entered_again {u : SchedulerStatus} (entered : Entered generation notes s t)
    (separate : Separate notes) (again : Entered generation notes t u) : u = t := by
  rw [entered_shown (p := t.phase) again (shown_of_entered entered separate),
    lastPhase_of_entered entered, lastPhase_again, ← lastPhase_of_entered entered]

end Note

theorem Entered.append {generation : Option Int64} {front back : List Note}
    {s t u : SchedulerStatus} (first : Entered generation front s t)
    (second : Entered generation back t u) : Entered generation (front ++ back) s u := by
  induction first with
  | nil s => exact second
  | cons n now more ih => exact .cons n now (ih second)

theorem Entered.first {generation : Option Int64} {n : Note} {rest : List Note}
    {s t : SchedulerStatus} (entered : Entered generation (n :: rest) s t) :
    ∃ now, Entered generation rest (n.put generation now s) t := by
  cases entered with
  | cons _ now more => exact ⟨now, more⟩

theorem Entered.last {generation : Option Int64} {n : Note} {s t : SchedulerStatus}
    (entered : Entered generation [n] s t) : ∃ now, t = n.put generation now s := by
  obtain ⟨now, more⟩ := entered.first
  cases more
  exact ⟨now, rfl⟩

theorem Entered.split {generation : Option Int64} {front back : List Note}
    {s u : SchedulerStatus} (entered : Entered generation (front ++ back) s u) :
    ∃ t, Entered generation front s t ∧ Entered generation back t u := by
  induction front generalizing s with
  | nil => exact ⟨s, .nil s, entered⟩
  | cons n rest ih =>
    cases entered with
    | cons _ now more =>
      obtain ⟨t, first, second⟩ := ih more
      exact ⟨t, .cons n now first, second⟩

end SchedulerOperator
