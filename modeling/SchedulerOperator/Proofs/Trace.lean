import SchedulerOperator.Engine

/-!
What a pass says to a store and what the clock shows it. `Runs` lists the turns of one run,
whatever the store replies; `RunsOn` ties the replies to a store; `Conforms` says of every run at
once what may be called after which turns or events, and how the run may end.
-/
namespace SchedulerOperator

instance exceptDecidableEq {ε α : Type} [DecidableEq ε] [DecidableEq α] :
    DecidableEq (Except ε α)
  | .error d, .error e => decidable_of_iff (d = e) ⟨congrArg _, Except.error.inj⟩
  | .ok a, .ok b => decidable_of_iff (a = b) ⟨congrArg _, Except.ok.inj⟩
  | .error _, .ok _ => .isFalse (by simp)
  | .ok _, .error _ => .isFalse (by simp)

structure Turn where
  call : StoreCall
  reply : call.Reply

def Turn.succeeded (e : Turn) : Prop := ∃ a, e.reply = .ok a

/-- What a pass gets to know. -/
inductive Event where
  | turn (t : Turn)
  | reading (time : String)

@[reducible] def Event.turn? : Event → Option Turn
  | .turn t => some t
  | .reading _ => none

def Event.reading? : Event → Option String
  | .turn _ => none
  | .reading time => some time

def turnsOf (events : List Event) : List Turn := events.filterMap Event.turn?

def readingsOf (events : List Event) : List String := events.filterMap Event.reading?

@[simp] theorem turnsOf_append (front back : List Event) :
    turnsOf (front ++ back) = turnsOf front ++ turnsOf back := List.filterMap_append

@[simp] theorem readingsOf_append (front back : List Event) :
    readingsOf (front ++ back) = readingsOf front ++ readingsOf back := List.filterMap_append

@[simp] theorem turnsOf_turn (t : Turn) : turnsOf [.turn t] = [t] := rfl

@[simp] theorem turnsOf_reading (time : String) : turnsOf [.reading time] = [] := rfl

@[simp] theorem readingsOf_turn (t : Turn) : readingsOf [.turn t] = [] := rfl

@[simp] theorem readingsOf_reading (time : String) : readingsOf [.reading time] = [time] := rfl

/-- What is written down of events: all of them, or their turns only. -/
class History (χ : Type) where
  entry : Event → Option χ

instance : History Turn := ⟨Event.turn?⟩

instance : History Event := ⟨some⟩

@[reducible] def History.note {χ : Type} [History χ] (before : List χ) (e : Event) : List χ :=
  match entry e with
  | some x => before ++ [x]
  | none => before

namespace History
variable {t : Turn} {time : String}

@[simp] theorem note_turn (before : List Turn) : note before (.turn t) = before ++ [t] := rfl

@[simp] theorem note_reading (before : List Turn) : note before (.reading time) = before := rfl

@[simp] theorem note_event (before : List Event) (e : Event) : note before e = before ++ [e] := rfl

end History

namespace Pass
variable {α β σ χ : Type}

inductive Shows : Pass α → List Event → α → Prop where
  | done (a : α) : Shows (.done a) [] a
  | call {c : StoreCall} {next : c.Reply → Pass α} (reply : c.Reply) {rest : List Event} {a : α}
      (tail : Shows (next reply) rest a) : Shows (.call c next) (.turn ⟨c, reply⟩ :: rest) a
  | clock {next : String → Pass α} (time : String) {rest : List Event} {a : α}
      (tail : Shows (next time) rest a) : Shows (.clock next) (.reading time :: rest) a

def Runs (p : Pass α) (trace : List Turn) (a : α) : Prop :=
  ∃ events, turnsOf events = trace ∧ Shows p events a

section
variable {c : StoreCall} {trace : List Turn} {a b : α}

theorem Runs.done (a : α) : Runs (.done a) [] a := ⟨[], rfl, .done a⟩

theorem Runs.call {next : c.Reply → Pass α} (reply : c.Reply) (tail : Runs (next reply) trace a) :
    Runs (.call c next) (⟨c, reply⟩ :: trace) a := by
  obtain ⟨events, rfl, shows⟩ := tail
  exact ⟨_, rfl, .call reply shows⟩

theorem Runs.clock {next : String → Pass α} (time : String) (tail : Runs (next time) trace a) :
    Runs (.clock next) trace a := by
  obtain ⟨events, rfl, shows⟩ := tail
  exact ⟨.reading time :: events, rfl, .clock time shows⟩

theorem runs_done (run : Runs (.done a) trace b) : trace = [] ∧ b = a := by
  obtain ⟨events, rfl, shows⟩ := run
  cases shows
  exact ⟨rfl, rfl⟩

theorem runs_call {next : c.Reply → Pass α} (run : Runs (.call c next) trace a) :
    ∃ reply rest, trace = ⟨c, reply⟩ :: rest ∧ Runs (next reply) rest a := by
  obtain ⟨events, rfl, shows⟩ := run
  cases shows with
  | call reply tail => exact ⟨reply, _, rfl, _, rfl, tail⟩

end

theorem shows_bind {p : Pass α} {f : α → Pass β} {events : List Event} {b : β}
    (shows : Shows (p.bind f) events b) :
    ∃ front back a, events = front ++ back ∧ Shows p front a ∧ Shows (f a) back b := by
  induction p generalizing events with
  | done a => exact ⟨[], events, a, rfl, .done a, shows⟩
  | call c next ih =>
    cases shows with
    | call reply tail =>
      obtain ⟨front, back, a, rfl, first, rest⟩ := ih reply tail
      exact ⟨_, back, a, rfl, .call reply first, rest⟩
  | clock next ih =>
    cases shows with
    | clock time tail =>
      obtain ⟨front, back, a, rfl, first, rest⟩ := ih time tail
      exact ⟨.reading time :: front, back, a, rfl, .clock time first, rest⟩

theorem Shows.bind {p : Pass α} {f : α → Pass β} {front back : List Event} {a : α} {b : β}
    (first : Shows p front a) (rest : Shows (f a) back b) : Shows (p.bind f) (front ++ back) b := by
  induction first with
  | done a => exact rest
  | call reply tail ih => exact .call reply (ih rest)
  | clock time tail ih => exact .clock time (ih rest)

theorem Runs.bind {p : Pass α} {f : α → Pass β} {front back : List Turn} {a : α} {b : β}
    (first : Runs p front a) (rest : Runs (f a) back b) : Runs (p.bind f) (front ++ back) b := by
  obtain ⟨events, rfl, shows⟩ := first
  obtain ⟨more, rfl, shows'⟩ := rest
  exact ⟨events ++ more, turnsOf_append _ _, shows.bind shows'⟩

/-- A run against `answer`, from one state to another. The clock may show anything. -/
inductive RunsOn (answer : (c : StoreCall) → σ → c.Reply × σ) :
    Pass α → σ → α → σ → Prop where
  | done (a : α) (x : σ) : RunsOn answer (.done a) x a x
  | call {c : StoreCall} {next : c.Reply → Pass α} {x y : σ} {a : α}
      (tail : RunsOn answer (next (answer c x).1) (answer c x).2 a y) :
      RunsOn answer (.call c next) x a y
  | clock {next : String → Pass α} (time : String) {x y : σ} {a : α}
      (tail : RunsOn answer (next time) x a y) : RunsOn answer (.clock next) x a y

section
variable {answer : (c : StoreCall) → σ → c.Reply × σ} {x y : σ}

theorem runsOn_done {a b : α} : RunsOn answer (.done a) x b y ↔ b = a ∧ y = x := by
  constructor
  · intro run
    cases run
    exact ⟨rfl, rfl⟩
  · rintro ⟨rfl, rfl⟩
    exact .done _ _

theorem runsOn_call {c : StoreCall} {next : c.Reply → Pass α} {a : α} :
    RunsOn answer (.call c next) x a y ↔
      RunsOn answer (next (answer c x).1) (answer c x).2 a y := by
  constructor
  · intro run
    cases run with
    | call tail => exact tail
  · exact .call

theorem runsOn_clock {next : String → Pass α} {a : α} :
    RunsOn answer (.clock next) x a y ↔ ∃ time, RunsOn answer (next time) x a y := by
  constructor
  · intro run
    cases run with
    | clock time tail => exact ⟨time, tail⟩
  · rintro ⟨time, tail⟩
    exact .clock time tail

theorem runsOn_bind {p : Pass α} {f : α → Pass β} {b : β} :
    RunsOn answer (p.bind f) x b y ↔
      ∃ a z, RunsOn answer p x a z ∧ RunsOn answer (f a) z b y := by
  induction p generalizing x with
  | done a =>
    constructor
    · intro run
      exact ⟨a, x, .done a x, run⟩
    · rintro ⟨a, z, front, back⟩
      cases front
      exact back
  | call c next ih =>
    simp only [bind, runsOn_call]
    exact ih _
  | clock next ih =>
    simp only [bind, runsOn_clock, ih]
    constructor
    · rintro ⟨time, a, z, front, back⟩
      exact ⟨a, z, ⟨time, front⟩, back⟩
    · rintro ⟨a, z, ⟨time, front⟩, back⟩
      exact ⟨time, a, z, front, back⟩

/-- Running a pass is one of its runs: every pass ends. -/
theorem runsOn_run (s : Store σ) (p : Pass α) (x : σ) :
    RunsOn s.answer p x (p.run s x).1 (p.run s x).2 := by
  induction p generalizing x with
  | done a => exact .done a x
  | call c next ih => exact .call (ih _ _)
  | clock next ih => exact .clock (s.time x) (ih _ _)

theorem runs_of_runsOn {p : Pass α} {a : α} (run : RunsOn answer p x a y) :
    ∃ trace, Runs p trace a := by
  induction run with
  | done a x => exact ⟨[], .done a⟩
  | call tail ih =>
    obtain ⟨trace, run⟩ := ih
    exact ⟨_, .call _ run⟩
  | clock time tail ih =>
    obtain ⟨trace, run⟩ := ih
    exact ⟨trace, .clock time run⟩

end

inductive TurnsOn (answer : (c : StoreCall) → σ → c.Reply × σ) :
    Pass α → σ → List Turn → α → σ → Prop where
  | done (a : α) (x : σ) : TurnsOn answer (.done a) x [] a x
  | call {c : StoreCall} {next : c.Reply → Pass α} {x y : σ} {rest : List Turn} {a : α}
      (tail : TurnsOn answer (next (answer c x).1) (answer c x).2 rest a y) :
      TurnsOn answer (.call c next) x (⟨c, (answer c x).1⟩ :: rest) a y
  | clock {next : String → Pass α} (time : String) {x y : σ} {trace : List Turn} {a : α}
      (tail : TurnsOn answer (next time) x trace a y) : TurnsOn answer (.clock next) x trace a y

section
variable {answer : (c : StoreCall) → σ → c.Reply × σ} {x y : σ} {trace : List Turn}

theorem TurnsOn.runsOn {p : Pass α} {a : α} (turns : TurnsOn answer p x trace a y) :
    RunsOn answer p x a y := by
  induction turns with
  | done a x => exact .done a x
  | call tail ih => exact .call ih
  | clock time tail ih => exact .clock time ih

theorem TurnsOn.runs {p : Pass α} {a : α} (turns : TurnsOn answer p x trace a y) :
    Runs p trace a := by
  induction turns with
  | done a x => exact .done a
  | call tail ih => exact .call _ ih
  | clock time tail ih => exact .clock time ih

theorem turnsOn_of_runsOn {p : Pass α} {a : α} (run : RunsOn answer p x a y) :
    ∃ trace, TurnsOn answer p x trace a y := by
  induction run with
  | done a x => exact ⟨[], .done a x⟩
  | call tail ih =>
    obtain ⟨trace, turns⟩ := ih
    exact ⟨_, .call turns⟩
  | clock time tail ih =>
    obtain ⟨trace, turns⟩ := ih
    exact ⟨trace, .clock time turns⟩

theorem turnsOn_call {c : StoreCall} {next : c.Reply → Pass α} {a : α}
    (turns : TurnsOn answer (.call c next) x trace a y) :
    ∃ rest, trace = ⟨c, (answer c x).1⟩ :: rest ∧
      TurnsOn answer (next (answer c x).1) (answer c x).2 rest a y := by
  cases turns with
  | call tail => exact ⟨_, rfl, tail⟩

theorem turnsOn_bind {p : Pass α} {f : α → Pass β} {b : β}
    (turns : TurnsOn answer (p.bind f) x trace b y) :
    ∃ front back a z, trace = front ++ back ∧ TurnsOn answer p x front a z ∧
      TurnsOn answer (f a) z back b y := by
  induction p generalizing x trace with
  | done a => exact ⟨[], trace, a, x, rfl, .done a x, turns⟩
  | call c next ih =>
    obtain ⟨rest, rfl, tail⟩ := turnsOn_call turns
    obtain ⟨front, back, a, z, rfl, first, second⟩ := ih _ tail
    exact ⟨_, back, a, z, rfl, .call first, second⟩
  | clock next ih =>
    cases turns with
    | clock time tail =>
      obtain ⟨front, back, a, z, rfl, first, second⟩ := ih time tail
      exact ⟨front, back, a, z, rfl, .clock time first, second⟩

end

/-- Every call that `p` may come to make after `before` is allowed there, and every end that
it may come to is allowed. -/
def Conforms [History χ] (may : List χ → StoreCall → Prop) (ends : List χ → α → Prop) :
    List χ → Pass α → Prop
  | before, .done a => ends before a
  | before, .call c next =>
    may before c ∧ ∀ reply, Conforms may ends (History.note before (.turn ⟨c, reply⟩)) (next reply)
  | before, .clock next => ∀ time, Conforms may ends (History.note before (.reading time)) (next time)

section
variable [History χ] {may may' : List χ → StoreCall → Prop} {before : List χ}

theorem conforms_bind {ends : List χ → β → Prop} {p : Pass α} {f : α → Pass β} :
    Conforms may ends before (p.bind f) ↔
      Conforms may (fun later a => Conforms may ends later (f a)) before p := by
  induction p generalizing before with
  | done a => rfl
  | call c next ih => simp only [bind, Conforms, ih]
  | clock next ih => simp only [bind, Conforms, ih]

section
variable {ends ends' : List χ → α → Prop} {p : Pass α}

theorem Conforms.weaken (conforms : Conforms may ends before p)
    (wider : ∀ later c, may later c → may' later c) (weaker : ∀ later a, ends later a → ends' later a) :
    Conforms may' ends' before p := by
  induction p generalizing before with
  | done a => exact weaker _ _ conforms
  | call c next ih => exact ⟨wider _ _ conforms.1, fun reply => ih reply (conforms.2 reply)⟩
  | clock next ih => exact fun time => ih time (conforms time)

theorem Conforms.mono (conforms : Conforms may ends before p)
    (weaker : ∀ later a, ends later a → ends' later a) : Conforms may ends' before p :=
  conforms.weaken (fun _ _ => id) weaker

theorem Conforms.allow (conforms : Conforms may ends before p)
    (wider : ∀ later c, may later c → may' later c) : Conforms may' ends before p :=
  conforms.weaken wider fun _ _ => id

theorem Conforms.and (one : Conforms may ends before p) (other : Conforms may' ends' before p) :
    Conforms (fun later c => may later c ∧ may' later c) (fun later a => ends later a ∧ ends' later a)
      before p := by
  induction p generalizing before with
  | done a => exact ⟨one, other⟩
  | call c next ih => exact ⟨⟨one.1, other.1⟩, fun reply => ih reply (one.2 reply) (other.2 reply)⟩
  | clock next ih => exact fun time => ih time (one time) (other time)

theorem Conforms.shown_end {events : List Event} {a : α} (conforms : Conforms may ends before p)
    (shows : Shows p events a) : ends (events.foldl History.note before) a := by
  induction shows generalizing before with
  | done a => exact conforms
  | call reply tail ih => exact ih (conforms.2 reply)
  | clock time tail ih => exact ih (conforms time)

theorem Conforms.shown_call {events front back : List Event} {a : α} {t : Turn}
    (conforms : Conforms may ends before p) (shows : Shows p events a)
    (split : events = front ++ .turn t :: back) :
    may (front.foldl History.note before) t.call := by
  induction shows generalizing before front with
  | done a => simp at split
  | call reply tail ih =>
    cases front with
    | nil =>
      obtain ⟨same, rfl⟩ := List.cons.inj split
      cases same
      exact conforms.1
    | cons first rest =>
      obtain ⟨rfl, more⟩ := List.cons.inj split
      rw [List.foldl_cons]
      exact ih (conforms.2 reply) more
  | clock time tail ih =>
    cases front with
    | nil => cases split
    | cons first rest =>
      obtain ⟨rfl, more⟩ := List.cons.inj split
      rw [List.foldl_cons]
      exact ih (conforms time) more

end

theorem conforms_kept {inv : List χ → Prop} (kept : ∀ later e, inv later → inv (History.note later e))
    (start : inv before) (p : Pass α) :
    Conforms (fun later _ => inv later) (fun later _ => inv later) before p := by
  induction p generalizing before with
  | done a => exact start
  | call c next ih => exact ⟨start, fun reply => ih reply (kept _ _ start)⟩
  | clock next ih => exact fun time => ih time (kept _ _ start)

theorem conforms_any (p : Pass α) : Conforms (fun _ _ => True) (fun _ _ => True) before p :=
  conforms_kept (fun _ _ _ => trivial) trivial p

theorem prefix_note (before : List χ) (e : Event) : before <+: History.note before e := by
  unfold History.note
  split
  · exact List.prefix_append _ _
  · exact List.prefix_refl _

theorem conforms_grows (p : Pass α) :
    Conforms (fun later _ => before <+: later) (fun later _ => before <+: later) before p :=
  conforms_kept (fun later e more => more.trans (prefix_note later e)) (List.prefix_refl _) p

end

theorem foldl_turns (before : List Turn) (events : List Event) :
    events.foldl History.note before = before ++ turnsOf events := by
  induction events generalizing before with
  | nil => exact (List.append_nil before).symm
  | cons e rest ih =>
    cases e with
    | turn t => exact (ih (before ++ [t])).trans (List.append_assoc before [t] _)
    | reading time => exact ih before

theorem foldl_events (before events : List Event) :
    events.foldl History.note before = before ++ events := by
  induction events generalizing before with
  | nil => exact (List.append_nil before).symm
  | cons e rest ih => exact (ih (before ++ [e])).trans (List.append_assoc before [e] _)

variable {may : List Turn → StoreCall → Prop} {before : List Turn}

theorem Conforms.traced {ends : List Turn → α → Prop} {p : Pass α}
    (conforms : Conforms may ends before p) :
    Conforms may (fun later a => ∃ trace, later = before ++ trace ∧ Runs p trace a ∧ ends later a)
      before p := by
  induction p generalizing before with
  | done a => exact ⟨[], (List.append_nil before).symm, .done a, conforms⟩
  | call c next ih =>
    refine ⟨conforms.1, fun reply => (ih reply (conforms.2 reply)).mono ?_⟩
    rintro later a ⟨trace, rfl, run, ended⟩
    exact ⟨_, List.append_assoc _ _ _, .call reply run, ended⟩
  | clock next ih =>
    refine fun time => (ih time (conforms time)).mono ?_
    rintro later a ⟨trace, rfl, run, ended⟩
    exact ⟨trace, rfl, .clock time run, ended⟩

theorem Conforms.grows {ends : List Turn → α → Prop} {p : Pass α}
    (conforms : Conforms may ends before p) :
    Conforms may (fun later a => ends later a ∧ before <+: later) before p :=
  (conforms.and (conforms_grows p)).allow fun _ _ => And.left

theorem Conforms.at_end {ends : List Turn → α → Prop} {p : Pass α} {trace : List Turn}
    {a : α} (conforms : Conforms may ends before p) (run : Runs p trace a) :
    ends (before ++ trace) a := by
  obtain ⟨events, rfl, shows⟩ := run
  rw [← foldl_turns]
  exact conforms.shown_end shows

theorem Conforms.at_call {ends : List Turn → α → Prop} {p : Pass α} {trace : List Turn}
    {a : α} (conforms : Conforms may ends before p) (run : Runs p trace a)
    {front back : List Turn} {t : Turn} (split : trace = front ++ t :: back) :
    may (before ++ front) t.call := by
  obtain ⟨events, rfl, shows⟩ := run
  obtain ⟨front', rest, rfl, rfl, after⟩ := List.filterMap_eq_append_iff.mp split
  obtain ⟨quiet, e, back', rfl, none, turn, rfl⟩ := List.filterMap_eq_cons_iff.mp after
  cases e with
  | reading time => cases turn
  | turn t' =>
    cases turn
    have called := conforms.shown_call shows (List.append_assoc front' quiet (.turn t :: back')).symm
    rwa [foldl_turns, turnsOf_append, show turnsOf quiet = [] from List.filterMap_eq_nil_iff.mpr none,
      List.append_nil] at called

theorem Conforms.anywhere {sort : StoreCall → Prop} {before' : List Turn} {p : Pass α}
    (only : Conforms (fun _ c => sort c) (fun _ _ => True) before p) :
    Conforms (fun _ c => sort c) (fun _ _ => True) before' p := by
  induction p generalizing before before' with
  | done a => trivial
  | call c next ih => exact ⟨only.1, fun reply => ih reply (only.2 reply)⟩
  | clock next ih => exact fun time => ih time (only time)

/-- What every allowed call keeps is kept by a whole run. -/
theorem TurnsOn.keeps {answer : (c : StoreCall) → σ → c.Reply × σ} {x y : σ} {a : α}
    {trace : List Turn} {ends : List Turn → α → Prop} {p : Pass α}
    (turns : TurnsOn answer p x trace a y) (conforms : Conforms may ends before p)
    {inv : List Turn → σ → Prop} (start : inv before x)
    (step : ∀ later c z, may later c → inv later z →
      inv (later ++ [⟨c, (answer c z).1⟩]) (answer c z).2) : inv (before ++ trace) y := by
  induction turns generalizing before with
  | done a x =>
    rw [List.append_nil]
    exact start
  | call tail ih => simpa using ih (conforms.2 _) (step _ _ _ conforms.1 start)
  | clock time tail ih => exact ih (conforms time) start

/-- A computation whose calls are all of one sort conforms where that sort may be called
and each of its runs ends well. -/
theorem Conforms.of_runs (sort : StoreCall → Prop) {ends : List Turn → α → Prop} {p : Pass α}
    (only : Conforms (fun _ c => sort c) (fun _ _ => True) before p)
    (allowed : ∀ later c, sort c → may later c)
    (ended : ∀ trace a, Runs p trace a → (∀ t ∈ trace, sort t.call) → ends (before ++ trace) a) :
    Conforms may ends before p := by
  induction p generalizing before with
  | done a => simpa [Conforms] using ended [] a (.done a) (by simp)
  | call c next ih =>
    refine ⟨allowed _ _ only.1, fun reply => ih reply (only.2 reply) ?_⟩
    intro trace a run sorted
    have whole := ended (⟨c, reply⟩ :: trace) a (.call reply run) (by
      intro t mem
      rcases List.mem_cons.mp mem with rfl | mem
      · exact only.1
      · exact sorted t mem)
    simpa using whole
  | clock next ih =>
    intro time
    exact ih time (only time) fun trace a run sorted => ended trace a (.clock time run) sorted

end Pass

section
open Pass
variable {α β χ : Type} [History χ] {may : List χ → StoreCall → Prop} {before : List χ}

theorem conforms_attempt {ends : List χ → Except StoreError β → Prop} {x : Attempt α}
    {f : α → Attempt β} :
    Conforms may ends before (ExceptT.run (x >>= f)) ↔
      Conforms may (fun later r => match r with
        | .ok a => Conforms may ends later (ExceptT.run (f a))
        | .error e => ends later (.error e)) before (ExceptT.run x) := by
  refine conforms_bind.trans ?_
  constructor <;> intro conforms <;> refine conforms.mono ?_ <;> rintro later (e | a) held <;>
    exact held

theorem conforms_step {ends : List χ → Except ReconcileError β × StatusBoard → Prop}
    {x : Step α} {f : α → Step β} {b : StatusBoard} :
    Conforms may ends before ((x >>= f : Step β).run b) ↔
      Conforms may (fun later out => match out with
        | (.ok a, b) => Conforms may ends later ((f a).run b)
        | (.error e, b) => ends later (.error e, b)) before (x.run b) := by
  refine conforms_bind.trans ?_
  constructor <;> intro conforms <;> refine conforms.mono ?_ <;> rintro later ⟨e | a, b⟩ held <;>
    exact held

theorem conforms_step_outcome
    {ends : List χ → Except ReconcileError (Except StoreError α) × StatusBoard → Prop}
    {x : Attempt α} {b : StatusBoard} :
    Conforms may ends before ((Step.outcome x).run b) ↔
      Conforms may (fun later r => ends later (.ok r, b)) before (ExceptT.run x) :=
  conforms_bind

end
end SchedulerOperator
