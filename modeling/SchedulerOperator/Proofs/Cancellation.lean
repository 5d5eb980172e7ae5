import SchedulerOperator.Proofs.FirstFailure
import SchedulerOperator.Simulation
import SchedulerOperator.Store.Hook

/-!
At some moment every call starts to fail without reaching the store, and the call that is under way
then may be given up. The pass takes such a failure for no answer, so it ends with it, or with the
failure that came before.
-/
namespace SchedulerOperator
open Pass
variable {σ τ α : Type}

/-- When a store counts as cancelled, and what a call that is given up underway leaves. A call
is given up for no other reason than that the store is cancelled meanwhile. -/
structure Cancellation (σ : Type) where
  cancelled : σ → Bool
  interrupts : StoreCall → σ → Option σ
  only : ∀ {c x y}, interrupts c x = some y → cancelled y = true

structure Watched (σ : Type) where
  state : σ
  started : List StoreCall := []

def Store.after (s : Store τ) (x : τ) (turns : List Turn) : τ :=
  turns.foldl (fun y t => (s.answer t.call y).2) x

theorem Store.after_append (s : Store τ) (x : τ) (front back : List Turn) :
    s.after x (front ++ back) = s.after (s.after x front) back :=
  List.foldl_append ..

theorem Pass.TurnsOn.after {s : Store τ} {p : Pass α} {x y : τ} {trace : List Turn} {a : α}
    (turns : TurnsOn s.answer p x trace a y) : y = s.after x trace := by
  induction turns with
  | done a x => rfl
  | call tail ih => exact ih
  | clock time tail ih => exact ih

theorem Pass.TurnsOn.reply {s : Store τ} {p : Pass α} {x y : τ} {trace : List Turn} {a : α}
    (turns : TurnsOn s.answer p x trace a y) :
    ∀ front t back, trace = front ++ t :: back →
      t.reply = (s.answer t.call (s.after x front)).1 := by
  induction turns with
  | done a x =>
    intro front t back split
    simp at split
  | call tail ih =>
    intro front t back split
    cases front with
    | nil =>
      obtain ⟨rfl, rfl⟩ := List.cons.inj split
      rfl
    | cons first rest =>
      obtain ⟨rfl, more⟩ := List.cons.inj split
      exact ih rest t back more
  | clock time tail ih => exact ih

namespace Cancellation
variable (k : Cancellation σ) (s : Store σ)

/-- The store itself: every call that reaches it is started, and answered or given up. -/
def attend : Store (Watched σ) where
  answer c w :=
    match k.interrupts c w.state with
    | some y => (.error .cancelled, ⟨y, w.started ++ [c]⟩)
    | none => ((s.answer c w.state).1, ⟨(s.answer c w.state).2, w.started ++ [c]⟩)
  time w := s.time w.state

/-- The store as a pass sees it. -/
def guard : Store (Watched σ) := (k.attend s).cancellable fun w => k.cancelled w.state

/-- A call that does not get its answer, because the store is cancelled before it or under it. -/
def Cuts (c : StoreCall) (w : Watched σ) : Prop :=
  k.cancelled w.state = true ∨ (k.interrupts c w.state).isSome

variable {k s} {c : StoreCall} {w : Watched σ} {front back : List Turn}

theorem guard_cancelled (late : k.cancelled w.state = true) :
    (k.guard s).answer c w = (.error .cancelled, w) := by
  simp only [guard, Store.cancellable, late, if_true]

theorem guard_open (early : k.cancelled w.state = false) :
    (k.guard s).answer c w = (k.attend s).answer c w := by
  simp only [guard, Store.cancellable, early, Bool.false_eq_true, if_false]

theorem after_cancelled (late : k.cancelled w.state = true) (turns : List Turn) :
    (k.guard s).after w turns = w := by
  induction turns with
  | nil => rfl
  | cons t rest ih =>
    have still : ((k.guard s).answer t.call w).2 = w := by rw [guard_cancelled late]
    change (k.guard s).after ((k.guard s).answer t.call w).2 rest = w
    rw [still]
    exact ih

theorem run_cancelled (late : k.cancelled w.state = true) (p : Pass α) :
    (p.run (k.guard s) w).2 = w := by
  obtain ⟨trace, turns⟩ := turnsOn_of_runsOn (runsOn_run (k.guard s) p w)
  rw [turns.after]
  exact after_cancelled late trace

theorem run_guard (p : Pass α) (w : Watched σ)
    (never : k.cancelled (p.run (k.guard s) w).2.state = false) :
    p.run s w.state = ((p.run (k.guard s) w).1, (p.run (k.guard s) w).2.state) := by
  induction p generalizing w with
  | done a => rfl
  | clock next ih => exact ih _ w never
  | call c next ih =>
    have early : k.cancelled w.state = false := by
      by_contra late
      rw [Bool.not_eq_false] at late
      rw [run_cancelled late, late] at never
      cases never
    have step := guard_open (s := s) (c := c) early
    simp only [attend] at step
    cases given : k.interrupts c w.state with
    | some y =>
      rw [given] at step
      rw [Pass.run, step, run_cancelled (k.only given)] at never
      cases (k.only given).symm.trans never
    | none =>
      rw [given] at step
      simp only [Pass.run, step] at never ⊢
      exact ih _ _ never

theorem cut (cuts : k.Cuts c w) :
    ((k.guard s).answer c w).1 = .error .cancelled ∧
      k.cancelled ((k.guard s).answer c w).2.state = true := by
  cases state : k.cancelled w.state with
  | true =>
    rw [guard_cancelled state]
    exact ⟨rfl, state⟩
  | false =>
    rw [guard_open state]
    have given := cuts.resolve_left (by rw [state]; exact Bool.false_ne_true)
    obtain ⟨y, given⟩ := Option.isSome_iff_exists.mp given
    simp only [attend, given, true_and]
    exact k.only given

/-- From the first call that is cut off on all calls fail, with the same error. -/
theorem cut_replies {p : Pass α} {w' : Watched σ} {trace : List Turn} {a : α} {t : Turn}
    (turns : TurnsOn (k.guard s).answer p w trace a w') (split : trace = front ++ t :: back)
    (cuts : k.Cuts t.call ((k.guard s).after w front)) :
    ∀ u ∈ t :: back, u.reply = .error .cancelled := by
  obtain ⟨refused, late⟩ := cut (s := s) cuts
  intro u mem
  rcases List.mem_cons.mp mem with rfl | later
  · rw [turns.reply front u back split]
    exact refused
  · obtain ⟨middle, rest, rfl⟩ := List.append_of_mem later
    have reply := turns.reply (front ++ t :: middle) u rest (by simp [split])
    have state : (k.guard s).after w (front ++ t :: middle)
        = ((k.guard s).answer t.call ((k.guard s).after w front)).2 := by
      rw [Store.after_append]
      exact after_cancelled late middle
    rw [reply, state, guard_cancelled late]

end Cancellation

namespace Engine
open Cancellation
variable {g : Engine} {key : RootKey}

theorem cancelled_grave (before : List Turn) (c : StoreCall) :
    ¬ g.Benign key before c .cancelled := by
  intro benign
  cases c with
  | listNames api ns limit => cases benign.2.2
  | setFinalizers root finalizers => cases benign
  | writeStatus ns name status => cases benign.1
  | delete api ns name => cases benign
  | getRoot ns name => cases benign
  | get api ns name => cases benign
  | create api ns object => cases benign
  | replace api ns name object => cases benign

theorem Verdict.cut_off {trace front : List Turn} {t : Turn} {e : ReconcileError}
    {result : Except ReconcileError Requeue} (verdict : g.Verdict key trace result)
    (first : g.FirstFailure key front e) (here : front <+: trace)
    (last : trace.getLast? = some t) (refused : t.reply = .error .cancelled) :
    result = .error e := by
  cases verdict with
  | unfailed unfailed wait => exact absurd first.fails (unfailed front here e)
  | failed other => rw [(first.unique other here (List.prefix_refl _)).2]
  | reported other split lasting => rw [(first.unique other here ⟨_, split.symm⟩).2]
  | vanished other split absent =>
    rw [split, List.getLast?_concat] at last
    cases last
    cases refused
    cases absent

theorem Verdict.cancelled {front back : List Turn} {t : Turn}
    {result : Except ReconcileError Requeue} (verdict : g.Verdict key (front ++ t :: back) result)
    (refused : ∀ u ∈ t :: back, u.reply = .error .cancelled) :
    (∀ turns e, turns <+: front → g.FirstFailure key turns e → result = .error e) ∧
      (g.Unfailed key front → result = .error (.store .cancelled)) := by
  have last : (front ++ t :: back).getLast? = some ((t :: back).getLast (by simp)) := by
    rw [List.getLast?_append_of_ne_nil _ (by simp), List.getLast?_eq_getLast_of_ne_nil (by simp)]
  have ended := refused _ (List.getLast_mem (l := t :: back) (by simp))
  constructor
  · intro turns e here first
    exact verdict.cut_off first (here.trans (List.prefix_append _ _)) last ended
  · intro unfailed
    have first : g.FirstFailure key (front ++ [t]) (.store .cancelled) := by
      have reply := refused t (List.mem_cons_self ..)
      obtain ⟨c, r⟩ := t
      change r = .error .cancelled at reply
      subst reply
      exact unfailed.refused (cancelled_grave front c)
    exact verdict.cut_off first (by simp) last ended

/-- A pass on a store that can be cancelled. If that never happens the pass goes as it does on
the store inside. From the moment on at which it happens no call is started and nothing changes;
and a pass that has another call cut off ends with the failure that it had met before, or
else with a cancellation that is worth a retry. -/
theorem cancelled_pass (g : Engine) (k : Cancellation σ) (s : Store σ) (key : RootKey) (x : σ) :
    (∀ result w, (g.reconcile key.namespace_ key.name).run (k.guard s) ⟨x, []⟩ = (result, w) →
      k.cancelled w.state = false →
        (g.reconcile key.namespace_ key.name).run s x = (result, w.state)) ∧
    ∀ trace result w,
      TurnsOn (k.guard s).answer (g.reconcile key.namespace_ key.name) ⟨x, []⟩ trace result w →
      (∀ front back, trace = front ++ back →
        k.cancelled ((k.guard s).after ⟨x, []⟩ front).state = true →
          w = (k.guard s).after ⟨x, []⟩ front) ∧
      ∀ front t back, trace = front ++ t :: back →
        k.Cuts t.call ((k.guard s).after ⟨x, []⟩ front) →
          (∀ turns e, turns <+: front → g.FirstFailure key turns e → result = .error e) ∧
          (g.Unfailed key front → result = .error (.store .cancelled) ∧
            (ReconcileError.store .cancelled).errorClass = .transient) := by
  constructor
  · intro result w ran never
    have same := run_guard (s := s) (g.reconcile key.namespace_ key.name) ⟨x, []⟩ (by rw [ran]; exact never)
    rw [ran] at same
    exact same
  · intro trace result w turns
    have verdict : g.Verdict key trace result := (reconcile_verdict g key).at_end turns.runs
    constructor
    · intro front back split late
      rw [turns.after, split, Store.after_append]
      exact after_cancelled late back
    · intro front t back split cuts
      have refused := cut_replies turns split cuts
      rw [split] at verdict
      obtain ⟨met, unmet⟩ := verdict.cancelled refused
      exact ⟨met, fun unfailed => ⟨unmet unfailed, rfl⟩⟩

def shutdown : Cancellation (Hooked Simulation) where
  cancelled w := w.state.cancelled
  interrupts _ _ := none
  only := nofun

abbrev demo : Engine := ⟨.builtin, {}⟩

abbrev demoKey : RootKey := ⟨"default", "demo"⟩

abbrev guarded : Store (Watched (Hooked Simulation)) :=
  shutdown.guard (Simulation.store "").hooked

def arrived (finalizers : Option (List String)) : InferenceScheduler × Cluster :=
  Cluster.insertRoot
    { metadata := { name := some "demo", finalizers }
      spec := { modelServer := { modelName := "m", hfTokenSecretName := "s" } }
      status := none } {}

def stopping (s : Cluster) (op : StoreOp) (error : Option StoreError) : Hooked Simulation where
  state := { cluster := s }
  hooks := [{ op, kind := InferenceScheduler.kind, skip := 0,
              act := fun s => { s with cancelled := true }, error }]

theorem arrived_unfailed (marks : Option (List String)) :
    demo.Unfailed demoKey (opening demoKey (arrived marks).1) := by
  refine unharmed_opening.unfailed (snapshot_opening []) ?_
  intro here
  rw [examined_eq] at here
  simp [arrived, Cluster.insertRoot] at here

theorem look_turns : ∃ w,
    TurnsOn guarded.answer (demo.reconcile "default" "demo") ⟨stopping (arrived none).2 .get none, []⟩
      (opening demoKey (arrived none).1 ++
        [⟨.setFinalizers (arrived none).1 [finalizerMarker], .error .cancelled⟩])
      (.error (.store .cancelled)) w := by
  apply Exists.intro
  apply TurnsOn.call
  exact TurnsOn.call (.done _ _)

theorem write_turns : ∃ status status' w,
    TurnsOn guarded.answer (demo.reconcile "default" "demo")
      ⟨stopping (arrived (some [finalizerMarker])).2 .writeStatus (some (.unavailable "down")), []⟩
      (opening demoKey (arrived (some [finalizerMarker])).1 ++
        [⟨.writeStatus "default" "demo" status, .error (.unavailable "down")⟩,
          ⟨.writeStatus "default" "demo" status', .error .cancelled⟩])
      (.error (.store (.unavailable "down"))) w := by
  apply Exists.intro
  apply Exists.intro
  apply Exists.intro
  apply TurnsOn.call
  apply TurnsOn.call
  exact TurnsOn.call (.done _ _)

/-- A root that is not there is passed over as on the store inside; a pass that was cancelled in
its first look ends with that; one that was cancelled after a failure ends with the failure. -/
theorem cancelled_passes :
    (demo.reconcile "default" "demo").run (Simulation.store "").hooked ⟨⟨{}, false⟩, []⟩
      = (.ok .never, ⟨⟨{}, false⟩, []⟩) ∧
    (∃ trace result w, TurnsOn guarded.answer (demo.reconcile "default" "demo")
        ⟨stopping (arrived none).2 .get none, []⟩ trace result w ∧
      w.started.length = 1 ∧ result = .error (.store .cancelled)) ∧
    ∃ trace result w, TurnsOn guarded.answer (demo.reconcile "default" "demo")
        ⟨stopping (arrived (some [finalizerMarker])).2 .writeStatus (some (.unavailable "down")), []⟩
        trace result w ∧
      w.started.length = 2 ∧ result = .error (.store (.unavailable "down")) := by
  refine ⟨?_, ?_, ?_⟩
  · exact (cancelled_pass demo shutdown (Simulation.store "").hooked demoKey ⟨⟨{}, false⟩, []⟩).1 _ _ rfl rfl
  · obtain ⟨w, turns⟩ := look_turns
    obtain ⟨still, cut⟩ := (cancelled_pass demo shutdown _ demoKey _).2 _ _ _ turns
    have state := still _ _ rfl rfl
    have ended := (cut _ _ [] rfl (.inl rfl)).2 (arrived_unfailed none)
    refine ⟨_, _, w, turns, ?_, ended.1⟩
    rw [state]
    rfl
  · obtain ⟨status, status', w, turns⟩ := write_turns
    obtain ⟨still, cut⟩ := (cancelled_pass demo shutdown _ demoKey _).2 _ _ _ turns
    have first : demo.FirstFailure demoKey
        (opening demoKey (arrived (some [finalizerMarker])).1 ++
          [⟨.writeStatus "default" "demo" status, .error (.unavailable "down")⟩])
        (.store (.unavailable "down")) := by
      refine (arrived_unfailed _).refused ?_
      intro benign
      cases benign.1
    have state := still (opening demoKey (arrived (some [finalizerMarker])).1 ++
      [⟨.writeStatus "default" "demo" status, .error (.unavailable "down")⟩]) _ rfl rfl
    have ended := (cut _ _ [] (List.append_assoc _ [_] [_]).symm (.inl rfl)).1 _ _ (List.prefix_refl _) first
    refine ⟨_, _, w, turns, ?_, ended⟩
    rw [state]
    rfl

end Engine
end SchedulerOperator
