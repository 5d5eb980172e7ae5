import SchedulerOperator.Proofs.Trace

/-!
What is judged of a pass by its turns holds among the readings of the clock around them.
-/
namespace SchedulerOperator

namespace Pass
variable {α β : Type}

def Timeless : Pass α → Prop
  | .done _ => True
  | .call _ next => ∀ reply, Timeless (next reply)
  | .clock _ => False

variable {before : List Event}

section
variable {permits : List Turn → StoreCall → Prop} {ends : List Turn → α → Prop} {p : Pass α}

theorem Conforms.among_events (conforms : Conforms permits ends (turnsOf before) p) :
    Conforms (fun later => permits (turnsOf later)) (fun later => ends (turnsOf later)) before p := by
  induction p generalizing before with
  | done a => exact conforms
  | call c next ih =>
    refine ⟨conforms.1, fun reply => ih reply ?_⟩
    rw [History.note_event, turnsOf_append, turnsOf_turn]
    exact conforms.2 reply
  | clock next ih =>
    refine fun time => ih time ?_
    rw [History.note_event, turnsOf_append, turnsOf_reading, List.append_nil]
    exact conforms time

theorem Timeless.quiet (timeless : p.Timeless) :
    Conforms (fun later _ => readingsOf later = readingsOf before)
      (fun later _ => readingsOf later = readingsOf before) before p := by
  suffices same : ∀ now, readingsOf now = readingsOf before →
      Conforms (fun later _ => readingsOf later = readingsOf before)
        (fun later _ => readingsOf later = readingsOf before) now p from same before rfl
  induction p with
  | done a => exact fun _ held => held
  | call c next ih =>
    intro now held
    exact ⟨held, fun reply => ih reply (timeless reply) _ (by simpa using held)⟩
  | clock next ih => exact timeless.elim

theorem Timeless.readings {events : List Event} {a : α} (timeless : p.Timeless)
    (shows : Shows p events a) : readingsOf events = [] := by
  have still : Conforms _ (fun later _ => readingsOf later = readingsOf []) [] p := timeless.quiet
  have ended := still.shown_end shows
  rwa [foldl_events] at ended

end

theorem timeless_bind {p : Pass α} {f : α → Pass β} (first : p.Timeless)
    (rest : ∀ a, (f a).Timeless) : (p.bind f).Timeless := by
  induction p with
  | done a => exact rest a
  | call c next ih => exact fun reply => ih reply (first reply)
  | clock next ih => exact first.elim

end Pass

section
open Pass
variable {α β : Type}

theorem timeless_attempt {x : Attempt α} {f : α → Attempt β} (first : Timeless (ExceptT.run x))
    (rest : ∀ a, Timeless (ExceptT.run (f a))) : Timeless (ExceptT.run (x >>= f)) := by
  refine timeless_bind first ?_
  rintro (e | a)
  · trivial
  · exact rest a

theorem timeless_request (c : StoreCall) : Timeless (ExceptT.run (Attempt.request c)) :=
  fun _ => trivial

theorem timeless_outcome (c : StoreCall) : Timeless (ExceptT.run (Attempt.outcome c)) :=
  fun _ => trivial

end

section
open Pass

theorem ChildObject.write_timeless (registry : TypeRegistry) (d : ChildObject) :
    Timeless (ExceptT.run (d.write registry)) := by
  refine timeless_attempt (timeless_request _) ?_
  rintro (_ | existing) <;> exact timeless_attempt (timeless_request _) fun _ => trivial

theorem Replicas.probe_timeless (registry : TypeRegistry) (ns name : String) :
    Timeless (ExceptT.run (Replicas.probe registry ns name)) := by
  refine timeless_attempt (timeless_request _) ?_
  rintro (_ | v)
  · trivial
  · simp only
    split <;> trivial

theorem Preflight.probe_timeless (registry : TypeRegistry) (caps : List Capability) :
    Timeless (ExceptT.run (Preflight.probe registry caps)) := by
  induction caps with
  | nil => trivial
  | cons c rest ih =>
    refine timeless_attempt (timeless_outcome _) ?_
    have more : ∀ installed : Bool, Timeless (ExceptT.run (do
        let more ← Preflight.probe registry rest
        return ((c, installed) :: more))) := fun _ => timeless_attempt ih fun _ => trivial
    rintro (e | _)
    · change Timeless (ExceptT.run (if e.isNoMatchingType then _ else _ : Attempt _))
      split
      · exact more false
      · trivial
    · exact more true

theorem Preflight.check_timeless (registry : TypeRegistry) (plan : Plan) :
    Timeless (ExceptT.run (Preflight.check registry plan)) := by
  refine timeless_attempt (Preflight.probe_timeless registry _) fun probed => ?_
  refine timeless_attempt ?_ fun _ => trivial
  split
  · exact timeless_attempt (timeless_request _) fun _ => trivial
  · trivial

theorem InferenceScheduler.ensureMarker_timeless (r : InferenceScheduler) :
    Timeless (ExceptT.run r.ensureMarker) := by
  unfold InferenceScheduler.ensureMarker
  cases r.hasMarker with
  | true => trivial
  | false => exact timeless_attempt (timeless_request _) fun _ => trivial

theorem InferenceScheduler.sweep_timeless (registry : TypeRegistry) (ns : String)
    (keys : List (ResourceType × String)) :
    Timeless (ExceptT.run (InferenceScheduler.sweep registry ns keys)) := by
  induction keys with
  | nil => trivial
  | cons key rest ih =>
    refine timeless_attempt (timeless_outcome _) ?_
    rintro (e | _)
    · change Timeless (ExceptT.run (if _ then _ else _))
      split
      · exact ih
      · trivial
    · exact ih

theorem InferenceScheduler.release_timeless (registry : TypeRegistry) (policy : CleanupPolicy)
    (r : InferenceScheduler) : Timeless (ExceptT.run (r.release registry policy)) := by
  unfold InferenceScheduler.release
  split
  · trivial
  · split
    · exact timeless_attempt (timeless_request _) fun _ => trivial
    · exact timeless_attempt (sweep_timeless registry _ _) fun _ =>
        timeless_attempt (timeless_request _) fun _ => trivial

end

namespace Engine
open Pass

theorem saveStatus_timeless (ns name : String) (b : StatusBoard) :
    Timeless (saveStatus ns name b) := by
  unfold saveStatus
  split
  · trivial
  · rintro (e | _) <;> trivial

theorem observeFirst_timeless (g : Engine) (ns name : String) (b : StatusBoard) :
    Timeless ((g.observeFirst ns name).run b) := by
  change Timeless ((if b.stored.phase.isNone = true then _ else _ : Step Unit).run b)
  split
  · change Timeless (Pass.bind (saveStatus _ _ _) _)
    refine timeless_bind (saveStatus_timeless _ _ _) ?_
    rintro ⟨e | _, b'⟩ <;> trivial
  · trivial

theorem release_timeless (g : Engine) (r : InferenceScheduler) : Timeless (g.release r) := by
  refine timeless_bind (r.release_timeless g.registry g.settings.cleanup) ?_
  rintro (e | _) <;> trivial

theorem tearDown_timeless (g : Engine) (r : InferenceScheduler) : Timeless (g.tearDown r) := by
  unfold tearDown
  split
  · trivial
  · simp only
    split
    · exact g.release_timeless r
    · refine timeless_bind (saveStatus_timeless _ _ _) ?_
      rintro ⟨e | _, b⟩
      · trivial
      · rintro (e | _ | fresh)
        · trivial
        · trivial
        · exact g.release_timeless fresh

theorem conclude_timeless (ns name : String) (out : Except ReconcileError Requeue × StatusBoard) :
    Timeless (conclude ns name out) := by
  refine timeless_bind (saveStatus_timeless _ _ _) ?_
  rintro ⟨e | _, b⟩
  · change Timeless (if e.isNotFound then _ else _)
    split
    · trivial
    · cases out.1 <;> trivial
  · trivial

end Engine
end SchedulerOperator
