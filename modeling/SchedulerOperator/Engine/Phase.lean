import SchedulerOperator.Scheduler.Status

namespace SchedulerOperator

inductive Outcome where
  | firstObserved
  | deletionRequested
  | prerequisitesMissing
  | prerequisitesSatisfied
  | workloadNotReady
  | stepFailed
  | converged
  deriving DecidableEq, Repr

/-- When a root is looked at again: on the next change only, or after so many seconds. -/
inductive Requeue where
  | never
  | after (seconds : Nat)
  deriving DecidableEq, Repr

inductive Directive where
  | proceed
  | requeue (r : Requeue)
  | fail
  deriving DecidableEq, Repr

structure Transition where
  phase : Phase
  directive : Directive
  deriving DecidableEq, Repr

/-- Delays in seconds. -/
structure PassDelays where
  prerequisitesMissing : Nat := 60
  notReady : Nat := 30
  steady : Nat := 300
  deriving DecidableEq, Repr

/-- A failed step leaves the phase as it is. -/
def transition (timing : PassDelays) (current : Option Phase) : Outcome → Transition
  | .firstObserved => ⟨current.getD .initializing, .proceed⟩
  | .deletionRequested => ⟨.finalizing, .proceed⟩
  | .prerequisitesMissing =>
    ⟨.prerequisitesMissing, .requeue (.after timing.prerequisitesMissing)⟩
  | .prerequisitesSatisfied => ⟨.deploying, .proceed⟩
  | .workloadNotReady => ⟨.deploying, .requeue (.after timing.notReady)⟩
  | .stepFailed => ⟨current.getD .initializing, .fail⟩
  | .converged => ⟨.ready, .requeue (.after timing.steady)⟩

end SchedulerOperator
