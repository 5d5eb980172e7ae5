import SchedulerOperator.Store.Pass
import SchedulerOperator.Engine.StatusBoard
import SchedulerOperator.Plan

/-!
Stretches of a pass: they may fail, and what they put on the status board stays there
whether they fail or not.
-/
namespace SchedulerOperator

inductive ReconcileError where
  | store (e : StoreError)
  | invalidSpec (e : SpecError)
  deriving DecidableEq, Repr

namespace ReconcileError

def message : ReconcileError → String
  | .store e => e.message
  | .invalidSpec e => "invalid spec: " ++ e.message

def errorClass : ReconcileError → ErrorClass
  | .store e => e.errorClass
  | .invalidSpec _ => .permanent

end ReconcileError

def Step (α : Type) : Type := StatusBoard → Pass (Except ReconcileError α × StatusBoard)

namespace Step

def run (s : Step α) (b : StatusBoard) : Pass (Except ReconcileError α × StatusBoard) := s b

protected def pure (a : α) : Step α := fun b => .done (.ok a, b)

protected def bind (s : Step α) (f : α → Step β) : Step β := fun b =>
  (s b).bind fun
    | (.ok a, b) => f a b
    | (.error e, b) => .done (.error e, b)

instance : Monad Step where
  pure := Step.pure
  bind := Step.bind

def fail (e : ReconcileError) : Step α := fun b => .done (.error e, b)

def board : Step StatusBoard := fun b => .done (.ok b, b)

def update (f : StatusBoard → StatusBoard) : Step Unit := fun b => .done (.ok (), f b)

def outcome (p : Attempt α) : Step (Except StoreError α) := fun b =>
  (ExceptT.run p).bind fun r => .done (.ok r, b)

def attempt (p : Attempt α) : Step α := fun b =>
  (ExceptT.run p).bind fun
    | .ok a => .done (.ok a, b)
    | .error e => .done (.error (.store e), b)

def setCondition (t : ConditionType) (status : ConditionStatus) (reason message : String) :
    Step Unit := fun b =>
  .clock fun now => .done (.ok (), b.setCondition t status reason message now)

end Step
end SchedulerOperator
