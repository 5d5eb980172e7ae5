import SchedulerOperator.Store

/-!
A computation that talks to a store: it is done, or it makes a call and goes on with the
reply, or it reads the clock. Nothing is said about what the store replies.
-/
namespace SchedulerOperator

inductive Pass (α : Type) : Type where
  | done (a : α)
  | call (c : StoreCall) (next : c.Reply → Pass α)
  | clock (next : String → Pass α)

namespace Pass

def bind : Pass α → (α → Pass β) → Pass β
  | .done a, f => f a
  | .call c next, f => .call c fun r => (next r).bind f
  | .clock next, f => .clock fun t => (next t).bind f

instance : Monad Pass where
  pure := .done
  bind := bind

def perform (c : StoreCall) : Pass c.Reply := .call c .done

def now : Pass String := .clock .done

/-- Run against a store; every clock reading is the time the store shows then. -/
def run (s : Store σ) : Pass α → σ → α × σ
  | .done a, state => (a, state)
  | .call c next, state =>
    let (reply, state) := s.answer c state
    (next reply).run s state
  | .clock next, state => (next (s.time state)).run s state

end Pass

/-- A store computation that stops at the first call that fails. -/
abbrev Attempt (α : Type) := ExceptT StoreError Pass α

namespace Attempt

def request (c : StoreCall) : Attempt c.Answer := ExceptT.mk (Pass.perform c)

def outcome (c : StoreCall) : Attempt c.Reply := ExceptT.lift (Pass.perform c)

end Attempt
end SchedulerOperator
