import SchedulerOperator.Store

namespace SchedulerOperator

/-- Waits for a call, lets as many pass as it says, then acts once before it or in its
place. -/
structure Hook (σ : Type) where
  op : StoreOp
  kind : String
  skip : Nat
  act : σ → σ
  error : Option StoreError

structure Hooked (σ : Type) where
  state : σ
  hooks : List (Hook σ) := []

namespace Hooked

/-- The first hook that waits for the call, if its turn has come, and the hooks left. -/
def takeHook (op : StoreOp) (kind : String) : List (Hook σ) → Option (Hook σ) × List (Hook σ)
  | [] => (none, [])
  | h :: rest =>
    if h.op = op ∧ h.kind = kind then
      if h.skip = 0 then (some h, rest) else (none, { h with skip := h.skip - 1 } :: rest)
    else
      let (found, rest) := takeHook op kind rest
      (found, h :: rest)

def answer (s : Store σ) (c : StoreCall) (w : Hooked σ) : c.Reply × Hooked σ :=
  match takeHook c.op c.kind w.hooks with
  | (none, hooks) =>
    let (r, state) := s.answer c w.state
    (r, ⟨state, hooks⟩)
  | (some h, hooks) =>
    match h.error with
    | some e => (.error e, ⟨h.act w.state, hooks⟩)
    | none =>
      let (r, state) := s.answer c (h.act w.state)
      (r, ⟨state, hooks⟩)

end Hooked

def Store.hooked (s : Store σ) : Store (Hooked σ) where
  answer := Hooked.answer s
  time w := s.time w.state

end SchedulerOperator
