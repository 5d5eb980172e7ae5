import SchedulerOperator.Json

namespace SchedulerOperator.Json

def pointerSteps (cs : List Char) (step : List Char) : List (List Char) :=
  match cs with
  | [] => [step.reverse]
  | '/' :: rest => step.reverse :: pointerSteps rest []
  | '~' :: '1' :: rest => pointerSteps rest ('/' :: step)
  | '~' :: '0' :: rest => pointerSteps rest ('~' :: step)
  | c :: rest => pointerSteps rest (c :: step)

/-- Neither a sign nor leading zeros. -/
def pointerIndex? (step : List Char) : Option Nat :=
  match step with
  | [] => none
  | ['0'] => some 0
  | '0' :: _ => none
  | ds => if ds.all Char.isDigit then
      some (ds.foldl (fun n d => n * 10 + (d.toNat - 48)) 0) else none

def follow (v : Json) : List (List Char) → Option Json
  | [] => some v
  | step :: rest => do
    let next ← match v with
      | .obj members => Assoc.get? (String.ofList step) members
      | .arr items => (pointerIndex? step).bind fun i => items[i]?
      | _ => none
    next.follow rest

def pointer? (v : Json) (pointer : String) : Option Json :=
  match pointer.toList with
  | [] => some v
  | '/' :: rest => v.follow (pointerSteps rest [])
  | _ => none

end SchedulerOperator.Json
