import SchedulerOperator.Json.Parser

/-!
Passing over a value that nobody asked for. It has to be well formed, but its depth, the
size of its numbers and the pairing of its surrogates do not matter.
-/
namespace SchedulerOperator.Json.Skip
open Reader

inductive Frame where
  | list
  | object
  deriving DecidableEq, Repr

namespace Frame

def close : Frame → Char
  | .list => ']'
  | .object => '\x7d'

def ended : Frame → SyntaxFault
  | .list => .endInList
  | .object => .endInObject

def wantedEnd : Frame → SyntaxFault
  | .list => .wantedListEnd
  | .object => .wantedObjectEnd

def label : Frame → Reader Unit
  | .list => pure ()
  | .object => do
    match ← nextVisible? with
    | none => faultNext .endInObject
    | some '\x22' => do
      advance
      Quoted.pass
      colon
    | some _ => faultNext .keyNotText

end Frame

def head : Reader (Option Frame) := do
  match ← nextVisible? with
  | none => faultNext .endInValue
  | some 'n' => letters ['n', 'u', 'l', 'l'] *> return none
  | some 't' => letters ['t', 'r', 'u', 'e'] *> return none
  | some 'f' => letters ['f', 'a', 'l', 's', 'e'] *> return none
  | some '\x22' => advance *> Quoted.pass *> return none
  | some '-' => advance *> Number.pass *> return none
  | some '[' => advance *> return some .list
  | some '\x7b' => advance *> return some .object
  | some c => if c.isDigit then Number.pass *> return none else faultNext .wantedValue

/-- Passes on to the next value of the open containers, innermost first, and says which of
them are still open then. `afterValue` tells whether a value of the innermost was passed. -/
def onward (afterValue : Bool) : List Frame → Reader (List Frame)
  | [] => return []
  | frame :: outer => do
    match ← nextVisible? with
    | none => faultNext frame.ended
    | some c =>
      if c = frame.close then do
        advance
        onward true outer
      else if !afterValue then do
        frame.label
        return frame :: outer
      else if c = ',' then do
        advance
        frame.label
        return frame :: outer
      else faultNext frame.wantedEnd

def passFuel : Nat → List Frame → Reader Unit
  | 0, _ => fault .endInValue
  | fuel + 1, frames => do
    let opened ← head
    let frames ← onward opened.isNone (opened.toList ++ frames)
    if frames.isEmpty then return () else passFuel fuel frames

def value : Reader Unit := do passFuel ((← cursor).rest.length + 1) []

end SchedulerOperator.Json.Skip
