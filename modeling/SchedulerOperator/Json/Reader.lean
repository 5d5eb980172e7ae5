import SchedulerOperator.Json.Fault

/-!
Reading a JSON text from left to right. A reader stops at the first fault; a fault is
placed either where the reader stands or after the next byte.
-/
namespace SchedulerOperator.Json

structure Cursor where
  rest : List Char
  position : TextPosition
  room : Nat

namespace Cursor

/-- Containers may lie 127 deep in one another. -/
def start (s : String) : Cursor := ⟨s.toList, .start, 127⟩

def advance (c : Cursor) : Cursor :=
  match c.rest with
  | [] => c
  | x :: rest => { c with rest := rest, position := c.position.past x }

def skipWhile (wanted : Char → Bool) (c : Cursor) : Cursor := go c.rest c.position
where
  go : List Char → TextPosition → Cursor
    | [], p => ⟨[], p, c.room⟩
    | x :: rest, p => if wanted x then go rest (p.past x) else ⟨x :: rest, p, c.room⟩

def finish (c : Cursor) : Cursor := c.skipWhile fun _ => true

end Cursor

abbrev Reader := StateT Cursor (Except TextError)

namespace Reader

def cursor : Reader Cursor := MonadState.get

def moveTo (c : Cursor) : Reader Unit := MonadStateOf.set c

def move (f : Cursor → Cursor) : Reader Unit := do moveTo (f (← cursor))

def fault (f : SyntaxFault) : Reader α := do throw ⟨.malformed f, (← cursor).position⟩

def faultNext (f : SyntaxFault) : Reader α := do
  let c ← cursor
  throw ⟨.malformed f, c.position.peeked c.rest⟩

def refuse (e : DecodeError) : Reader α := do throw ⟨.unfit e, (← cursor).position⟩

def next? : Reader (Option Char) := return (← cursor).rest.head?

def advance : Reader Unit := move Cursor.advance

def isBlank (c : Char) : Bool := c == ' ' || c == '\n' || c == '\t' || c == '\r'

def nextVisible? : Reader (Option Char) := do
  move (Cursor.skipWhile isBlank)
  next?

def takeWhile (wanted : Char → Bool) : Reader (List Char) := do
  let c ← cursor
  moveTo (c.skipWhile wanted)
  return c.rest.takeWhile wanted

def nested (inside : Reader α) : Reader α := do
  match (← cursor).room with
  | 0 => faultNext .tooDeep
  | room + 1 => do
    move fun c => { c with room := room }
    let a ← inside
    move fun c => { c with room := room + 1 }
    return a

end Reader

def readWhole (read : Reader α) (s : String) : Except TextError α := do
  let whole : Reader α := do
    let a ← read
    match ← Reader.nextVisible? with
    | none => return a
    | some _ => Reader.faultNext .trailingCharacters
  whole.run' (.start s)

end SchedulerOperator.Json
