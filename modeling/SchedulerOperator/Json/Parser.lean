import SchedulerOperator.Json.Number
import SchedulerOperator.Json.Quoted

namespace SchedulerOperator.Json

namespace Reader

def letters : List Char → Reader Unit
  | [] => pure ()
  | w :: more => do
    match ← next? with
    | none => fault .endInValue
    | some c =>
      if c = w then do
        advance
        letters more
      else faultNext .wantedIdent

def word (w : String) (v : Json) : Reader Json := do
  letters w.toList
  return v

def scalar : Reader Json := do
  match ← nextVisible? with
  | none => faultNext .endInValue
  | some 'n' => word "null" .null
  | some 't' => word "true" (.bool true)
  | some 'f' => word "false" (.bool false)
  | some '\x22' => do
    advance
    return .str (← Quoted.text)
  | some '-' => do
    advance
    Number.read true
  | some c => if c.isDigit then Number.read false else faultNext .wantedValue

def anotherItem (first : Bool) : Reader Bool := do
  match ← nextVisible? with
  | none => faultNext .endInList
  | some ']' => return false
  | some c =>
    if first then return true
    else if c ≠ ',' then faultNext .wantedListEnd
    else do
      advance
      match ← nextVisible? with
      | none => faultNext .endInValue
      | some ']' => faultNext .trailingComma
      | some _ => return true

def itemsFuel (item : Reader α) : Nat → Bool → Reader (List α)
  | 0, _ => fault .endInList
  | fuel + 1, first => do
    if ← anotherItem first then do
      let a ← item
      return a :: (← itemsFuel item fuel false)
    else return []

def items (item : Reader α) : Reader (List α) := do
  itemsFuel item ((← cursor).rest.length + 1) true

def nextName? (first : Bool) : Reader (Option String) := do
  match ← nextVisible? with
  | none => faultNext .endInObject
  | some '\x7d' => return none
  | some c =>
    if first then name c
    else if c ≠ ',' then faultNext .wantedObjectEnd
    else do
      advance
      match ← nextVisible? with
      | none => faultNext .endInValue
      | some '\x7d' => faultNext .trailingComma
      | some c => name c
where
  name (c : Char) : Reader (Option String) := do
    if c ≠ '\x22' then faultNext .keyNotText
    else do
      advance
      return some (← Quoted.text)

def colon : Reader Unit := do
  match ← nextVisible? with
  | none => faultNext .endInObject
  | some ':' => advance
  | some _ => faultNext .wantedColon

/-- `done` holds the members kept so far, last first. -/
def membersFuel (member : List (String × Json) → String → Reader (Option Json)) :
    Nat → Bool → List (String × Json) → Reader (List (String × Json))
  | 0, _, _ => fault .endInObject
  | fuel + 1, first, done => do
    match ← nextName? first with
    | none => return done.reverse
    | some name => do
      match ← member done name with
      | some v => membersFuel member fuel false ((name, v) :: done)
      | none => membersFuel member fuel false done

/-- The members of an object whose opening bracket was passed. `member` reads on after a
name, and is told what was kept of the members before it. -/
def members (member : List (String × Json) → String → Reader (Option Json)) :
    Reader (List (String × Json)) := do
  membersFuel member ((← cursor).rest.length + 1) true []

def kept (value : Reader Json) (_ : List (String × Json)) (_ : String) :
    Reader (Option Json) := do
  colon
  return some (← value)

def listOf (item : Reader Json) : Reader Json := do
  advance
  let vs ← items item
  advance
  return .arr vs

def objectOf (value : Reader Json) : Reader Json := do
  advance
  let ms ← members (kept value)
  advance
  return .obj ms

def valueOf (list object : Reader Json) : Reader Json := do
  match ← nextVisible? with
  | some '[' => list
  | some '\x7b' => object
  | _ => scalar

def valueWithin : (room : Nat) → Reader Json
  | 0 => valueOf (faultNext .tooDeep) (faultNext .tooDeep)
  | room + 1 => valueOf (listOf (valueWithin room)) (objectOf (valueWithin room))

def value : Reader Json := do valueWithin (← cursor).room

end Reader

def ofText (s : String) : Except TextError Json := (readWhole Reader.value s).map sorted

end SchedulerOperator.Json
