import SchedulerOperator.Json.Skip

/-!
Typed reading of JSON values. A decoder takes a value, or scans it in a text: scanning
stops at the first character that shows that no value of the type follows.
-/
namespace SchedulerOperator

structure Decoder (α : Type) where
  ofJson : Json → Except DecodeError α
  scan : Json.Reader Json

namespace Decoder

def map (f : α → β) (dec : Decoder α) : Decoder β where
  ofJson v := (dec.ofJson v).map f
  scan := dec.scan

def ofText (dec : Decoder α) (s : String) : Except TextError α :=
  Json.readWhole (do
    match dec.ofJson (← dec.scan) with
    | .ok a => return a
    | .error e => Json.Reader.refuse e) s

end Decoder

namespace Decode
open Json.Reader

def wrong (v : Json) (wanted : String) : Except DecodeError α :=
  .error (.wrongType (.ofJson v) wanted)

/-- There is something else than is wanted. A container is refused before it is opened,
anything else once it was read. -/
def mismatch (wanted : String) : Json.Reader α := do
  match ← nextVisible? with
  | some '[' => refuse (.wrongType .sequence wanted)
  | some '\x7b' => refuse (.wrongType .map wanted)
  | _ => do
    let v ← scalar
    refuse (.wrongType (.ofJson v) wanted)

def leaf (wanted : String) (take : Json → Option (Except DecodeError α)) : Decoder α where
  ofJson v := (take v).getD (wrong v wanted)
  scan := do
    match ← nextVisible? with
    | some '[' | some '\x7b' => mismatch wanted
    | _ => do
      let v ← scalar
      match (take v).getD (wrong v wanted) with
      | .ok _ => return v
      | .error e => refuse e

def text : Decoder String := leaf "a string" fun
  | .str s => some (.ok s)
  | _ => none

def boolean : Decoder Bool := leaf "a boolean" fun
  | .bool b => some (.ok b)
  | _ => none

def anything : Decoder Json where
  ofJson := .ok
  scan := value

def integer (low high : Int) (wanted : String) : Decoder Int := leaf wanted fun
  | .int n => some (if low ≤ n ∧ n ≤ high then .ok n else .error (.wrongValue (.int n) wanted))
  | _ => none

def int32 : Decoder Int := integer (-2147483648) 2147483647 "i32"
def int64 : Decoder Int64 :=
  (integer (-9223372036854775808) 9223372036854775807 "i64").map Int64.ofInt
def natural16 : Decoder Int := integer 0 65535 "u16"
def natural32 : Decoder Int := integer 0 4294967295 "u32"

def double : Decoder Double := leaf "f64" fun
  | .double x => some (.ok x)
  | .int n => some (.ok (Double.ofRatio (decide (n < 0)) n.natAbs 1))
  | _ => none

def optional (dec : Decoder α) : Decoder (Option α) where
  ofJson
    | .null => .ok none
    | v => (dec.ofJson v).map some
  scan := do
    match ← nextVisible? with
    | some 'n' => word "null" .null
    | _ => dec.scan

def itemsOf (dec : Decoder α) : List Json → Except DecodeError (List α)
  | [] => .ok []
  | v :: rest => do
    let a ← dec.ofJson v
    let more ← itemsOf dec rest
    return a :: more

def list (dec : Decoder α) : Decoder (List α) where
  ofJson
    | .arr items => itemsOf dec items
    | v => wrong v "a sequence"
  scan := do
    match ← nextVisible? with
    | some '[' => nested (listOf dec.scan)
    | _ => mismatch "a sequence"

def entriesOf (dec : Decoder α) :
    List (String × Json) → Except DecodeError (List (String × α))
  | [] => .ok []
  | (k, v) :: rest => do
    let a ← dec.ofJson v
    let more ← entriesOf dec rest
    return (k, a) :: more

def map (dec : Decoder α) : Decoder (List (String × α)) where
  ofJson
    | .obj members => (entriesOf dec members).map Assoc.ofList
    | v => wrong v "a map"
  scan := do
    match ← nextVisible? with
    | some '\x7b' => nested (objectOf dec.scan)
    | _ => mismatch "a map"

def scanUnit : Json.Reader Json := do
  match ← nextVisible? with
  | some 'n' => word "null" .null
  | _ => mismatch "unit"

/-- One of the named constants; `fallback` stands for all other names. -/
def choose (known : List (String × α)) (fallback : Option α) (listed : List String)
    (name : String) : Except DecodeError α :=
  match Assoc.get? name known, fallback with
  | some a, _ => .ok a
  | none, some a => .ok a
  | none, none => .error (.unknownVariant name listed)

def scanName (check : String → Except DecodeError α) : Json.Reader String := do
  advance
  let name ← Json.Quoted.text
  match check name with
  | .ok _ => return name
  | .error e => refuse e

/-- An object of one member, which is named by a constant and holds `null`. -/
def scanLoneName (check : String → Except DecodeError α) : Json.Reader Json := do
  advance
  match ← nextVisible? with
  | none => faultNext .endInObject
  | some '\x22' => do
    let name ← scanName check
    colon
    let v ← scanUnit
    match ← nextVisible? with
    | none => fault .endInObject
    | some '\x7d' => do
      advance
      return .obj [(name, v)]
    | some _ => fault .wantedValue
  | some '\x7d' => faultNext .wantedValue
  | some _ => faultNext .keyNotText

def variant (known : List (String × α)) (fallback : Option α) (listed : List String) :
    Decoder α where
  ofJson
    | .str name => choose known fallback listed name
    | .obj [(name, v)] => do
      let a ← choose known fallback listed name
      match v with
      | .null => return a
      | v => wrong v "unit"
    | .obj _ => .error (.wrongValue .map "map with a single key")
    | v => .error (.notVariant (.ofJson v))
  scan := do
    match ← nextVisible? with
    | none => faultNext .endInValue
    | some '\x22' => return .str (← scanName (choose known fallback listed))
    | some '\x7b' => nested (scanLoneName (choose known fallback listed))
    | some _ => faultNext .wantedValue

def named (known : List (String × α)) : Decoder α := variant known none (known.map Prod.fst)

end Decode
end SchedulerOperator
