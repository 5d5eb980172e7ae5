import SchedulerOperator.Json.Decode

/-!
Records in JSON. What is missing is reported after all that is present was read; in a text
it is placed behind the closing bracket. Of the members that a record does not know it is
passed over, or carried along, whatever is there.
-/
namespace SchedulerOperator

/-- How the fields of a record are read, declared once: from the members of an object,
and from the items of an array in the order of declaration. -/
structure Fields (α : Type) where
  known : List (String × Decoder Unit)
  ofMembers : List (String × Json) → Except DecodeError α
  /-- `short` is the failure when the items end at the given index. -/
  ofItems : (short : Nat → DecodeError) → Nat → List Json →
    Except DecodeError (α × Nat × List Json)

namespace Fields

def constant (a : α) : Fields α where
  known := []
  ofMembers _ := .ok a
  ofItems _ index rest := .ok (a, index, rest)

def apply (f : Fields (α → β)) (x : Fields α) : Fields β where
  known := f.known ++ x.known
  ofMembers ms := do
    let g ← f.ofMembers ms
    let a ← x.ofMembers ms
    return g a
  ofItems short index rest := do
    let (g, index, rest) ← f.ofItems short index rest
    let (a, index, rest) ← x.ofItems short index rest
    return (g a, index, rest)

instance : Applicative Fields where
  pure := constant
  seq f x := apply f (x ())

/-- A field read by `dec`, with its value where the member is missing and where the items
end before it. -/
def field (name : String) (dec : Decoder α) (missing tooShort : Option α) : Fields α where
  known := [(name, dec.map fun _ => ())]
  ofMembers ms :=
    match Assoc.get? name ms, missing with
    | some v, _ => dec.ofJson v
    | none, some a => .ok a
    | none, none => .error (.missingField name)
  ofItems short index
    | v :: rest => (dec.ofJson v).map fun a => (a, index + 1, rest)
    | [] => match tooShort with
      | some a => .ok (a, index + 1, [])
      | none => .error (short index)

def required (name : String) (dec : Decoder α) : Fields α := field name dec none none

def defaulted (name : String) (dec : Decoder α) (a : α) : Fields α :=
  field name dec (some a) (some a)

def optional (name : String) (dec : Decoder α) : Fields (Option α) :=
  defaulted name (Decode.optional dec) none

/-- Optional in an object, but never left out of an array. -/
def optionalMember (name : String) (dec : Decoder α) : Fields (Option α) :=
  field name (Decode.optional dec) (some none) none

/-- `null` counts as absent, and what is absent is `a`. -/
def lenient (name : String) (dec : Decoder α) (a : α) : Fields α :=
  defaulted name ((Decode.optional dec).map (·.getD a)) a

def checkMembers (known : List (String × Decoder Unit)) :
    List (String × Json) → Except DecodeError Unit
  | [] => .ok ()
  | (k, v) :: rest => do
    match Assoc.get? k known with
    | some dec => dec.ofJson v
    | none => pure ()
    checkMembers known rest

def firstRepeated (names : List String) : List (String × Json) → Option String
  | [] => none
  | (k, _) :: rest =>
    if names.contains k && Assoc.contains k rest then some k else firstRepeated names rest

def readMembers (fs : Fields α) (members : List (String × Json)) : Except DecodeError α := do
  checkMembers fs.known members
  match firstRepeated (fs.known.map Prod.fst) members with
  | some k => .error (.duplicateField k)
  | none => fs.ofMembers members

def shortOf (name : String) (fs : Fields α) (count : Nat) : DecodeError :=
  .wrongLength count ("struct " ++ name ++ " with " ++ toString fs.known.length ++ " elements")

def readItems (name : String) (fs : Fields α) (items : List Json) :
    Except DecodeError (α × Nat × List Json) := fs.ofItems (shortOf name fs) 0 items

/-! Scanning. A record whose content is refused is refused where it ends, as far as it
does end there. -/

open Json.Reader

def listEnd : Json.Reader (Option SyntaxFault) := do
  match ← nextVisible? with
  | none => return some .endInList
  | some ']' => do
    advance
    return none
  | some ',' => do
    advance
    match ← nextVisible? with
    | some ']' => return some .trailingComma
    | _ => return some .trailingCharacters
  | some _ => return some .trailingCharacters

def refuseList (e : DecodeError) : Json.Reader α := do
  let _ ← listEnd
  refuse e

def refuseObject (e : DecodeError) : Json.Reader α := do
  match ← nextVisible? with
  | some '\x7d' => do
    advance
    refuse e
  | _ => refuse e

def scanItems (first : Bool) : List (Json.Reader Json) → Json.Reader (List Json)
  | [] => return []
  | scan :: more => do
    if ← anotherItem first then do
      let v ← scan
      return v :: (← scanItems false more)
    else return []

def scanList (name : String) (fs : Fields α) : Json.Reader Json := do
  advance
  let items ← scanItems true (fs.known.map fun f => f.2.scan)
  match readItems name fs items with
  | .error e => refuseList e
  | .ok _ =>
    match ← listEnd with
    | some f => faultNext f
    | none => return .arr items

def scanObject (fs : Fields α) (unknown : Json.Reader (Option Json)) (repeats : Bool) :
    Json.Reader Json := do
  advance
  let ms ← members fun done name => do
    match Assoc.get? name fs.known with
    | none => do
      colon
      unknown
    | some dec =>
      if !repeats && Assoc.contains name done then refuseObject (.duplicateField name)
      else do
        colon
        return some (← dec.scan)
  let ms := if repeats then Assoc.ofList ms else ms
  match fs.ofMembers ms with
  | .error e => refuseObject e
  | .ok _ => do
    advance
    return .obj ms

def passed : Json.Reader (Option Json) := do
  Json.Skip.value
  return none

def carried : Json.Reader (Option Json) := do return some (← value)

def read (name : String) (fs : Fields α) : Decoder α where
  ofJson
    | .obj members => readMembers fs members
    | .arr items => do
      let (a, _, rest) ← readItems name fs items
      if rest.isEmpty then return a else .error (.surplusItems items.length)
    | v => Decode.wrong v ("struct " ++ name)
  scan := do
    match ← nextVisible? with
    | some '[' => nested (scanList name fs)
    | some '\x7b' => nested (scanObject fs passed false)
    | _ => Decode.mismatch ("struct " ++ name)

/-- A record that is written as an object only. Of two members with one name in a text the
later counts. -/
def readObject (name : String) (fs : Fields α) : Decoder α where
  ofJson
    | .obj members => do
      checkMembers fs.known members
      fs.ofMembers members
    | v => Decode.wrong v name
  scan := do
    match ← nextVisible? with
    | some '[' => nested do
      advance
      refuseList (.wrongType .sequence name)
    | some '\x7b' => nested (scanObject fs passed true)
    | _ => Decode.mismatch name

def readOpen (name : String) (fs : Fields α) : Decoder (α × List (String × Json)) where
  ofJson
    | .obj members => do
      let a ← readMembers fs members
      return (a, members.filter fun m => !Assoc.contains m.1 fs.known)
    | v => Decode.wrong v ("struct " ++ name)
  scan := do
    match ← nextVisible? with
    | some '\x7b' => nested (scanObject fs carried false)
    | _ => Decode.mismatch ("struct " ++ name)

end Fields
end SchedulerOperator
