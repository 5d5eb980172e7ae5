import SchedulerOperator.Meta.Resources

/-!
Shapes of wire objects of which only a member or two are of interest: the rest is checked
and dropped. Members may be `null` or missing, and unknown ones are passed over.
-/
namespace SchedulerOperator

inductive Shape where
  | text
  | boolean
  | int32
  | int64
  | time
  | intOrText
  | metadata
  | constant (value : String)
  | list (item : Shape)
  | map (item : Shape)
  | record (name : String) (fields : List (String × Shape))

namespace Shape

def isConstant : Shape → Bool
  | .constant _ => true
  | _ => false

def void (r : Except DecodeError α) : Except DecodeError Unit := r.map fun _ => ()

def checkConstant (value : String) (v : Json) : Except DecodeError Unit := do
  let s ← Decode.text.ofJson v
  if s = value then pure () else throw (.wrongValue (.str s) value)

def checkIntOrText : Json → Except DecodeError Unit
  | .str _ => .ok ()
  | .int n => void ((Decode.integer (-2147483648) 2147483647 "a 32-bit integer").ofJson (.int n))
  | v => Decode.wrong v "IntOrString"

mutual
def check : Json → Shape → Except DecodeError Unit
  | v, .text => void (Decode.text.ofJson v)
  | v, .boolean => void (Decode.boolean.ofJson v)
  | v, .int32 => void (Decode.int32.ofJson v)
  | v, .int64 => void (Decode.int64.ofJson v)
  | v, .time => void (Decode.time.ofJson v)
  | v, .intOrText => checkIntOrText v
  | v, .metadata => void (ObjectMeta.decoder.ofJson v)
  | v, .constant value => checkConstant value v
  | .arr items, .list s => checkItems items s
  | v, .list _ => Decode.wrong v "a sequence"
  | .obj members, .map s => checkEntries members s
  | v, .map _ => Decode.wrong v "a map"
  | .obj members, .record _ fields => checkFields members fields
  | v, .record name _ => Decode.wrong v name

def checkItems : List Json → Shape → Except DecodeError Unit
  | [], _ => .ok ()
  | v :: rest, s => do
    check v s
    checkItems rest s

def checkEntries : List (String × Json) → Shape → Except DecodeError Unit
  | [], _ => .ok ()
  | (_, v) :: rest, s => do
    check v s
    checkEntries rest s

def checkFields : List (String × Json) → List (String × Shape) → Except DecodeError Unit
  | [], _ => .ok ()
  | (k, v) :: rest, fields => do
    match Assoc.get? k fields with
    | some s =>
      if v.isNull && !s.isConstant then pure () else check v s
    | none => pure ()
    checkFields rest fields
end

end Shape
end SchedulerOperator
