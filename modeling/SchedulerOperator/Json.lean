import SchedulerOperator.Assoc
import SchedulerOperator.Double

/-!
JSON values. A number is an integer or a double, never both: `1` and `1.0` differ.
Objects are association lists; the values this library builds keep them in key order.
-/
namespace SchedulerOperator

inductive Json where
  | null
  | bool (b : Bool)
  | int (n : Int)
  | double (x : Double)
  | str (s : String)
  | arr (items : List Json)
  | obj (members : List (String × Json))
  deriving Inhabited, Repr

namespace Json

def same : Json → Json → Bool
  | .null, .null => true
  | .bool a, .bool b => a == b
  | .int a, .int b => a == b
  | .double a, .double b => a.same b
  | .str a, .str b => a == b
  | .arr a, .arr b => sameItems a b
  | .obj a, .obj b => sameMembers a b
  | _, _ => false
where
  sameItems : List Json → List Json → Bool
    | [], [] => true
    | a :: as, b :: bs => same a b && sameItems as bs
    | _, _ => false
  sameMembers : List (String × Json) → List (String × Json) → Bool
    | [], [] => true
    | (k, a) :: as, (l, b) :: bs => k == l && same a b && sameMembers as bs
    | _, _ => false

def isNull : Json → Bool
  | .null => true
  | _ => false

def members : Json → List (String × Json)
  | .obj ms => ms
  | _ => []

def get? (v : Json) (k : String) : Option Json := Assoc.get? k v.members

def get (v : Json) (k : String) : Json := (v.get? k).getD .null

/-- Write a member; anything that is not an object first becomes an empty one. -/
def set (v : Json) (k : String) (new : Json) : Json := .obj (Assoc.set k new v.members)

/-- Change the member named `k`, which starts as `null` where there is none. -/
def modify (v : Json) (k : String) (f : Json → Json) : Json := v.set k (f (v.get k))

def erase (v : Json) (k : String) : Json :=
  match v with
  | .obj ms => .obj (Assoc.erase k ms)
  | v => v

def modifyPresent (v : Json) (k : String) (f : Json → Json) : Json :=
  match v.get? k with
  | some w => v.set k (f w)
  | none => v

def str? : Json → Option String
  | .str s => some s
  | _ => none

def int? : Json → Option Int
  | .int n => some n
  | _ => none

def bool? : Json → Option Bool
  | .bool b => some b
  | _ => none

def arr? : Json → Option (List Json)
  | .arr xs => some xs
  | _ => none

def present (ms : List (String × Option Json)) : Json :=
  .obj (ms.filterMap fun e => e.2.map fun v => (e.1, v))

def word (n : Int64) : Json := .int n.toInt

def texts (xs : List String) : Json := .arr (xs.map .str)

def textMap (m : List (String × String)) : Json := .obj (m.map fun e => (e.1, .str e.2))

def ofOption (f : α → Json) : Option α → Json
  | some a => f a
  | none => .null

/-- A double as JSON, which has no word for infinities and NaNs. -/
def ofDouble (x : Double) : Json := if x.isFinite then .double x else .null

mutual
/-- Objects in key order; of two members with one name the later stays. -/
def sorted : Json → Json
  | .arr items => .arr (sortedItems items)
  | .obj members => .obj (Assoc.ofList (sortedMembers members))
  | v => v

def sortedItems : List Json → List Json
  | [] => []
  | v :: rest => v.sorted :: sortedItems rest

def sortedMembers : List (String × Json) → List (String × Json)
  | [] => []
  | (k, v) :: rest => (k, v.sorted) :: sortedMembers rest
end

end Json
end SchedulerOperator
