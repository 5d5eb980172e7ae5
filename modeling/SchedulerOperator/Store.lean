import SchedulerOperator.Resource
import SchedulerOperator.Scheduler

namespace SchedulerOperator

inductive StoreError where
  | notFound (message : String)
  | noMatchingType (message : String)
  | conflict (message : String)
  | rejected (message : String)
  | unavailable (message : String)
  | cancelled
  | undecodable (message : String)
  deriving DecidableEq, Repr

inductive ErrorClass where
  | transient
  | conflict
  | permanent
  deriving DecidableEq, Repr

namespace StoreError

def message : StoreError → String
  | .notFound m => "not found: " ++ m
  | .noMatchingType m => "no matching type registered: " ++ m
  | .conflict m => "conflict: " ++ m
  | .rejected m => "rejected: " ++ m
  | .unavailable m => "store unavailable: " ++ m
  | .cancelled => "operation cancelled"
  | .undecodable m => "serialization error: " ++ m

def errorClass : StoreError → ErrorClass
  | .conflict _ => .conflict
  | .rejected _ | .undecodable _ => .permanent
  | .notFound _ | .noMatchingType _ | .unavailable _ | .cancelled => .transient

def isNotFound : StoreError → Bool
  | .notFound _ => true
  | _ => false

def isNoMatchingType : StoreError → Bool
  | .noMatchingType _ => true
  | _ => false

end StoreError

/-- No namespace stands for objects of the whole cluster, and for a list across namespaces. -/
inductive StoreCall where
  | getRoot (ns name : String)
  /-- Conditional on the root's resource version. -/
  | setFinalizers (root : InferenceScheduler) (finalizers : List String)
  | writeStatus (ns name : String) (status : SchedulerStatus)
  | get (api : ApiResource) (ns : Option String) (name : String)
  | create (api : ApiResource) (ns : Option String) (object : Json)
  /-- The whole object; conditional if it carries a resource version. -/
  | replace (api : ApiResource) (ns : Option String) (name : String) (object : Json)
  | delete (api : ApiResource) (ns : Option String) (name : String)
  | listNames (api : ApiResource) (ns : Option String) (limit : Option Nat)

inductive StoreOp where
  | get
  | list
  | create
  | replace
  | delete
  | setFinalizers
  | writeStatus
  deriving DecidableEq, Repr

namespace StoreCall

abbrev Answer : StoreCall → Type
  | getRoot .. => Option InferenceScheduler
  | setFinalizers .. => Unit
  | writeStatus .. => Unit
  | get .. => Option Json
  | create .. => Json
  | replace .. => Json
  | delete .. => Unit
  | listNames .. => List String

abbrev Reply (c : StoreCall) : Type := Except StoreError c.Answer

def op : StoreCall → StoreOp
  | getRoot .. => .get
  | setFinalizers .. => .setFinalizers
  | writeStatus .. => .writeStatus
  | get .. => .get
  | create .. => .create
  | replace .. => .replace
  | delete .. => .delete
  | listNames .. => .list

def kind : StoreCall → String
  | getRoot .. | setFinalizers .. | writeStatus .. => InferenceScheduler.kind
  | get api .. | create api .. | replace api .. | delete api .. | listNames api .. => api.kind

end StoreCall

def ApiResource.describe (api : ApiResource) (ns : Option String) (name : String) : String :=
  match ns with
  | some ns => api.kind ++ " " ++ ns ++ "/" ++ name
  | none => api.kind ++ " " ++ name

def ApiResource.missing (api : ApiResource) : StoreError :=
  .noMatchingType (api.apiVersion ++ "/" ++ api.kind)

/-- A store with states `σ`: what it does with a call, and the time it shows. Other clients
may act within a call. -/
structure Store (σ : Type) where
  answer : (c : StoreCall) → σ → c.Reply × σ
  time : σ → String

/-- Calls fail without reaching the store once it is cancelled. -/
def Store.cancellable (isCancelled : σ → Bool) (s : Store σ) : Store σ where
  answer c state := if isCancelled state then (.error .cancelled, state) else s.answer c state
  time := s.time

end SchedulerOperator
