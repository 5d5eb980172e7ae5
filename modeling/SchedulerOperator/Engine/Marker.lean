import SchedulerOperator.Child
import SchedulerOperator.Store.Pass
import SchedulerOperator.Text.Label

namespace SchedulerOperator

def finalizerMarker : String := "llm.llm-d.io/finalizer"

/-- How children go: with their owner, or each by name and latest first. -/
inductive CleanupPolicy where
  | cascade
  | sweep
  deriving DecidableEq, Repr, Inhabited

namespace CleanupPolicy

def ofText (s : String) : Except String CleanupPolicy :=
  let word := Text.lowercaseAscii (Text.trim s)
  if word = "cascade" then .ok .cascade
  else if word = "sweep" then .ok .sweep
  else .error ("unknown cleanup mode '" ++ word ++ "' (expected cascade or sweep)")

end CleanupPolicy

inductive ReleaseOutcome where
  | notPresent
  | released
  deriving DecidableEq, Repr

namespace InferenceScheduler

def hasMarker (r : InferenceScheduler) : Bool := r.finalizers.contains finalizerMarker

def withoutMarker (r : InferenceScheduler) : List String :=
  r.finalizers.filter fun f => f ≠ finalizerMarker

def ensureMarker (r : InferenceScheduler) : Attempt Bool := do
  if r.hasMarker then return false
  let _ ← Attempt.request (.setFinalizers r (r.finalizers ++ [finalizerMarker]))
  return true

/-- Children whose type is not installed, or that are gone, need no deletion. -/
def sweep (registry : TypeRegistry) (ns : String) : List (ResourceType × String) → Attempt Unit
  | [] => pure ()
  | (t, name) :: rest => do
    match ← Attempt.outcome (.delete (registry.api t) (t.within ns) name) with
    | .ok _ => sweep registry ns rest
    | .error e =>
      if e.isNotFound || e.isNoMatchingType then sweep registry ns rest else throw e

def release (registry : TypeRegistry) (policy : CleanupPolicy) (r : InferenceScheduler) :
    Attempt ReleaseOutcome := do
  if !r.hasMarker then return .notPresent
  match policy with
  | .cascade => pure ()
  | .sweep => sweep registry (r.namespaceOr "") (childKeys r.name).reverse
  let _ ← Attempt.request (.setFinalizers r r.withoutMarker)
  return .released

end InferenceScheduler
end SchedulerOperator
