import SchedulerOperator.Store.Pass
import SchedulerOperator.Meta.Deployment

namespace SchedulerOperator

structure Replicas where
  present : Bool
  desired : Int
  ready : Int
  deriving DecidableEq, Repr

namespace Replicas

def absent : Replicas := ⟨false, 0, 0⟩

def isReady (w : Replicas) : Bool := w.present && w.ready == w.desired

def summary (w : Replicas) : String :=
  if w.present then toString w.ready ++ "/" ++ toString w.desired ++ " replicas ready"
  else "workload not found"

/-- Reads a Deployment; one replica is wanted and none is ready where it does not say. -/
def ofJson (v : Json) : Except DecodeError Replicas := do
  Shape.check v Shape.deployment
  return {
    present := true
    desired := ((v.get "spec").get "replicas").int?.getD 1
    ready := ((v.get "status").get "readyReplicas").int?.getD 0 }

def probe (registry : TypeRegistry) (ns name : String) : Attempt Replicas := do
  match ← Attempt.request (.get (registry.api .deployment) (some ns) name) with
  | none => return absent
  | some v =>
    match ofJson v with
    | .ok replicas => return replicas
    | .error e => throw (.undecodable e.message)

end Replicas
end SchedulerOperator
