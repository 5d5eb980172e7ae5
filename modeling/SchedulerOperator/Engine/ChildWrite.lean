import SchedulerOperator.Store.Pass
import SchedulerOperator.Payload

namespace SchedulerOperator

inductive ChildWrite where
  | created
  | replaced
  deriving DecidableEq, Repr

namespace ChildObject

def assignedFields : List String := ["clusterIP", "clusterIPs"]

def withOwners (owners : List Json) (payload : Json) : Json :=
  payload.modify "metadata" (·.set "ownerReferences" (.arr owners))

/-- Our reference in the place of the first with its uid, or at the end. -/
def mergeOwners (owner : Json) : List Json → List Json
  | [] => [owner]
  | r :: rest =>
    if (r.get "uid").same (owner.get "uid") then owner :: rest
    else r :: mergeOwners owner rest

def keepAssigned (existing payload : Json) : List String → Json
  | [] => payload
  | field :: rest =>
    let current := (existing.get "spec").get field
    let keep := !current.isNull && ((payload.get "spec").get field).isNull
    keepAssigned existing
      (if keep then payload.modify "spec" (·.set field current) else payload) rest

/-- The payload with what must outlive a replace: the resource version it is conditional
on, other owners, and assigned addresses. -/
def replacement (d : ChildObject) (existing : Json) : Json :=
  let metadata := existing.get "metadata"
  let payload := d.payload.modify "metadata"
    (·.set "resourceVersion" (metadata.get "resourceVersion"))
  let payload := withOwners
    (mergeOwners d.owner.toJson ((metadata.get "ownerReferences").arr?.getD [])) payload
  if d.resource = .service then keepAssigned existing payload assignedFields else payload

def write (registry : TypeRegistry) (d : ChildObject) : Attempt ChildWrite := do
  let api := registry.api d.resource
  let ns := d.resource.within d.namespace_
  match ← Attempt.request (.get api ns d.name) with
  | none =>
    let _ ← Attempt.request (.create api ns (withOwners [d.owner.toJson] d.payload))
    return .created
  | some existing =>
    let _ ← Attempt.request (.replace api ns d.name (d.replacement existing))
    return .replaced

end ChildObject
end SchedulerOperator
