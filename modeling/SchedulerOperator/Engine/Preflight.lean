import SchedulerOperator.Store.Pass
import SchedulerOperator.Plan

namespace SchedulerOperator

inductive Preflight where
  | satisfied
  /-- In the order of the probes, each once. -/
  | missing (items : List String)
  deriving DecidableEq, Repr

namespace Preflight

def message : Preflight → Option String
  | .satisfied => none
  | .missing items => some ("missing prerequisites: " ++ "; ".intercalate items)

def ofItems : List String → Preflight
  | [] => .satisfied
  | items => .missing items

/-- Whether each capability's type is installed. Any other failure ends the probing. -/
def probe (registry : TypeRegistry) : List Capability → Attempt (List (Capability × Bool))
  | [] => pure []
  | c :: rest => do
    let api := registry.api c.resource
    let installed ← match ← Attempt.outcome (.listNames api none (some 1)) with
      | .ok _ => pure true
      | .error e => if e.isNoMatchingType then pure false else throw e
    let more ← probe registry rest
    return (c, installed) :: more

/-- The message of the first missing capability of each bundle. -/
def missingMessages (reported : List String) : List (Capability × Bool) → List String
  | [] => []
  | (c, installed) :: rest =>
    if installed || reported.contains c.bundle then missingMessages reported rest
    else c.missingMessage :: missingMessages (c.bundle :: reported) rest

def classTypeInstalled (probed : List (Capability × Bool)) : Bool :=
  probed.any fun p => p.1.resource = .gatewayClass && p.2

def missingClass (name : String) : String :=
  "GatewayClass '" ++ name ++ "' (install gateway implementation: kgateway, istio, or gke)"

def withoutRepeats (seen : List String) : List String → List String
  | [] => []
  | s :: rest =>
    if seen.contains s then withoutRepeats seen rest else s :: withoutRepeats (s :: seen) rest

def check (registry : TypeRegistry) (plan : Plan) : Attempt Preflight := do
  let probed ← probe registry Capability.all
  let absent := missingMessages [] probed
  let className := plan.gateway.className.name
  let classAbsent ← (if classTypeInstalled probed then do
    let installed ← Attempt.request (.listNames (registry.api .gatewayClass) none none)
    pure (if installed.contains className then [] else [missingClass className])
  else pure [])
  return .ofItems (withoutRepeats [] (absent ++ classAbsent))

end Preflight
end SchedulerOperator
