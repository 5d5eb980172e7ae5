import SchedulerOperator.Resource

/-!
The groups of child objects that a root owns, in the order in which they are written, and
their names: the root's name, a hyphen and a suffix per group.
-/
namespace SchedulerOperator

inductive ChildKind where
  | workload
  | accessPoint
  | routingIdentity
  | routingConfig
  | routingWorkload
  | routingAccessPoint
  | pool
  | gateway
  | route
  deriving DecidableEq, Repr, Inhabited

namespace ChildKind

def all : List ChildKind :=
  [.workload, .accessPoint, .routingIdentity, .routingConfig, .routingWorkload,
   .routingAccessPoint, .pool, .gateway, .route]

def suffix : ChildKind → String
  | .workload => "model-server"
  | .accessPoint => "model-server-svc"
  | .routingIdentity => "epp-identity"
  | .routingConfig => "epp-config"
  | .routingWorkload => "epp"
  | .routingAccessPoint => "epp-svc"
  | .pool => "pool"
  | .gateway => "gateway"
  | .route => "route"

def resources : ChildKind → List ResourceType
  | .workload | .routingWorkload => [.deployment]
  | .accessPoint | .routingAccessPoint => [.service]
  | .routingIdentity => [.serviceAccount, .role, .roleBinding]
  | .routingConfig => [.configMap]
  | .pool => [.inferencePool]
  | .gateway => [.gateway]
  | .route => [.httpRoute]

def childName (root : String) (k : ChildKind) : String := root ++ "-" ++ k.suffix

end ChildKind

/-- Every child object of a root, in the order in which they are written. -/
def childKeys (root : String) : List (ResourceType × String) :=
  ChildKind.all.flatMap fun k => k.resources.map fun t => (t, k.childName root)

/-- The longest root name, in bytes, whose child names all fit into a DNS label. -/
def maxRootNameLength : Nat := 63 - "-model-server-svc".utf8ByteSize

end SchedulerOperator
