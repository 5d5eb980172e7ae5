namespace SchedulerOperator

inductive ResourceType where
  | deployment
  | service
  | serviceAccount
  | role
  | roleBinding
  | configMap
  | inferencePool
  | gateway
  | httpRoute
  | gatewayClass
  deriving DecidableEq, Repr, Inhabited

structure ApiResource where
  group : String
  version : String
  apiVersion : String
  kind : String
  plural : String
  deriving DecidableEq, Repr, Inhabited

def ApiResource.of (group version kind plural : String) : ApiResource where
  group := group
  version := version
  apiVersion := if group.isEmpty then version else group ++ "/" ++ version
  kind := kind
  plural := plural

def gatewayApiGroup : String := "gateway.networking.k8s.io"
def inferenceApiGroup : String := "inference.networking.k8s.io"
def rbacApiGroup : String := "rbac.authorization.k8s.io"

namespace ResourceType

def all : List ResourceType :=
  [.deployment, .service, .serviceAccount, .role, .roleBinding, .configMap, .inferencePool,
   .gateway, .httpRoute, .gatewayClass]

def kind : ResourceType → String
  | .deployment => "Deployment"
  | .service => "Service"
  | .serviceAccount => "ServiceAccount"
  | .role => "Role"
  | .roleBinding => "RoleBinding"
  | .configMap => "ConfigMap"
  | .inferencePool => "InferencePool"
  | .gateway => "Gateway"
  | .httpRoute => "HTTPRoute"
  | .gatewayClass => "GatewayClass"

def builtinApi : ResourceType → ApiResource
  | .deployment => .of "apps" "v1" "Deployment" "deployments"
  | .service => .of "" "v1" "Service" "services"
  | .serviceAccount => .of "" "v1" "ServiceAccount" "serviceaccounts"
  | .role => .of rbacApiGroup "v1" "Role" "roles"
  | .roleBinding => .of rbacApiGroup "v1" "RoleBinding" "rolebindings"
  | .configMap => .of "" "v1" "ConfigMap" "configmaps"
  | .inferencePool => .of inferenceApiGroup "v1" "InferencePool" "inferencepools"
  | .gateway => .of gatewayApiGroup "v1" "Gateway" "gateways"
  | .httpRoute => .of gatewayApiGroup "v1" "HTTPRoute" "httproutes"
  | .gatewayClass => .of gatewayApiGroup "v1" "GatewayClass" "gatewayclasses"

def namespaced : ResourceType → Bool
  | .gatewayClass => false
  | _ => true

def within (t : ResourceType) (ns : String) : Option String :=
  if t.namespaced then some ns else none

def core : List ResourceType :=
  [.deployment, .service, .serviceAccount, .role, .roleBinding, .configMap]

end ResourceType

/-- Coordinates by type; one type's may be replaced, to aim at another API version. -/
structure TypeRegistry where
  api : ResourceType → ApiResource

namespace TypeRegistry

def builtin : TypeRegistry := ⟨ResourceType.builtinApi⟩

def override (r : TypeRegistry) (t : ResourceType) (api : ApiResource) : TypeRegistry :=
  ⟨fun u => if u = t then api else r.api u⟩

end TypeRegistry

/-- A type that has to be installed. What is missing of one bundle is reported once. -/
structure Capability where
  resource : ResourceType
  bundle : String
  missingMessage : String
  deriving DecidableEq, Repr

namespace Capability

def all : List Capability :=
  [⟨.gateway, "gateway-api",
     "Gateway API v1.3.0+ (install: kubectl apply -f https://github.com/kubernetes-sigs/gateway-api/releases/download/v1.3.0/standard-install.yaml)"⟩,
   ⟨.httpRoute, "gateway-api", "Gateway API HTTPRoute CRD"⟩,
   ⟨.inferencePool, "inference-extension",
     "Gateway API Inference Extension v1.1.0+ (install: kubectl apply -f https://github.com/kubernetes-sigs/gateway-api-inference-extension/releases/download/v1.1.0/manifests.yaml)"⟩,
   ⟨.gatewayClass, "gateway-api", "GatewayClass CRD"⟩]

end Capability
end SchedulerOperator
