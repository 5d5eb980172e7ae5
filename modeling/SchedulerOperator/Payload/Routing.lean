import SchedulerOperator.Payload.Picker
import SchedulerOperator.Payload.Serving

namespace SchedulerOperator.Payload.Routing

def pool (plan : Plan) : ChildObject :=
  child plan .inferencePool .pool <| object .inferencePool
    [("metadata", some (metadata plan .pool none)),
     ("spec", some (fields
       [("endpointPickerRef", fields
          [("failureMode", .str "FailOpen"),
           ("name", .str (ChildKind.routingAccessPoint.childName plan.name)),
           ("port", fields [("number", .int plan.endpointPicker.grpcPort)])]),
        ("selector", selectorOf (Serving.modelLabels plan)),
        ("targetPorts", .arr [fields [("number", .int plan.modelServer.port)]])]))]

def listener (port : Int) : Json :=
  fields
    [("allowedRoutes", fields [("namespaces", fields [("from", .str "Same")])]),
     ("name", .str "http"),
     ("port", .int port),
     ("protocol", .str "HTTP")]

def gateway (plan : Plan) : ChildObject :=
  child plan .gateway .gateway <| object .gateway
    [("metadata", some (metadata plan .gateway none)),
     ("spec", some (fields
       [("gatewayClassName", .str plan.gateway.className.name),
        ("listeners", .arr [listener plan.gateway.listenerPort])]))]

def pathMatch : Json :=
  fields [("path", fields [("type", .str "PathPrefix"), ("value", .str "/v1/")])]

def rule (plan : Plan) : Json :=
  fields
    [("backendRefs", .arr [fields
       [("group", .str inferenceApiGroup), ("kind", .str "InferencePool"),
        ("name", .str (ChildKind.pool.childName plan.name)),
        ("port", .int plan.modelServer.port)]]),
     ("matches", .arr [pathMatch])]

def httpRoute (plan : Plan) : ChildObject :=
  child plan .httpRoute .route <| object .httpRoute
    [("metadata", some (metadata plan .route none)),
     ("spec", some (fields
       [("parentRefs", .arr [fields
          [("name", .str (ChildKind.gateway.childName plan.name)),
           ("namespace", .str plan.namespace_)]]),
        ("rules", .arr [rule plan])]))]

end SchedulerOperator.Payload.Routing

namespace SchedulerOperator

namespace ChildKind

def build (plan : Plan) : ChildKind → List ChildObject
  | .workload => [Payload.Serving.deployment plan]
  | .accessPoint => [Payload.Serving.service plan]
  | .routingIdentity => Payload.Picker.identity plan
  | .routingConfig => [Payload.PluginFile.configMap plan]
  | .routingWorkload => [Payload.Picker.deployment plan]
  | .routingAccessPoint => [Payload.Picker.service plan]
  | .pool => [Payload.Routing.pool plan]
  | .gateway => [Payload.Routing.gateway plan]
  | .route => [Payload.Routing.httpRoute plan]

end ChildKind

namespace Plan

def children (plan : Plan) : List ChildObject :=
  ChildKind.all.flatMap fun k => k.build plan

end Plan
end SchedulerOperator
