import SchedulerOperator.Payload
import SchedulerOperator.Yaml.Document

namespace SchedulerOperator.Payload.PluginFile

def key : String := "plugins.yaml"
def mountPath : String := "/config"

def entry (s : ScorerPlan) : Json :=
  .present
    [("type", some (.str s.pluginType)),
     ("weight", some (.double s.weight)),
     ("parameters", if s.parameters.isEmpty then none else some (.textMap s.parameters))]

def content (scorers : List ScorerPlan) : Json :=
  fields
    [("apiVersion", .str "inference.networking.x-k8s.io/v1alpha1"),
     ("kind", .str "EndpointPickerConfig"),
     ("plugins", .arr (scorers.map entry))]

def text (scorers : List ScorerPlan) : String := Yaml.document (content scorers)

def configMap (plan : Plan) : ChildObject :=
  child plan .configMap .routingConfig <| .obj
    [("apiVersion", .str ResourceType.configMap.builtinApi.apiVersion),
     ("data", fields [(key, .str (text plan.endpointPicker.scorers))]),
     ("kind", .str ResourceType.configMap.builtinApi.kind),
     ("metadata", metadata plan .routingConfig none)]

end SchedulerOperator.Payload.PluginFile

namespace SchedulerOperator.Payload.Picker

def selector (plan : Plan) : Labels :=
  Assoc.ofList [("app", "epp"), (instanceLabel, plan.name)]

def podLabels (plan : Plan) : Labels :=
  Assoc.extend (selector plan) [(componentLabel, "routing"), (nameLabel, "endpoint-picker")]

def mayRead (group resource : String) : Json :=
  fields
    [("apiGroups", .texts [group]), ("resources", .texts [resource]),
     ("verbs", .texts ["get", "list", "watch"])]

def identityMetadata (plan : Plan) : Json := metadata plan .routingIdentity none

def identityName (plan : Plan) : String := ChildKind.routingIdentity.childName plan.name

def serviceAccount (plan : Plan) : Json :=
  object .serviceAccount [("metadata", some (identityMetadata plan))]

def role (plan : Plan) : Json :=
  object .role
    [("metadata", some (identityMetadata plan)),
     ("rules", some (.arr [mayRead "" "pods", mayRead inferenceApiGroup "inferencepools"]))]

def roleBinding (plan : Plan) : Json :=
  object .roleBinding
    [("metadata", some (identityMetadata plan)),
     ("roleRef", some (fields
       [("apiGroup", .str rbacApiGroup), ("kind", .str "Role"),
        ("name", .str (identityName plan))])),
     ("subjects", some (.arr [fields
       [("kind", .str "ServiceAccount"), ("name", .str (identityName plan)),
        ("namespace", .str plan.namespace_)]]))]

def identity (plan : Plan) : List ChildObject :=
  [child plan .serviceAccount .routingIdentity (serviceAccount plan),
   child plan .role .routingIdentity (role plan),
   child plan .roleBinding .routingIdentity (roleBinding plan)]

def args (plan : Plan) : List String :=
  ["--pool-name=" ++ ChildKind.pool.childName plan.name,
   "--pool-namespace=" ++ plan.namespace_,
   "--grpc-port=" ++ toString plan.endpointPicker.grpcPort,
   "--grpc-health-port=" ++ toString plan.endpointPicker.healthPort,
   "--config-file=" ++ PluginFile.mountPath ++ "/" ++ PluginFile.key,
   "--v=2"]

def ports (p : PickerPlan) : List (String × Int) :=
  [("grpc", p.grpcPort), ("health", p.healthPort), ("metrics", p.metricsPort)]

def container (plan : Plan) : Json :=
  .present
    [("args", some (.texts (args plan))),
     ("image", some (.str plan.endpointPicker.image)),
     ("name", some (.str "epp")),
     ("ports", some (.arr ((ports plan.endpointPicker).map fun p => containerPort p.1 p.2))),
     ("resources", plan.endpointPicker.resources.map ResourceRequirements.toJson),
     ("volumeMounts", some (.arr [fields
       [("mountPath", .str PluginFile.mountPath), ("name", .str "config")]]))]

def podSpec (plan : Plan) : Json :=
  fields
    [("containers", .arr [container plan]),
     ("serviceAccountName", .str (identityName plan)),
     ("volumes", .arr [fields
       [("configMap", fields [("name", .str (ChildKind.routingConfig.childName plan.name))]),
        ("name", .str "config")]])]

def deployment (plan : Plan) : ChildObject :=
  child plan .deployment .routingWorkload <| object .deployment
    [("metadata", some (metadata plan .routingWorkload (some (podLabels plan)))),
     ("spec", some (deploymentSpec plan.endpointPicker.replicas (selector plan) (podLabels plan)
       (podSpec plan)))]

def service (plan : Plan) : ChildObject :=
  child plan .service .routingAccessPoint <| object .service
    [("metadata", some (metadata plan .routingAccessPoint (some (selector plan)))),
     ("spec", some (serviceSpec ((ports plan.endpointPicker).map fun p => servicePort p.1 p.2)
       (selector plan) ServiceExposure.clusterIp.name))]

end SchedulerOperator.Payload.Picker
