import SchedulerOperator.Meta.Resources

/-!
What a user asks for in an `InferenceScheduler`. Everything but the model and its secret
may be left out. Records are also read from the array of their fields.
-/
namespace SchedulerOperator

inductive ServerType where
  | vllm
  | tgi
  deriving DecidableEq, Repr, Inhabited

inductive GatewayClassName where
  | kgateway
  | istio
  | gkeL7RegionalExternalManaged
  deriving DecidableEq, Repr, Inhabited

inductive ServiceExposure where
  | clusterIp
  | loadBalancer
  | nodePort
  deriving DecidableEq, Repr, Inhabited

structure ScorerPlugin where
  enabled : Option Bool := none
  weight : Option Double := none
  parameters : Option (List (String × String)) := none
  deriving DecidableEq, Repr, Inhabited

structure PluginConfig where
  loadAwareScorer : Option ScorerPlugin := none
  prefixCacheScorer : Option ScorerPlugin := none
  kvCacheUtilizationScorer : Option ScorerPlugin := none
  deriving DecidableEq, Repr, Inhabited

structure ModelServerSpec where
  serverType : Option ServerType := none
  modelName : String
  replicas : Option Int := none
  image : Option String := none
  resources : Option ResourceRequirements := none
  enablePrefixCaching : Option Bool := none
  gpuMemoryUtilization : Option Double := none
  hfTokenSecretName : String
  port : Option Int := none
  labels : Option (List (String × String)) := none
  deriving DecidableEq, Repr, Inhabited

structure EndpointPickerSpec where
  image : Option String := none
  replicas : Option Int := none
  grpcPort : Option Int := none
  plugins : Option PluginConfig := none
  resources : Option ResourceRequirements := none
  deriving DecidableEq, Repr, Inhabited

structure GatewaySpec where
  className : Option GatewayClassName := none
  listenerPort : Option Int := none
  serviceType : Option ServiceExposure := none
  deriving DecidableEq, Repr, Inhabited

structure SchedulerSpec where
  modelServer : ModelServerSpec
  endpointPicker : EndpointPickerSpec := {}
  gateway : GatewaySpec := {}
  deriving DecidableEq, Repr, Inhabited

namespace ServerType

def name : ServerType → String
  | .vllm => "vllm"
  | .tgi => "tgi"

def all : List ServerType := [.vllm, .tgi]

def decoder : Decoder ServerType := Decode.named (all.map fun t => (t.name, t))

end ServerType

namespace GatewayClassName

def name : GatewayClassName → String
  | .kgateway => "kgateway"
  | .istio => "istio"
  | .gkeL7RegionalExternalManaged => "gke-l7-regional-external-managed"

def all : List GatewayClassName := [.kgateway, .istio, .gkeL7RegionalExternalManaged]

def decoder : Decoder GatewayClassName := Decode.named (all.map fun c => (c.name, c))

end GatewayClassName

namespace ServiceExposure

def name : ServiceExposure → String
  | .clusterIp => "ClusterIP"
  | .loadBalancer => "LoadBalancer"
  | .nodePort => "NodePort"

def all : List ServiceExposure := [.clusterIp, .loadBalancer, .nodePort]

def decoder : Decoder ServiceExposure := Decode.named (all.map fun e => (e.name, e))

end ServiceExposure

open Fields

namespace ScorerPlugin

def fields : Fields ScorerPlugin :=
  ScorerPlugin.mk <$> Fields.optional "enabled" Decode.boolean
    <*> Fields.optional "weight" Decode.double
    <*> Fields.optional "parameters" (Decode.map Decode.text)

def decoder : Decoder ScorerPlugin := read "ScorerPlugin" fields

def toJson (p : ScorerPlugin) : Json :=
  .present
    [("enabled", p.enabled.map .bool),
     ("parameters", p.parameters.map .textMap),
     ("weight", p.weight.map .ofDouble)]

end ScorerPlugin

namespace PluginConfig

def fields : Fields PluginConfig :=
  PluginConfig.mk <$> Fields.optional "loadAwareScorer" ScorerPlugin.decoder
    <*> Fields.optional "prefixCacheScorer" ScorerPlugin.decoder
    <*> Fields.optional "kvCacheUtilizationScorer" ScorerPlugin.decoder

def decoder : Decoder PluginConfig := read "PluginConfig" fields

def toJson (c : PluginConfig) : Json :=
  .present
    [("kvCacheUtilizationScorer", c.kvCacheUtilizationScorer.map ScorerPlugin.toJson),
     ("loadAwareScorer", c.loadAwareScorer.map ScorerPlugin.toJson),
     ("prefixCacheScorer", c.prefixCacheScorer.map ScorerPlugin.toJson)]

end PluginConfig

namespace ModelServerSpec

def fields : Fields ModelServerSpec :=
  ModelServerSpec.mk <$> Fields.optional "type" ServerType.decoder
    <*> required "modelName" Decode.text
    <*> Fields.optional "replicas" Decode.int32
    <*> Fields.optional "image" Decode.text
    <*> Fields.optional "resources" ResourceRequirements.decoder
    <*> Fields.optional "enablePrefixCaching" Decode.boolean
    <*> Fields.optional "gpuMemoryUtilization" Decode.double
    <*> required "hfTokenSecretName" Decode.text
    <*> Fields.optional "port" Decode.int32
    <*> Fields.optional "labels" (Decode.map Decode.text)

def decoder : Decoder ModelServerSpec := read "ModelServerSpec" fields

def toJson (s : ModelServerSpec) : Json :=
  .present
    [("enablePrefixCaching", s.enablePrefixCaching.map .bool),
     ("gpuMemoryUtilization", s.gpuMemoryUtilization.map .ofDouble),
     ("hfTokenSecretName", some (.str s.hfTokenSecretName)),
     ("image", s.image.map .str),
     ("labels", s.labels.map .textMap),
     ("modelName", some (.str s.modelName)),
     ("port", s.port.map .int),
     ("replicas", s.replicas.map .int),
     ("resources", s.resources.map ResourceRequirements.toJson),
     ("type", s.serverType.map fun t => .str t.name)]

end ModelServerSpec

namespace EndpointPickerSpec

def fields : Fields EndpointPickerSpec :=
  EndpointPickerSpec.mk <$> Fields.optional "image" Decode.text
    <*> Fields.optional "replicas" Decode.int32
    <*> Fields.optional "grpcPort" Decode.int32
    <*> Fields.optional "plugins" PluginConfig.decoder
    <*> Fields.optional "resources" ResourceRequirements.decoder

def decoder : Decoder EndpointPickerSpec := read "EndpointPickerSpec" fields

def toJson (s : EndpointPickerSpec) : Json :=
  .present
    [("grpcPort", s.grpcPort.map .int),
     ("image", s.image.map .str),
     ("plugins", s.plugins.map PluginConfig.toJson),
     ("replicas", s.replicas.map .int),
     ("resources", s.resources.map ResourceRequirements.toJson)]

end EndpointPickerSpec

namespace GatewaySpec

def fields : Fields GatewaySpec :=
  GatewaySpec.mk <$> Fields.optional "className" GatewayClassName.decoder
    <*> Fields.optional "listenerPort" Decode.int32
    <*> Fields.optional "serviceType" ServiceExposure.decoder

def decoder : Decoder GatewaySpec := read "GatewaySpec" fields

def toJson (s : GatewaySpec) : Json :=
  .present
    [("className", s.className.map fun c => .str c.name),
     ("listenerPort", s.listenerPort.map .int),
     ("serviceType", s.serviceType.map fun e => .str e.name)]

end GatewaySpec

namespace SchedulerSpec

def fields : Fields SchedulerSpec :=
  SchedulerSpec.mk <$> required "modelServer" ModelServerSpec.decoder
    <*> defaulted "endpointPicker" EndpointPickerSpec.decoder {}
    <*> defaulted "gateway" GatewaySpec.decoder {}

def decoder : Decoder SchedulerSpec := read "InferenceSchedulerSpec" fields

def toJson (s : SchedulerSpec) : Json :=
  .present
    [("endpointPicker", some s.endpointPicker.toJson),
     ("gateway", some s.gateway.toJson),
     ("modelServer", some s.modelServer.toJson)]

end SchedulerSpec
end SchedulerOperator
