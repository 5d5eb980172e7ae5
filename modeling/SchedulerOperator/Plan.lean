import SchedulerOperator.Child
import SchedulerOperator.Scheduler

/-!
A spec with every default filled in and every value checked. What is built for a root
depends on this alone.
-/
namespace SchedulerOperator

inductive SpecError where
  | emptyModelName
  | emptySecretName
  | replicasOutOfRange (field : String) (value : Int)
  | gpuMemoryOutOfRange (value : Double)
  | portOutOfRange (field : String) (value : Int)
  | invalidWeight (plugin : String) (value : Double)
  | nameTooLong (name : String) (max : Nat)
  | missingUid
  deriving DecidableEq, Repr

def SpecError.message : SpecError → String
  | .emptyModelName => "modelServer.modelName must not be empty"
  | .emptySecretName => "modelServer.hfTokenSecretName must not be empty"
  | .replicasOutOfRange field value => field ++ " must be at least 1, got " ++ toString value
  | .gpuMemoryOutOfRange value =>
    "modelServer.gpuMemoryUtilization must be within [0.0, 1.0], got " ++ value.plainText
  | .portOutOfRange field value => field ++ " must be within 1..=65535, got " ++ toString value
  | .invalidWeight plugin value =>
    "weight of " ++ plugin ++ " must be a finite non-negative number, got " ++ value.plainText
  | .nameTooLong name max =>
    "name '" ++ name ++ "' is longer than " ++ toString max ++ " characters"
  | .missingUid => "object has no uid yet"

structure ScorerPlan where
  pluginType : String
  weight : Double
  parameters : List (String × String)
  deriving DecidableEq, Repr

structure ServingPlan where
  serverType : ServerType
  modelName : String
  replicas : Int
  image : String
  resources : Option ResourceRequirements
  enablePrefixCaching : Bool
  gpuMemoryUtilization : Double
  hfTokenSecretName : String
  port : Int
  extraLabels : List (String × String)
  deriving DecidableEq, Repr

structure PickerPlan where
  image : String
  replicas : Int
  grpcPort : Int
  healthPort : Int
  metricsPort : Int
  resources : Option ResourceRequirements
  scorers : List ScorerPlan
  deriving DecidableEq, Repr

structure GatewayPlan where
  className : GatewayClassName
  listenerPort : Int
  serviceType : ServiceExposure
  deriving DecidableEq, Repr

structure Plan where
  name : String
  namespace_ : String
  owner : OwnerReference
  modelServer : ServingPlan
  endpointPicker : PickerPlan
  gateway : GatewayPlan
  deriving DecidableEq, Repr

inductive Scorer where
  | loadAware
  | prefixCache
  | kvCacheUtilization
  deriving DecidableEq, Repr

namespace Scorer

def all : List Scorer := [.loadAware, .prefixCache, .kvCacheUtilization]

def pluginType : Scorer → String
  | .loadAware => "load-aware-scorer"
  | .prefixCache => "prefix-cache-scorer"
  | .kvCacheUtilization => "kv-cache-utilization-scorer"

def defaultWeight : Scorer → Double
  | .prefixCache => .two
  | _ => .one

def defaultParameters : Scorer → List (String × String)
  | .loadAware => [("queueThreshold", "128")]
  | .prefixCache => [("cacheHitBonus", "1.0")]
  | .kvCacheUtilization => []

def block (c : PluginConfig) : Scorer → Option ScorerPlugin
  | .loadAware => c.loadAwareScorer
  | .prefixCache => c.prefixCacheScorer
  | .kvCacheUtilization => c.kvCacheUtilizationScorer

/-- The block of a scorer that is present and not switched off. -/
def enabled? (c : PluginConfig) (s : Scorer) : Option ScorerPlugin :=
  (s.block c).filter fun p => p.enabled.getD true

def weight (s : Scorer) (p : ScorerPlugin) : Double := p.weight.getD s.defaultWeight

def isValidWeight (w : Double) : Bool := w.isFinite && !w.lt .zero

def config (s : Scorer) (p : ScorerPlugin) : ScorerPlan where
  pluginType := s.pluginType
  weight := s.weight p
  parameters := Assoc.extend s.defaultParameters (p.parameters.getD [])

def resolve (c : PluginConfig) (s : Scorer) : Except SpecError (Option ScorerPlan) :=
  match s.enabled? c with
  | none => .ok none
  | some p =>
    if isValidWeight (s.weight p) then .ok (some (s.config p))
    else .error (.invalidWeight s.pluginType (s.weight p))

def resolveAll (c : PluginConfig) : List Scorer → Except SpecError (List ScorerPlan)
  | [] => .ok []
  | s :: rest => do
    let found ← s.resolve c
    let more ← resolveAll c rest
    return found.toList ++ more

end Scorer

namespace Plan

def defaultImage : ServerType → String
  | .vllm => "vllm/vllm-openai:latest"
  | .tgi => "ghcr.io/huggingface/text-generation-inference:latest"

def defaultPickerImage : String := "ghcr.io/llm-d/llm-d-inference-scheduler:v0.3.2"

def defaultGpuMemoryUtilization : Double := ⟨0x3FECCCCCCCCCCCCD⟩

def requirePort (field : String) (value : Int) : Except SpecError Int :=
  if 1 ≤ value ∧ value ≤ 65535 then .ok value else .error (.portOutOfRange field value)

def requireReplicas (field : String) (value : Int) : Except SpecError Int :=
  if 1 ≤ value then .ok value else .error (.replicasOutOfRange field value)

def isFraction (x : Double) : Bool := Double.zero.le x && x.le .one

def checkRoot (r : InferenceScheduler) : Except SpecError OwnerReference :=
  if maxRootNameLength < r.name.utf8ByteSize then .error (.nameTooLong r.name maxRootNameLength)
  else match r.ownerReference? with
  | none => .error .missingUid
  | some owner => .ok owner

def resolveServing (s : ModelServerSpec) : Except SpecError ServingPlan := do
  if Text.isBlankText s.modelName then throw .emptyModelName
  if Text.isBlankText s.hfTokenSecretName then throw .emptySecretName
  let gpu := s.gpuMemoryUtilization.getD defaultGpuMemoryUtilization
  if !isFraction gpu then throw (.gpuMemoryOutOfRange gpu)
  let replicas ← requireReplicas "modelServer.replicas" (s.replicas.getD 2)
  let port ← requirePort "modelServer.port" (s.port.getD 8000)
  let serverType := s.serverType.getD .vllm
  return {
    serverType := serverType
    modelName := s.modelName
    replicas := replicas
    image := s.image.getD (defaultImage serverType)
    resources := s.resources
    enablePrefixCaching := s.enablePrefixCaching.getD true
    gpuMemoryUtilization := gpu
    hfTokenSecretName := s.hfTokenSecretName
    port := port
    extraLabels := s.labels.getD [] }

def resolvePicker (s : EndpointPickerSpec) : Except SpecError PickerPlan := do
  let scorers ← Scorer.resolveAll (s.plugins.getD {}) Scorer.all
  let replicas ← requireReplicas "endpointPicker.replicas" (s.replicas.getD 1)
  let grpcPort ← requirePort "endpointPicker.grpcPort" (s.grpcPort.getD 9002)
  return {
    image := s.image.getD defaultPickerImage
    replicas := replicas
    grpcPort := grpcPort
    healthPort := 9003
    metricsPort := 9090
    resources := s.resources
    scorers := scorers }

def resolveGateway (s : GatewaySpec) : Except SpecError GatewayPlan := do
  let listenerPort ← requirePort "gateway.listenerPort" (s.listenerPort.getD 80)
  return {
    className := s.className.getD .kgateway
    listenerPort := listenerPort
    serviceType := s.serviceType.getD .clusterIp }

def resolve (r : InferenceScheduler) : Except SpecError Plan := do
  let owner ← checkRoot r
  let modelServer ← resolveServing r.spec.modelServer
  let endpointPicker ← resolvePicker r.spec.endpointPicker
  let gateway ← resolveGateway r.spec.gateway
  return {
    name := r.name
    namespace_ := r.namespaceOr "default"
    owner := owner
    modelServer := modelServer
    endpointPicker := endpointPicker
    gateway := gateway }

end Plan
end SchedulerOperator
