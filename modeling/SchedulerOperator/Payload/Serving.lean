import SchedulerOperator.Double.Text
import SchedulerOperator.Payload

namespace SchedulerOperator.Payload.Serving

def modelLabels (plan : Plan) : Labels :=
  Assoc.ofList
    [("app", plan.modelServer.serverType.name), ("model", Text.labelValue plan.modelServer.modelName)]

/-- The Deployment's own selector, which cannot be changed later. -/
def selector (plan : Plan) : Labels :=
  Assoc.set instanceLabel plan.name (modelLabels plan)

/-- User labels win over the built-in ones. -/
def podLabels (plan : Plan) : Labels :=
  Assoc.extend
    (Assoc.extend (modelLabels plan)
      [(componentLabel, "inference"), (instanceLabel, plan.name), (nameLabel, "model-server")])
    plan.modelServer.extraLabels

def args (s : ServingPlan) : List String :=
  match s.serverType with
  | .vllm =>
    ["--model=" ++ s.modelName, "--port=" ++ toString s.port] ++
      (if s.enablePrefixCaching then ["--enable-prefix-caching"] else []) ++
      ["--gpu-memory-utilization=" ++ s.gpuMemoryUtilization.twoPlaces]
  | .tgi =>
    ["--model-id=" ++ s.modelName, "--port=" ++ toString s.port,
     "--cuda-memory-fraction=" ++ s.gpuMemoryUtilization.twoPlaces]

def tokenVariable (secret : String) : Json :=
  fields
    [("name", .str "HF_TOKEN"),
     ("valueFrom", fields
       [("secretKeyRef", fields [("key", .str "token"), ("name", .str secret)])])]

def container (s : ServingPlan) : Json :=
  .present
    [("args", some (.texts (args s))),
     ("env", some (.arr [tokenVariable s.hfTokenSecretName])),
     ("image", some (.str s.image)),
     ("name", some (.str s.serverType.name)),
     ("ports", some (.arr [containerPort "http" s.port])),
     ("resources", s.resources.map ResourceRequirements.toJson)]

def deployment (plan : Plan) : ChildObject :=
  child plan .deployment .workload <| object .deployment
    [("metadata", some (metadata plan .workload (some (podLabels plan)))),
     ("spec", some (deploymentSpec plan.modelServer.replicas (selector plan) (podLabels plan)
       (fields [("containers", .arr [container plan.modelServer])])))]

def service (plan : Plan) : ChildObject :=
  child plan .service .accessPoint <| object .service
    [("metadata", some (metadata plan .accessPoint (some (modelLabels plan)))),
     ("spec", some (serviceSpec [servicePort "http" plan.modelServer.port] (modelLabels plan)
       plan.gateway.serviceType.name))]

end SchedulerOperator.Payload.Serving
