import SchedulerOperator.Scheduler
import SchedulerOperator.Yaml.Document

namespace SchedulerOperator.Definition

abbrev Schema := List (String × Json)

def typed (name : String) : Schema := [("type", .str name)]
def formatted (name format : String) : Schema := [("format", .str format), ("type", .str name)]

def text : Schema := typed "string"
def boolean : Schema := typed "boolean"
def int32 : Schema := formatted "integer" "int32"
def int64 : Schema := formatted "integer" "int64"
def double : Schema := formatted "number" "double"

def oneOf (names : List String) : Schema := ("enum", .texts names) :: text

def mapOf (value : Schema) : Schema := ("additionalProperties", .obj value) :: typed "object"
def listOf (item : Schema) : Schema := ("items", .obj item) :: typed "array"

def nullable (s : Schema) : Schema := ("nullable", .bool true) :: s
def described (description : String) (s : Schema) : Schema :=
  ("description", .str description) :: s
def withDefault (v : Json) (s : Schema) : Schema := ("default", v) :: s

def record (required : List String) (properties : List (String × Schema)) : Schema :=
  (if required.isEmpty then [] else [("required", .texts required)]) ++
    ("properties", .obj (properties.map fun p => (p.1, .obj p.2))) :: typed "object"

def page (scheme host path : String) : String := scheme ++ "://" ++ host ++ "/" ++ path

def resourceGuide : String :=
  " More info: " ++
    page "https" "kubernetes.io" "docs/concepts/configuration/manage-resources-containers/"

def unitGuide : String :=
  "(International System of units; See: " ++
    page "http" "physics.nist.gov" "cuu/Units/binary.html" ++ ")"

def quantityGuide : String :=
  "\n\n".intercalate
    ["Quantity is a fixed-point representation of a number. It provides convenient marshaling/unmarshaling in JSON and YAML, in addition to String() and AsInt64() accessors.",
     "The serialization format is:",
     "\x60\x60\x60 <quantity>        ::= <signedNumber><suffix>",
     "\t(Note that <suffix> may be empty, from the \"\" case in <decimalSI>.)",
     "<digit>           ::= 0 | 1 | ... | 9 <digits>          ::= <digit> | <digit><digits> <number>          ::= <digits> | <digits>.<digits> | <digits>. | .<digits> <sign>            ::= \"+\" | \"-\" <signedNumber>    ::= <number> | <sign><number> <suffix>          ::= <binarySI> | <decimalExponent> | <decimalSI> <binarySI>        ::= Ki | Mi | Gi | Ti | Pi | Ei",
     "\t" ++ unitGuide,
     "<decimalSI>       ::= m | \"\" | k | M | G | T | P | E",
     "\t(Note that 1024 = 1Ki but 1000 = 1k; I didn't choose the capitalization.)",
     "<decimalExponent> ::= \"e\" <signedNumber> | \"E\" <signedNumber> \x60\x60\x60",
     "No matter which of the three exponent forms is used, no quantity may represent a number greater than 2^63-1 in magnitude, nor may it have more than 3 decimal places. Numbers larger or more precise will be capped or rounded up. (E.g.: 0.1m will rounded up to 1m.) This may be extended in the future if we require larger or smaller quantities.",
     "When a Quantity is parsed from a string, it will remember the type of suffix it had, and will use the same type again when it is serialized.",
     "Before serializing, Quantity will be put in \"canonical form\". This means that Exponent/suffix will be adjusted up or down (with a corresponding increase or decrease in Mantissa) such that:",
     "- No precision is lost - No fractional digits will be emitted - The exponent (or suffix) is as large as possible.",
     "The sign will be omitted unless the number is negative.",
     "Examples:",
     "- 1.5 will be serialized as \"1500m\" - 1.5Gi will be serialized as \"1536Mi\"",
     "Note that the quantity will NEVER be internally represented by a floating point number. That is the whole point of this exercise.",
     "Non-canonical values will still parse as long as they are well formed, but will be re-emitted in their canonical form. (So always use canonical form, or don't diff.)",
     "This format is intended to make it difficult to use these numbers without writing some sort of special handling code in the hopes that that will cause implementors to also use a fixed point implementation."]

def amounts : Schema := mapOf (described quantityGuide text)

def resources : Schema :=
  described "ResourceRequirements describes the compute resource requirements." <| record []
    [("claims",
      described "Claims lists the names of resources, defined in spec.resourceClaims, that are used by this container.\n\nThis is an alpha field and requires enabling the DynamicResourceAllocation feature gate.\n\nThis field is immutable. It can only be set for containers." <|
      listOf <| described "ResourceClaim references one entry in PodSpec.ResourceClaims." <|
      record ["name"]
        [("name", described "Name must match the name of one entry in pod.spec.resourceClaims of the Pod where this field is used. It makes that resource available inside a container." text),
         ("request", described "Request is the name chosen for a request in the referenced claim. If empty, everything from the claim is made available, otherwise only the result of this request." text)]),
     ("limits", described ("Limits describes the maximum amount of compute resources allowed." ++ resourceGuide)
        amounts),
     ("requests", described ("Requests describes the minimum amount of compute resources required. If Requests is omitted for a container, it defaults to Limits if that is explicitly specified, otherwise to an implementation-defined value. Requests cannot exceed Limits." ++ resourceGuide)
        amounts)]

def modelServer : Schema :=
  described "Model server (vLLM, TGI) serving the model." <|
  record ["hfTokenSecretName", "modelName"]
    [("type", described "Model server implementation (default vllm)"
        (nullable (oneOf (ServerType.all.map ServerType.name)))),
     ("modelName", described "HuggingFace model name to deploy" text),
     ("replicas", described "Number of model server instances (minimum 1, default 2)"
        (nullable int32)),
     ("image", described "Container image; defaults depend on the server type" (nullable text)),
     ("resources", nullable resources),
     ("enablePrefixCaching", described "Enable prefix caching (default true)" (nullable boolean)),
     ("gpuMemoryUtilization",
        described "GPU memory utilization fraction in [0.0, 1.0] (default 0.9)" (nullable double)),
     ("hfTokenSecretName",
        described "Secret holding the HuggingFace token under key \x60token\x60" text),
     ("port", described "HTTP port (default 8000)" (nullable int32)),
     ("labels", described "Extra labels merged over the built-in pod labels"
        (nullable (mapOf text)))]

def scorerPlugin : Schema :=
  nullable <| record []
    [("enabled", described "Default true" (nullable boolean)),
     ("weight", nullable double),
     ("parameters", nullable (mapOf text))]

def plugins : Schema :=
  described "Scorer plugins for the endpoint picker; absent blocks are not rendered." <|
  nullable <| record []
    [("loadAwareScorer", scorerPlugin), ("prefixCacheScorer", scorerPlugin),
     ("kvCacheUtilizationScorer", scorerPlugin)]

def endpointPicker : Schema :=
  described "Endpoint picker used by the inference pool for routing decisions." <|
  withDefault (.obj []) <| record []
    [("image", nullable text),
     ("replicas", described "Number of EPP instances (default 1)" (nullable int32)),
     ("grpcPort", described "gRPC port (default 9002)" (nullable int32)),
     ("plugins", plugins),
     ("resources", nullable resources)]

def gateway : Schema :=
  described "Gateway fronting the inference pool." <| withDefault (.obj []) <| record []
    [("className",
        described "GatewayClass to attach to; must be pre-installed (default kgateway)"
          (nullable (oneOf (GatewayClassName.all.map GatewayClassName.name)))),
     ("listenerPort", described "HTTP listener port (default 80)" (nullable int32)),
     ("serviceType", described "Exposure of the model server Service (default ClusterIP)"
        (nullable (oneOf (ServiceExposure.all.map ServiceExposure.name))))]

def spec : Schema :=
  record ["modelServer"]
    [("modelServer", modelServer), ("endpointPicker", endpointPicker), ("gateway", gateway)]

def condition : Schema :=
  record ["status", "type"]
    [("type", oneOf (ConditionType.all.map ConditionType.name)),
     ("status", oneOf (ConditionStatus.all.map ConditionStatus.name)),
     ("reason", nullable text),
     ("message", nullable text),
     ("lastTransitionTime", nullable text),
     ("observedGeneration", nullable int64)]

def status : Schema :=
  nullable <| record []
    [("phase", nullable (oneOf (Phase.all.map Phase.name))),
     ("conditions", listOf condition),
     ("modelServerReplicas", withDefault (.int 0) int32),
     ("eppReplicas", withDefault (.int 0) int32),
     ("gatewayReady", withDefault (.bool false) (described "Set once the Gateway and HTTPRoute have been applied. Latched: a later regression to \x60Deploying\x60 or \x60PrerequisitesMissing\x60 does not clear it." boolean)),
     ("inferencePoolReady", withDefault (.bool false) (described
        "Set once the InferencePool has been applied. Latched like \x60gateway_ready\x60." boolean)),
     ("prerequisitesValidated", withDefault (.bool false) boolean),
     ("prerequisiteMessage", nullable text),
     ("observedGeneration", nullable int64)]

def schema : Schema :=
  described "Auto-generated derived type for InferenceSchedulerSpec via \x60CustomResource\x60" <|
    ("title", .str InferenceScheduler.kind) ::
    record ["spec"] [("spec", spec), ("status", status)]

def column (name type_ path : String) : Json :=
  .obj [("jsonPath", .str path), ("name", .str name), ("type", .str type_)]

def version : Json :=
  .obj
    [("additionalPrinterColumns", .arr
       [column "Model" "string" ".spec.modelServer.modelName",
        column "Replicas" "integer" ".spec.modelServer.replicas",
        column "Phase" "string" ".status.phase",
        column "Age" "date" ".metadata.creationTimestamp"]),
     ("name", .str InferenceScheduler.version),
     ("schema", .obj [("openAPIV3Schema", .obj schema)]),
     ("selectableFields", .arr []),
     ("served", .bool true),
     ("storage", .bool true),
     ("subresources", .obj [("status", .obj [])])]

def document : Json :=
  Json.sorted <| .obj
    [("apiVersion", .str "apiextensions.k8s.io/v1"),
     ("kind", .str "CustomResourceDefinition"),
     ("metadata", .obj
       [("name", .str (InferenceScheduler.plural ++ "." ++ InferenceScheduler.group))]),
     ("spec", .obj
       [("group", .str InferenceScheduler.group),
        ("names", .obj
          [("categories", .arr []),
           ("kind", .str InferenceScheduler.kind),
           ("plural", .str InferenceScheduler.plural),
           ("shortNames", .texts ["infsch"]),
           ("singular", .str "inferencescheduler")]),
        ("scope", .str "Namespaced"),
        ("versions", .arr [version])])]

def yaml : String := Yaml.document document

end SchedulerOperator.Definition
