import SchedulerOperator.Scheduler.Spec

namespace SchedulerOperator

inductive Phase where
  | initializing
  | prerequisitesMissing
  | deploying
  | ready
  | finalizing
  deriving DecidableEq, Repr, Inhabited

/-- Types that this operator does not manage are all read as `unknown`. -/
inductive ConditionType where
  | specValid
  | prerequisitesValidated
  | modelServerReady
  | eppReady
  | inferencePoolReady
  | gatewayReady
  | unknown
  deriving DecidableEq, Repr, Inhabited

inductive ConditionStatus where
  | true_
  | false_
  | unknown
  deriving DecidableEq, Repr, Inhabited

structure Condition where
  type_ : ConditionType
  status : ConditionStatus
  reason : Option String := none
  message : Option String := none
  lastTransitionTime : Option String := none
  observedGeneration : Option Int64 := none
  deriving DecidableEq, Repr, Inhabited

structure SchedulerStatus where
  phase : Option Phase := none
  conditions : List Condition := []
  modelServerReplicas : Int := 0
  eppReplicas : Int := 0
  /-- Set once the gateway and its route were written; never cleared. -/
  gatewayReady : Bool := false
  /-- Set once the pool was written; never cleared. -/
  inferencePoolReady : Bool := false
  prerequisitesValidated : Bool := false
  prerequisiteMessage : Option String := none
  observedGeneration : Option Int64 := none
  deriving DecidableEq, Repr, Inhabited

namespace Phase

def name : Phase → String
  | .initializing => "Initializing"
  | .prerequisitesMissing => "PrerequisitesMissing"
  | .deploying => "Deploying"
  | .ready => "Ready"
  | .finalizing => "Finalizing"

def all : List Phase := [.initializing, .prerequisitesMissing, .deploying, .ready, .finalizing]

def decoder : Decoder Phase := Decode.named (all.map fun p => (p.name, p))

end Phase

namespace ConditionType

def name : ConditionType → String
  | .specValid => "SpecValid"
  | .prerequisitesValidated => "PrerequisitesValidated"
  | .modelServerReady => "ModelServerReady"
  | .eppReady => "EPPReady"
  | .inferencePoolReady => "InferencePoolReady"
  | .gatewayReady => "GatewayReady"
  | .unknown => "Unknown"

def all : List ConditionType :=
  [.specValid, .prerequisitesValidated, .modelServerReady, .eppReady, .inferencePoolReady,
   .gatewayReady, .unknown]

def decoder : Decoder ConditionType :=
  Decode.variant (all.map fun t => (t.name, t)) (some .unknown) (all.map name)

end ConditionType

namespace ConditionStatus

def name : ConditionStatus → String
  | .true_ => "True"
  | .false_ => "False"
  | .unknown => "Unknown"

def all : List ConditionStatus := [.true_, .false_, .unknown]

def decoder : Decoder ConditionStatus := Decode.named (all.map fun s => (s.name, s))

def ofBool (b : Bool) : ConditionStatus := if b then .true_ else .false_

end ConditionStatus

open Fields

namespace Condition

def fields : Fields Condition :=
  Condition.mk <$> required "type" ConditionType.decoder
    <*> required "status" ConditionStatus.decoder
    <*> Fields.optional "reason" Decode.text
    <*> Fields.optional "message" Decode.text
    <*> Fields.optional "lastTransitionTime" Decode.text
    <*> Fields.optional "observedGeneration" Decode.int64

def decoder : Decoder Condition := read "Condition" fields

def toJson (c : Condition) : Json :=
  .present
    [("lastTransitionTime", c.lastTransitionTime.map .str),
     ("message", c.message.map .str),
     ("observedGeneration", c.observedGeneration.map .word),
     ("reason", c.reason.map .str),
     ("status", some (.str c.status.name)),
     ("type", some (.str c.type_.name))]

end Condition

namespace SchedulerStatus

def fields : Fields SchedulerStatus :=
  SchedulerStatus.mk <$> Fields.optional "phase" Phase.decoder
    <*> defaulted "conditions" (Decode.list Condition.decoder) []
    <*> defaulted "modelServerReplicas" Decode.int32 0
    <*> defaulted "eppReplicas" Decode.int32 0
    <*> defaulted "gatewayReady" Decode.boolean false
    <*> defaulted "inferencePoolReady" Decode.boolean false
    <*> defaulted "prerequisitesValidated" Decode.boolean false
    <*> Fields.optional "prerequisiteMessage" Decode.text
    <*> Fields.optional "observedGeneration" Decode.int64

def decoder : Decoder SchedulerStatus := read "InferenceSchedulerStatus" fields

def conditionsJson (cs : List Condition) : Json := .arr (cs.map Condition.toJson)

def toJson (s : SchedulerStatus) : Json :=
  .present
    [("conditions", if s.conditions.isEmpty then none else some (conditionsJson s.conditions)),
     ("eppReplicas", some (.int s.eppReplicas)),
     ("gatewayReady", some (.bool s.gatewayReady)),
     ("inferencePoolReady", some (.bool s.inferencePoolReady)),
     ("modelServerReplicas", some (.int s.modelServerReplicas)),
     ("observedGeneration", s.observedGeneration.map .word),
     ("phase", s.phase.map fun p => .str p.name),
     ("prerequisiteMessage", s.prerequisiteMessage.map .str),
     ("prerequisitesValidated", some (.bool s.prerequisitesValidated))]

def condition? (s : SchedulerStatus) (t : ConditionType) : Option Condition :=
  s.conditions.find? fun c => c.type_ = t

end SchedulerStatus
end SchedulerOperator
