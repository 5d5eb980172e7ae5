import SchedulerOperator.Scheduler.Status

namespace SchedulerOperator

structure StatusBoard where
  stored : SchedulerStatus
  current : SchedulerStatus
  generation : Option Int64
  deriving DecidableEq, Repr

namespace StatusBoard

def start (stored : Option SchedulerStatus) (generation : Option Int64) : StatusBoard where
  stored := stored.getD {}
  current := { stored.getD {} with observedGeneration := generation }
  generation := generation

def changed (b : StatusBoard) : Bool := b.current != b.stored

def update (f : SchedulerStatus → SchedulerStatus) (b : StatusBoard) : StatusBoard :=
  { b with current := f b.current }

def setPhase (p : Phase) : StatusBoard → StatusBoard := update fun s => { s with phase := some p }

/-- The transition time moves only when the status value does. -/
def renew (generation : Option Int64) (status : ConditionStatus) (reason message now : String)
    (c : Condition) : Condition :=
  { type_ := c.type_
    status := status
    reason := some reason
    message := some message
    lastTransitionTime := if c.status = status then c.lastTransitionTime else some now
    observedGeneration := generation }

/-- Renews the first condition of the type, or adds one at the end. -/
def putCondition (generation : Option Int64) (t : ConditionType) (status : ConditionStatus)
    (reason message now : String) : List Condition → List Condition
  | [] => [⟨t, status, some reason, some message, some now, generation⟩]
  | c :: rest =>
    if c.type_ = t then renew generation status reason message now c :: rest
    else c :: putCondition generation t status reason message now rest

def setCondition (t : ConditionType) (status : ConditionStatus) (reason message now : String)
    (b : StatusBoard) : StatusBoard :=
  b.update fun s =>
    { s with
      conditions := putCondition b.generation t status reason message now s.conditions }

def setPrerequisites (validated : Bool) (message : Option String) : StatusBoard → StatusBoard :=
  update fun s => { s with prerequisitesValidated := validated, prerequisiteMessage := message }

def setModelServerReplicas (n : Int) : StatusBoard → StatusBoard :=
  update fun s => { s with modelServerReplicas := n }

def setEppReplicas (n : Int) : StatusBoard → StatusBoard :=
  update fun s => { s with eppReplicas := n }

def setInferencePoolReady (ready : Bool) : StatusBoard → StatusBoard :=
  update fun s => { s with inferencePoolReady := ready }

def setGatewayReady (ready : Bool) : StatusBoard → StatusBoard :=
  update fun s => { s with gatewayReady := ready }

def saved (b : StatusBoard) : StatusBoard := { b with stored := b.current }

end StatusBoard
end SchedulerOperator
