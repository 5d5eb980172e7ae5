import SchedulerOperator.Engine.ChildWrite
import SchedulerOperator.Engine.Marker
import SchedulerOperator.Engine.Phase
import SchedulerOperator.Engine.Preflight
import SchedulerOperator.Engine.Replicas
import SchedulerOperator.Engine.Step
import SchedulerOperator.Payload.Routing

/-!
One pass over one root: it reads the root anew, brings its children in line with its spec
group by group, and reports how far it came. "Later" is an answer, not a wait.
-/
namespace SchedulerOperator

structure PassSettings where
  timing : PassDelays := {}
  cleanup : CleanupPolicy := .cascade
  deriving DecidableEq, Repr

structure Engine where
  registry : TypeRegistry
  settings : PassSettings

namespace Engine

def prerequisitesFine : String := "All prerequisites validated successfully"

/-- The condition that a failure to write a group shows on, and its reason. -/
def failureCondition : ChildKind → ConditionType × String
  | .workload | .accessPoint => (.modelServerReady, "DeploymentFailed")
  | .routingIdentity | .routingConfig | .routingWorkload | .routingAccessPoint =>
    (.eppReady, "DeploymentFailed")
  | .pool => (.inferencePoolReady, "CreationFailed")
  | .gateway | .route => (.gatewayReady, "CreationFailed")

def saveStatus (ns name : String) (b : StatusBoard) :
    Pass (Except StoreError Unit × StatusBoard) :=
  if !b.changed then .done (.ok (), b)
  else .call (.writeStatus ns name b.current) fun
    | .ok _ => .done (.ok (), b.saved)
    | .error e => .done (.error e, b)

variable (g : Engine)

def move (o : Outcome) : Step Directive := fun b =>
  let t := transition g.settings.timing b.current.phase o
  .done (.ok t.directive, b.setPhase t.phase)

def later (o : Outcome) : Step Requeue := do
  match ← g.move o with
  | .requeue r => return r
  | .proceed | .fail => return .never

def noteFailure (k : ChildKind) (message : String) : Step Unit := do
  let (condition, reason) := failureCondition k
  Step.setCondition condition .false_ reason message
  let _ ← g.move .stepFailed

def writeAll (k : ChildKind) : List ChildObject → Step Unit
  | [] => pure ()
  | d :: rest => do
    match ← Step.outcome (d.write g.registry) with
    | .ok _ => writeAll k rest
    | .error e =>
      g.noteFailure k (d.resource.kind ++ " " ++ d.name ++ ": " ++ e.message)
      Step.fail (.store e)

def behind : ChildKind → ChildKind
  | .routingAccessPoint => .routingWorkload
  | _ => .workload

def count (k : ChildKind) (ns root : String) : Step Replicas := do
  match ← Step.outcome (Replicas.probe g.registry ns ((behind k).childName root)) with
  | .ok replicas => return replicas
  | .error e =>
    g.noteFailure k e.message
    Step.fail (.store e)

/-- Notes how many replicas are ready; tells whether the pass may build on the workload. -/
def mayBuildOn (condition : ConditionType) (replicas : Replicas) : Step Bool := do
  let ready := replicas.isReady
  Step.setCondition condition (.ofBool ready) (if ready then "Ready" else "NotReady")
    replicas.summary
  return ready

/-- What follows the writing of a group; false where the pass has to wait. -/
def settle (ns name : String) : ChildKind → Step Bool
  | .accessPoint => do
    let replicas ← g.count .accessPoint ns name
    Step.update (·.setModelServerReplicas replicas.ready)
    mayBuildOn .modelServerReady replicas
  | .routingAccessPoint => do
    let replicas ← g.count .routingAccessPoint ns name
    Step.update (·.setEppReplicas replicas.ready)
    mayBuildOn .eppReady replicas
  | .pool => do
    Step.update (·.setInferencePoolReady true)
    Step.setCondition .inferencePoolReady .true_ "Created" "InferencePool applied"
    return true
  | .route => do
    Step.update (·.setGatewayReady true)
    Step.setCondition .gatewayReady .true_ "Created" "Gateway and HTTPRoute applied"
    return true
  | _ => return true

def writeChildren (ns name : String) (d : Plan) : List ChildKind → Step Requeue
  | [] => g.later .converged
  | k :: rest => do
    g.writeAll k (k.build d)
    if ← g.settle ns name k then writeChildren ns name d rest
    else g.later .workloadNotReady

def observeFirst (ns name : String) : Step Unit := do
  let b ← Step.board
  if b.stored.phase.isNone then
    let _ ← g.move .firstObserved
    fun b => (saveStatus ns name b).bind fun
      | (.ok _, b) => .done (.ok (), b)
      | (.error e, b) => .done (.error (.store e), b)

def acceptSpec (r : InferenceScheduler) : Step Plan := do
  match Plan.resolve r with
  | .ok d =>
    Step.setCondition .specValid .true_ "Valid" "spec accepted"
    return d
  | .error e =>
    Step.setCondition .specValid .false_ "InvalidSpec" e.message
    let _ ← g.move .stepFailed
    Step.fail (.invalidSpec e)

def preflight (d : Plan) : Step (Option Requeue) := do
  match ← Step.outcome (Preflight.check g.registry d) with
  | .ok .satisfied =>
    Step.update (·.setPrerequisites true (some prerequisitesFine))
    Step.setCondition .prerequisitesValidated .true_ "ValidationSucceeded"
      "all prerequisites are installed"
    let _ ← g.move .prerequisitesSatisfied
    return none
  | .ok (.missing items) =>
    let message := (Preflight.missing items).message.getD ""
    Step.update (·.setPrerequisites false (some message))
    Step.setCondition .prerequisitesValidated .false_ "ValidationFailed" message
    return some (← g.later .prerequisitesMissing)
  | .error e =>
    Step.setCondition .prerequisitesValidated .false_ "ValidationError" e.message
    let _ ← g.move .stepFailed
    Step.fail (.store e)

def bringInLine (r : InferenceScheduler) : Step Requeue := do
  let ns := r.namespaceOr "default"
  g.observeFirst ns r.name
  let d ← g.acceptSpec r
  match ← g.preflight d with
  | some wait => return wait
  | none => g.writeChildren ns r.name d ChildKind.all

/-- Stores the last status of a pass. A root that is gone needs none; a failed write shows
only where the pass itself did not fail. -/
def conclude (ns name : String) :
    Except ReconcileError Requeue × StatusBoard → Pass (Except ReconcileError Requeue)
  | (result, b) => (saveStatus ns name b).bind fun
    | (.ok _, _) => .done result
    | (.error e, _) =>
      if e.isNotFound then .done (.ok .never)
      else match result with
        | .error step => .done (.error step)
        | .ok _ => .done (.error (.store e))

/-- A root that vanishes underway is no failure. -/
def release (r : InferenceScheduler) : Pass (Except ReconcileError Requeue) :=
  (ExceptT.run (r.release g.registry g.settings.cleanup)).bind fun
    | .ok _ => .done (.ok .never)
    | .error e => .done (if e.isNotFound then .ok .never else .error (.store e))

/-- Storing the status moves the resource version that releasing is conditional on, so the
root is read again after it. -/
def tearDown (r : InferenceScheduler) : Pass (Except ReconcileError Requeue) :=
  if !r.hasMarker then .done (.ok .never)
  else
    let ns := r.namespaceOr "default"
    let started := StatusBoard.start r.status r.metadata.generation
    let t := transition g.settings.timing started.current.phase .deletionRequested
    let b := started.setPhase t.phase
    if !b.changed then g.release r
    else (saveStatus ns r.name b).bind fun
      | (.error e, _) => .done (if e.isNotFound then .ok .never else .error (.store e))
      | (.ok _, _) => .call (.getRoot ns r.name) fun
        | .error e => .done (.error (.store e))
        | .ok none => .done (.ok .never)
        | .ok (some fresh) => g.release fresh

def reconcile (ns name : String) : Pass (Except ReconcileError Requeue) :=
  .call (.getRoot ns name) fun
    | .error e => .done (.error (.store e))
    | .ok none => .done (.ok .never)
    | .ok (some r) =>
      if r.metadata.deletionTimestamp.isSome then g.tearDown r
      else (ExceptT.run r.ensureMarker).bind fun
        | .error e => .done (if e.isNotFound then .ok .never else .error (.store e))
        | .ok _ =>
          ((g.bringInLine r).run (.start r.status r.metadata.generation)).bind (conclude ns name)

end Engine
end SchedulerOperator
