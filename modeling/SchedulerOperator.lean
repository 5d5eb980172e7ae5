import SchedulerOperator.Controller
import SchedulerOperator.Health
import SchedulerOperator.Json.Pointer
import SchedulerOperator.Main
import SchedulerOperator.Proofs.Members
import SchedulerOperator.Proofs.Trace
import SchedulerOperator.Simulation
import SchedulerOperator.Store.Hook
import SchedulerOperator.Proofs.ChildOrder
import SchedulerOperator.Proofs.Operations
import SchedulerOperator.Proofs.StoredChild
import SchedulerOperator.Proofs.Notes
import SchedulerOperator.Proofs.StepEffects
import SchedulerOperator.Proofs.ChildEffects
import SchedulerOperator.Proofs.PassEffects
import SchedulerOperator.Proofs.RootWrites
import SchedulerOperator.Proofs.SecondPass
import SchedulerOperator.Proofs.WorkloadShape
import SchedulerOperator.Proofs.Convergence
import SchedulerOperator.Proofs.Ownership
import SchedulerOperator.Proofs.Changes
import SchedulerOperator.Proofs.Discipline
import SchedulerOperator.Proofs.Incarnations
import SchedulerOperator.Proofs.RootOrigins
import SchedulerOperator.Proofs.PassNotes
import SchedulerOperator.Proofs.RootCalls
import SchedulerOperator.Proofs.Crowd
import SchedulerOperator.Proofs.Consistency
import SchedulerOperator.Proofs.StoredStatus
import SchedulerOperator.Proofs.Readiness
import SchedulerOperator.Proofs.TeardownCalls
import SchedulerOperator.Proofs.FirstFailure
import SchedulerOperator.Proofs.Prerequisites
import SchedulerOperator.Proofs.Isolation
import SchedulerOperator.Proofs.StaleWrites
import SchedulerOperator.Proofs.StatusWrites
import SchedulerOperator.Proofs.PhaseHistory
import SchedulerOperator.Proofs.Selectors
import SchedulerOperator.Proofs.PodLabels
import SchedulerOperator.Proofs.Coordinates
import SchedulerOperator.Proofs.Removals
import SchedulerOperator.Proofs.Codec
import SchedulerOperator.Proofs.RoundTrip
import SchedulerOperator.Proofs.StatusPatch
import SchedulerOperator.Proofs.ForeignConditions
import SchedulerOperator.Proofs.References
import SchedulerOperator.Proofs.Cancellation
import SchedulerOperator.Proofs.Inventory
import SchedulerOperator.Proofs.Additions
import SchedulerOperator.Proofs.UnchangedReplace
import SchedulerOperator.Proofs.WrittenChild
import SchedulerOperator.Proofs.Refusals
import SchedulerOperator.Proofs.ConditionHistory
import SchedulerOperator.Proofs.Timeless
import SchedulerOperator.Proofs.TransitionTimes
import SchedulerOperator.Proofs.PrerequisiteFlag
import SchedulerOperator.Proofs.Acceptance
import SchedulerOperator.Proofs.Ports
import SchedulerOperator.Proofs.ChildNames
import SchedulerOperator.Proofs.QuotedTexts
import SchedulerOperator.Proofs.ScalarTexts
import SchedulerOperator.Proofs.PluginEdits
import SchedulerOperator.Proofs.SweptKeys
import SchedulerOperator.Proofs.LabelValues
