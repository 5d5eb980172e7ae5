import SchedulerOperator.Proofs.Prerequisites
import SchedulerOperator.Proofs.StoredStatus

/-!
A verdict on the prerequisites sets a flag, a message and a condition. A failure to come to one
sets the condition alone, so the flag and the message stay those of the last verdict.
-/
namespace SchedulerOperator
open Cluster Engine Pass

namespace SchedulerStatus
variable {s t : SchedulerStatus} {generation : Option Int64} {now : String}

/-- The condition says that it could not be found out whether anything is missing. -/
def Unchecked (s : SchedulerStatus) : Prop :=
  ∃ c, s.condition? .prerequisitesValidated = some c ∧ c.status = .false_ ∧
    c.reason = some "ValidationError"

theorem Unchecked.value (unchecked : s.Unchecked) :
    s.value? .prerequisitesValidated = some .false_ := by
  obtain ⟨c, found, status, _⟩ := unchecked
  rw [value?, found, ← status]
  rfl

/-- The flag and the message agree, and they agree with the condition unless there was no verdict. -/
structure PrerequisitesTold (s : SchedulerStatus) : Prop where
  shown : s.value? .prerequisitesValidated = some .true_ → s.prerequisitesValidated = true
  flagged : s.prerequisitesValidated = true →
    s.value? .prerequisitesValidated = some .true_ ∨ s.Unchecked
  message : s.prerequisitesValidated = true ↔ s.prerequisiteMessage = some prerequisitesFine

theorem told_blank : PrerequisitesTold {} where
  shown shown := by cases shown
  flagged flagged := by cases flagged
  message := by simp

theorem PrerequisitesTold.kept (told : s.PrerequisitesTold)
    (condition : t.condition? .prerequisitesValidated = s.condition? .prerequisitesValidated)
    (flag : t.prerequisitesValidated = s.prerequisitesValidated)
    (message : t.prerequisiteMessage = s.prerequisiteMessage) : t.PrerequisitesTold where
  shown shown := by
    rw [flag]
    rw [value?, condition] at shown
    exact told.shown shown
  flagged flagged := by
    rw [flag] at flagged
    rw [value?, Unchecked, condition]
    exact told.flagged flagged
  message := by
    rw [flag, message]
    exact told.message

theorem PrerequisitesTold.spec {status : ConditionStatus} {reason message : String}
    (told : s.PrerequisitesTold) :
    ((Note.condition .specValid status reason message).put generation now s).PrerequisitesTold :=
  told.kept ((StatusBoard.entry_putCondition s.conditions).trans (if_neg (by decide))) rfl rfl

theorem PrerequisitesTold.keepPhase (told : s.PrerequisitesTold) :
    (Note.keepPhase.put generation now s).PrerequisitesTold := told.kept rfl rfl rfl

theorem PrerequisitesTold.unchecked {message : String} (told : s.PrerequisitesTold) :
    ((Note.condition .prerequisitesValidated .false_ "ValidationError" message).put
      generation now s).PrerequisitesTold where
  shown shown := by
    rw [value_put_condition, if_pos rfl] at shown
    cases shown
  flagged _ :=
    .inr ⟨_, (StatusBoard.entry_putCondition s.conditions).trans (if_pos rfl), rfl, rfl⟩
  message := told.message

theorem missing_not_fine (items : String) : "missing prerequisites: " ++ items ≠ prerequisitesFine := by
  intro same
  have first := congrArg (fun text => text.toList.head?) same
  simp [prerequisitesFine] at first

theorem told_missing {items reason : String}
    (tells : TellsPrerequisites s false ("missing prerequisites: " ++ items) .false_ reason) :
    s.PrerequisitesTold := by
  obtain ⟨flag, message, c, found, status, _⟩ := tells
  have value : s.value? .prerequisitesValidated = some .false_ := by rw [value?, found, ← status]; rfl
  refine ⟨fun shown => ?_, fun flagged => ?_, ?_⟩
  · rw [value] at shown
    cases shown
  · rw [flag] at flagged
    cases flagged
  · simp [flag, message, missing_not_fine]

theorem told_satisfied {reason : String}
    (tells : TellsPrerequisites s true prerequisitesFine .true_ reason) : s.PrerequisitesTold := by
  obtain ⟨flag, message, c, found, status, _⟩ := tells
  have value : s.value? .prerequisitesValidated = some .true_ := by rw [value?, found, ← status]; rfl
  exact ⟨fun _ => flag, fun _ => .inl value, by simp [flag, message]⟩

end SchedulerStatus

namespace Engine
variable {g : Engine} {k : RootKey} {r : InferenceScheduler} {s t : SchedulerStatus}
  {generation : Option Int64}

theorem Aligns.told {turns : List Turn} {out : Except ReconcileError Requeue} {notes : List Note}
    (aligns : g.Aligns r turns out notes) (told : s.PrerequisitesTold)
    (entered : Entered generation notes s t) : t.PrerequisitesTold := by
  cases aligns with
  | rejected =>
    obtain ⟨now, more⟩ := entered.first
    obtain ⟨_, rfl⟩ := more.last
    exact told.spec.keepPhase
  | unchecked =>
    obtain ⟨now, more⟩ := entered.first
    obtain ⟨later, further⟩ := more.first
    obtain ⟨_, rfl⟩ := further.last
    exact (SchedulerStatus.PrerequisitesTold.spec told).unchecked.keepPhase
  | missing => exact SchedulerStatus.told_missing (tells_missing entered).2
  | children resolved quiet builds =>
    obtain ⟨u, cleared, built⟩ := entered.split
    exact SchedulerStatus.told_satisfied (tells_satisfied cleared built builds.apart)

theorem Brings.told {turns : List Turn} {out : Except ReconcileError Requeue}
    (brings : g.Brings r turns out s) (observed : r.observed.PrerequisitesTold) :
    s.PrerequisitesTold := by
  cases brings with
  | unstored => exact observed
  | aligned quiet aligns entered => exact aligns.told observed entered

/-- Each status that a pass stores tells of the prerequisites as the one that it read does, but
for what the pass found. -/
theorem told_inherited : SchedulerStatus.Inherited k SchedulerStatus.PrerequisitesTold := by
  intro g r before status read justified
  have stored : (r.status.getD {}).PrerequisitesTold := by
    cases known : r.status with
    | none => exact SchedulerStatus.told_blank
    | some old => exact read old known
  have observed : r.observed.PrerequisitesTold := stored.kept rfl rfl rfl
  cases justified with
  | observed unknown => exact observed
  | withdrawn => exact stored.kept rfl rfl rfl
  | brought split attached ran => exact (brings_of_run ran).told observed

end Engine

namespace Crowd
variable {k : RootKey} {w : Crowd}

/-- Where only passes write the status of a root and it is inserted without one: unless the last
validation came to no verdict, the flag is set exactly if the condition is true; and it is set
exactly if the message says that all is well. -/
theorem flag_follows_last_verdict {r : InferenceScheduler} {status : SchedulerStatus}
    (reached : Reachable (Operation.KeepsStatusOf k) w)
    (found : Assoc.get? k w.cluster.roots = some r) (stored : r.status = some status) :
    (¬status.Unchecked →
      (status.prerequisitesValidated = true ↔
        status.value? .prerequisitesValidated = some .true_)) ∧
    (status.prerequisitesValidated = true ↔
      status.prerequisiteMessage = some Engine.prerequisitesFine) := by
  have told := (reached.upholds told_inherited).stored r found status stored
  exact ⟨fun checked => ⟨fun flag => (told.flagged flag).resolve_right checked, told.shown⟩,
    told.message⟩

theorem fresh_root_is_validated : ∃ w r status,
    Reachable (Operation.KeepsStatusOf ⟨"default", "demo"⟩) w ∧
    Assoc.get? ⟨"default", "demo"⟩ w.cluster.roots = some r ∧ r.status = some status ∧
    ¬status.Unchecked ∧ status.value? .prerequisitesValidated = some .true_ ∧
    status.prerequisitesValidated = true ∧
    status.prerequisiteMessage = some Engine.prerequisitesFine := by
  have checked : ((Assoc.get? ⟨"default", "demo"⟩ (afterPass Cluster.fresh).roots).any fun r =>
      r.status.any fun status => status.value? .prerequisitesValidated == some .true_) = true := by
    decide +kernel
  simp only [Option.any_eq_true, beq_iff_eq] at checked
  obtain ⟨r, found, status, stored, value⟩ := checked
  obtain ⟨past, course, _⟩ := arrives_at_fresh.afterPass fun _ _ => trivial
  have reached : Reachable (Operation.KeepsStatusOf ⟨"default", "demo"⟩) _ :=
    course.reachable fun _ _ allowed => allowed
  have decided : ¬status.Unchecked := by
    intro unchecked
    rw [unchecked.value] at value
    cases value
  obtain ⟨flag, message⟩ := flag_follows_last_verdict reached found stored
  have set := (flag decided).mpr value
  exact ⟨_, r, status, reached, found, stored, decided, value, set, message.mp set⟩

def gatewaysUnlisted : Operation := .failOn ⟨.list, "Gateway", .unavailable "boom"⟩

theorem flag_outlives_failed_validation : ∃ w r status,
    Reachable (Operation.KeepsStatusOf ⟨"default", "demo"⟩) w ∧
    Assoc.get? ⟨"default", "demo"⟩ w.cluster.roots = some r ∧ r.status = some status ∧
    status.prerequisitesValidated = true ∧
    status.value? .prerequisitesValidated = some .false_ := by
  have checked : ((Assoc.get? ⟨"default", "demo"⟩
      (afterPass (gatewaysUnlisted.apply (afterPass Cluster.fresh))).roots).any fun r =>
      r.status.any fun status => status.prerequisitesValidated &&
        status.value? .prerequisitesValidated == some .false_) = true := by decide +kernel
  simp only [Option.any_eq_true, Bool.and_eq_true, beq_iff_eq] at checked
  obtain ⟨r, found, status, stored, flag, value⟩ := checked
  have validated : Arrives _ _ (fun _ => True) (afterPass Cluster.fresh) :=
    arrives_at_fresh.afterPass fun _ _ => trivial
  have disturbed := validated.clients [gatewaysUnlisted] fun o mem _ => by
    cases List.mem_singleton.mp mem
    trivial
  obtain ⟨past, course, _⟩ := disturbed.afterPass fun _ _ => trivial
  exact ⟨_, r, status, course.reachable fun _ _ allowed => allowed, found, stored, flag, value⟩

end Crowd
end SchedulerOperator
