import SchedulerOperator.Proofs.Consistency
import SchedulerOperator.Meta.Time
import Mathlib.Data.List.Induction

namespace SchedulerOperator

structure Report (τ : Type) where
  type_ : ConditionType
  status : ConditionStatus
  reason : String
  message : String
  time : τ
  deriving DecidableEq, Repr

namespace Report
variable {τ : Type} (render : τ → String) (generation : Option Int64)

def put (r : Report τ) : List Condition → List Condition :=
  StatusBoard.putCondition generation r.type_ r.status r.reason r.message (render r.time)

def putAll (reports : List (Report τ)) (conditions : List Condition) : List Condition :=
  reports.foldl (fun conditions r => r.put render generation conditions) conditions

def on (t : ConditionType) (reports : List (Report τ)) : List (Report τ) :=
  reports.filter fun r => r.type_ = t

def said (before : Option ConditionStatus) (reports : List (Report τ)) : Option ConditionStatus :=
  (reports.getLast?.map Report.status).or before

/-- The reports that say something else than was said before them. A first one always does. -/
def turns : Option ConditionStatus → List (Report τ) → List (Report τ)
  | _, [] => []
  | before, r :: rest =>
    if before = some r.status then turns before rest else r :: turns (some r.status) rest

/-- The first condition of a type after some reports on the type. -/
def entry (before : Option Condition) (reports : List (Report τ)) : Option Condition :=
  match reports.getLast? with
  | none => before
  | some last =>
    some
      { type_ := last.type_
        status := last.status
        reason := some last.reason
        message := some last.message
        lastTransitionTime :=
          ((turns (before.map Condition.status) reports).getLast?.map fun r => render r.time).or
            (before.bind Condition.lastTransitionTime)
        observedGeneration := generation }

variable {render} {generation} {t : ConditionType} {r : Report τ} {reports more : List (Report τ)}
  {conditions : List Condition} {before : Option ConditionStatus}

@[simp] theorem putAll_nil : putAll render generation [] conditions = conditions := rfl

theorem putAll_append :
    putAll render generation (reports ++ more) conditions =
      putAll render generation more (putAll render generation reports conditions) :=
  List.foldl_append

@[simp] theorem putAll_singleton :
    putAll render generation [r] conditions = r.put render generation conditions := rfl

theorem turns_snoc (before : Option ConditionStatus) (reports : List (Report τ)) (r : Report τ) :
    turns before (reports ++ [r]) =
      turns before reports ++ if said before reports = some r.status then [] else [r] := by
  induction reports generalizing before with
  | nil =>
    by_cases same : before = some r.status <;> simp [turns, said, same]
  | cons first rest ih =>
    have tail : said before (first :: rest) = said (some first.status) rest := by
      cases rest with
      | nil => rfl
      | cons second rest =>
        have last : ((second :: rest).getLast?).isSome := by simp
        obtain ⟨l, found⟩ := Option.isSome_iff_exists.mp last
        simp [said, List.getLast?_cons_cons, found]
    rw [tail]
    by_cases same : before = some first.status
    · simp only [List.cons_append, turns, if_pos same, ih]
      rw [same]
    · simp only [List.cons_append, turns, if_neg same, ih]

theorem entry_status (before : Option Condition) (reports : List (Report τ)) :
    (entry render generation before reports).map Condition.status =
      said (before.map Condition.status) reports := by
  unfold entry said
  cases reports.getLast? <;> rfl

theorem entry_time (before : Option Condition) (reports : List (Report τ)) :
    (entry render generation before reports).bind Condition.lastTransitionTime =
      ((turns (before.map Condition.status) reports).getLast?.map fun r => render r.time).or
        (before.bind Condition.lastTransitionTime) := by
  unfold entry
  cases last : reports.getLast? with
  | none =>
    obtain rfl := List.getLast?_eq_none_iff.mp last
    rfl
  | some r => rfl

/-- The induction is on the last report: what was said before it is what the others made of it. -/
theorem entry_putAll (t : ConditionType) (reports : List (Report τ)) (conditions : List Condition) :
    (putAll render generation reports conditions).find? (fun c => c.type_ = t) =
      entry render generation (conditions.find? fun c => c.type_ = t) (on t reports) := by
  induction reports using List.reverseRecOn with
  | nil => rfl
  | append_singleton reports r ih =>
    rw [putAll_append, putAll_singleton, put, StatusBoard.entry_putCondition, ih]
    simp only [entry_status, entry_time]
    by_cases here : r.type_ = t
    · have own : on t (reports ++ [r]) = on t reports ++ [r] := by simp [on, here]
      simp only [if_pos here, own, entry, List.getLast?_concat, turns_snoc]
      by_cases same : said ((conditions.find? fun c => c.type_ = t).map Condition.status)
          (on t reports) = some r.status
      · simp [same, here]
      · simp [same, here]
    · have others : on t (reports ++ [r]) = on t reports := by simp [on, here]
      rw [if_neg here, others]

theorem eraseDups_snoc (seen : List ConditionType) (t : ConditionType) :
    (seen ++ [t]).eraseDups = if t ∈ seen then seen.eraseDups else seen.eraseDups ++ [t] := by
  rw [List.eraseDups_append]
  by_cases earlier : t ∈ seen <;> simp [List.removeAll, earlier, List.eraseDups_cons]

theorem types_putAll (reports : List (Report τ)) (conditions : List Condition) :
    (putAll render generation reports conditions).map Condition.type_ =
      conditions.map Condition.type_ ++
        ((reports.map Report.type_).filter
          fun t => t ∉ conditions.map Condition.type_).eraseDups := by
  induction reports using List.reverseRecOn with
  | nil => simp
  | append_singleton reports r ih =>
    rw [putAll_append, putAll_singleton, put, StatusBoard.types_putCondition, ih]
    generalize conditions.map Condition.type_ = old
    by_cases listed : r.type_ ∈ old
    · simp [listed]
    · have grown : ((reports ++ [r]).map Report.type_).filter (fun t => t ∉ old) =
          (reports.map Report.type_).filter (fun t => t ∉ old) ++ [r.type_] := by simp [listed]
      rw [grown, eraseDups_snoc]
      simp only [List.mem_append, List.mem_eraseDups, listed, false_or]
      split
      · rfl
      · rw [List.append_assoc]

theorem others_put {i : Nat} {c : Condition} (here : conditions[i]? = some c)
    (other : c.type_ = r.type_ → c.type_ ∈ (conditions.map Condition.type_).take i) :
    (r.put render generation conditions)[i]? = some c := by
  unfold put
  induction conditions generalizing i with
  | nil => cases here
  | cons first rest ih =>
    by_cases same : first.type_ = r.type_
    · cases i with
      | zero =>
        obtain rfl : first = c := Option.some.inj here
        cases other same
      | succ i => simpa [StatusBoard.putCondition, same] using here
    · cases i with
      | zero => simpa [StatusBoard.putCondition, same] using here
      | succ i =>
        have later : c.type_ = r.type_ → c.type_ ∈ (rest.map Condition.type_).take i := by
          intro own
          rcases List.mem_cons.mp (other own) with this | behind
          · exact absurd (this.symm.trans own) same
          · exact behind
        simpa [StatusBoard.putCondition, same] using ih here later

theorem others_putAll {i : Nat} {c : Condition} (reports : List (Report τ))
    (here : conditions[i]? = some c)
    (other : c.type_ ∈ reports.map Report.type_ → c.type_ ∈ (conditions.map Condition.type_).take i) :
    (putAll render generation reports conditions)[i]? = some c := by
  induction reports using List.reverseRecOn with
  | nil => exact here
  | append_singleton reports r ih =>
    rw [putAll_append, putAll_singleton]
    refine others_put (ih fun mem => other (by simp [mem])) fun own => ?_
    obtain ⟨inside, _⟩ := List.getElem?_eq_some_iff.mp here
    rw [types_putAll, List.take_append_of_le_length (by simpa using inside.le)]
    exact other (by simp [own])

end Report

namespace StatusBoard

def report (reports : List (Report Instant)) (b : StatusBoard) : StatusBoard :=
  reports.foldl
    (fun b r => b.setCondition r.type_ r.status r.reason r.message r.time.render) b

theorem report_eq (reports : List (Report Instant)) (b : StatusBoard) :
    b.report reports =
      b.update fun s =>
        { s with
          conditions := Report.putAll Instant.render b.generation reports s.conditions } := by
  induction reports generalizing b with
  | nil => rfl
  | cons r rest ih => exact ih _

/-- Reports change nothing but conditions. The types that are new stand behind the others, in the
order of the first reports on them. The first condition of a type says what the last report on it
said, since the last one that said something else than was said before. The other conditions stay
as they are, where they are. -/
theorem conditions_follow_reports (b : StatusBoard) (reports : List (Report Instant)) :
    let before := b.current
    let after := (b.report reports).current
    b.report reports = { b with current := { before with conditions := after.conditions } } ∧
    after.types = before.types ++
      ((reports.map Report.type_).filter fun t => t ∉ before.types).eraseDups ∧
    (∀ t last, (Report.on t reports).getLast? = some last →
      after.condition? t = some
        { type_ := t
          status := last.status
          reason := some last.reason
          message := some last.message
          lastTransitionTime :=
            ((Report.turns (before.value? t) (Report.on t reports)).getLast?.map
              fun r => r.time.render).or
            ((before.condition? t).bind Condition.lastTransitionTime)
          observedGeneration := b.generation }) ∧
    ∀ i c, before.conditions[i]? = some c →
      (c.type_ ∈ reports.map Report.type_ → c.type_ ∈ before.types.take i) →
      after.conditions[i]? = some c := by
  intro before after
  have list : after.conditions =
      Report.putAll Instant.render b.generation reports before.conditions := by
    simp only [after, report_eq]
    rfl
  refine ⟨?_, ?_, ?_, ?_⟩
  · rw [list, report_eq]
    rfl
  · unfold SchedulerStatus.types
    rw [list, Report.types_putAll]
  · intro t last found
    have own : last.type_ = t := by
      have mem := List.mem_of_getLast? found
      simpa [Report.on] using (List.mem_filter.mp mem).2
    unfold SchedulerStatus.condition?
    rw [list, Report.entry_putAll, Report.entry, found]
    simp only [own]
    rfl
  · intro i c here other
    rw [list]
    exact Report.others_putAll reports here other

theorem repeated_report_keeps_turn :
    let old : SchedulerStatus :=
      { conditions :=
          [⟨.eppReady, .false_, none, none, none, none⟩,
           ⟨.specValid, .true_, some "Valid", some "spec accepted", none, some 1⟩,
           ⟨.eppReady, .true_, some "Ready", none, some "before", some 1⟩] }
    let reports : List (Report Instant) :=
      [⟨.gatewayReady, .false_, "NotReady", "", ⟨0, 0⟩⟩,
       ⟨.eppReady, .true_, "Ready", "1/1 replicas ready", ⟨60, 0⟩⟩,
       ⟨.eppReady, .true_, "Ready", "2/2 replicas ready", ⟨120, 0⟩⟩]
    let later := ((start (some old) (some 2)).report reports).current
    later.types = [.eppReady, .specValid, .eppReady, .gatewayReady] ∧
    later.condition? .eppReady = some
      ⟨.eppReady, .true_, some "Ready", some "2/2 replicas ready", some "1970-01-01T00:01:00Z",
        some 2⟩ ∧
    later.conditions[2]? = some ⟨.eppReady, .true_, some "Ready", none, some "before", some 1⟩ := by
  intro old reports later
  obtain ⟨_, types, first, others⟩ :=
    conditions_follow_reports (start (some old) (some 2)) reports
  refine ⟨types.trans (by decide +kernel), ?_, others 2 _ rfl fun _ => by decide⟩
  exact (first .eppReady ⟨.eppReady, .true_, "Ready", "2/2 replicas ready", ⟨120, 0⟩⟩ rfl).trans
    (by decide +kernel)

end StatusBoard
end SchedulerOperator
