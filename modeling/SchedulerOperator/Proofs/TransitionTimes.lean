import SchedulerOperator.Proofs.Timeless
import SchedulerOperator.Proofs.ConditionHistory
import SchedulerOperator.Proofs.StatusWrites

/-!
A pass looks at the clock once for each condition that it sets, and sets none twice, so what a
status that it stores says since now was not said by the status that it read.
-/
namespace SchedulerOperator

/-- Since when a condition has been what it is. -/
def SchedulerStatus.since? (s : SchedulerStatus) (t : ConditionType) : Option String :=
  (s.condition? t).bind Condition.lastTransitionTime

namespace Report

theorem on_nodup {τ : Type} {reports : List (Report τ)} (distinct : (reports.map type_).Nodup)
    (t : ConditionType) : on t reports = [] ∨ ∃ r ∈ reports, on t reports = [r] := by
  induction reports with
  | nil => exact .inl rfl
  | cons r rest ih =>
    rw [List.map_cons, List.nodup_cons] at distinct
    obtain ⟨new, distinct⟩ := distinct
    by_cases here : r.type_ = t
    · have others : on t rest = [] := by
        refine List.filter_eq_nil_iff.mpr fun later mem => ?_
        have other : later.type_ ≠ t := by
          rintro rfl
          exact new (here ▸ List.mem_map_of_mem mem)
        simpa using other
      refine .inr ⟨r, List.mem_cons_self, ?_⟩
      unfold on at others ⊢
      rw [List.filter_cons_of_pos (by simpa using here), others]
    · have same : on t (r :: rest) = on t rest := List.filter_cons_of_neg (by simpa using here)
      rw [same]
      rcases ih distinct with none | ⟨l, mem, one⟩
      · exact .inl none
      · exact .inr ⟨l, List.mem_cons_of_mem _ mem, one⟩

theorem since_putAll {old new : SchedulerStatus} {generation : Option Int64}
    {reports : List (Report String)} (distinct : (reports.map type_).Nodup)
    (conditions : new.conditions = putAll id generation reports old.conditions)
    (t : ConditionType) :
    (new.value? t = old.value? t → new.since? t = old.since? t) ∧
    (new.value? t ≠ old.value? t → ∃ now ∈ reports.map Report.time, new.since? t = some now) := by
  have found : new.condition? t = entry id generation (old.condition? t) (on t reports) := by
    unfold SchedulerStatus.condition?
    rw [conditions, entry_putAll]
  simp only [SchedulerStatus.value?, SchedulerStatus.since?, found, entry_status, entry_time]
  rcases on_nodup distinct t with none | ⟨r, mem, one⟩
  · rw [none]
    exact ⟨fun _ => rfl, fun differs => absurd rfl differs⟩
  · rw [one]
    by_cases same : (old.condition? t).map Condition.status = some r.status
    · simp [said, turns, same]
    · have differs : said ((old.condition? t).map Condition.status) [r] ≠
          (old.condition? t).map Condition.status := fun equal => same (equal ▸ rfl)
      refine ⟨fun equal => absurd equal differs, fun _ => ⟨r.time, List.mem_map_of_mem mem, ?_⟩⟩
      simp [turns, same]

end Report

namespace Step
open Pass
variable {α β : Type}

/-- Each look at the clock is for one report, and the reports are all that changes the conditions;
`Q` holds of the result and the types that are reported on. -/
def Reports (x : Step α) (Q : Except ReconcileError α → List ConditionType → Prop) : Prop :=
  ∀ before b, Conforms (fun _ _ => True)
    (fun later out => ∃ reports : List (Report String),
      readingsOf later = readingsOf before ++ reports.map Report.time ∧
      Q out.1 (reports.map Report.type_) ∧ out.2.generation = b.generation ∧
      out.2.current.conditions = Report.putAll id b.generation reports b.current.conditions)
    before (x.run b)

variable {Q Q' : Except ReconcileError α → List ConditionType → Prop}
  {R : Except ReconcileError β → List ConditionType → Prop} {x : Step α} {f : α → Step β}

theorem Reports.mono (reports : x.Reports Q) (weaker : ∀ out types, Q out types → Q' out types) :
    x.Reports Q' := by
  intro before b
  refine (reports before b).mono ?_
  rintro later out ⟨made, times, held, same⟩
  exact ⟨made, times, weaker _ _ held, same⟩

theorem reports_still (timeless : ∀ b, Timeless (x.run b))
    (still : ∀ (before : List Turn) b, Conforms (fun _ _ => True) (fun _ out => Q out.1 [] ∧
      out.2.generation = b.generation ∧ out.2.current.conditions = b.current.conditions)
      before (x.run b)) : x.Reports Q := by
  intro before b
  refine (((still (turnsOf before) b).among_events.and (timeless b).quiet).allow
    fun _ _ _ => trivial).mono ?_
  rintro later out ⟨⟨held, same⟩, readings⟩
  exact ⟨[], by simpa using readings, held, same⟩

theorem reports_pure {a : α} (held : Q (.ok a) []) : Reports (pure a) Q :=
  reports_still (fun _ => trivial) fun _ _ => ⟨held, rfl, rfl⟩

theorem reports_fail {e : ReconcileError} (held : Q (.error e) []) : Reports (fail e) Q :=
  reports_still (fun _ => trivial) fun _ _ => ⟨held, rfl, rfl⟩

theorem reports_update {Q : Except ReconcileError Unit → List ConditionType → Prop}
    {f : StatusBoard → StatusBoard} (kept : ∀ b, (f b).generation = b.generation ∧
      (f b).current.conditions = b.current.conditions) (held : Q (.ok ()) []) :
    Reports (update f) Q :=
  reports_still (fun _ => trivial) fun _ b => ⟨held, kept b⟩

theorem reports_move {Q : Except ReconcileError Directive → List ConditionType → Prop} (g : Engine)
    (o : Outcome) (held : ∀ d, Q (.ok d) []) : Reports (g.move o) Q :=
  reports_still (fun _ => trivial) fun _ _ => ⟨held _, rfl, rfl⟩

theorem reports_outcome {Q : Except ReconcileError (Except StoreError α) → List ConditionType → Prop}
    {y : Attempt α} (timeless : Timeless (ExceptT.run y)) (held : ∀ r, Q (.ok r) []) :
    Reports (outcome y) Q :=
  reports_still (fun _ => timeless_bind timeless fun _ => trivial) fun _ _ =>
    conforms_step_outcome.mpr ((conforms_any _).mono fun _ _ _ => ⟨held _, rfl, rfl⟩)

theorem reports_setCondition {Q : Except ReconcileError Unit → List ConditionType → Prop}
    {c : ConditionType} {status : ConditionStatus} {reason message : String}
    (held : Q (.ok ()) [c]) : Reports (setCondition c status reason message) Q :=
  fun before _ now =>
    ⟨[⟨c, status, reason, message, now⟩], readingsOf_append before [.reading now], held, rfl, rfl⟩

theorem reports_bind (first : x.Reports fun out types => match out with
      | .ok a => (f a).Reports fun last more => R last (types ++ more)
      | .error e => R (.error e) types) : (x >>= f).Reports R := by
  intro before b
  refine conforms_step.mpr ((first before b).mono ?_)
  rintro later ⟨e | a, b'⟩ ⟨front, times, held, generation, conditions⟩
  · exact ⟨front, times, held, generation, conditions⟩
  · refine (held later b').mono ?_
    rintro last out ⟨back, times', held', generation', conditions'⟩
    refine ⟨front ++ back, ?_, ?_, generation'.trans generation, ?_⟩
    · rw [times', times, List.map_append, List.append_assoc]
    · rw [List.map_append]
      exact held'
    · rw [conditions', show b'.generation = _ from generation,
        show b'.current.conditions = _ from conditions, Report.putAll_append]

end Step

namespace Engine
open Pass Step
variable {g : Engine} {plan : Plan} {ns name : String} {done rest : List ChildKind} {k : ChildKind}

theorem later_reports {Q : Except ReconcileError Requeue → List ConditionType → Prop} (o : Outcome)
    (held : ∀ wait, Q (.ok wait) []) : (g.later o).Reports Q := by
  refine reports_bind (reports_move g o fun directive => ?_)
  cases directive <;> exact reports_pure (held _)

theorem failed_reports {α : Type} (k : ChildKind) (message : String) (e : ReconcileError)
    {Q : Except ReconcileError α → List ConditionType → Prop}
    (held : Q (.error e) [(failureCondition k).1]) :
    Reports (do g.noteFailure k message; fail e : Step α) Q :=
  reports_bind (reports_bind (reports_setCondition (reports_bind (reports_move g _ fun _ =>
    reports_pure (reports_fail held)))))

def ReportsOn (k : ChildKind) (types : List ConditionType) {α : Type} :
    Except ReconcileError α → List ConditionType → Prop
  | .ok _, reported => reported = types
  | .error _, reported => reported = [(failureCondition k).1]

theorem writeAll_reports (k : ChildKind) (ds : List ChildObject) :
    (g.writeAll k ds).Reports (ReportsOn k []) := by
  induction ds with
  | nil => exact reports_pure rfl
  | cons d rest ih =>
    refine reports_bind (reports_outcome (d.write_timeless _) ?_)
    rintro (e | _)
    · exact failed_reports k _ _ rfl
    · exact ih

theorem count_reports (k : ChildKind) (ns root : String) :
    (g.count k ns root).Reports (ReportsOn k []) := by
  refine reports_bind (reports_outcome (Replicas.probe_timeless _ _ _) ?_)
  rintro (e | replicas)
  · exact failed_reports k _ _ rfl
  · exact reports_pure rfl

theorem counted_reports {c : ConditionType} {f : Replicas → StatusBoard → StatusBoard}
    (k : ChildKind) (kept : ∀ replicas b, (f replicas b).generation = b.generation ∧
      (f replicas b).current.conditions = b.current.conditions) :
    Reports (do
      let replicas ← g.count k ns name
      Step.update (f replicas)
      mayBuildOn c replicas) (ReportsOn k [c]) := by
  refine reports_bind ((count_reports k ns name).mono ?_)
  rintro (e | replicas) types rfl
  · rfl
  · exact reports_bind (reports_update (kept replicas)
      (reports_bind (reports_setCondition (reports_pure rfl))))

theorem applied_reports {c : ConditionType} {f : StatusBoard → StatusBoard} {reason message : String}
    (k : ChildKind) (kept : ∀ b, (f b).generation = b.generation ∧
      (f b).current.conditions = b.current.conditions) :
    Reports (do
      Step.update f
      Step.setCondition c .true_ reason message
      return true) (ReportsOn k [c]) :=
  reports_bind (reports_update kept (reports_bind (reports_setCondition (reports_pure rfl))))

theorem settle_reports (ns name : String) (k : ChildKind) :
    (g.settle ns name k).Reports (ReportsOn k (settledCondition? k).toList) := by
  cases k with
  | accessPoint => exact counted_reports .accessPoint fun _ _ => ⟨rfl, rfl⟩
  | routingAccessPoint => exact counted_reports .routingAccessPoint fun _ _ => ⟨rfl, rfl⟩
  | pool => exact applied_reports .pool fun _ => ⟨rfl, rfl⟩
  | route => exact applied_reports .route fun _ => ⟨rfl, rfl⟩
  | _ => exact reports_pure rfl

def reportedBy (done : List ChildKind) : List ConditionType :=
  [.specValid, .prerequisitesValidated] ++ settledConditions done

theorem reportedBy_snoc : reportedBy (done ++ [k]) = reportedBy done ++ (settledCondition? k).toList := by
  unfold reportedBy settledConditions
  rw [List.filterMap_append, List.append_assoc]
  cases settled : settledCondition? k <;> simp [settled]

theorem reportedBy_prefix (split : done ++ rest = ChildKind.all) : reportedBy done <+: managedConditions := by
  have whole : managedConditions = reportedBy (done ++ rest) := by
    rw [split]
    rfl
  rw [whole]
  unfold reportedBy settledConditions
  rw [List.filterMap_append, ← List.append_assoc]
  exact List.prefix_append _ _

theorem reportedBy_failed (split : done ++ k :: rest = ChildKind.all) :
    reportedBy done ++ [(failureCondition k).1] <+: managedConditions := by
  obtain ⟨next, _⟩ := next_condition split
  obtain ⟨more, whole⟩ := reportedBy_prefix split
  have length : (reportedBy done).length = 2 + (settledConditions done).length := by
    rw [reportedBy, List.length_append]
    rfl
  rw [← whole, List.getElem?_append_right (by omega), length, Nat.sub_self] at next
  cases more with
  | nil => cases next
  | cons c more =>
    obtain rfl : c = (failureCondition k).1 := Option.some.inj next
    exact ⟨more, by rw [← whole, List.append_assoc]; rfl⟩

theorem writeChildren_reports (split : done ++ rest = ChildKind.all) :
    (g.writeChildren ns name plan rest).Reports
      fun _ types => reportedBy done ++ types <+: managedConditions := by
  induction rest generalizing done with
  | nil =>
    refine later_reports .converged fun _ => ?_
    rw [List.append_nil]
    exact reportedBy_prefix split
  | cons k rest ih =>
    have split' : (done ++ [k]) ++ rest = ChildKind.all := by
      rw [List.append_assoc]
      exact split
    refine reports_bind ((writeAll_reports k _).mono ?_)
    rintro (e | _) types rfl
    · exact reportedBy_failed split
    · refine reports_bind ((settle_reports ns name k).mono ?_)
      rintro (e | ready) types rfl
      · exact reportedBy_failed split
      · cases ready with
        | true =>
          refine (ih split').mono fun _ more held => ?_
          rw [reportedBy_snoc, List.append_assoc] at held
          exact held
        | false =>
          refine later_reports .workloadNotReady fun _ => ?_
          rw [List.append_nil, List.nil_append, ← reportedBy_snoc]
          exact reportedBy_prefix split'

theorem acceptSpec_reports (r : InferenceScheduler) :
    (g.acceptSpec r).Reports fun _ types => types = [.specValid] := by
  unfold acceptSpec
  cases Plan.resolve r with
  | ok plan => exact reports_bind (reports_setCondition (reports_pure rfl))
  | error e =>
    exact reports_bind (reports_setCondition (reports_bind (reports_move g _ fun _ => reports_fail rfl)))

theorem preflight_reports (plan : Plan) :
    (g.preflight plan).Reports fun _ types => types = [.prerequisitesValidated] := by
  refine reports_bind (reports_outcome (Preflight.check_timeless _ plan) ?_)
  rintro (e | _ | items)
  · exact reports_bind (reports_setCondition (reports_bind (reports_move g _ fun _ => reports_fail rfl)))
  · exact reports_bind (reports_update (fun _ => ⟨rfl, rfl⟩) (reports_bind (reports_setCondition
      (reports_bind (reports_move g _ fun _ => reports_pure rfl)))))
  · exact reports_bind (reports_update (fun _ => ⟨rfl, rfl⟩) (reports_bind (reports_setCondition
      (reports_bind (later_reports _ fun _ => reports_pure rfl)))))

theorem alignment_reports (r : InferenceScheduler) :
    (g.alignment r).Reports fun _ types => types <+: managedConditions := by
  have one : [.specValid] <+: managedConditions := by decide
  have two : [.specValid, .prerequisitesValidated] <+: managedConditions := by decide
  refine reports_bind ((acceptSpec_reports r).mono ?_)
  rintro (e | plan) types rfl
  · exact one
  · refine reports_bind ((preflight_reports plan).mono ?_)
    rintro (e | _ | wait) types rfl
    · exact two
    · exact writeChildren_reports (List.nil_append _)
    · exact reports_pure two

theorem observeFirst_reports (ns name : String) :
    (g.observeFirst ns name).Reports fun _ types => types = [] := by
  refine reports_still (g.observeFirst_timeless ns name) fun before b => ?_
  change Conforms _ _ _ ((if b.stored.phase.isNone = true then _ else _ : Step Unit).run b)
  split
  · change Conforms _ _ _ (Pass.bind (saveStatus _ _ _) _)
    refine conforms_bind.mpr ((conforms_save fun _ => trivial).mono ?_)
    rintro later ⟨saved, b'⟩ ⟨_, current, generation⟩
    have kept : b'.current.conditions = b.current.conditions := by
      rw [show b'.current = _ from current]
      rfl
    cases saved <;> exact ⟨rfl, generation, kept⟩
  · exact ⟨rfl, rfl, rfl⟩

theorem bringInLine_reports (r : InferenceScheduler) :
    (g.bringInLine r).Reports fun _ types => types <+: managedConditions := by
  rw [bringInLine_eq]
  refine reports_bind ((observeFirst_reports _ _).mono ?_)
  rintro (e | _) types rfl
  · exact List.nil_prefix
  · exact alignment_reports r

/-- The conditions of `r` after reports that were made at the `times`. -/
def Refreshed (r : InferenceScheduler) (times : List String) (status : SchedulerStatus) : Prop :=
  ∃ reports : List (Report String), reports.map Report.time = times ∧
    reports.map Report.type_ <+: managedConditions ∧
    status.conditions =
      Report.putAll id r.metadata.generation reports (r.status.getD {}).conditions

def ShowsReports (key : RootKey) (before : List Event) : StoreCall → Prop
  | .writeStatus _ _ status =>
    ∃ r, Snapshot key r (turnsOf before) ∧ Refreshed r (readingsOf before) status
  | _ => True

variable {key : RootKey} {r : InferenceScheduler} {before : List Event}

theorem refreshed_kept {status : SchedulerStatus}
    (kept : status.conditions = (r.status.getD {}).conditions) : Refreshed r [] status :=
  ⟨[], rfl, List.nil_prefix, kept⟩

theorem showsReports_of_spares {c : StoreCall} (spares : c.SparesRoot) : ShowsReports key before c := by
  cases c with
  | writeStatus ns name status => exact absurd rfl spares.2
  | _ => trivial

theorem conforms_timeless {α : Type} {p : Pass α} {ends : List Turn → α → Prop} (timeless : p.Timeless)
    (snapshot : Snapshot key r (turnsOf before))
    (conforms : Conforms (fun _ c => ∀ ns name status, c = .writeStatus ns name status →
      Refreshed r (readingsOf before) status) ends (turnsOf before) p) :
    Conforms (ShowsReports key) (fun later a => Snapshot key r (turnsOf later) ∧
      readingsOf later = readingsOf before ∧ ends (turnsOf later) a) before p := by
  have read : ∀ later, before <+: later → Snapshot key r (turnsOf later) := by
    rintro later ⟨more, rfl⟩
    rw [turnsOf_append]
    exact snapshot.append _
  refine (((conforms.among_events.and timeless.quiet).and (conforms_grows p)).allow ?_).mono ?_
  · rintro later c ⟨⟨writes, same⟩, more⟩
    cases c with
    | writeStatus ns name status =>
      refine ⟨r, read later more, ?_⟩
      rw [same]
      exact writes ns name status rfl
    | _ => trivial
  · rintro later a ⟨⟨ended, same⟩, more⟩
    exact ⟨read later more, same, ended⟩

theorem conforms_shown (still : readingsOf before = []) (snapshot : Snapshot key r (turnsOf before)) :
    Conforms (ShowsReports key) (fun later out => Snapshot key r (turnsOf later) ∧
      Refreshed r (readingsOf later) out.2.current) before
      ((g.bringInLine r).run (.start r.status r.metadata.generation)) := by
  have writes : Conforms (ShowsReports key) (fun _ _ => True) before
      ((g.bringInLine r).run (.start r.status r.metadata.generation)) := by
    rw [bringInLine_eq]
    refine conforms_step.mpr ((conforms_timeless (g.observeFirst_timeless _ _ _) snapshot
      (conforms_observed fun _ => ?_)).mono ?_)
    · -- The first status is stored before anything is reported.
      rintro ns name status ⟨⟩
      rw [still]
      exact refreshed_kept rfl
    · rintro later ⟨e | _, b⟩ _
      · trivial
      · exact ((alignment_tells r _ b).among_events.allow
          fun _ _ => showsReports_of_spares).mono fun _ _ _ => trivial
  refine (((writes.and (bringInLine_reports r before _)).and (conforms_grows _)).allow
    fun _ _ held => held.1.1).mono ?_
  rintro later out ⟨⟨_, reports, times, types, _, conditions⟩, more, rfl⟩
  refine ⟨by simpa using snapshot.append (turnsOf more), reports, ?_, types, conditions⟩
  rw [times, still, List.nil_append]

theorem conclude_writes {ns name : String} {turns : List Turn}
    {out : Except ReconcileError Requeue × StatusBoard} :
    Conforms (fun _ c => ∀ ns name status, c = .writeStatus ns name status → status = out.2.current)
      (fun _ _ => True) turns (conclude ns name out) := by
  refine Conforms.conclude (fun _ => ?_) (fun _ => trivial) trivial fun _ => trivial
  rintro ns name status ⟨⟩
  rfl

theorem tearDown_writes {turns : List Turn} (r : InferenceScheduler) :
    Conforms (fun _ c => ∀ ns name status, c = .writeStatus ns name status →
      status.conditions = (r.status.getD {}).conditions) (fun _ _ => True) turns (g.tearDown r) := by
  have other : ∀ c : StoreCall, c.op ≠ .writeStatus → ∀ ns name status,
      c = .writeStatus ns name status → status.conditions = (r.status.getD {}).conditions := by
    rintro c other ns name status rfl
    exact absurd rfl other
  have released : ∀ root (later : List Turn), Conforms (fun _ c => ∀ ns name status,
      c = .writeStatus ns name status → status.conditions = (r.status.getD {}).conditions)
      (fun _ _ => True) later (g.release root) := by
    refine fun root later => Conforms.release (fun _ => True) (fun _ => trivial) (fun _ => trivial)
      (fun _ => ?_) fun _ _ => ⟨other _ nofun, fun _ => trivial, trivial⟩
    refine ((sweep_spares _).allow fun _ c spares => other c spares.2).mono ?_
    rintro later (e | _) _ <;> trivial
  refine Conforms.tearDown (fun _ => trivial) (fun _ => released r turns)
    fun _ _ => ⟨?_, fun _ => trivial, other _ nofun, ?_⟩
  · rintro ns name status ⟨⟩
    rfl
  · rintro (e | _ | fresh)
    · trivial
    · trivial
    · exact released fresh _

theorem ensureMarker_writes {turns : List Turn} (r : InferenceScheduler) :
    Conforms (fun _ c => c.op ≠ .writeStatus) (fun _ _ => True) turns (ExceptT.run r.ensureMarker) :=
  Conforms.ensureMarker (fun _ => trivial) fun _ => ⟨nofun, fun _ => trivial, trivial⟩

theorem upkeep_shows_reports (still : readingsOf before = [])
    (snapshot : Snapshot key r (turnsOf before)) :
    Conforms (ShowsReports key) (fun _ _ => True) before (g.upkeep key.namespace_ key.name r) := by
  have marks : Conforms (fun _ c => ∀ ns name status, c = .writeStatus ns name status →
      Refreshed r (readingsOf before) status) (fun _ _ => True) (turnsOf before)
      (ExceptT.run r.ensureMarker) := by
    refine (ensureMarker_writes r).allow ?_
    rintro later c other ns name status rfl
    exact absurd rfl other
  refine conforms_bind.mpr ((conforms_timeless r.ensureMarker_timeless snapshot marks).mono ?_)
  rintro later (e | _) ⟨snapshot', same, _⟩
  · trivial
  · refine conforms_bind.mpr ((conforms_shown (same.trans still) snapshot').mono ?_)
    rintro last out ⟨snapshot'', refreshed⟩
    refine (conforms_timeless (conclude_timeless _ _ out) snapshot'' (conclude_writes.allow ?_)).mono
      fun _ _ _ => trivial
    rintro later c current ns name status wrote
    rw [current ns name status wrote]
    exact refreshed

theorem reconcile_shows_reports (g : Engine) (key : RootKey) :
    Conforms (ShowsReports key) (fun _ _ => True) [] (g.reconcile key.namespace_ key.name) := by
  have snapshot : ∀ r, Snapshot key r
      (turnsOf [.turn ⟨.getRoot key.namespace_ key.name, .ok (some r)⟩]) := fun r => ⟨[], rfl⟩
  refine Conforms.reconcile trivial (fun _ => trivial) trivial (fun r _ => ?_)
    fun r _ => upkeep_shows_reports rfl (snapshot r)
  refine (conforms_timeless (g.tearDown_timeless r) (snapshot r)
    ((tearDown_writes r).allow ?_)).mono fun _ _ _ => trivial
  rintro later c kept ns name status wrote
  exact refreshed_kept (kept ns name status wrote)

theorem managed_nodup {types : List ConditionType} (initial : types <+: managedConditions) :
    types.Nodup := initial.sublist.nodup (by decide)

/-- The clock is looked at while the root is brought in line, once for each report. -/
theorem reports_of_pass {events : List Event} {result : Except ReconcileError Requeue}
    (shows : Shows (g.reconcile key.namespace_ key.name) events result) :
    readingsOf events = [] ∨ ∃ r front body back out b, events = front ++ body ++ back ∧
      Snapshot key r (turnsOf front) ∧
      Shows ((g.bringInLine r).run (.start r.status r.metadata.generation)) body (out, b) ∧
      ∃ reports : List (Report String), reports.map Report.time = readingsOf events ∧
        (reports.map Report.type_).Nodup ∧ b.current.conditions =
          Report.putAll id r.metadata.generation reports (r.status.getD {}).conditions := by
  cases shows with
  | @call _ _ reply rest _ tail =>
    have step : ∀ reply, readingsOf (.turn ⟨.getRoot key.namespace_ key.name, reply⟩ :: rest) =
        readingsOf rest := fun _ => rfl
    rw [step]
    rcases reply with e | _ | r
    · cases tail
      exact .inl rfl
    · cases tail
      exact .inl rfl
    · change Shows (if r.metadata.deletionTimestamp.isSome then g.tearDown r
        else g.upkeep key.namespace_ key.name r) rest result at tail
      split at tail
      · exact .inl ((g.tearDown_timeless r).readings tail)
      · obtain ⟨marks, rest, attached, rfl, marking, tail⟩ := shows_bind tail
        have quiet := r.ensureMarker_timeless.readings marking
        rcases attached with e | _
        · cases tail
          exact .inl (by simpa using quiet)
        · obtain ⟨body, back, ⟨out, b⟩, rfl, brought, concluding⟩ := shows_bind tail
          have still := (conclude_timeless _ _ _).readings concluding
          obtain ⟨reports, times, types, _, conditions⟩ :=
            (bringInLine_reports r [] _).shown_end brought
          rw [foldl_events] at times
          refine .inr ⟨r, .turn ⟨.getRoot key.namespace_ key.name, .ok (some r)⟩ :: marks, body,
            back, out, b, ?_, ⟨turnsOf marks, rfl⟩, brought, reports, ?_, managed_nodup types,
            conditions⟩
          · rw [List.cons_append, List.cons_append, List.append_assoc]
          · rw [readingsOf_append, readingsOf_append, quiet, still, List.nil_append, List.append_nil]
            exact times.symm

/-- Each status that a pass writes says of a condition since when it has been what it is: since
the time that the status which was read first tells, if that says the same, else since a time that
the clock showed in this pass. As often as the clock is looked at a condition is set, and none
twice. -/
theorem transition_times_follow_values (g : Engine) (key : RootKey) {events : List Event}
    {result : Except ReconcileError Requeue}
    (shows : Shows (g.reconcile key.namespace_ key.name) events result) :
    (∀ {front back : List Event} {ns name : String} {status : SchedulerStatus}
      {reply : (StoreCall.writeStatus ns name status).Reply},
      events = front ++ .turn ⟨.writeStatus ns name status, reply⟩ :: back →
      ∃ r, Snapshot key r (turnsOf front) ∧ ∀ t,
        (status.value? t = (r.status.getD {}).value? t →
          status.since? t = (r.status.getD {}).since? t) ∧
        (status.value? t ≠ (r.status.getD {}).value? t →
          ∃ now ∈ readingsOf front, status.since? t = some now)) ∧
    (readingsOf events = [] ∨ ∃ r front body back out b, events = front ++ body ++ back ∧
      Snapshot key r (turnsOf front) ∧
      Shows ((g.bringInLine r).run (.start r.status r.metadata.generation)) body (out, b) ∧
      ∃ reports : List (Report String), reports.map Report.time = readingsOf events ∧
        (reports.map Report.type_).Nodup ∧ b.current.conditions =
          Report.putAll id r.metadata.generation reports (r.status.getD {}).conditions) := by
  refine ⟨?_, reports_of_pass shows⟩
  intro front back ns name status reply split
  obtain ⟨r, snapshot, reports, times, types, conditions⟩ :
      ShowsReports key front (.writeStatus ns name status) := by
    have called := (reconcile_shows_reports g key).shown_call shows split
    rwa [foldl_events] at called
  refine ⟨r, snapshot, fun t => ?_⟩
  obtain ⟨same, moved⟩ := Report.since_putAll (managed_nodup types) conditions t
  exact ⟨same, times ▸ moved⟩

def namelessModelRoot : InferenceScheduler where
  metadata :=
    { name := some "demo", namespace_ := some "default", uid := some "uid-1",
      generation := some 2, finalizers := some [finalizerMarker] }
  spec := { modelServer := { modelName := "", hfTokenSecretName := "s" } }
  status := some
    { phase := some .deploying
      conditions :=
        [⟨.specValid, .true_, some "Valid", some "spec accepted", some "earlier", some 1⟩,
         ⟨.modelServerReady, .false_, some "NotReady", none, some "earlier", some 1⟩] }

def refusedStatus : SchedulerStatus where
  phase := some .deploying
  conditions :=
    [⟨.specValid, .false_, some "InvalidSpec", some SpecError.emptyModelName.message, some "now",
      some 2⟩,
     ⟨.modelServerReady, .false_, some "NotReady", none, some "earlier", some 1⟩]
  observedGeneration := some 2

def refusedEvents : List Event :=
  [.turn ⟨.getRoot "default" "demo", .ok (some namelessModelRoot)⟩, .reading "now",
   .turn ⟨.writeStatus "default" "demo" refusedStatus, .ok ()⟩]

theorem refusedEvents_shown :
    Shows ((Engine.mk .builtin {}).reconcile "default" "demo") refusedEvents
      (.error (.invalidSpec .emptyModelName)) := by
  refine Shows.call _ ?_
  refine Shows.clock _ ?_
  refine Shows.call _ ?_
  exact .done _

/-- The spec is refused since now, the model server is not ready since earlier; one condition was
set. -/
theorem refused_since_now :
    Shows ((Engine.mk .builtin {}).reconcile "default" "demo") refusedEvents
      (.error (.invalidSpec .emptyModelName)) ∧
    (∃ now ∈ ["now"], refusedStatus.since? .specValid = some now) ∧
    refusedStatus.since? .modelServerReady = some "earlier" ∧
    ∃ (r : InferenceScheduler) (b : StatusBoard) (reports : List (Report String)),
      reports.map Report.time = ["now"] ∧ (reports.map Report.type_).Nodup ∧
      b.current.conditions =
        Report.putAll id r.metadata.generation reports (r.status.getD {}).conditions := by
  obtain ⟨writes, none | ⟨r, _, _, _, _, b, _, _, _, set⟩⟩ :=
    transition_times_follow_values (Engine.mk .builtin {}) ⟨"default", "demo"⟩ refusedEvents_shown
  · cases none
  obtain ⟨root, snapshot, times⟩ := writes
    (show refusedEvents = [_, _] ++ .turn ⟨.writeStatus "default" "demo" refusedStatus, .ok ()⟩ :: []
      from rfl)
  obtain rfl : root = namelessModelRoot := snapshot.unique ⟨[], rfl⟩
  exact ⟨refusedEvents_shown, (times .specValid).2 (by decide), (times .modelServerReady).1 rfl,
    r, b, set⟩

end Engine
end SchedulerOperator
