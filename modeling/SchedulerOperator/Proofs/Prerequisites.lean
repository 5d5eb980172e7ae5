import Mathlib.Data.List.Nodup
import SchedulerOperator.Proofs.Convergence
import SchedulerOperator.Proofs.PassNotes

namespace SchedulerOperator

namespace Preflight
variable {installed : Capability → Bool} {c : Capability} {caps : List Capability}

/-- The capabilities that are missing and the first of their bundle to be so. -/
def firstMissing (installed : Capability → Bool) (caps : List Capability) : List Capability :=
  caps.filter fun c => caps.find? (fun d => d.bundle = c.bundle ∧ installed d = false) = some c

theorem firstMissing_installed (here : installed c = true) :
    firstMissing installed (c :: caps) = firstMissing installed caps := by
  have skipped : ∀ bundle, (c :: caps).find? (fun d => d.bundle = bundle ∧ installed d = false) =
      caps.find? (fun d => d.bundle = bundle ∧ installed d = false) := by
    intro bundle
    simp [here]
  have other : caps.find? (fun d => d.bundle = c.bundle ∧ installed d = false) ≠ some c := by
    intro found
    have missing := List.find?_some found
    simp [here] at missing
  simp only [firstMissing, skipped]
  rw [List.filter_cons_of_neg (by simpa using other)]

theorem firstMissing_missing (missing : installed c = false) (fresh : c ∉ caps) :
    firstMissing installed (c :: caps) =
      c :: (firstMissing installed caps).filter fun d => d.bundle ≠ c.bundle := by
  have first : ∀ d : Capability, d.bundle = c.bundle →
      (c :: caps).find? (fun e => e.bundle = d.bundle ∧ installed e = false) = some c := by
    intro d same
    simp [missing, same]
  have skipped : ∀ d : Capability, d.bundle ≠ c.bundle →
      (c :: caps).find? (fun e => e.bundle = d.bundle ∧ installed e = false) =
        caps.find? (fun e => e.bundle = d.bundle ∧ installed e = false) := by
    intro d differs
    simp [Ne.symm differs]
  unfold firstMissing
  rw [List.filter_cons_of_pos (by simp [missing]), List.filter_filter]
  congr 1
  apply List.filter_congr
  intro d mem
  by_cases same : d.bundle = c.bundle
  · have differs : c ≠ d := by
      intro equal
      exact fresh (equal ▸ mem)
    rw [first d same]
    simp [same, differs]
  · rw [skipped d same]
    simp [same]

theorem missingMessages_eq (reported : List String) (nodup : caps.Nodup) :
    missingMessages reported (caps.map fun c => (c, installed c)) =
      ((firstMissing installed caps).filter fun c => c.bundle ∉ reported).map
        Capability.missingMessage := by
  induction caps generalizing reported with
  | nil => rfl
  | cons c rest ih =>
    obtain ⟨fresh, nodup⟩ := List.nodup_cons.mp nodup
    rw [List.map_cons, missingMessages]
    cases here : installed c with
    | true =>
      rw [firstMissing_installed here]
      simpa using ih reported nodup
    | false =>
      rw [firstMissing_missing here fresh]
      by_cases known : c.bundle ∈ reported
      · have apart : ∀ d : Capability, d.bundle ∉ reported → d.bundle ≠ c.bundle := by
          intro d unknown same
          exact unknown (same ▸ known)
        simp only [Bool.false_or, List.contains_iff_mem, known, if_true, not_true_eq_false,
          decide_false, Bool.false_eq_true, not_false_eq_true, List.filter_cons_of_neg, List.filter_filter]
        rw [ih reported nodup]
        congr 1
        apply List.filter_congr
        intro d mem
        by_cases unknown : d.bundle ∈ reported
        · simp [unknown]
        · simp [unknown, apart d unknown]
      · simp only [Bool.false_or, List.contains_iff_mem, known, if_false, not_false_eq_true,
          decide_true, List.filter_cons_of_pos, List.map_cons, List.filter_filter]
        rw [ih (c.bundle :: reported) nodup]
        congr 2
        apply List.filter_congr
        intro d mem
        simp [Bool.and_comm]

theorem withoutRepeats_of_nodup {texts seen : List String} (nodup : texts.Nodup)
    (fresh : ∀ s ∈ texts, s ∉ seen) : withoutRepeats seen texts = texts := by
  induction texts generalizing seen with
  | nil => rfl
  | cons s rest ih =>
    obtain ⟨once, nodup⟩ := List.nodup_cons.mp nodup
    have unseen : seen.contains s = false := by
      simpa using fresh s List.mem_cons_self
    rw [withoutRepeats, unseen, if_neg Bool.false_ne_true]
    rw [ih nodup]
    intro t mem
    simp only [List.mem_cons, not_or]
    constructor
    · intro same
      exact once (same ▸ mem)
    · exact fresh t (List.mem_cons_of_mem _ mem)

theorem firstMissing_sublist : (firstMissing installed caps).Sublist caps :=
  List.filter_sublist

theorem missingClass_apart (name : String) : ∀ c ∈ Capability.all, c.missingMessage ≠ missingClass name := by
  -- By bytes, which is how texts are stored, the first few tell them apart.
  have start : (missingClass name).toByteArray.data.toList.take 14 =
      "GatewayClass '".toByteArray.data.toList := by
    simp only [missingClass, String.toByteArray_append, ByteArray.data_append, Array.toList_append,
      List.append_assoc]
    rw [List.take_append_of_le_length (by decide +kernel)]
    rfl
  have others : ∀ c ∈ Capability.all, c.missingMessage.toByteArray.data.toList.take 14 ≠
      "GatewayClass '".toByteArray.data.toList := by
    decide +kernel
  intro c mem same
  rw [← same] at start
  exact others c mem start

end Preflight

namespace Cluster
variable {s : Cluster}

/-- What is missing of what a root needs, as it is reported. -/
def lacks (s : Cluster) (registry : TypeRegistry) (className : String) : List String :=
  let api := registry.api .gatewayClass
  (Preflight.firstMissing (fun c => s.hasType (registry.api c.resource)) Capability.all).map
      Capability.missingMessage ++
    if s.hasType api = true ∧ ∀ e ∈ s.objects, e.1.apiVersion = api.apiVersion →
        e.1.kind = api.kind → e.1.name ≠ className
    then [Preflight.missingClass className] else []

theorem lacks_nodup (s : Cluster) (registry : TypeRegistry) (className : String) :
    (s.lacks registry className).Nodup := by
  have messages : (Capability.all.map Capability.missingMessage).Nodup := by
    simp [Capability.all]
  unfold lacks
  refine List.nodup_append.mpr ⟨?_, ?_, ?_⟩
  · exact messages.sublist (Preflight.firstMissing_sublist.map _)
  · split <;> simp
  · intro message among other mem
    split at mem
    · obtain ⟨c, missing, rfl⟩ := List.mem_map.mp among
      rw [List.mem_singleton.mp mem]
      exact Preflight.missingClass_apart className c (Preflight.firstMissing_sublist.subset missing)
    · cases mem

theorem lacks_same {t : Cluster} (types : t.types = s.types) (objects : t.objects = s.objects)
    (registry : TypeRegistry) (className : String) :
    t.lacks registry className = s.lacks registry className := by
  cases s
  cases t
  cases types
  cases objects
  rfl

theorem mem_namesOf {api : ApiResource} {name : String} :
    name ∈ s.namesOf api ↔ ∃ e ∈ s.objects, e.1.apiVersion = api.apiVersion ∧
      e.1.kind = api.kind ∧ e.1.name = name := by
  simp [namesOf, isListed, and_assoc]

end Cluster

namespace Engine
open Step Cluster Pass
variable {g : Engine} {plan : Plan} {r : InferenceScheduler} {s t v : Cluster} {ns name : String}

/-- The probes find what the cluster lacks. -/
theorem missingFrom_eq (registry : TypeRegistry) (s : Cluster) (plan : Plan) :
    missingFrom registry s plan = .ofItems (s.lacks registry plan.gateway.className.name) := by
  have nodup := s.lacks_nodup registry plan.gateway.className.name
  have once : Preflight.withoutRepeats [] (s.lacks registry plan.gateway.className.name) =
      s.lacks registry plan.gateway.className.name :=
    Preflight.withoutRepeats_of_nodup nodup fun _ _ => List.not_mem_nil
  have messages : Preflight.missingMessages []
      (Capability.all.map fun c => (c, s.hasType (registry.api c.resource))) =
        (Preflight.firstMissing (fun c => s.hasType (registry.api c.resource)) Capability.all).map
          Capability.missingMessage := by
    have nodup : (Capability.all.map Capability.resource).Nodup := by decide
    rw [Preflight.missingMessages_eq [] (List.Nodup.of_map _ nodup), List.filter_eq_self.mpr (by simp)]
  unfold missingFrom
  simp only [classTypeInstalled_probed, messages]
  rw [← once]
  congr 3
  cases installed : s.hasType (registry.api .gatewayClass) with
  | false => simp
  | true =>
    by_cases named : plan.gateway.className.name ∈ s.namesOf (registry.api .gatewayClass)
    · obtain ⟨e, mem, version, kind, name⟩ := mem_namesOf.mp named
      have present : ¬ ∀ e ∈ s.objects, e.1.apiVersion = (registry.api .gatewayClass).apiVersion →
          e.1.kind = (registry.api .gatewayClass).kind → e.1.name ≠ plan.gateway.className.name :=
        fun absent => absent e mem version kind name
      simp only [List.contains_iff_mem.mpr named, if_true, present, and_false, if_false]
    · have absent : ∀ e ∈ s.objects, e.1.apiVersion = (registry.api .gatewayClass).apiVersion →
          e.1.kind = (registry.api .gatewayClass).kind → e.1.name ≠ plan.gateway.className.name :=
        fun e mem version kind name => named (mem_namesOf.mpr ⟨e, mem, version, kind, name⟩)
      have unlisted : (s.namesOf (registry.api .gatewayClass)).contains
          plan.gateway.className.name = false := by
        simpa using named
      simp only [unlisted, if_true, Bool.false_eq_true, if_false]
      rw [if_pos ⟨trivial, absent⟩]

theorem ofItems_missing {items : List String} (some : items ≠ []) :
    Preflight.ofItems items = .missing items := by
  cases items with
  | nil => exact absurd rfl some
  | cons item rest => rfl

theorem alignment_stops (calm : s.Calm) (resolved : Plan.resolve r = .ok plan)
    (missing : s.lacks g.registry plan.gateway.className.name ≠ []) :
    Does (g.alignment r) s (.ok (.after g.settings.timing.prerequisitesMissing))
      (accepted ::
        preflightNotes (.missing (s.lacks g.registry plan.gateway.className.name))) s := by
  have accept : Does (g.acceptSpec r) s _ _ s := acceptSpec_does r
  have look : Does (g.preflight plan) s _ _ s := preflight_finds calm plan
  rw [resolved] at accept
  rw [missingFrom_eq, ofItems_missing missing] at look
  rw [← List.append_nil (preflightNotes _)]
  exact does_bind accept (does_bind look (does_pure _))

theorem alignment_proceeds {b b' : StatusBoard} {out : Except ReconcileError Requeue}
    {trace : List Turn} (calm : s.Calm) (resolved : Plan.resolve r = .ok plan)
    (nothing : s.lacks g.registry plan.gateway.className.name = [])
    (turns : TurnsOn Cluster.answer ((g.alignment r).run b) s trace (out, b') t) :
    ∃ front back between, trace = front ++ back ∧
      b.Noted (accepted :: preflightNotes .satisfied) between ∧
      TurnsOn Cluster.answer
        ((g.writeChildren (r.namespaceOr "default") r.name plan ChildKind.all).run between)
        s back (out, b') t := by
  have accept : Does (g.acceptSpec r) s _ _ s := acceptSpec_does r
  have look : Does (g.preflight plan) s _ _ s := preflight_finds calm plan
  rw [resolved] at accept
  rw [missingFrom_eq, nothing] at look
  obtain ⟨first, rest, ⟨result, b₁⟩, z, rfl, accepting, after⟩ := turnsOn_bind turns
  obtain ⟨rfl, noted, rfl⟩ := accept b _ _ accepting.runsOn
  obtain ⟨second, back, ⟨result, b₂⟩, z, rfl, looking, written⟩ := turnsOn_bind after
  obtain ⟨rfl, noted', rfl⟩ := look b₁ _ _ looking.runsOn
  exact ⟨first ++ second, back, b₂, (List.append_assoc _ _ _).symm, noted.append noted', written⟩

theorem childWrites_ne_nil {trace : List Turn} {e : Turn} (mem : e ∈ trace)
    (isWrite : e.call.isChildWrite = true) : childWrites trace ≠ [] :=
  List.ne_nil_of_mem (List.mem_filter.mpr ⟨mem, isWrite⟩)

theorem write_writes {registry : TypeRegistry} {d : ChildObject} {trace : List Turn}
    {out : Except StoreError ChildWrite} (calm : s.Calm)
    (turns : TurnsOn Cluster.answer (ExceptT.run (d.write registry)) s trace out t) :
    childWrites trace ≠ [] := by
  obtain ⟨front, back, found, z, rfl, look, after⟩ := turnsOn_bind turns
  obtain ⟨more, rfl, last⟩ := turnsOn_call look
  rw [answer_calm calm] at last
  cases last
  -- The object is looked up, and then either created or replaced.
  have wrote : ∀ {c : StoreCall} {f : c.Answer → Attempt ChildWrite} {back : List Turn} {u v : Cluster}
      {out : Except StoreError ChildWrite}, c.isChildWrite = true →
      TurnsOn Cluster.answer (ExceptT.run (Attempt.request c >>= f)) u back out v →
      childWrites back ≠ [] := by
    intro c f back u v out isWrite turns
    obtain ⟨front, rest, made, z, rfl, write, _⟩ := turnsOn_bind turns
    obtain ⟨more, rfl, _⟩ := turnsOn_call write
    exact childWrites_ne_nil (List.mem_append_left _ List.mem_cons_self) isWrite
  rw [childWrites_append]
  apply List.append_ne_nil_of_right_ne_nil
  cases there : s.object? (registry.api d.resource) (d.resource.within d.namespace_) d.name with
  | none =>
    simp only [Cluster.perform, there] at after
    exact wrote rfl after
  | some existing =>
    simp only [Cluster.perform, there] at after
    exact wrote rfl after

theorem writeChildren_writes {ns name : String} {b : StatusBoard} {trace : List Turn}
    {out : Except ReconcileError Requeue × StatusBoard} (calm : s.Calm)
    (turns : TurnsOn Cluster.answer ((g.writeChildren ns name plan ChildKind.all).run b) s trace out t) :
    childWrites trace ≠ [] := by
  obtain ⟨group, more, _, _, rfl, written, _⟩ := turnsOn_bind turns
  obtain ⟨object, more', _, _, rfl, outcome, _⟩ := turnsOn_bind written
  obtain ⟨calls, none, _, _, rfl, write, _⟩ := turnsOn_bind outcome
  have wrote := write_writes calm write
  simp only [childWrites_append]
  apply List.append_ne_nil_of_left_ne_nil
  apply List.append_ne_nil_of_left_ne_nil
  exact List.append_ne_nil_of_left_ne_nil wrote _

theorem settled_apart (k : ChildKind) (sample : Except StoreError Replicas) :
    ∀ n ∈ (settled k sample).2,
      n.topic ≠ .prerequisites ∧ n.topic ≠ .condition .prerequisitesValidated := by
  intro n mem
  cases k <;> cases sample <;>
    simp only [settled, replicaNotes, failureNotes, failureCondition, List.mem_cons, List.not_mem_nil,
      or_false] at mem <;>
    rcases mem with rfl | rfl <;> simp [Note.topic]

theorem Builds.apart {kinds : List ChildKind} {turns : List Turn}
    {out : Except ReconcileError Requeue} {notes : List Note}
    (builds : g.Builds plan kinds turns out notes) :
    ∀ n ∈ notes, n.topic ≠ .prerequisites ∧ n.topic ≠ .condition .prerequisitesValidated := by
  induction builds with
  | complete => simp [Note.topic]
  | @failed k rest turns e message =>
    intro n mem
    cases k <;> simp only [failureNotes, failureCondition, List.mem_cons, List.not_mem_nil, or_false] at mem <;>
      rcases mem with rfl | rfl <;> simp [Note.topic]
  | waits unready =>
    intro n mem
    cases List.mem_append.mp mem with
    | inl settles => exact settled_apart _ _ n settles
    | inr last =>
      rw [List.mem_singleton.mp last]
      simp [Note.topic]
  | further written ready more ih =>
    intro n mem
    cases List.mem_append.mp mem with
    | inl settles => exact settled_apart _ _ n settles
    | inr later => exact ih n later

structure TellsPrerequisites (st : SchedulerStatus) (validated : Bool) (message : String)
    (status : ConditionStatus) (reason : String) : Prop where
  validated : st.prerequisitesValidated = validated
  message : st.prerequisiteMessage = some message
  condition : ∃ c, st.condition? .prerequisitesValidated = some c ∧ c.status = status ∧
    c.reason = some reason

theorem tells_of_shown {generation : Option Int64} {st : SchedulerStatus} {validated : Bool}
    {message reason detail : String} {status : ConditionStatus}
    (flag : (Note.prerequisites validated (some message)).Shown generation st)
    (condition : (Note.condition .prerequisitesValidated status reason detail).Shown generation st) :
    TellsPrerequisites st validated message status reason := by
  have same := flag "" none
  obtain ⟨c, first, value, why, _⟩ := condition.condition
  refine ⟨?_, ?_, c, first, value, why⟩
  · exact (congrArg SchedulerStatus.prerequisitesValidated same).symm
  · exact (congrArg SchedulerStatus.prerequisiteMessage same).symm

theorem tells_missing {generation : Option Int64} {before st : SchedulerStatus} {items : List String}
    (entered : Entered generation (accepted :: preflightNotes (.missing items)) before st) :
    st.phase = some .prerequisitesMissing ∧
      TellsPrerequisites st false ("missing prerequisites: " ++ "; ".intercalate items) .false_
        "ValidationFailed" := by
  have separate : Note.Separate (accepted :: preflightNotes (.missing items)) := by
    simp [Note.Separate, Note.topic, accepted, preflightNotes]
  have shown := Note.shown_of_entered entered separate
  constructor
  · rw [Note.lastPhase_of_entered entered]
    rfl
  · exact tells_of_shown (shown _ (List.mem_cons_of_mem _ List.mem_cons_self))
      (shown _ (List.mem_cons_of_mem _ (List.mem_cons_of_mem _ List.mem_cons_self)))

theorem tells_satisfied {generation : Option Int64} {before between st : SchedulerStatus}
    {notes : List Note} (cleared : Entered generation (accepted :: preflightNotes .satisfied) before between)
    (entered : Entered generation notes between st)
    (apart : ∀ n ∈ notes, n.topic ≠ .prerequisites ∧ n.topic ≠ .condition .prerequisitesValidated) :
    TellsPrerequisites st true prerequisitesFine .true_ "ValidationSucceeded" := by
  have separate : Note.Separate (accepted :: preflightNotes .satisfied) := by
    simp [Note.Separate, Note.topic, accepted, preflightNotes]
  have shown := Note.shown_of_entered cleared separate
  have flag := shown _ (List.mem_cons_of_mem _ List.mem_cons_self)
  have condition := shown _ (List.mem_cons_of_mem _ (List.mem_cons_of_mem _ List.mem_cons_self))
  exact tells_of_shown
    (flag.lasts entered fun n mem => .inr (Ne.symm (apart n mem).1))
    (condition.lasts entered fun n mem => .inr (Ne.symm (apart n mem).2))

end Engine

namespace Step
open Pass
variable {α β : Type}

def LeavesStored (x : Step α) : Prop :=
  ∀ (before : List Turn) b,
    Conforms (fun _ _ => True) (fun _ out => out.2.stored = b.stored) before (x.run b)

theorem leaves_pure (a : α) : LeavesStored (pure a) := fun _ _ => rfl

theorem leaves_fail (e : ReconcileError) : LeavesStored (fail e : Step α) := fun _ _ => rfl

theorem leaves_setCondition {c : ConditionType} {status : ConditionStatus} {reason message : String} :
    LeavesStored (setCondition c status reason message) := fun _ _ _ => rfl

theorem leaves_update {f : StatusBoard → StatusBoard} (leaves : ∀ b, (f b).stored = b.stored) :
    LeavesStored (update f) := fun _ b => leaves b

theorem leaves_move (g : Engine) (o : Outcome) : LeavesStored (g.move o) := fun _ _ => rfl

theorem leaves_outcome (x : Attempt α) : LeavesStored (outcome x) := by
  intro before b
  exact conforms_step_outcome.mpr ((conforms_any _).mono fun _ _ _ => rfl)

theorem leaves_bind {x : Step α} {f : α → Step β} (first : x.LeavesStored)
    (rest : ∀ a, (f a).LeavesStored) : LeavesStored (x >>= f) := by
  intro before b
  refine conforms_step.mpr ((first before b).mono ?_)
  intro later out held
  obtain ⟨e | a, b'⟩ := out
  · exact held
  · refine (rest a later b').mono ?_
    intro last out same
    exact same.trans held

end Step

namespace Engine
open Step Cluster Pass
variable {g : Engine} {plan : Plan} {r : InferenceScheduler} {s t v : Cluster} {ns name : String}

theorem later_leaves (o : Outcome) : (g.later o).LeavesStored := by
  refine leaves_bind (leaves_move g o) ?_
  intro directive
  cases directive <;> exact leaves_pure _

theorem failed_leaves {α : Type} (k : ChildKind) (message : String) (e : ReconcileError) :
    LeavesStored (do g.noteFailure k message; fail e : Step α) :=
  leaves_bind (leaves_bind leaves_setCondition fun _ => leaves_bind (leaves_move g _) fun _ => leaves_pure _)
    fun _ => leaves_fail e

theorem writeAll_leaves (k : ChildKind) (ds : List ChildObject) : (g.writeAll k ds).LeavesStored := by
  induction ds with
  | nil => exact leaves_pure ()
  | cons d rest ih =>
    refine leaves_bind (leaves_outcome _) ?_
    intro out
    cases out with
    | ok _ => exact ih
    | error e => exact failed_leaves k _ _

theorem count_leaves (k : ChildKind) (ns root : String) : (g.count k ns root).LeavesStored := by
  refine leaves_bind (leaves_outcome _) ?_
  intro out
  cases out with
  | ok replicas => exact leaves_pure replicas
  | error e => exact failed_leaves k _ _

theorem settle_leaves (ns name : String) (k : ChildKind) : (g.settle ns name k).LeavesStored := by
  have built : ∀ condition replicas, (mayBuildOn condition replicas).LeavesStored :=
    fun condition replicas => leaves_bind leaves_setCondition fun _ => leaves_pure _
  cases k with
  | accessPoint =>
    exact leaves_bind (count_leaves _ ns name) fun replicas =>
      leaves_bind (leaves_update fun _ => rfl) fun _ => built _ replicas
  | routingAccessPoint =>
    exact leaves_bind (count_leaves _ ns name) fun replicas =>
      leaves_bind (leaves_update fun _ => rfl) fun _ => built _ replicas
  | pool =>
    exact leaves_bind (leaves_update fun _ => rfl) fun _ =>
      leaves_bind leaves_setCondition fun _ => leaves_pure true
  | route =>
    exact leaves_bind (leaves_update fun _ => rfl) fun _ =>
      leaves_bind leaves_setCondition fun _ => leaves_pure true
  | _ => exact leaves_pure true

theorem writeChildren_leaves (ns name : String) (kinds : List ChildKind) :
    (g.writeChildren ns name plan kinds).LeavesStored := by
  induction kinds with
  | nil => exact later_leaves .converged
  | cons k rest ih =>
    refine leaves_bind (writeAll_leaves k _) fun _ => leaves_bind (settle_leaves ns name k) ?_
    intro ready
    cases ready with
    | true => exact ih
    | false => exact later_leaves .workloadNotReady

theorem roots_spared {α : Type} {p : Pass α} {a : α} {trace : List Turn}
    {ends : List Turn → α → Prop} {before : List Turn}
    (turns : TurnsOn Cluster.answer p s trace a t)
    (spares : Conforms (fun _ c => c.SparesRoot) ends before p) :
    t.roots = s.roots ∧ t.failures = s.failures := by
  let inv := fun (_ : List Turn) (z : Cluster) => z.roots = s.roots ∧ z.failures = s.failures
  have start : inv before s := ⟨rfl, rfl⟩
  have kept : inv (before ++ trace) t := by
    refine turns.keeps spares start ?_
    intro later c z allowed ⟨roots, failures⟩
    exact ⟨(answer_spares allowed).trans roots, (answer_effect z c).failures.trans failures⟩
  exact kept

theorem conclude_stores {b : StatusBoard} {result out : Except ReconcileError Requeue}
    (calm : s.Calm) (found : s.root? ns name = some r) (stored : r.status = some b.stored)
    (run : RunsOn Cluster.answer (conclude ns name (result, b)) s out t) :
    ∃ r', t.root? ns name = some r' ∧ r'.status = some b.current := by
  obtain ⟨⟨saved, b'⟩, z, save, rest⟩ := runsOn_bind.mp run
  unfold saveStatus at save
  cases changed : b.changed with
  | false =>
    simp only [changed, Bool.not_false, if_true] at save
    obtain ⟨same, rfl⟩ := runsOn_done.mp save
    cases same
    obtain ⟨_, rfl⟩ := runsOn_done.mp rest
    have equal : b.current = b.stored := by simpa [StatusBoard.changed] using changed
    exact ⟨r, found, by rw [stored, equal]⟩
  | true =>
    simp only [changed, Bool.not_true, Bool.false_eq_true, if_false] at save
    obtain ⟨done, r', there, status⟩ := writeStatus_leaves found b.current
    have after := runsOn_call.mp save
    rw [answer_calm calm] at after
    simp only [Cluster.perform, done] at after
    obtain ⟨same, rfl⟩ := runsOn_done.mp after
    cases same
    obtain ⟨_, rfl⟩ := runsOn_done.mp rest
    exact ⟨r', there, status⟩

theorem first_child {trace : List Turn} {out : Except ReconcileError Requeue}
    (run : Runs (g.upkeep ns r.name r) trace out) (some : childWrites trace ≠ []) :
    ∃ w, (childWrites trace).head? = .some w ∧ w.call.address? =
      .some ⟨g.registry.api .deployment, .some (r.namespaceOr "default"), ChildKind.workload.childName r.name⟩ := by
  have ordered : g.InOrder r ([] ++ trace) := (conforms_alive g ns r).at_end run
  rw [List.nil_append, InOrder] at ordered
  cases writes : childWrites trace with
  | nil => exact absurd writes some
  | cons w rest =>
    rw [writes] at ordered
    obtain ⟨more, split⟩ := ordered
    exact ⟨w, rfl, (List.cons.inj split).1⟩

/-- In a cluster that no one else acts on, whatever the coordinates of the types: what is missing
of what an accepted root needs is reported, each thing once, and ends the pass before any object
is touched; where nothing is missing the status says so, and the first child is written. -/
theorem prerequisites_stop_pass_or_clear_it {out : Except ReconcileError Requeue}
    {trace : List Turn} (reached : s.Reachable) (calm : s.failures = [])
    (found : s.root? ns name = some r) (alive : r.metadata.deletionTimestamp = none)
    (resolved : Plan.resolve r = .ok plan)
    (turns : TurnsOn Cluster.answer (g.reconcile ns name) s trace out t) :
    (s.lacks g.registry plan.gateway.className.name).Nodup ∧
    (s.lacks g.registry plan.gateway.className.name ≠ [] →
      out = .ok (.after g.settings.timing.prerequisitesMissing) ∧ t.objects = s.objects ∧
      ∃ r' status, t.root? ns name = some r' ∧ r'.status = some status ∧
        status.phase = some .prerequisitesMissing ∧
        TellsPrerequisites status false ("missing prerequisites: " ++
          "; ".intercalate (s.lacks g.registry plan.gateway.className.name)) .false_
          "ValidationFailed") ∧
    (s.lacks g.registry plan.gateway.className.name = [] →
      (∃ r' status, t.root? ns name = some r' ∧ r'.status = some status ∧
        TellsPrerequisites status true prerequisitesFine .true_ "ValidationSucceeded") ∧
      ∃ w, (childWrites trace).head? = some w ∧ w.call.address? =
        some ⟨g.registry.api .deployment, some ns, ChildKind.workload.childName name⟩) := by
  have sound := reached.sound
  obtain ⟨inNamespace, named⟩ := root_key (sound.root found) "default"
  obtain ⟨rest, rfl, tail⟩ := reconcile_turns_some calm found turns
  have after : TurnsOn Cluster.answer (g.upkeep ns name r) s rest out t := by
    rw [alive] at tail
    exact tail
  have first : childWrites (⟨.getRoot ns name, .ok (some r)⟩ :: rest) = childWrites rest := rfl
  refine ⟨s.lacks_nodup _ _, ?_, ?_⟩
  · intro missing
    obtain ⟨r₂, before, u, holds, _, observed, aligned⟩ :=
      upkeep_runs sound calm found alive after.runsOn
    have same := lacks_same holds.types holds.objects g.registry plan.gateway.className.name
    have stops := alignment_stops (g := g) (holds.calm calm) resolved (same ▸ missing)
    obtain ⟨ended, r', status, _, _, stored, entered, holds'⟩ := aligned stops
      (.refl (fun _ => False) holds.sound)
    rw [same] at entered
    obtain ⟨phase, tells⟩ := tells_missing entered
    exact ⟨ended, holds'.objects.trans holds.objects, r', status, holds'.root, stored, phase, tells⟩
  · intro nothing
    obtain ⟨r₂, b, u, front, middle, back, result, b', v, rfl, begun, align, finish⟩ :=
      upkeep_parts sound calm found alive after
    have same : u.lacks g.registry plan.gateway.className.name = [] := by
      rw [lacks_same begun.holds.types begun.holds.objects, nothing]
    have calm' : u.Calm := begun.holds.calm calm
    obtain ⟨probes, children, between, rfl, ⟨stored, generation, cleared⟩, writes⟩ :=
      alignment_proceeds calm' resolved same align
    constructor
    · obtain ⟨sameName, placed, _⟩ := Plan.resolve_root resolved
      rw [← placed, ← sameName] at writes
      have told := (writeChildren_tells (g := g) plan ChildKind.all [] between).and
        (writeChildren_leaves plan.namespace_ plan.name ChildKind.all [] between)
      obtain ⟨⟨turns', notes, _, builds, _, entered⟩, kept⟩ := told.at_end writes.runs
      obtain ⟨roots, failures⟩ := roots_spared writes (writeChildren_tells plan ChildKind.all [] between)
      have there : v.root? ns name = some r₂ := by
        rw [root?, roots]
        exact begun.holds.root
      have reported : r₂.status = some b'.stored := by
        rw [begun.status, kept, stored]
      obtain ⟨r', found', status⟩ := conclude_stores (failures.trans calm') there reported finish.runsOn
      rw [generation] at entered
      exact ⟨r', _, found', status, tells_satisfied cleared entered builds.apart⟩
    · have wrote : childWrites (front ++ (probes ++ children) ++ back) ≠ [] := by
        simp only [childWrites_append]
        apply List.append_ne_nil_of_left_ne_nil
        apply List.append_ne_nil_of_right_ne_nil
        exact List.append_ne_nil_of_right_ne_nil _ (writeChildren_writes calm' writes)
      rw [← named] at after
      rw [first, ← named]
      obtain ⟨w, head, address⟩ := first_child after.runs wrote
      rw [inNamespace] at address
      exact ⟨w, head, address⟩

def unprepared : Cluster :=
  (insertRoot
    { metadata := { name := some "demo" }
      spec := { modelServer := { modelName := "m", hfTokenSecretName := "s" } }
      status := none } {}).2

theorem unprepared_reachable : unprepared.Reachable := by
  refine Reachable.empty.next (.insertRoot _) ?_
  intro n field
  simp at field

theorem unprepared_root_waits :
    let pass := ((Engine.mk .builtin {}).reconcile "default" "demo").run (asStore "") unprepared
    pass.1 = .ok (.after 60) ∧ pass.2.objects = [] ∧ ∃ r status,
      pass.2.root? "default" "demo" = some r ∧ r.status = some status ∧
      status.phase = some .prerequisitesMissing ∧
      TellsPrerequisites status false ("missing prerequisites: " ++
        "; ".intercalate (unprepared.lacks .builtin "kgateway")) .false_ "ValidationFailed" := by
  obtain ⟨r, found, alive, valid⟩ : ∃ r, unprepared.root? "default" "demo" = some r ∧
      r.metadata.deletionTimestamp = none ∧
      ((Plan.resolve r).toOption.any fun plan => plan.gateway.className.name == "kgateway") = true :=
    ⟨_, rfl, by decide +kernel, by decide +kernel⟩
  cases resolved : Plan.resolve r with
  | error e =>
    rw [resolved] at valid
    cases valid
  | ok plan =>
    rw [resolved] at valid
    have className : plan.gateway.className.name = "kgateway" := beq_iff_eq.mp valid
    obtain ⟨trace, turns⟩ := turnsOn_of_runsOn (runsOn_run (asStore "")
      ((Engine.mk .builtin {}).reconcile "default" "demo") unprepared)
    obtain ⟨_, stops, _⟩ := prerequisites_stop_pass_or_clear_it unprepared_reachable
      (by decide +kernel) found alive resolved turns
    rw [className] at stops
    obtain ⟨waits, objects, status⟩ := stops (by decide +kernel)
    exact ⟨waits, objects, status⟩

end Engine
end SchedulerOperator
