import SchedulerOperator.Proofs.Prerequisites
import SchedulerOperator.Proofs.RootCalls

/-!
The board takes for stored what the last write that succeeded left, so a pass that asks to be run
again has its phase stored.
-/
namespace SchedulerOperator
open Pass

def Turn.statusAfter : Turn → Option SchedulerStatus → Option SchedulerStatus
  | ⟨.writeStatus _ _ status, .ok _⟩, _ => some status
  | _, before => before

def statusAfter (turns : List Turn) (before : Option SchedulerStatus) : Option SchedulerStatus :=
  turns.foldl (fun status t => t.statusAfter status) before

theorem statusAfter_append (front back : List Turn) (before : Option SchedulerStatus) :
    statusAfter (front ++ back) before = statusAfter back (statusAfter front before) :=
  List.foldl_append

theorem Turn.statusAfter_of_op {t : Turn} (other : t.call.op ≠ .writeStatus)
    (before : Option SchedulerStatus) : t.statusAfter before = before := by
  obtain ⟨c, reply⟩ := t
  cases c with
  | writeStatus ns name status => exact absurd rfl other
  | _ => rfl

theorem statusAfter_of_ops {turns : List Turn} (other : ∀ t ∈ turns, t.call.op ≠ .writeStatus)
    (before : Option SchedulerStatus) : statusAfter turns before = before := by
  induction turns with
  | nil => rfl
  | cons t rest ih =>
    change statusAfter rest (t.statusAfter before) = before
    rw [t.statusAfter_of_op (other t List.mem_cons_self),
      ih fun t mem => other t (List.mem_cons_of_mem _ mem)]

/-- A write to the root which found that there is none. -/
def Turn.LosesRoot (t : Turn) : Prop :=
  (t.call.op = .setFinalizers ∨ t.call.op = .writeStatus) ∧ ∃ e, t.reply = .error e ∧ e.isNotFound

/-- The delay that goes with a phase in which a pass may end. -/
def PassDelays.after? (timing : PassDelays) : Phase → Option Nat
  | .prerequisitesMissing => some timing.prerequisitesMissing
  | .deploying => some timing.notReady
  | .ready => some timing.steady
  | .initializing | .finalizing => none

namespace Engine
open Cluster Step
variable {g : Engine} {k : RootKey} {r : InferenceScheduler} {before : List Turn} {plan : Plan}
  {may : List Turn → StoreCall → Prop}

theorem acceptSpec_leaves (r : InferenceScheduler) : (g.acceptSpec r).LeavesStored := by
  unfold acceptSpec
  cases Plan.resolve r with
  | ok plan => exact leaves_bind leaves_setCondition fun _ => leaves_pure plan
  | error e =>
    exact leaves_bind leaves_setCondition fun _ => leaves_bind (leaves_move g _) fun _ => leaves_fail _

theorem preflight_leaves (plan : Plan) : (g.preflight plan).LeavesStored := by
  refine leaves_bind (leaves_outcome _) fun found => ?_
  rcases found with e | _ | items
  · exact leaves_bind leaves_setCondition fun _ => leaves_bind (leaves_move g _) fun _ => leaves_fail _
  · exact leaves_bind (leaves_update fun _ => rfl) fun _ => leaves_bind leaves_setCondition fun _ =>
      leaves_bind (leaves_move g _) fun _ => leaves_pure none
  · exact leaves_bind (leaves_update fun _ => rfl) fun _ => leaves_bind leaves_setCondition fun _ =>
      leaves_bind (later_leaves _) fun wait => leaves_pure (some wait)

theorem alignment_leaves (r : InferenceScheduler) : (g.alignment r).LeavesStored := by
  refine leaves_bind (acceptSpec_leaves r) fun plan => leaves_bind (preflight_leaves plan) fun found => ?_
  cases found with
  | some wait => exact leaves_pure wait
  | none => exact writeChildren_leaves _ _ _

theorem lastPhase_concat (notes : List Note) (p : Phase) (old : Option Phase) :
    Note.lastPhase (notes ++ [.phase p]) old = some p := by
  rw [Note.lastPhase, List.foldl_append]
  rfl

theorem Builds.waits_for {kinds : List ChildKind} {turns : List Turn} {wait : Requeue}
    {notes : List Note} (builds : g.Builds plan kinds turns (.ok wait) notes) (old : Option Phase) :
    ∃ phase d, Note.lastPhase notes old = some phase ∧ wait = .after d ∧
      g.settings.timing.after? phase = some d := by
  generalize result : Except.ok wait = out at builds
  induction builds generalizing old with
  | complete =>
    cases result
    exact ⟨.ready, _, rfl, rfl, rfl⟩
  | failed => cases result
  | waits unready =>
    cases result
    exact ⟨.deploying, _, lastPhase_concat _ _ _, rfl, rfl⟩
  | further written ready more ih =>
    obtain ⟨phase, d, last, rest⟩ := ih (Note.lastPhase _ old) result
    exact ⟨phase, d, (List.foldl_append ..).trans last, rest⟩

theorem Aligns.waits_for {turns : List Turn} {wait : Requeue} {notes : List Note}
    (aligns : g.Aligns r turns (.ok wait) notes) (old : Option Phase) :
    ∃ phase d, Note.lastPhase notes old = some phase ∧ wait = .after d ∧
      g.settings.timing.after? phase = some d := by
  cases aligns with
  | missing resolved => exact ⟨.prerequisitesMissing, _, rfl, rfl, rfl⟩
  | children resolved quiet builds =>
    obtain ⟨phase, d, last, rest⟩ := builds.waits_for (Note.lastPhase _ old)
    exact ⟨phase, d, (List.foldl_append ..).trans last, rest⟩

/-- The statuses that a pass stores, having read `r` first. -/
inductive Stores (g : Engine) (r : InferenceScheduler) (before : List Turn) :
    SchedulerStatus → Prop where
  | observed (alive : r.metadata.deletionTimestamp = none)
      (unknown : (r.status.getD {}).phase = none) (first : statusAfter before r.status = r.status) :
      Stores g r before r.observed
  | aligned {base status : SchedulerStatus} {turns : List Turn}
      {out : Except ReconcileError Requeue} {notes : List Note}
      (alive : r.metadata.deletionTimestamp = none)
      (stored : statusAfter before r.status = some base)
      (same : { base with observedGeneration := r.metadata.generation } = r.observed)
      (aligns : g.Aligns r turns out notes)
      (entered : Entered r.metadata.generation notes r.observed status) : Stores g r before status
  | withdrawn (deleted : r.metadata.deletionTimestamp.isSome)
      (first : statusAfter before r.status = r.status) : Stores g r before
      { r.status.getD {} with
        phase := some .finalizing
        observedGeneration := r.metadata.generation }

def StatusWrite (g : Engine) (k : RootKey) (before : List Turn) : StoreCall → Prop
  | .writeStatus ns name status => ∃ r, Snapshot k r before ∧
      (Located k r → ns = k.namespace_ ∧ name = k.name) ∧ g.Stores r before status
  | _ => True

def Returns (g : Engine) (k : RootKey) (before : List Turn) : Except ReconcileError Requeue → Prop
  | .ok .never => (∃ rest, before = ⟨.getRoot k.namespace_ k.name, .ok none⟩ :: rest) ∨
      (∃ r, Snapshot k r before ∧ r.metadata.deletionTimestamp.isSome) ∨ ∃ t ∈ before, t.LosesRoot
  | .ok (.after d) => ∃ r status phase, Snapshot k r before ∧ r.metadata.deletionTimestamp = none ∧
      statusAfter before r.status = some status ∧ status.phase = some phase ∧
      g.settings.timing.after? phase = some d ∧ status.observedGeneration = r.metadata.generation
  | .error _ => True

theorem current_of_unchanged {b : StatusBoard} (unchanged : b.changed = false) :
    b.current = b.stored := by
  simpa [StatusBoard.changed] using unchanged

theorem statusAfter_stored {ns name : String} {status : SchedulerStatus}
    {stored : Option SchedulerStatus} :
    statusAfter (before ++ [⟨.writeStatus ns name status, .ok ()⟩]) stored = some status := by
  rw [statusAfter_append]
  rfl

theorem statusAfter_refused {ns name : String} {status : SchedulerStatus} {e : StoreError}
    {stored : Option SchedulerStatus} :
    statusAfter (before ++ [⟨.writeStatus ns name status, .error e⟩]) stored =
      statusAfter before stored := by
  rw [statusAfter_append]
  rfl

/-- How far the work on `r` has come, and what is stored by then. -/
inductive Came (g : Engine) (r : InferenceScheduler) (later : List Turn) :
    Except ReconcileError Requeue × StatusBoard → Prop where
  | unstored {e : ReconcileError} {b : StatusBoard} (unknown : (r.status.getD {}).phase = none)
      (first : statusAfter later r.status = r.status) (current : b.current = r.observed) :
      Came g r later (.error e, b)
  | aligned {b : StatusBoard} {turns : List Turn} {out : Except ReconcileError Requeue}
      {notes : List Note} (stored : statusAfter later r.status = some b.stored)
      (same : { b.stored with observedGeneration := r.metadata.generation } = r.observed)
      (aligns : g.Aligns r turns out notes)
      (entered : Entered r.metadata.generation notes r.observed b.current) : Came g r later (out, b)

theorem statusAfter_spared {turns : List Turn} (spares : ∀ t ∈ turns, t.call.SparesRoot)
    (stored : Option SchedulerStatus) :
    statusAfter (before ++ turns) stored = statusAfter before stored := by
  rw [statusAfter_append, statusAfter_of_ops fun t mem => (spares t mem).2]

theorem conforms_spared {α : Type} {ends : List Turn → α → Prop} {p : Pass α}
    (spares : Conforms (fun _ c => c.SparesRoot) ends before p)
    (allowed : ∀ later c, c.SparesRoot → may later c) :
    Conforms may (fun later a => ends later a ∧ ∀ stored,
      statusAfter later stored = statusAfter before stored) before p :=
  .of_runs (fun c => c.SparesRoot) (spares.mono fun _ _ _ => trivial) allowed
    fun _ _ run sorts => ⟨spares.at_end run, statusAfter_spared sorts⟩

theorem conforms_aligned {b : StatusBoard} (spares : ∀ later c, c.SparesRoot → may later c)
    (stored : statusAfter before r.status = some b.stored)
    (same : { b.stored with observedGeneration := r.metadata.generation } = r.observed)
    (current : b.current = r.observed) (generation : b.generation = r.metadata.generation) :
    Conforms may (g.Came r) before ((g.alignment r).run b) := by
  have told := (alignment_tells (g := g) r before b).and (alignment_leaves (g := g) r before b)
  refine (conforms_spared (told.allow fun _ _ held => held.1) spares).mono ?_
  rintro later ⟨out, b'⟩ ⟨⟨⟨turns, notes, _, aligns, _, entered⟩, left⟩, after⟩
  rw [generation, current] at entered
  have left : b'.stored = b.stored := left
  exact .aligned (by rw [after, stored, left]) (by rw [left]; exact same) aligns entered

theorem observed_of_known {p : Phase} (known : (r.status.getD {}).phase = some p) :
    { r.status.getD {} with observedGeneration := r.metadata.generation } = r.observed := by
  simp only [InferenceScheduler.observed, known, Option.getD_some]

theorem status_of_known {p : Phase} (known : (r.status.getD {}).phase = some p) :
    r.status = some (r.status.getD {}) := by
  cases stored : r.status with
  | none =>
    rw [stored] at known
    cases known
  | some status => rfl

theorem conforms_brought (spares : ∀ later c, c.SparesRoot → may later c)
    (first : statusAfter before r.status = r.status)
    (allowed : (r.status.getD {}).phase = none →
      may before (.writeStatus (r.namespaceOr "default") r.name r.observed)) :
    Conforms may (g.Came r) before
      ((g.bringInLine r).run (.start r.status r.metadata.generation)) := by
  rw [bringInLine_eq]
  refine conforms_step.mpr (Conforms.observeFirst (fun known => ?_) fun unknown => ?_)
  · obtain ⟨p, phase⟩ : ∃ p, (r.status.getD {}).phase = some p := Option.isSome_iff_exists.mp known
    exact conforms_aligned spares (first.trans (status_of_known phase)) (observed_of_known phase)
      (observed_of_known phase) rfl
  · have phase : (r.status.getD {}).phase = none := unknown
    refine Conforms.saveStatus (fun _ => allowed phase) (fun unchanged => ?_) ?_ fun e => ?_
    · have equal : r.observed = r.status.getD {} := current_of_unchanged unchanged
      cases (congrArg SchedulerStatus.phase equal).trans phase
    · exact conforms_aligned spares statusAfter_stored rfl rfl rfl
    · exact .unstored phase (statusAfter_refused.trans first) rfl

theorem losesRoot_writeStatus {ns name : String} {status : SchedulerStatus} {e : StoreError}
    (gone : e.isNotFound = true) :
    Turn.LosesRoot ⟨.writeStatus ns name status, .error e⟩ := ⟨.inr rfl, e, rfl, gone⟩

theorem returns_wait {later : List Turn} {turns : List Turn} {wait : Requeue}
    {status : SchedulerStatus} {notes : List Note} (snapshot : Snapshot k r later)
    (alive : r.metadata.deletionTimestamp = none) (aligns : g.Aligns r turns (.ok wait) notes)
    (entered : Entered r.metadata.generation notes r.observed status)
    (stored : statusAfter later r.status = some status) : g.Returns k later (.ok wait) := by
  obtain ⟨phase, d, last, rfl, delay⟩ := aligns.waits_for r.observed.phase
  exact ⟨r, status, phase, snapshot, alive, stored, (Note.lastPhase_of_entered entered).trans last,
    delay, entered.observedGeneration⟩

theorem conforms_concluded {out : Except ReconcileError Requeue × StatusBoard}
    (came : g.Came r before out) (snapshot : Snapshot k r before)
    (alive : r.metadata.deletionTimestamp = none) :
    Conforms (g.StatusWrite k) (g.Returns k) before (conclude k.namespace_ k.name out) := by
  obtain ⟨result, b⟩ := out
  have justified : g.Stores r before b.current := by
    cases came with
    | unstored unknown first current => exact current ▸ .observed alive unknown first
    | aligned stored same aligns entered => exact .aligned alive stored same aligns entered
  refine Conforms.conclude
    (fun _ => ⟨r, snapshot, fun _ => ⟨rfl, rfl⟩, justified⟩) (fun unchanged => ?_) ?_ fun e => ?_
  · cases came with
    | unstored => trivial
    | aligned stored same aligns entered =>
      cases result with
      | error e => trivial
      | ok wait =>
        refine returns_wait snapshot alive aligns entered ?_
        rw [stored, current_of_unchanged unchanged]
  · cases came with
    | unstored => trivial
    | aligned stored same aligns entered =>
      cases result with
      | error e => trivial
      | ok wait => exact returns_wait (snapshot.append _) alive aligns entered statusAfter_stored
  · unfold unstored
    split
    · rename_i gone
      exact .inr (.inr ⟨_, List.mem_append_right _ List.mem_cons_self, losesRoot_writeStatus gone⟩)
    · cases result <;> trivial

theorem conforms_marked :
    Conforms (g.StatusWrite k) (fun later out => statusAfter later r.status = r.status ∧
      ∀ e, out = .error e → e.isNotFound = true → ∃ t ∈ later, t.LosesRoot)
      (opening k r) (ExceptT.run r.ensureMarker) := by
  refine Conforms.ensureMarker (fun _ => ⟨rfl, nofun⟩) fun _ => ⟨trivial, fun e => ⟨rfl, ?_⟩, rfl, nofun⟩
  rintro _ ⟨⟩ gone
  exact ⟨_, List.mem_append_right _ List.mem_cons_self, .inl rfl, e, rfl, gone⟩

theorem statusWrite_of_op {c : StoreCall} (other : c.op ≠ .writeStatus) : g.StatusWrite k before c := by
  cases c with
  | writeStatus ns name status => exact absurd rfl other
  | _ => trivial

theorem statusWrite_of_spares {c : StoreCall} (spares : c.SparesRoot) : g.StatusWrite k before c :=
  statusWrite_of_op spares.2

theorem conforms_keeps (alive : r.metadata.deletionTimestamp = none) :
    Conforms (g.StatusWrite k) (g.Returns k) (opening k r) (g.upkeep k.namespace_ k.name r) := by
  refine conforms_bind.mpr (conforms_marked.grows.mono ?_)
  rintro later (e | _) ⟨⟨first, lost⟩, more⟩
  · change g.Returns k later (if e.isNotFound = true then _ else _)
    split
    · rename_i gone
      exact .inr (.inr (lost e rfl gone))
    · trivial
  · obtain ⟨front, rfl⟩ := more
    have snapshot : Snapshot k r (opening k r ++ front) := snapshot_opening front
    have brought : Conforms (g.StatusWrite k) (g.Came r) (opening k r ++ front)
        ((g.bringInLine r).run (.start r.status r.metadata.generation)) :=
      conforms_brought (fun _ _ => statusWrite_of_spares) first fun unknown =>
        ⟨r, snapshot, fun located => located.place "default", .observed alive unknown first⟩
    refine conforms_bind.mpr (brought.grows.mono ?_)
    rintro later out ⟨came, back, rfl⟩
    exact conforms_concluded came (snapshot.append back) alive

theorem returns_deleted {later : List Turn} {out : Except ReconcileError Requeue}
    (snapshot : Snapshot k r later) (deleted : r.metadata.deletionTimestamp.isSome)
    (unhurried : ∀ wait, out = .ok wait → wait = .never) : g.Returns k later out := by
  cases out with
  | error e => trivial
  | ok wait =>
    obtain rfl := unhurried wait rfl
    exact .inr (.inl ⟨r, snapshot, deleted⟩)

theorem returns_unlessGone {later : List Turn} (snapshot : Snapshot k r later)
    (deleted : r.metadata.deletionTimestamp.isSome) (e : StoreError) :
    g.Returns k later (unlessGone e) := by
  refine returns_deleted snapshot deleted ?_
  unfold unlessGone
  split
  · rintro _ ⟨⟩
    rfl
  · nofun

theorem conforms_lets_go {root : InferenceScheduler} (snapshot : Snapshot k r before)
    (deleted : r.metadata.deletionTimestamp.isSome) :
    Conforms (g.StatusWrite k) (g.Returns k) before (g.release root) := by
  have ended : ∀ later, Snapshot k r later → g.Returns k later (.ok .never) :=
    fun later snapshot => returns_deleted snapshot deleted (by rintro _ ⟨⟩; rfl)
  refine Conforms.release (Snapshot k r) (fun _ => ended _ snapshot) (fun _ => snapshot)
    (fun _ => ?_) fun later snapshot => ⟨trivial, fun e => ?_, ended _ (snapshot.append _)⟩
  · refine ((sweep_spares _).allow fun _ _ => statusWrite_of_spares).grows.mono ?_
    rintro later (e | _) ⟨_, more, rfl⟩
    · exact returns_unlessGone (snapshot.append more) deleted e
    · exact snapshot.append more
  · exact returns_unlessGone (snapshot.append _) deleted e

theorem conforms_tornDown (deleted : r.metadata.deletionTimestamp.isSome) :
    Conforms (g.StatusWrite k) (g.Returns k) (opening k r) (g.tearDown r) := by
  have snapshot : Snapshot k r (opening k r) := ⟨[], rfl⟩
  refine Conforms.tearDown (fun _ => returns_deleted snapshot deleted (by rintro _ ⟨⟩; rfl))
    (fun _ => conforms_lets_go snapshot deleted) fun _ _ => ⟨?_, fun e => ?_, trivial, ?_⟩
  · exact ⟨r, snapshot, fun located => located.place "default", .withdrawn deleted rfl⟩
  · exact returns_unlessGone (snapshot.append _) deleted e
  · rintro (e | _ | root)
    · trivial
    · exact returns_deleted ((snapshot.append _).append _) deleted (by rintro _ ⟨⟩; rfl)
    · exact conforms_lets_go ((snapshot.append _).append _) deleted

/-- What a pass stores and returns, whatever the store replies. -/
theorem reconcile_stores (g : Engine) (k : RootKey) :
    Conforms (g.StatusWrite k) (g.Returns k) [] (g.reconcile k.namespace_ k.name) :=
  Conforms.reconcile trivial (fun _ => trivial) (.inl ⟨[], rfl⟩) (fun _ => conforms_tornDown)
    fun _ => conforms_keeps

/-- A root that is there and is not being deleted is looked at again, unless it vanished while
the pass wrote to it: the pass fails, or returns the delay of the phase that it ended in, and
that phase is stored. -/
theorem live_root_is_looked_at_again (g : Engine) (k : RootKey) {trace : List Turn}
    {result : Except ReconcileError Requeue}
    (run : Runs (g.reconcile k.namespace_ k.name) trace result) :
    (result = .ok .never →
      (∃ rest, trace = ⟨.getRoot k.namespace_ k.name, .ok none⟩ :: rest) ∨
      (∃ r, Snapshot k r trace ∧ r.metadata.deletionTimestamp.isSome) ∨
      ∃ t ∈ trace, t.LosesRoot) ∧
    ∀ d, result = .ok (.after d) → ∃ r status phase,
      Snapshot k r trace ∧ r.metadata.deletionTimestamp = none ∧
      statusAfter trace r.status = some status ∧ status.phase = some phase ∧
      g.settings.timing.after? phase = some d ∧
      status.observedGeneration = r.metadata.generation := by
  have returns : g.Returns k ([] ++ trace) result := (reconcile_stores g k).at_end run
  rw [List.nil_append] at returns
  constructor
  · rintro rfl
    exact returns
  · rintro d rfl
    exact returns

theorem fresh_root_is_looked_at_again : ∃ trace r status,
    Runs ((Engine.mk .builtin {}).reconcile "default" "demo") trace (.ok (.after 300)) ∧
    Snapshot ⟨"default", "demo"⟩ r trace ∧ statusAfter trace r.status = some status ∧
    status.phase = some .ready := by
  have passed : (((Engine.mk .builtin {}).reconcile "default" "demo").run (Cluster.asStore "")
      Cluster.fresh).1 = .ok (.after 300) := by decide +kernel
  have ran := runsOn_run (Cluster.asStore "") ((Engine.mk .builtin {}).reconcile "default" "demo")
    Cluster.fresh
  rw [passed] at ran
  obtain ⟨trace, run⟩ := runs_of_runsOn ran
  obtain ⟨_, again⟩ := live_root_is_looked_at_again (Engine.mk .builtin {}) ⟨"default", "demo"⟩ run
  obtain ⟨r, status, phase, snapshot, _, stored, reached, delay, _⟩ := again 300 rfl
  refine ⟨trace, r, status, run, snapshot, stored, ?_⟩
  rw [reached]
  cases phase with
  | ready => rfl
  | prerequisitesMissing | deploying | initializing | finalizing => cases delay

end Engine
end SchedulerOperator
