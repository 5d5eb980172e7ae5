import SchedulerOperator.Proofs.Trace

/-!
The stretches of a pass, each taken apart once: where it may make its calls, and what it comes to
for each reply, it conforms.
-/
namespace SchedulerOperator

namespace Engine
open Pass
variable (g : Engine)

/-- The pass over a root that is not being deleted, once the root was read. -/
def upkeep (ns name : String) (r : InferenceScheduler) : Pass (Except ReconcileError Requeue) :=
  (ExceptT.run r.ensureMarker).bind fun
    | .error e => .done (if e.isNotFound then .ok .never else .error (.store e))
    | .ok _ =>
      ((g.bringInLine r).run (.start r.status r.metadata.generation)).bind (conclude ns name)

/-- What comes of a failed write to the root itself: a root that is gone is no failure. -/
def unlessGone (e : StoreError) : Except ReconcileError Requeue :=
  if e.isNotFound then .ok .never else .error (.store e)

/-- What a pass comes to if its last status cannot be stored. -/
def unstored (result : Except ReconcileError Requeue) (e : StoreError) :
    Except ReconcileError Requeue :=
  if e.isNotFound then .ok .never
  else match result with
    | .error step => .error step
    | .ok _ => .error (.store e)

def withdrawal (r : InferenceScheduler) : StatusBoard :=
  (StatusBoard.start r.status r.metadata.generation).setPhase .finalizing

theorem tearDown_unmarked {r : InferenceScheduler} (unmarked : r.hasMarker = false) :
    g.tearDown r = .done (.ok .never) := by
  unfold tearDown
  rw [unmarked]
  rfl

def reread (r : InferenceScheduler) : Pass (Except ReconcileError Requeue) :=
  .call (.getRoot (r.namespaceOr "default") r.name) fun
    | .error e => .done (.error (.store e))
    | .ok none => .done (.ok .never)
    | .ok (some fresh) => g.release fresh

end Engine

namespace Pass.Conforms
variable {may : List Turn → StoreCall → Prop} {before : List Turn} {g : Engine}
  {r root : InferenceScheduler} {ns name : String}

theorem saveStatus {ends : List Turn → Except StoreError Unit × StatusBoard → Prop} {b : StatusBoard}
    (stores : b.changed = true → may before (.writeStatus ns name b.current))
    (same : b.changed = false → ends before (.ok (), b))
    (stored : ends (before ++ [⟨.writeStatus ns name b.current, .ok ()⟩]) (.ok (), b.saved))
    (refused : ∀ e, ends (before ++ [⟨.writeStatus ns name b.current, .error e⟩]) (.error e, b)) :
    Conforms may ends before (Engine.saveStatus ns name b) := by
  unfold Engine.saveStatus
  cases changed : b.changed with
  | false => exact same changed
  | true =>
    refine ⟨stores changed, ?_⟩
    rintro (e | _)
    · exact refused e
    · exact stored

theorem conclude {ends : List Turn → Except ReconcileError Requeue → Prop}
    {result : Except ReconcileError Requeue} {b : StatusBoard}
    (stores : b.changed = true → may before (.writeStatus ns name b.current))
    (same : b.changed = false → ends before result)
    (stored : ends (before ++ [⟨.writeStatus ns name b.current, .ok ()⟩]) result)
    (refused : ∀ e, ends (before ++ [⟨.writeStatus ns name b.current, .error e⟩])
      (Engine.unstored result e)) :
    Conforms may ends before (Engine.conclude ns name (result, b)) := by
  refine conforms_bind.mpr (saveStatus stores same stored fun e => ?_)
  specialize refused e
  unfold Engine.unstored at refused
  change Conforms may ends _ (if e.isNotFound = true then _ else _)
  split at refused
  next gone =>
    rw [if_pos gone]
    exact refused
  next kept =>
    rw [if_neg kept]
    cases result <;> exact refused

theorem observeFirst {ends : List Turn → Except ReconcileError Unit × StatusBoard → Prop}
    {b : StatusBoard} (known : b.stored.phase.isSome → ends before (.ok (), b))
    (stores : b.stored.phase = none → Conforms may
      (fun later out => ends later (out.1.mapError .store, out.2)) before
      (Engine.saveStatus ns name (b.setPhase (b.current.phase.getD .initializing)))) :
    Conforms may ends before ((g.observeFirst ns name).run b) := by
  change Conforms _ _ _ ((if b.stored.phase.isNone = true then _ else _ : Step Unit).run b)
  cases phase : b.stored.phase with
  | some p => exact known (by rw [phase]; rfl)
  | none =>
    change Conforms _ _ _ (Pass.bind (Engine.saveStatus ns name _) _)
    refine conforms_bind.mpr ((stores phase).mono ?_)
    rintro later ⟨e | _, b'⟩ held <;> exact held

theorem ensureMarker {ends : List Turn → Except StoreError Bool → Prop}
    (there : r.hasMarker = true → ends before (.ok false))
    (attaches : r.hasMarker = false →
      may before (.setFinalizers r (r.finalizers ++ [finalizerMarker])) ∧
      (∀ e, ends (before ++ [⟨.setFinalizers r (r.finalizers ++ [finalizerMarker]), .error e⟩])
        (.error e)) ∧
      ends (before ++ [⟨.setFinalizers r (r.finalizers ++ [finalizerMarker]), .ok ()⟩]) (.ok true)) :
    Conforms may ends before (ExceptT.run r.ensureMarker) := by
  unfold InferenceScheduler.ensureMarker
  cases marker : r.hasMarker with
  | true => exact there marker
  | false =>
    obtain ⟨allowed, refused, attached⟩ := attaches marker
    refine conforms_attempt.mpr ⟨allowed, ?_⟩
    rintro (e | _)
    · exact refused e
    · exact attached

/-- Of the children some are `left` to be deleted at each moment of a sweep. -/
theorem sweep (left : List Turn → List (ResourceType × String) → Prop) {registry : TypeRegistry}
    {ends : List Turn → Except StoreError Unit → Prop} {keys : List (ResourceType × String)}
    (start : left before keys) (done : ∀ later, left later [] → ends later (.ok ()))
    (deletes : ∀ later key rest, left later (key :: rest) →
      may later (.delete (registry.api key.1) (key.1.within ns) key.2) ∧
      left (later ++ [⟨.delete (registry.api key.1) (key.1.within ns) key.2, .ok ()⟩]) rest ∧
      ∀ e, if e.isNotFound || e.isNoMatchingType then
          left (later ++ [⟨.delete (registry.api key.1) (key.1.within ns) key.2, .error e⟩]) rest
        else
          ends (later ++ [⟨.delete (registry.api key.1) (key.1.within ns) key.2, .error e⟩])
            (.error e)) :
    Conforms may ends before (ExceptT.run (InferenceScheduler.sweep registry ns keys)) := by
  induction keys generalizing before with
  | nil => exact done before start
  | cons key rest ih =>
    obtain ⟨allowed, deleted, failed⟩ := deletes before key rest start
    refine conforms_attempt.mpr ⟨allowed, ?_⟩
    rintro (e | _)
    · change Conforms _ _ _ (ExceptT.run (if _ then _ else _))
      specialize failed e
      split at failed
      next harmless =>
        rw [if_pos harmless]
        exact ih failed
      next grave =>
        rw [if_neg grave]
        exact failed
    · exact ih deleted

theorem letGo (swept : List Turn → Prop) {registry : TypeRegistry} {policy : CleanupPolicy}
    {ends : List Turn → Except StoreError ReleaseOutcome → Prop}
    (left : root.hasMarker = false → ends before (.ok .notPresent))
    (cascades : policy = .cascade → swept before)
    (sweeps : policy = .sweep →
      Conforms may (fun later out => match out with
        | .ok _ => swept later
        | .error e => ends later (.error e)) before
      (ExceptT.run (InferenceScheduler.sweep registry (root.namespaceOr "")
        (childKeys root.name).reverse)))
    (drops : ∀ later, swept later → may later (.setFinalizers root root.withoutMarker) ∧
      (∀ e, ends (later ++ [⟨.setFinalizers root root.withoutMarker, .error e⟩]) (.error e)) ∧
      ends (later ++ [⟨.setFinalizers root root.withoutMarker, .ok ()⟩]) (.ok .released)) :
    Conforms may ends before (ExceptT.run (root.release registry policy)) := by
  have dropped : ∀ later, swept later → Conforms may ends later (ExceptT.run (do
      let _ ← Attempt.request (.setFinalizers root root.withoutMarker)
      return ReleaseOutcome.released)) := by
    intro later done
    obtain ⟨allowed, refused, gone⟩ := drops later done
    refine conforms_attempt.mpr ⟨allowed, ?_⟩
    rintro (e | _)
    · exact refused e
    · exact gone
  unfold InferenceScheduler.release
  cases marker : root.hasMarker with
  | false => exact left marker
  | true =>
    cases policy with
    | cascade => exact dropped before (cascades rfl)
    | sweep =>
      refine conforms_attempt.mpr ((sweeps rfl).mono ?_)
      rintro later (e | _) held
      · exact held
      · exact dropped later held

theorem release (swept : List Turn → Prop) {ends : List Turn → Except ReconcileError Requeue → Prop}
    (left : root.hasMarker = false → ends before (.ok .never))
    (cascades : g.settings.cleanup = .cascade → swept before)
    (sweeps : g.settings.cleanup = .sweep →
      Conforms may (fun later out => match out with
        | .ok _ => swept later
        | .error e => ends later (Engine.unlessGone e)) before
      (ExceptT.run (InferenceScheduler.sweep g.registry (root.namespaceOr "")
        (childKeys root.name).reverse)))
    (drops : ∀ later, swept later → may later (.setFinalizers root root.withoutMarker) ∧
      (∀ e, ends (later ++ [⟨.setFinalizers root root.withoutMarker, .error e⟩])
        (Engine.unlessGone e)) ∧
      ends (later ++ [⟨.setFinalizers root root.withoutMarker, .ok ()⟩]) (.ok .never)) :
    Conforms may ends before (g.release root) := by
  refine conforms_bind.mpr (letGo swept left cascades (fun policy => ?_) drops)
  refine (sweeps policy).mono ?_
  rintro later (e | _) held
  · exact held
  · exact held

theorem tearDown {ends : List Turn → Except ReconcileError Requeue → Prop}
    (left : r.hasMarker = false → ends before (.ok .never))
    (known : r.hasMarker = true → Conforms may ends before (g.release r))
    (stores : r.hasMarker = true → (Engine.withdrawal r).changed = true →
      may before (.writeStatus (r.namespaceOr "default") r.name (Engine.withdrawal r).current) ∧
      (∀ e, ends (before ++ [⟨.writeStatus (r.namespaceOr "default") r.name
        (Engine.withdrawal r).current, .error e⟩]) (Engine.unlessGone e)) ∧
      Conforms may ends (before ++ [⟨.writeStatus (r.namespaceOr "default") r.name
        (Engine.withdrawal r).current, .ok ()⟩]) (g.reread r)) :
    Conforms may ends before (g.tearDown r) := by
  cases marker : r.hasMarker with
  | false =>
    rw [Engine.tearDown_unmarked g marker]
    exact left marker
  | true =>
    unfold Engine.tearDown
    rw [marker]
    change Conforms may ends before (if (!(Engine.withdrawal r).changed) = true then g.release r
      else (Engine.saveStatus (r.namespaceOr "default") r.name (Engine.withdrawal r)).bind _)
    cases changed : (Engine.withdrawal r).changed with
    | false => exact known marker
    | true =>
      obtain ⟨allowed, refused, looks, answered⟩ := stores marker changed
      refine conforms_bind.mpr (saveStatus (fun _ => allowed) (fun same => ?_) ⟨looks, ?_⟩ refused)
      · cases same.symm.trans changed
      · rintro (e | _ | fresh)
        · exact answered (.error e)
        · exact answered (.ok none)
        · exact answered (.ok (some fresh))

theorem reconcile {χ : Type} [History χ] {may : List χ → StoreCall → Prop}
    {ends : List χ → Except ReconcileError Requeue → Prop} (looks : may [] (.getRoot ns name))
    (unread : ∀ e, ends (History.note [] (.turn ⟨.getRoot ns name, .error e⟩)) (.error (.store e)))
    (absent : ends (History.note [] (.turn ⟨.getRoot ns name, .ok none⟩)) (.ok .never))
    (deleted : ∀ r, r.metadata.deletionTimestamp.isSome →
      Conforms may ends (History.note [] (.turn ⟨.getRoot ns name, .ok (some r)⟩)) (g.tearDown r))
    (alive : ∀ r, r.metadata.deletionTimestamp = none →
      Conforms may ends (History.note [] (.turn ⟨.getRoot ns name, .ok (some r)⟩))
        (g.upkeep ns name r)) :
    Conforms may ends [] (g.reconcile ns name) := by
  refine ⟨looks, ?_⟩
  rintro (e | _ | r)
  · exact unread e
  · exact absent
  · change Conforms _ _ _ (if r.metadata.deletionTimestamp.isSome then g.tearDown r
      else g.upkeep ns name r)
    cases gone : r.metadata.deletionTimestamp with
    | some time => exact deleted r (by rw [gone]; rfl)
    | none => exact alive r gone

end Pass.Conforms
end SchedulerOperator
