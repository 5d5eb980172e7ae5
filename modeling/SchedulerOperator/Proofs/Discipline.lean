import SchedulerOperator.Proofs.Changes
import SchedulerOperator.Proofs.ChildOrder
import SchedulerOperator.Proofs.Upkeep

/-!
What a pass allows itself: it attaches the marker right after it read its root and only to what it
read, and everything else that it writes it writes while it holds the root by the marker.
-/
namespace SchedulerOperator.Engine
open Cluster Pass
variable {k : RootKey} {r : InferenceScheduler} {before : List Turn} {g : Engine} {α β : Type}

def Snapshot (k : RootKey) (r : InferenceScheduler) (before : List Turn) : Prop :=
  ∃ rest, before = ⟨.getRoot k.namespace_ k.name, .ok (some r)⟩ :: rest

/-- The root that was read carries the marker, and the pass has not tried to take it off. -/
structure Holding (k : RootKey) (r : InferenceScheduler) (before : List Turn) : Prop where
  snapshot : Snapshot k r before
  marked : Marked r before
  attached : ∀ t ∈ before, ∀ root finalizers, t.call = .setFinalizers root finalizers →
    finalizerMarker ∈ finalizers

/-- What a pass over `k` may call. Reading is free, and so is deleting. -/
def MayDo (k : RootKey) (before : List Turn) : StoreCall → Prop
  | .setFinalizers root finalizers =>
    (before = [⟨.getRoot k.namespace_ k.name, .ok (some root)⟩] ∧ finalizerMarker ∈ finalizers) ∨
      ∃ r, Holding k r before ∧
        (Located k r → ⟨.getRoot k.namespace_ k.name, .ok (some root)⟩ ∈ before)
  | .writeStatus ns name _ =>
    ∃ r, Holding k r before ∧ (Located k r → ns = k.namespace_ ∧ name = k.name)
  | .create _ _ object =>
    ∃ r, Holding k r before ∧ ∀ uid, isOwnedBy uid object = true → r.metadata.uid = some uid
  | .replace api ns name object =>
    ∃ r existing, Holding k r before ∧ ⟨.get api ns name, .ok (some existing)⟩ ∈ before ∧
      resourceVersion object = resourceVersion existing ∧
      ∀ uid, isOwnedBy uid object = true →
        r.metadata.uid = some uid ∨ isOwnedBy uid existing = true
  | _ => True

theorem Holding.after (holding : Holding k r before) (t : Turn)
    (attaches : ∀ root finalizers, t.call = .setFinalizers root finalizers →
      finalizerMarker ∈ finalizers) : Holding k r (before ++ [t]) := by
  obtain ⟨rest, first⟩ := holding.snapshot
  refine ⟨⟨rest ++ [t], by rw [first, List.cons_append]⟩, holding.marked.append _, ?_⟩
  intro u mem
  rcases List.mem_append.mp mem with earlier | last
  · exact holding.attached u earlier
  · rw [List.mem_singleton.mp last]
    exact attaches

/-- A stretch of a pass that keeps to what it may do as long as it holds the root, and holds
it afterwards. -/
def Steady (k : RootKey) (r : InferenceScheduler) (p : Pass α) : Prop :=
  ∀ before, Holding k r before →
    Conforms (MayDo k) (fun later _ => Holding k r later) before p

theorem steady_done (a : α) : Steady k r (.done a) := fun _ holding => holding

theorem steady_clock {next : String → Pass α} (rest : ∀ time, Steady k r (next time)) :
    Steady k r (.clock next) := fun before holding time => rest time before holding

theorem steady_call {c : StoreCall} {next : c.Reply → Pass α}
    (allowed : ∀ before, Holding k r before → MayDo k before c)
    (attaches : ∀ root finalizers, c ≠ .setFinalizers root finalizers)
    (rest : ∀ reply, Steady k r (next reply)) : Steady k r (.call c next) := by
  intro before holding
  refine ⟨allowed before holding, fun reply => rest reply _ (holding.after _ ?_)⟩
  exact fun root finalizers same => absurd same (attaches root finalizers)

theorem steady_bind {p : Pass α} {f : α → Pass β} (first : Steady k r p)
    (rest : ∀ a, Steady k r (f a)) : Steady k r (p.bind f) := by
  intro before holding
  exact conforms_bind.mpr ((first before holding).mono fun later a held => rest a later held)

theorem steady_attempt {x : Attempt α} {f : α → Attempt β}
    (first : Steady k r (ExceptT.run x)) (rest : ∀ a, Steady k r (ExceptT.run (f a))) :
    Steady k r (ExceptT.run (x >>= f)) := by
  refine steady_bind first fun out => ?_
  cases out with
  | ok a => exact rest a
  | error e => exact steady_done _

theorem steady_step {x : Step α} {f : α → Step β} {b : StatusBoard}
    (first : Steady k r (x.run b)) (rest : ∀ a b, Steady k r ((f a).run b)) :
    Steady k r ((x >>= f : Step β).run b) := by
  refine steady_bind first fun out => ?_
  obtain ⟨e | a, b⟩ := out
  · exact steady_done _
  · exact rest a b

theorem steady_outcome {x : Attempt α} {b : StatusBoard} (calls : Steady k r (ExceptT.run x)) :
    Steady k r ((Step.outcome x).run b) := steady_bind calls fun _ => steady_done _

theorem steady_read {c : StoreCall} {next : c.Reply → Pass α} (reads : c.op = .get ∨ c.op = .list)
    (rest : ∀ reply, Steady k r (next reply)) : Steady k r (.call c next) := by
  refine steady_call (fun before _ => ?_) (fun root finalizers same => ?_) rest
  · cases c <;> first
      | trivial
      | simp [StoreCall.op] at reads
  · rw [same] at reads
    simp [StoreCall.op] at reads

theorem steady_probe {ns name : String} :
    Steady k r (ExceptT.run (Replicas.probe g.registry ns name)) := by
  refine steady_attempt (steady_read (.inl rfl) steady_done) fun found => ?_
  cases found with
  | none => exact steady_done _
  | some v =>
    dsimp only
    split <;> exact steady_done _

theorem steady_lists {earlier : List Turn} {p : Pass α}
    (only : Conforms (fun _ c => c.op = .list) (fun _ _ => True) earlier p) : Steady k r p := by
  induction p generalizing earlier with
  | done a => exact steady_done a
  | call c next ih => exact steady_read (.inr only.1) fun reply => ih reply (only.2 reply)
  | clock next ih => exact steady_clock fun time => ih time (only time)

theorem steady_saveStatus {ns name : String} {b : StatusBoard}
    (here : Located k r → ns = k.namespace_ ∧ name = k.name) :
    Steady k r (saveStatus ns name b) :=
  fun _ holding => Conforms.saveStatus (fun _ => ⟨r, holding, here⟩) (fun _ => holding)
    (holding.after _ (by simp)) fun _ => holding.after _ (by simp)

theorem steady_write {d : ChildObject} (owned : r.metadata.uid = some d.owner.uid) :
    Steady k r (ExceptT.run (d.write g.registry)) := by
  intro before holding
  refine conforms_attempt.mpr ⟨trivial, fun reply => ?_⟩
  have read := holding.after ⟨.get (g.registry.api d.resource) (d.resource.within d.namespace_)
    d.name, reply⟩ (by simp)
  rcases reply with e | _ | existing
  · exact read
  · refine conforms_attempt.mpr ⟨⟨r, read, fun uid named => ?_⟩, fun made => ?_⟩
    · rw [owned, ChildObject.created_owner named]
    · cases made <;> exact read.after _ (by simp)
  · refine conforms_attempt.mpr ⟨⟨r, existing, read, ?_, ?_, fun uid named => ?_⟩, fun made => ?_⟩
    · exact List.mem_append_right _ (List.mem_singleton.mpr rfl)
    · exact ChildObject.replacement_version existing
    · rw [owned]
      exact (ChildObject.replacement_owner named).imp_left fun same => by rw [same]
    · cases made <;> exact read.after _ (by simp)

theorem steady_noteFailure {kind : ChildKind} {message : String} {e : ReconcileError}
    {b : StatusBoard} :
    Steady k r ((do g.noteFailure kind message; Step.fail e : Step α).run b) :=
  steady_clock fun _ => steady_done _

theorem steady_writeAll {kind : ChildKind} {ds : List ChildObject} {b : StatusBoard}
    (owned : ∀ d ∈ ds, r.metadata.uid = some d.owner.uid) :
    Steady k r ((g.writeAll kind ds).run b) := by
  induction ds generalizing b with
  | nil => exact steady_done _
  | cons d rest ih =>
    refine steady_step (steady_outcome (steady_write (owned d (by simp)))) fun out b => ?_
    cases out with
    | ok _ => exact ih fun d mem => owned d (by simp [mem])
    | error e => exact steady_noteFailure

theorem steady_count {kind : ChildKind} {ns root : String} {b : StatusBoard} :
    Steady k r ((g.count kind ns root).run b) := by
  refine steady_step (steady_outcome steady_probe) fun out b => ?_
  cases out with
  | ok replicas => exact steady_done _
  | error e => exact steady_noteFailure

theorem steady_settle {kind : ChildKind} {ns name : String} {b : StatusBoard} :
    Steady k r ((g.settle ns name kind).run b) := by
  cases kind <;> first
    | exact steady_done _
    | exact steady_clock fun _ => steady_done _
    | exact steady_step steady_count fun _ _ => steady_clock fun _ => steady_done _

theorem steady_writeChildren {plan : Plan} {ns name : String} {kinds : List ChildKind}
    {b : StatusBoard} (owned : r.metadata.uid = some plan.owner.uid) :
    Steady k r ((g.writeChildren ns name plan kinds).run b) := by
  induction kinds generalizing b with
  | nil => exact steady_done _
  | cons kind rest ih =>
    refine steady_step (steady_writeAll fun d mem => ?_) fun _ b => ?_
    · rw [(kind.build_placed plan d mem).2]
      exact owned
    · refine steady_step steady_settle fun ready b => ?_
      cases ready with
      | true => exact ih
      | false => exact steady_done _

theorem steady_preflight {plan : Plan} {b : StatusBoard} :
    Steady k r ((g.preflight plan).run b) := by
  have lists : Conforms (fun _ c => c.op = .list) (fun _ _ => True) ([] : List Turn)
      (ExceptT.run (Preflight.check g.registry plan)) := check_lists plan
  refine steady_step (steady_outcome (steady_lists lists)) fun out b => ?_
  rcases out with e | _ | items
  · exact steady_clock fun _ => steady_done _
  · exact steady_clock fun _ => steady_done _
  · exact steady_clock fun _ => steady_done _

theorem steady_observeFirst {b : StatusBoard} :
    Steady k r ((g.observeFirst (r.namespaceOr "default") r.name).run b) :=
  fun before holding => Conforms.observeFirst (fun _ => holding) fun _ =>
    steady_saveStatus (fun located => located.place _) before holding

theorem owner_named {owner : OwnerReference} (referred : r.ownerReference? = some owner) :
    r.metadata.uid = some owner.uid := by
  unfold InferenceScheduler.ownerReference? at referred
  obtain ⟨uid, known, rfl⟩ := Option.map_eq_some_iff.mp referred
  exact known

theorem steady_bringInLine {b : StatusBoard} : Steady k r ((g.bringInLine r).run b) := by
  refine steady_step steady_observeFirst fun _ b => ?_
  unfold acceptSpec
  cases resolved : Plan.resolve r with
  | error e => exact steady_clock fun _ => steady_done _
  | ok plan =>
    refine steady_clock fun _ => steady_step steady_preflight fun out b => ?_
    cases out with
    | none => exact steady_writeChildren (owner_named (Plan.resolve_root resolved).2.2)
    | some wait => exact steady_done _

theorem steady_conclude {out : Except ReconcileError Requeue × StatusBoard} :
    Steady k r (conclude k.namespace_ k.name out) :=
  fun _ holding => Conforms.conclude (fun _ => ⟨r, holding, fun _ => ⟨rfl, rfl⟩⟩) (fun _ => holding)
    (holding.after _ (by simp)) fun _ => holding.after _ (by simp)

def opening (k : RootKey) (r : InferenceScheduler) : List Turn :=
  [⟨.getRoot k.namespace_ k.name, .ok (some r)⟩]

theorem holding_opening (marker : r.hasMarker = true) : Holding k r (opening k r) where
  snapshot := ⟨[], rfl⟩
  marked := .inl marker
  attached := by simp [opening]

theorem conforms_attach :
    Conforms (MayDo k) (fun later out => ∀ wrote, out = .ok wrote → Holding k r later)
      (opening k r) (ExceptT.run r.ensureMarker) := by
  refine Conforms.ensureMarker (fun marker _ _ => holding_opening marker)
    fun _ => ⟨.inl ⟨rfl, by simp⟩, fun _ => nofun, fun _ _ => ?_⟩
  refine ⟨⟨[_], rfl⟩, .inr (by simp), ?_⟩
  intro t mem root finalizers same
  simp only [opening, List.cons_append, List.nil_append, List.mem_cons, List.not_mem_nil,
    or_false] at mem
  rcases mem with rfl | rfl
  · cases same
  · cases same
    simp

theorem conforms_upkeep :
    Conforms (MayDo k) (fun _ _ => True) (opening k r) (g.upkeep k.namespace_ k.name r) := by
  refine conforms_bind.mpr (conforms_attach.mono ?_)
  rintro later (e | wrote) held
  · trivial
  · have whole : Steady k r (((g.bringInLine r).run (.start r.status r.metadata.generation)).bind
        (conclude k.namespace_ k.name)) := steady_bind steady_bringInLine fun _ => steady_conclude
    exact (whole later (held wrote rfl)).mono fun _ _ _ => trivial

theorem steady_sweep {registry : TypeRegistry} {ns : String} (keys : List (ResourceType × String)) :
    Steady k r (ExceptT.run (InferenceScheduler.sweep registry ns keys)) := by
  refine fun before holding => Conforms.sweep (fun later _ => Holding k r later) holding
    (fun _ => id) fun later key rest held => ⟨trivial, held.after _ (by simp), fun e => ?_⟩
  split <;> exact held.after _ (by simp)

theorem conforms_release {root : InferenceScheduler} (holding : Holding k r before)
    (read : Located k r → ⟨.getRoot k.namespace_ k.name, .ok (some root)⟩ ∈ before) :
    Conforms (MayDo k) (fun _ _ => True) before (g.release root) := by
  refine Conforms.release (fun later => Holding k r later ∧ before <+: later) (fun _ => trivial)
    (fun _ => ⟨holding, List.prefix_refl _⟩) (fun _ => ?_) ?_
  · refine (steady_sweep _ before holding).grows.mono ?_
    rintro later (e | _) held
    · trivial
    · exact held
  · rintro later ⟨held, more⟩
    exact ⟨.inr ⟨r, held, fun located => more.subset (read located)⟩, fun _ => trivial, trivial⟩

theorem reread_mem {root : InferenceScheduler} (located : Located k r) :
    (⟨.getRoot k.namespace_ k.name, .ok (some root)⟩ : Turn) ∈
      before ++ [⟨.getRoot (r.namespaceOr "default") r.name, .ok (some root)⟩] := by
  obtain ⟨ns, name⟩ := located.place "default"
  rw [ns, name]
  exact List.mem_append_right _ (List.mem_singleton.mpr rfl)

theorem conforms_tearDown : Conforms (MayDo k) (fun _ _ => True) (opening k r) (g.tearDown r) := by
  refine Conforms.tearDown (fun _ => trivial) (fun marker => ?_) fun marker _ => ?_
  · exact conforms_release (holding_opening marker) fun _ => List.mem_singleton.mpr rfl
  · have holding : Holding k r (opening k r) := holding_opening marker
    refine ⟨⟨r, holding, fun located => located.place _⟩, fun _ => trivial, trivial, ?_⟩
    rintro (e | _ | root)
    · trivial
    · trivial
    · -- The root was read again, and is let go as it is now.
      exact conforms_release ((holding.after _ (by simp)).after _ (by simp)) reread_mem

/-- Every call of a pass is one that it may make, whatever the store replies. -/
theorem reconcile_conforms (g : Engine) (k : RootKey) :
    Conforms (MayDo k) (fun _ _ => True) [] (g.reconcile k.namespace_ k.name) :=
  Conforms.reconcile trivial (fun _ => trivial) trivial (fun _ _ => conforms_tearDown)
    fun _ _ => conforms_upkeep

end SchedulerOperator.Engine
