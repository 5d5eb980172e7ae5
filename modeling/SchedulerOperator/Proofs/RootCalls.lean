import SchedulerOperator.Proofs.Discipline
import SchedulerOperator.Proofs.PassNotes

namespace SchedulerOperator.Engine
open Cluster Pass
variable {k : RootKey} {r root : InferenceScheduler} {before : List Turn} {g : Engine}

inductive Marks (k : RootKey) (r : InferenceScheduler) (before : List Turn)
    (root : InferenceScheduler) (finalizers : List String) : Prop where
  | attaches (alive : r.metadata.deletionTimestamp = none) (unmarked : r.hasMarker = false)
      (same : root = r) (list : finalizers = r.finalizers ++ [finalizerMarker])
  | releases (deleted : r.metadata.deletionTimestamp.isSome)
      (read : Located k r → ⟨.getRoot k.namespace_ k.name, .ok (some root)⟩ ∈ before)
      (list : finalizers = root.withoutMarker)

/-- The statuses that a pass stores, having read `r` first. -/
inductive Justified (g : Engine) (k : RootKey) (r : InferenceScheduler) (before : List Turn) :
    SchedulerStatus → Prop where
  | observed (unknown : (r.status.getD {}).phase = none) : Justified g k r before r.observed
  | brought {front body : List Turn} {wrote : Bool} {out : Except ReconcileError Requeue}
      {b : StatusBoard} (split : before = opening k r ++ front ++ body)
      (attached : Runs (ExceptT.run r.ensureMarker) front (.ok wrote))
      (ran : Runs ((g.bringInLine r).run (.start r.status r.metadata.generation)) body (out, b)) :
      Justified g k r before b.current
  | withdrawn : Justified g k r before
      { r.status.getD {} with
        phase := some .finalizing
        observedGeneration := r.metadata.generation }

/-- What a pass over `k` writes to roots. -/
def RootWrite (g : Engine) (k : RootKey) (before : List Turn) : StoreCall → Prop
  | .setFinalizers root finalizers => ∃ r, Snapshot k r before ∧ Marks k r before root finalizers
  | .writeStatus ns name status => ∃ r, Snapshot k r before ∧
      (Located k r → ns = k.namespace_ ∧ name = k.name) ∧ Justified g k r before status
  | _ => True

theorem rootWrite_of_spares {c : StoreCall} (spares : c.SparesRoot) : RootWrite g k before c := by
  cases c with
  | setFinalizers root finalizers => exact absurd rfl spares.1
  | writeStatus ns name status => exact absurd rfl spares.2
  | _ => trivial

theorem snapshot_opening (more : List Turn) : Snapshot k r (opening k r ++ more) := ⟨more, rfl⟩

theorem Snapshot.unique (one : Snapshot k r before) (other : Snapshot k root before) : r = root := by
  obtain ⟨_, first⟩ := one
  obtain ⟨_, second⟩ := other
  rw [first] at second
  cases second
  rfl

theorem Snapshot.append (snapshot : Snapshot k r before) (more : List Turn) :
    Snapshot k r (before ++ more) := by
  obtain ⟨rest, rfl⟩ := snapshot
  exact ⟨rest ++ more, rfl⟩

theorem Snapshot.earlier {more : List Turn} (snapshot : Snapshot k r (before ++ more)) :
    before = [] ∨ Snapshot k r before := by
  obtain ⟨rest, first⟩ := snapshot
  cases before with
  | nil => exact .inl rfl
  | cons t earlier => exact .inr ⟨earlier, by rw [(List.cons.inj first).1]⟩

theorem conforms_attaches (alive : r.metadata.deletionTimestamp = none) :
    Conforms (RootWrite g k) (fun _ _ => True) (opening k r) (ExceptT.run r.ensureMarker) :=
  Conforms.ensureMarker (fun _ => trivial)
    fun marker => ⟨⟨r, ⟨[], rfl⟩, .attaches alive marker rfl rfl⟩, fun _ => trivial, trivial⟩

theorem conforms_reports (alive : r.metadata.deletionTimestamp = none) :
    Conforms (RootWrite g k) (fun _ _ => True) (opening k r) (g.upkeep k.namespace_ k.name r) := by
  refine conforms_bind.mpr ((conforms_attaches alive).traced.mono ?_)
  rintro later (e | wrote) ⟨front, rfl, attached, _⟩
  · trivial
  · have aligned : Conforms (RootWrite g k) _ (opening k r ++ front)
        ((g.bringInLine r).run (.start r.status r.metadata.generation)) :=
      conforms_brings (fun _ _ => rootWrite_of_spares) fun unknown =>
        ⟨r, snapshot_opening front, fun located => located.place _, .observed unknown⟩
    refine conforms_bind.mpr (aligned.traced.mono ?_)
    rintro later ⟨out, b⟩ ⟨body, rfl, ran, _⟩
    refine Conforms.conclude (fun _ => ?_) (fun _ => trivial) trivial fun _ => trivial
    exact ⟨r, (snapshot_opening front).append body, fun _ => ⟨rfl, rfl⟩, .brought rfl attached ran⟩

theorem sweep_spares {registry : TypeRegistry} {ns : String} (keys : List (ResourceType × String)) :
    Conforms (fun _ c => c.SparesRoot) (fun _ _ => True) before
      (ExceptT.run (InferenceScheduler.sweep registry ns keys)) := by
  refine Conforms.sweep (fun _ _ => True) trivial (fun _ _ => trivial)
    fun later key rest _ => ⟨⟨nofun, nofun⟩, trivial, fun e => ?_⟩
  split <;> trivial

theorem conforms_releases (snapshot : Snapshot k r before)
    (deleted : r.metadata.deletionTimestamp.isSome)
    (read : Located k r → ⟨.getRoot k.namespace_ k.name, .ok (some root)⟩ ∈ before) :
    Conforms (RootWrite g k) (fun _ _ => True) before (g.release root) := by
  refine Conforms.release (fun later => before <+: later) (fun _ => trivial)
    (fun _ => List.prefix_refl _) (fun _ => ?_) ?_
  · refine ((sweep_spares _).allow fun _ _ => rootWrite_of_spares).grows.mono ?_
    rintro later (e | _) ⟨_, more⟩
    · trivial
    · exact more
  · rintro later ⟨more, rfl⟩
    refine ⟨⟨r, snapshot.append more, .releases deleted ?_ rfl⟩, fun _ => trivial, trivial⟩
    exact fun located => List.mem_append_left more (read located)

theorem conforms_withdraws (deleted : r.metadata.deletionTimestamp.isSome) :
    Conforms (RootWrite g k) (fun _ _ => True) (opening k r) (g.tearDown r) := by
  refine Conforms.tearDown (fun _ => trivial) (fun _ => ?_) fun _ _ => ?_
  · exact conforms_releases ⟨[], rfl⟩ deleted fun _ => List.mem_singleton.mpr rfl
  · refine ⟨⟨r, ⟨[], rfl⟩, fun located => located.place _, .withdrawn⟩, fun _ => trivial, trivial, ?_⟩
    rintro (e | _ | root)
    · trivial
    · trivial
    · exact conforms_releases ((snapshot_opening [_]).append _) deleted reread_mem

/-- Every write of a pass to a root is one of these, whatever the store replies. -/
theorem reconcile_rootWrites (g : Engine) (k : RootKey) :
    Conforms (RootWrite g k) (fun _ _ => True) [] (g.reconcile k.namespace_ k.name) :=
  Conforms.reconcile trivial (fun _ => trivial) trivial (fun _ => conforms_withdraws)
    fun _ => conforms_reports

end SchedulerOperator.Engine
