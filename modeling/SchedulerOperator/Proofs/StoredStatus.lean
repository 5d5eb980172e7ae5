import SchedulerOperator.Proofs.Consistency
import SchedulerOperator.Proofs.Courses

namespace SchedulerOperator
open Cluster Engine Pass SchedulerStatus

def InferenceScheduler.Upright (r : InferenceScheduler) : Prop :=
  ∀ status, r.status = some status → status.Consistent

namespace SchedulerStatus

theorem standing_blank : Standing 0 {} where
  pool shown := by cases shown
  gateway shown := by cases shown
  order shown := by cases shown
  types := List.nil_prefix
  reported := Nat.zero_le _

theorem consistent_outside {s : SchedulerStatus} {n : Nat} {p : Phase} (standing : s.Standing n)
    (phase : s.phase = some p) (outside : p = .initializing ∨ p = .finalizing) : s.Consistent := by
  have other : ∀ q, s.phase = some q → q = .initializing ∨ q = .finalizing := by
    rintro q same
    rw [phase, Option.some.injEq] at same
    exact same ▸ outside
  exact
    { toCoherent := standing.toCoherent
      phase := by rw [phase]; rfl
      types := standing.types
      ready := fun same => by rcases other _ same with no | no <;> cases no
      validated := by rintro (same | same) <;> rcases other _ same with no | no <;> cases no
      missing := fun same => by rcases other _ same with no | no <;> cases no }

end SchedulerStatus

namespace InferenceScheduler.Upright
variable {g : Engine} {k : RootKey} {r : InferenceScheduler} {before : List Turn}
  {status : SchedulerStatus}

theorem standing (upright : r.Upright) : (r.status.getD {}).Standing 0 := by
  cases stored : r.status with
  | none => exact standing_blank
  | some status => exact (upright status stored).standing

theorem rephased {p : Phase} {generation : Option Int64} (upright : r.Upright)
    (outside : p = .initializing ∨ p = .finalizing) :
    SchedulerStatus.Consistent { r.status.getD {} with
      phase := some p
      observedGeneration := generation } := by
  obtain ⟨⟨pool, gateway, order⟩, types, reported⟩ := upright.standing
  exact consistent_outside (n := 0) ⟨⟨pool, gateway, order⟩, types, reported⟩ rfl outside

theorem observed (upright : r.Upright) : r.observed.Consistent := by
  cases known : (r.status.getD {}).phase with
  | none =>
    simp only [InferenceScheduler.observed, known]
    exact upright.rephased (.inl rfl)
  | some p =>
    obtain ⟨stored, present⟩ : ∃ stored, r.status = some stored := by
      cases status : r.status with
      | none =>
        rw [status] at known
        cases known
      | some stored => exact ⟨stored, rfl⟩
    have consistent := upright stored present
    simp only [InferenceScheduler.observed, known]
    rw [present] at known ⊢
    cases stored
    cases known
    exact { consistent with }

theorem brings {turns : List Turn} {out : Except ReconcileError Requeue} (upright : r.Upright)
    (brings : g.Brings r turns out status) : status.Consistent := by
  cases brings with
  | unstored unknown => exact upright.observed
  | aligned quiet aligns entered => exact aligns.consistent upright.observed entered

/-- Whatever status a pass stores, having read a consistent one, is consistent. -/
theorem justified (upright : r.Upright) (justified : Justified g k r before status) :
    status.Consistent := by
  cases justified with
  | observed unknown => exact upright.observed
  | brought split attached ran => exact upright.brings (brings_of_run ran)
  | withdrawn => exact upright.rephased (.inr rfl)

end InferenceScheduler.Upright

/-- Other clients leave the status of the root to passes, and insert it without one. -/
def Operation.KeepsStatusOf (k : RootKey) : Operation → Prop
  | .call (.writeStatus ns name _) => ⟨ns, name⟩ ≠ k
  | .insertRoot r => k = ⟨r.namespaceOr "default", r.name⟩ → r.status = none
  | _ => True

/-- A pass that reads a status of which `P` holds, or none, stores only such statuses. -/
def SchedulerStatus.Inherited (k : RootKey) (P : SchedulerStatus → Prop) : Prop :=
  ∀ {g : Engine} {r : InferenceScheduler} {before : List Turn} {status : SchedulerStatus},
    (∀ old, r.status = some old → P old) → Justified g k r before status → P status

namespace Crowd
variable {k : RootKey} {w w' : Crowd} {P : SchedulerStatus → Prop}

structure Upright (k : RootKey) (w : Crowd) : Prop where
  stored : ∀ r, Assoc.get? k w.cluster.roots = some r → r.Upright
  read : ∀ n v, w.visit n = some v → ∀ r,
    ⟨.getRoot k.namespace_ k.name, .ok (some r)⟩ ∈ v.flight.history → r.Upright

/-- `P` holds of the status under `k`, and did so whenever a pass read it. -/
structure Upholds (P : SchedulerStatus → Prop) (k : RootKey) (w : Crowd) : Prop where
  stored : ∀ r, Assoc.get? k w.cluster.roots = some r → ∀ status, r.status = some status → P status
  read : ∀ n v, w.visit n = some v → ∀ r,
    ⟨.getRoot k.namespace_ k.name, .ok (some r)⟩ ∈ v.flight.history →
      ∀ status, r.status = some status → P status

theorem Upholds.put {n : Nat} {v : Option Visit} (upholds : w.Upholds P k)
    (fine : ∀ v', v = some v' → ∀ r,
      ⟨.getRoot k.namespace_ k.name, .ok (some r)⟩ ∈ v'.flight.history →
        ∀ status, r.status = some status → P status) :
    (w.put n v).Upholds P k where
  stored := upholds.stored
  read m v' underway := by
    by_cases here : m = n
    · exact fine v' (by simpa [Crowd.put, here] using underway)
    · exact upholds.read m v' (by simpa [Crowd.put, here] using underway)

theorem Sound.stores_own {n : Nat} {l : RootKey} {history : List Turn} {status : SchedulerStatus}
    {next : (StoreCall.writeStatus k.namespace_ k.name status).Reply →
      Pass (Except ReconcileError Requeue)} (sound : w.Sound)
    (underway : w.visit n = some ⟨l, ⟨history, .call (.writeStatus k.namespace_ k.name status) next⟩⟩) :
    l = k ∧ ∃ g snapshot, Snapshot k snapshot history ∧ Justified g k snapshot history status := by
  have own := sound.visits n _ underway
  obtain ⟨g, ⟨snapshot, first, place, justified⟩, _⟩ := own.conforms
  obtain ⟨inNamespace, named⟩ := place (own.snapshot first).located
  have here : k = l := congrArg₂ RootKey.mk inNamespace named
  subst here
  exact ⟨rfl, g, snapshot, first, justified⟩

theorem Upholds.call {n : Nat} {l : RootKey} {history : List Turn} {c : StoreCall}
    {next : c.Reply → Pass (Except ReconcileError Requeue)} (upholds : w.Upholds P k)
    (inherited : Inherited k P) (sound : w.Sound)
    (underway : w.visit n = some ⟨l, ⟨history, .call c next⟩⟩) :
    Upholds P k ⟨(w.cluster.answer c).2, w.visit⟩ where
  read := upholds.read
  stored r found := by
    obtain ⟨old, before, descends⟩ := answer_descends c found
    rcases descends.status with same | ⟨status, call, written⟩
    · intro status stored
      exact upholds.stored old before status (same ▸ stored)
    · cases call
      obtain ⟨_, g, snapshot, ⟨rest, opened⟩, justified⟩ := sound.stores_own underway
      have read := upholds.read n _ underway snapshot (by rw [opened]; exact List.mem_cons_self)
      intro status' stored
      rw [written, Option.some.injEq] at stored
      exact stored ▸ inherited read justified

theorem Upholds.client {o : Operation} (upholds : w.Upholds P k) (allowed : o.KeepsStatusOf k) :
    Upholds P k ⟨o.apply w.cluster, w.visit⟩ where
  read := upholds.read
  stored r found := by
    cases apply_origin o found with
    | kept found descends =>
      rcases descends.status with same | ⟨status, rfl, _⟩
      · intro status stored
        exact upholds.stored _ found status (same ▸ stored)
      · exact absurd rfl allowed
    | added inserted here _ admitted =>
      subst inserted admitted
      intro status stored
      cases (allowed here).symm.trans stored

theorem Upholds.step (upholds : w.Upholds P k) (inherited : Inherited k P) (sound : w.Sound)
    (step : Step (Operation.KeepsStatusOf k) w w') : w'.Upholds P k := by
  cases step with
  | start n g l idle =>
    refine upholds.put fun v same => ?_
    cases same
    exact fun _ mem => absurd mem List.not_mem_nil
  | @call n l history c next underway =>
    refine (upholds.call inherited sound underway).put fun v same => ?_
    cases same
    intro r mem
    rcases List.mem_append.mp mem with old | new
    · exact upholds.read n _ underway r old
    · obtain ⟨_, _, done⟩ := performed_now new
      exact upholds.stored r (Except.ok.inj done)
  | @clock n l history next time underway =>
    refine upholds.put fun v same => ?_
    cases same
    exact fun r mem => upholds.read n _ underway r mem
  | leave n => exact upholds.put (by simp)
  | client o allowed => exact upholds.client allowed

/-- What passes hand on holds of every status of a root that is inserted without one. -/
theorem Reachable.upholds (inherited : Inherited k P)
    (reached : Reachable (Operation.KeepsStatusOf k) w) : w.Upholds P k := by
  induction reached with
  | empty => exact ⟨fun _ found => (by cases found), fun _ _ underway => (by cases underway)⟩
  | next step before ih => exact ih.step inherited before.sound step

theorem Reachable.upright (reached : Reachable (Operation.KeepsStatusOf k) w) : w.Upright k := by
  have inherited : Inherited k SchedulerStatus.Consistent :=
    fun read => InferenceScheduler.Upright.justified read
  obtain ⟨stored, read⟩ := reached.upholds inherited
  exact ⟨stored, read⟩

/-- Where only passes write the status of a root and it is inserted without one, the status
that is stored is consistent at every moment, however many passes there are, and whether they
fail or are cut off. -/
theorem stored_status_is_consistent {r : InferenceScheduler} {status : SchedulerStatus}
    (reached : Reachable (Operation.KeepsStatusOf k) w)
    (found : Assoc.get? k w.cluster.roots = some r) (stored : r.status = some status) :
    status.Consistent := reached.upright.stored r found status stored

theorem fresh_keepsStatus : ∀ o ∈ freshOperations, o.KeepsStatusOf ⟨"default", "demo"⟩ :=
  forall_freshOperations (fun _ => trivial) trivial trivial fun _ => rfl

theorem arrives_at_fresh :
    Arrives (fun _ => Operation.KeepsStatusOf ⟨"default", "demo"⟩) ⟨"default", "demo"⟩
      (fun _ => True) Cluster.fresh :=
  arrives_empty.clients freshOperations fun o mem _ => fresh_keepsStatus o mem

theorem consistent_status_of_fresh_root : ∃ w r status,
    Reachable (Operation.KeepsStatusOf ⟨"default", "demo"⟩) w ∧
    Assoc.get? ⟨"default", "demo"⟩ w.cluster.roots = some r ∧ r.status = some status ∧
    status.phase = some .ready ∧ status.Consistent := by
  obtain ⟨past, course, _⟩ := arrives_at_fresh.afterPass fun _ _ => trivial
  have reached : Reachable (Operation.KeepsStatusOf ⟨"default", "demo"⟩) _ :=
    course.reachable fun _ _ allowed => allowed
  obtain ⟨r, status, found, stored, phase⟩ := fresh_root_made_ready
  exact ⟨_, r, status, reached, found, stored, phase, stored_status_is_consistent reached found stored⟩

end Crowd
end SchedulerOperator
