import Mathlib.Data.List.Induction
import SchedulerOperator.Proofs.StaleWrites

/-!
An operation puts a new version on one root or object at most, and the version is one that nothing
had before, so versions tell apart what is stored and name what was stored.
-/
namespace SchedulerOperator

inductive Slot where
  | root (k : RootKey)
  | object (k : ObjectKey)

def InferenceScheduler.Held (r : InferenceScheduler) : Prop :=
  r.metadata.deletionTimestamp.isSome → r.finalizers ≠ []

namespace Cluster
variable {s t : Cluster} {o : Operation} {k : RootKey} {old r : InferenceScheduler}

def version? (s : Cluster) : Slot → Option Json
  | .root k => (Assoc.get? k s.roots).map fun r => r.metadata.resourceVersion.elim .null .str
  | .object k => (Assoc.get? k s.objects).map resourceVersion

theorem generation_le_refl (a : Option Int64) : a ≤ a := by
  cases a with
  | none => simp
  | some n => exact Int64.le_refl n

theorem le_next (n : Int64) : n ≤ n + 1 ∨ n = Int64.maxValue := by
  by_cases last : n = Int64.maxValue
  · exact .inr last
  · have low := n.le_toInt
    have high := n.toInt_lt
    have apart : n.toInt ≠ Int64.maxValue.toInt := fun same => last (Int64.toInt_inj.mp same)
    rw [Int64.toInt_maxValue] at apart
    have next : (n + 1).toInt = n.toInt + 1 := by
      rw [Int64.toInt_add, show Int64.toInt 1 = 1 from rfl, Int.bmod_eq_of_le (by omega) (by omega)]
    refine .inl (Int64.le_iff_toInt_le.mpr ?_)
    omega

def EditsLast (o : Operation) (k : RootKey) (old : InferenceScheduler) : Prop :=
  (∃ edit, o = .updateSpec k.namespace_ k.name edit) ∧
    old.metadata.generation = some Int64.maxValue

/-- One of the operations edits the spec of the root at `k` when its generation is the last. -/
def Wraps (k : RootKey) (s : Cluster) (os : List Operation) : Prop :=
  ∃ front o back old, os = front ++ o :: back ∧
    Assoc.get? k (Operation.applyAll front s).roots = some old ∧ EditsLast o k old

theorem Wraps.append {os : List Operation} (wraps : Wraps k s os) (more : List Operation) :
    Wraps k s (os ++ more) := by
  obtain ⟨front, o, back, old, rfl, found, last⟩ := wraps
  exact ⟨front, o, back ++ more, old, by simp, found, last⟩

/-- A root as the store keeps it: at its own place, identified, and held while it is deleted. -/
structure Proper (k : RootKey) (r : InferenceScheduler) : Prop where
  located : Located k r
  uid : r.metadata.uid.isSome
  generation : r.metadata.generation.isSome
  held : r.Held

namespace Descends

theorem generation (descends : Descends o s t k old r) :
    old.metadata.generation ≤ r.metadata.generation ∨ EditsLast o k old := by
  rcases descends with rfl | ⟨_, rewrites⟩
  · exact .inl (generation_le_refl _)
  cases rewrites with
  | edited call =>
    cases known : old.metadata.generation with
    | none => exact .inl (by simp [InferenceScheduler.edited])
    | some n =>
      simp only [InferenceScheduler.edited, known, Option.getD_some]
      exact (le_next n).imp_right fun last => ⟨⟨_, call⟩, known.trans (congrArg some last)⟩
  | _ => exact .inl (generation_le_refl _)

theorem proper (descends : Descends o s t k old r) (proper : Proper k old) : Proper k r := by
  obtain ⟨located, uid, generation, held⟩ := proper
  refine ⟨descends.located located, by rwa [descends.continues.uid], ?_, ?_⟩
  all_goals rcases descends with rfl | ⟨_, rewrites⟩
  · exact generation
  · cases rewrites with
    | edited => rfl
    | _ => exact generation
  · exact held
  · cases rewrites with
    | finalized _ _ _ held =>
      intro deleted
      rw [old.finalized_finalizers]
      exact held deleted
    | doomed _ held => exact fun _ => held
    | _ => exact held

end Descends

theorem proper_admitted {new : InferenceScheduler} {uid : String} {m : Nat}
    (alive : new.metadata.deletionTimestamp = none) :
    Proper ⟨new.namespaceOr "default", new.name⟩ (new.admitted uid m) := by
  refine ⟨⟨rfl, rfl⟩, rfl, rfl, fun deleted => ?_⟩
  rw [show (new.admitted uid m).metadata.deletionTimestamp = none from alive] at deleted
  cases deleted

/-- The version at a place is the one that was there, or the place is the one that got the newest. -/
def Renewed (fresh : Option Slot) (s t : Cluster) : Prop :=
  ∀ slot v, t.version? slot = some v → s.version? slot = some v ∨
    fresh = some slot ∧ s.version < t.version ∧ v = .str (toString t.version)

theorem Restocked.versions (restocked : Restocked o s t) (unique : Assoc.Unique s.objects) :
    ∃ fresh, ∀ k v, t.version? (.object k) = some v → s.version? (.object k) = some v ∨
      fresh = some (Slot.object k) ∧ s.version < t.version ∧ v = .str (toString t.version) := by
  cases restocked with
  | fewer objects =>
    refine ⟨none, fun k v found => .inl ?_⟩
    obtain ⟨w, there, rfl⟩ := Option.map_eq_some_iff.mp found
    exact Option.map_eq_some_iff.mpr
      ⟨w, unique.get?_of_mem (objects.subset (Assoc.mem_of_get? there)), rfl⟩
  | @renewed k' w' later version objects =>
    refine ⟨some (.object k'), fun k v found => ?_⟩
    obtain ⟨w, there, rfl⟩ := Option.map_eq_some_iff.mp found
    rcases Assoc.get?_set_cases (objects ▸ there) with ⟨rfl, rfl⟩ | ⟨_, before⟩
    · exact .inr ⟨rfl, later, version⟩
    · exact .inl (Option.map_eq_some_iff.mpr ⟨w, before, rfl⟩)
  | restored _ found' version objects =>
    refine ⟨none, fun k v found => .inl ?_⟩
    obtain ⟨w, there, rfl⟩ := Option.map_eq_some_iff.mp found
    rcases Assoc.get?_set_cases (objects ▸ there) with ⟨rfl, rfl⟩ | ⟨_, before⟩
    · exact Option.map_eq_some_iff.mpr ⟨_, found', version.symm⟩
    · exact Option.map_eq_some_iff.mpr ⟨w, before, rfl⟩

theorem renewed_set {stored : InferenceScheduler} (later : s.version < t.version)
    (version : stored.metadata.resourceVersion = some (toString t.version))
    (roots : t.roots = Assoc.set k stored s.roots) (objects : t.objects = s.objects) :
    Renewed (some (.root k)) s t := by
  intro slot v found
  cases slot with
  | object k' =>
    rw [version?, objects] at found
    exact .inl found
  | root k' =>
    obtain ⟨r, there, rfl⟩ := Option.map_eq_some_iff.mp found
    rcases Assoc.get?_set_cases (roots ▸ there) with ⟨rfl, rfl⟩ | ⟨_, before⟩
    · refine .inr ⟨rfl, later, ?_⟩
      rw [version]
      rfl
    · exact .inl (Option.map_eq_some_iff.mpr ⟨r, before, rfl⟩)

theorem renewed_apply (numbered : s.Numbered) (o : Operation) :
    ∃ fresh, Renewed fresh s (o.apply s) := by
  cases rooted_apply (s := s) o with
  | fewer _ roots =>
    obtain ⟨fresh, objects⟩ := (restocked_apply (s := s) o).versions numbered.unique
    refine ⟨fresh, fun slot v found => ?_⟩
    cases slot with
    | object k => exact objects k v found
    | root k =>
      obtain ⟨r, there, rfl⟩ := Option.map_eq_some_iff.mp found
      exact .inl (Option.map_eq_some_iff.mpr ⟨r, roots k r there, rfl⟩)
  | rewritten found later rewrites roots objects =>
    exact ⟨_, renewed_set later rewrites.version roots objects⟩
  | added inserted later roots objects => exact ⟨_, renewed_set later rfl roots objects⟩

structure Inventory (s : Cluster) : Prop where
  numbered : s.Numbered
  issued : ∀ slot v, s.version? slot = some v → ∃ n, 1 ≤ n ∧ n ≤ s.version ∧ v = .str (toString n)
  apart : ∀ slot slot' v, s.version? slot = some v → s.version? slot' = some v → slot = slot'
  proper : ∀ k r, Assoc.get? k s.roots = some r → Proper k r

theorem Inventory.unseen (inventory : s.Inventory) (later : s.version < t.version) {slot : Slot} :
    s.version? slot ≠ some (.str (toString t.version)) := by
  intro found
  obtain ⟨n, _, low, same⟩ := inventory.issued _ _ found
  have equal := toString_injective (Json.str.inj same)
  omega

theorem Origin.proper (origin : Origin o s t k r)
    (proper : ∀ k r, Assoc.get? k s.roots = some r → Proper k r)
    (alive : ∀ new, o = .insertRoot new → new.metadata.deletionTimestamp = none) : Proper k r := by
  cases origin with
  | kept found descends => exact descends.proper (proper k _ found)
  | added inserted here _ stored =>
    subst here stored
    exact proper_admitted (alive _ inserted)

theorem Inventory.apply (inventory : s.Inventory) (o : Operation)
    (alive : ∀ new, o = .insertRoot new → new.metadata.deletionTimestamp = none) :
    (o.apply s).Inventory := by
  obtain ⟨fresh, renewed⟩ := renewed_apply inventory.numbered o
  have later := version_le_apply s o
  refine ⟨inventory.numbered.apply o, ?_, ?_,
    fun k r found => (apply_origin o found).proper inventory.proper alive⟩
  · intro slot v found
    rcases renewed slot v found with before | ⟨_, newer, rfl⟩
    · obtain ⟨n, positive, low, same⟩ := inventory.issued slot v before
      exact ⟨n, positive, Nat.le_trans low later, same⟩
    · exact ⟨_, by omega, Nat.le_refl _, rfl⟩
  · intro slot slot' v found found'
    rcases renewed slot v found with before | ⟨here, newer, rfl⟩
    · rcases renewed slot' v found' with before' | ⟨_, newer, rfl⟩
      · exact inventory.apart slot slot' v before before'
      · exact absurd before (inventory.unseen newer)
    · rcases renewed slot' _ found' with before' | ⟨here', _, _⟩
      · exact absurd before' (inventory.unseen newer)
      · exact Option.some.inj (here.symm.trans here')

/-- Every root that one of the operations adds is not being deleted. -/
def AddLiving (os : List Operation) : Prop :=
  ∀ new, .insertRoot new ∈ os → new.metadata.deletionTimestamp = none

theorem Inventory.applyAll (inventory : s.Inventory) {os : List Operation} (alive : AddLiving os) :
    (Operation.applyAll os s).Inventory := by
  induction os generalizing s with
  | nil => exact inventory
  | cons o os ih =>
    refine ih (inventory.apply o ?_) fun new mem => alive new (List.mem_cons_of_mem _ mem)
    rintro new rfl
    exact alive new (List.mem_cons_self ..)

theorem Origin.continues (origin : Origin o s t k r)
    (kept : ∀ new, o = .insertRoot new → k ≠ ⟨new.namespaceOr "default", new.name⟩) :
    ∃ old, Assoc.get? k s.roots = some old ∧ old.Continues r ∧
      (old.metadata.generation ≤ r.metadata.generation ∨ EditsLast o k old) := by
  cases origin with
  | kept found descends => exact ⟨_, found, descends.continues, descends.generation⟩
  | added inserted here => exact absurd here (kept _ inserted)

/-- A root that was read at `k`: nothing else ever has its version. -/
structure Read (k : RootKey) (r : InferenceScheduler) (s : Cluster) : Prop where
  issued : ∃ m, m ≤ s.version ∧ r.metadata.resourceVersion = some (toString m)
  only : ∀ k' r', Assoc.get? k' s.roots = some r' →
    r'.metadata.resourceVersion = r.metadata.resourceVersion → k' = k ∧ r' = r

theorem Inventory.read (inventory : s.Inventory) (found : Assoc.get? k s.roots = some r) :
    Read k r s := by
  have shown : ∀ {k r}, Assoc.get? k s.roots = some r →
      s.version? (.root k) = some (r.metadata.resourceVersion.elim .null .str) :=
    fun found => Option.map_eq_some_iff.mpr ⟨_, found, rfl⟩
  refine ⟨?_, ?_⟩
  · obtain ⟨n, _, low, same⟩ := inventory.issued _ _ (shown found)
    cases version : r.metadata.resourceVersion with
    | none =>
      rw [version] at same
      cases same
    | some text =>
      rw [version] at same
      cases same
      exact ⟨n, low, rfl⟩
  · intro k' r' found' same
    have here := inventory.apart _ _ _ (shown found') (same ▸ shown found)
    cases here
    exact ⟨rfl, Option.some.inj (found'.symm.trans found)⟩

theorem Read.apply (read : Read k r s) (o : Operation) : Read k r (o.apply s) := by
  obtain ⟨m, low, version⟩ := read.issued
  have newest : s.version < (o.apply s).version →
      some (toString (o.apply s).version) ≠ r.metadata.resourceVersion := by
    intro later same
    have equal := toString_injective (Option.some.inj (same.trans version))
    omega
  refine ⟨⟨m, Nat.le_trans low (version_le_apply s o), version⟩, fun k' r' found same => ?_⟩
  cases apply_origin o found with
  | kept before descends =>
    rcases descends with rfl | ⟨later, rewrites⟩
    · exact read.only k' r' before same
    · exact absurd (rewrites.version.symm.trans same) (newest later)
  | added _ _ later stored =>
    subst stored
    exact absurd same (newest later)

theorem Read.applyAll (read : Read k r s) (os : List Operation) : Read k r (Operation.applyAll os s) := by
  induction os generalizing s with
  | nil => exact read
  | cons o os ih => exact ih (read.apply o)

end Cluster
end SchedulerOperator
