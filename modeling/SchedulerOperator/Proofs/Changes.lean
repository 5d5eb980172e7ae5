import Std.Data.String.ToNat
import SchedulerOperator.Engine.Marker
import SchedulerOperator.Proofs.Ownership

/-!
What one operation can do to a cluster, in five cases, and what survives each of them.
-/
namespace SchedulerOperator.Cluster
variable {hand : Option RootKey} {s t : Cluster} {k : RootKey} {r : InferenceScheduler}

theorem toString_injective {m n : Nat} (same : toString m = toString n) : m = n :=
  Nat.repr_injective same

structure Located (k : RootKey) (r : InferenceScheduler) : Prop where
  namespace_ : r.metadata.namespace_ = some k.namespace_
  name : r.name = k.name

theorem Located.place (located : Located k r) (fallback : String) :
    r.namespaceOr fallback = k.namespace_ ∧ r.name = k.name := by
  refine ⟨?_, located.name⟩
  rw [InferenceScheduler.namespaceOr, located.namespace_]
  rfl

theorem Located.key (located : Located k r) (fallback : String) :
    (⟨r.namespaceOr fallback, r.name⟩ : RootKey) = k := by
  obtain ⟨ns, name⟩ := located.place fallback
  rw [ns, name]

/-- A root as it was stored with the `m`-th version. -/
structure Stamped (k : RootKey) (m : Nat) (r : InferenceScheduler) : Prop where
  located : Located k r
  uid : r.metadata.uid.isSome
  version : r.metadata.resourceVersion = some (toString m)

/-- What a single operation does. Finalizers are not taken off a root, and a root that has
some does not go, unless it is the root at `hand`. -/
inductive Change (hand : Option RootKey) (s t : Cluster) : Prop where
  | still (later : s.version ≤ t.version) (uids : t.uids = s.uids) (roots : t.roots = s.roots)
      (objects : ∀ e ∈ t.objects, e ∈ s.objects)
  | added {k : RootKey} {r : InferenceScheduler} (later : s.version < t.version)
      (free : Assoc.get? k s.roots = none) (stamped : Stamped k t.version r)
      (uids : t.uids = s.uids + 1) (uid : r.metadata.uid = some (uidText (s.uids + 1)))
      (roots : t.roots = Assoc.set k r s.roots) (objects : t.objects = s.objects)
  | edited {k : RootKey} {old r : InferenceScheduler} (later : s.version < t.version)
      (found : Assoc.get? k s.roots = some old) (stamped : Stamped k t.version r)
      (uids : t.uids = s.uids) (uid : r.metadata.uid = old.metadata.uid)
      (kept : hand = some k ∨ r.finalizers = old.finalizers)
      (roots : t.roots = Assoc.set k r s.roots) (objects : t.objects = s.objects)
  | dropped {k : RootKey} {old : InferenceScheduler} (later : s.version ≤ t.version)
      (found : Assoc.get? k s.roots = some old) (uids : t.uids = s.uids)
      (free : hand = some k ∨ old.finalizers = []) (roots : t.roots = Assoc.erase k s.roots)
      (objects : ∀ e ∈ t.objects,
        e ∈ s.objects ∧ isOwnedBy (old.metadata.uid.getD "") e.2 = false)
  | written {k : ObjectKey} {v : Json} (later : s.version ≤ t.version) (uids : t.uids = s.uids)
      (owners : s.OwnersLive v)
      (fresh : s.version < t.version ∧ resourceVersion v = .str (toString t.version) ∨
        ∃ old, (k, old) ∈ s.objects ∧ resourceVersion v = resourceVersion old ∧
          ∀ uid, isOwnedBy uid v = isOwnedBy uid old)
      (roots : t.roots = s.roots) (objects : t.objects = Assoc.set k v s.objects)

/-- While the root at `k` has the version that was read, it is the root that was read. -/
def RootSeen (k : RootKey) (r : InferenceScheduler) (s : Cluster) : Prop :=
  (∃ m, m ≤ s.version ∧ Stamped k m r) ∧
    ∀ r', Assoc.get? k s.roots = some r' →
      r'.metadata.resourceVersion = r.metadata.resourceVersion → r'.metadata.uid = r.metadata.uid

theorem RootSeen.located (seen : RootSeen k r s) : Located k r := by
  obtain ⟨⟨m, _, stamped⟩, _⟩ := seen
  exact stamped.located

theorem RootSeen.uid (seen : RootSeen k r s) : ∃ uid, r.metadata.uid = some uid := by
  obtain ⟨⟨m, _, stamped⟩, _⟩ := seen
  exact Option.isSome_iff_exists.mp stamped.uid

def ObjectSeen (k : ObjectKey) (v : Json) (s : Cluster) : Prop :=
  (∃ m, m ≤ s.version ∧ resourceVersion v = .str (toString m)) ∧
    ∀ w, (k, w) ∈ s.objects → resourceVersion w = resourceVersion v →
      ∀ uid, isOwnedBy uid w = isOwnedBy uid v

/-- The root at `k` has this uid and carries the marker. -/
def Guarded (k : RootKey) (uid : Option String) (s : Cluster) : Prop :=
  ∃ r, Assoc.get? k s.roots = some r ∧ r.metadata.uid = uid ∧ r.hasMarker = true

structure Accounted (s : Cluster) : Prop where
  roots : ∀ k r, Assoc.get? k s.roots = some r → RootSeen k r s
  objects : ∀ e ∈ s.objects, ObjectSeen e.1 e.2 s
  owners : s.NoOrphans

theorem accounted_empty : Accounted {} where
  roots _ _ found := by cases found
  objects _ mem := absurd mem List.not_mem_nil
  owners _ mem := absurd mem List.not_mem_nil

theorem Accounted.stamped (accounted : s.Accounted) (found : Assoc.get? k s.roots = some r) :
    ∃ m, m ≤ s.version ∧ Stamped k m r := (accounted.roots k r found).1

theorem Stamped.unseen {m : Nat} {r' : InferenceScheduler} (stamped : Stamped k t.version r')
    (seen : Stamped k m r) (before : m ≤ s.version) (later : s.version < t.version) :
    r'.metadata.resourceVersion ≠ r.metadata.resourceVersion := by
  rw [stamped.version, seen.version]
  intro same
  have equal := toString_injective (Option.some.inj same)
  omega

theorem RootSeen.same (seen : RootSeen k r s) (later : s.version ≤ t.version)
    (roots : ∀ r', Assoc.get? k t.roots = some r' → Assoc.get? k s.roots = some r') :
    RootSeen k r t := by
  obtain ⟨⟨m, before, stamped⟩, alike⟩ := seen
  exact ⟨⟨m, Nat.le_trans before later, stamped⟩, fun r' found => alike r' (roots r' found)⟩

theorem RootSeen.set {k' : RootKey} {r' : InferenceScheduler} (seen : RootSeen k r s)
    (later : s.version < t.version) (stamped : Stamped k' t.version r')
    (roots : t.roots = Assoc.set k' r' s.roots) : RootSeen k r t := by
  by_cases here : k = k'
  · subst here
    obtain ⟨⟨m, before, stamped'⟩, _⟩ := seen
    refine ⟨⟨m, by omega, stamped'⟩, fun found there same => ?_⟩
    rw [roots, Assoc.get?_set_self, Option.some.injEq] at there
    subst there
    exact absurd same (stamped.unseen stamped' before later)
  · refine seen.same (Nat.le_of_lt later) fun found there => ?_
    rw [roots, Assoc.get?_set_other _ _ here] at there
    exact there

theorem Change.rootSeen (change : Change hand s t) (seen : RootSeen k r s) : RootSeen k r t := by
  cases change with
  | still later _ roots => exact seen.same later fun r' found => by rw [← roots]; exact found
  | added later _ stamped _ _ roots => exact seen.set later stamped roots
  | edited later _ stamped _ _ _ roots => exact seen.set later stamped roots
  | @dropped k' _ later _ _ _ roots =>
    refine seen.same later fun r' found => ?_
    by_cases here : k = k'
    · rw [roots, here, Assoc.get?_erase_self] at found
      cases found
    · rw [roots, Assoc.get?_erase_other _ here] at found
      exact found
  | written later _ _ _ roots => exact seen.same later fun r' found => by rw [← roots]; exact found

theorem ObjectSeen.fewer {k : ObjectKey} {v : Json} (seen : ObjectSeen k v s)
    (later : s.version ≤ t.version) (objects : ∀ e ∈ t.objects, e ∈ s.objects) :
    ObjectSeen k v t := by
  obtain ⟨⟨m, before, version⟩, alike⟩ := seen
  exact ⟨⟨m, Nat.le_trans before later, version⟩, fun w mem => alike w (objects _ mem)⟩

theorem Change.objectSeen {k : ObjectKey} {v : Json} (change : Change hand s t)
    (seen : ObjectSeen k v s) : ObjectSeen k v t := by
  cases change with
  | still later _ _ objects => exact seen.fewer later objects
  | added later _ _ _ _ _ objects | edited later _ _ _ _ _ _ objects =>
    exact seen.fewer (Nat.le_of_lt later) fun e mem => by rw [← objects]; exact mem
  | dropped later _ _ _ _ objects => exact seen.fewer later fun e mem => (objects e mem).1
  | written later _ _ fresh _ objects =>
    obtain ⟨⟨m, before, version⟩, alike⟩ := seen
    refine ⟨⟨m, Nat.le_trans before later, version⟩, fun w mem same => ?_⟩
    rw [objects] at mem
    rcases Assoc.mem_set mem with new | old
    · obtain ⟨rfl, rfl⟩ := Prod.mk.inj new
      rcases fresh with ⟨newer, stamp⟩ | ⟨old, there, kept, owners⟩
      · rw [stamp, version] at same
        have equal := toString_injective (Json.str.inj same)
        omega
      · intro uid
        rw [owners, alike old there (kept.symm.trans same)]
    · exact alike w old same

/-- A root with the marker stays, and keeps its uid, in other hands. -/
theorem Change.guarded {uid : Option String} (change : Change hand s t) (away : hand ≠ some k)
    (guarded : Guarded k uid s) : Guarded k uid t := by
  obtain ⟨stored, found, same, marker⟩ := guarded
  cases change with
  | still _ _ roots | written _ _ _ _ roots => exact ⟨stored, by rw [roots]; exact found, same, marker⟩
  | @added k' _ _ free _ _ _ roots =>
    have other : k ≠ k' := fun here => by rw [← here, found] at free; cases free
    exact ⟨stored, by rw [roots, Assoc.get?_set_other _ _ other]; exact found, same, marker⟩
  | @edited k' old r' _ found' _ _ uid kept roots =>
    by_cases here : k = k'
    · subst here
      rw [found, Option.some.injEq] at found'
      subst found'
      refine ⟨r', by rw [roots, Assoc.get?_set_self], uid.trans same, ?_⟩
      rw [InferenceScheduler.hasMarker, kept.resolve_left away]
      exact marker
    · exact ⟨stored, by rw [roots, Assoc.get?_set_other _ _ here]; exact found, same, marker⟩
  | @dropped k' old _ found' _ free roots =>
    by_cases here : k = k'
    · subst here
      rw [found, Option.some.injEq] at found'
      subst found'
      rw [InferenceScheduler.hasMarker, free.resolve_left away] at marker
      cases marker
    · exact ⟨stored, by rw [roots, Assoc.get?_erase_other _ here]; exact found, same, marker⟩

theorem Live.set {uid : String} (live : s.Live uid) (roots : t.roots = Assoc.set k r s.roots)
    (same : ∀ old, Assoc.get? k s.roots = some old → r.metadata.uid = old.metadata.uid) :
    t.Live uid := by
  obtain ⟨k', r', found, named⟩ := live
  by_cases here : k' = k
  · subst here
    exact ⟨k', r, by rw [roots, Assoc.get?_set_self], (same r' found).trans named⟩
  · exact ⟨k', r', by rw [roots, Assoc.get?_set_other _ _ here]; exact found, named⟩

theorem Live.erase {uid : String} (live : s.Live uid) (roots : t.roots = Assoc.erase k s.roots)
    (other : ∀ old, Assoc.get? k s.roots = some old → old.metadata.uid ≠ some uid) :
    t.Live uid := by
  obtain ⟨k', r', found, named⟩ := live
  have away : k' ≠ k := fun here => other r' (by rw [← here]; exact found) named
  exact ⟨k', r', by rw [roots, Assoc.get?_erase_other _ away]; exact found, named⟩

theorem OwnersLive.same {v : Json} (live : s.OwnersLive v) (uids : t.uids = s.uids)
    (lives : ∀ uid, s.Live uid → t.Live uid) : t.OwnersLive v := by
  intro n low high owned
  exact lives _ (live n low (uids ▸ high) owned)

/-- No operation leaves an object behind that is owned by a root which is gone. -/
theorem Change.noOrphans (change : Change hand s t) (owners : s.NoOrphans) : t.NoOrphans := by
  intro e mem
  cases change with
  | still _ uids roots objects =>
    refine (owners e (objects e mem)).same uids fun uid live => ?_
    rw [Live, roots]
    exact live
  | added _ free _ uids uid roots objects =>
    intro n low high owned
    by_cases new : n = s.uids + 1
    · exact ⟨_, _, by rw [roots, Assoc.get?_set_self], by rw [uid, new]⟩
    · have live := owners e (by rw [← objects]; exact mem) n low (by omega) owned
      exact live.set roots fun old found => by rw [free] at found; cases found
  | edited _ found _ uids uid _ roots objects =>
    refine (owners e (by rw [← objects]; exact mem)).same uids fun uid' live => ?_
    refine live.set roots fun old found' => ?_
    rw [found, Option.some.injEq] at found'
    rw [uid, found']
  | dropped _ found uids _ roots objects =>
    obtain ⟨old, unowned⟩ := objects e mem
    intro n low high owned
    refine (owners e old n low (uids ▸ high) owned).erase roots fun gone found' same => ?_
    rw [found, Option.some.injEq] at found'
    rw [found', same, Option.getD_some, owned] at unowned
    cases unowned
  | written _ uids live _ roots objects =>
    have lives : ∀ uid, s.Live uid → t.Live uid := fun uid live => by
      rw [Live, roots]
      exact live
    rw [objects] at mem
    rcases Assoc.mem_set mem with rfl | old
    · exact live.same uids lives
    · exact (owners e old).same uids lives

theorem rootSeen_stored {m : Nat} (found : Assoc.get? k t.roots = some r)
    (stamped : Stamped k m r) (low : m ≤ t.version) : RootSeen k r t := by
  refine ⟨⟨m, low, stamped⟩, fun r' found' _ => ?_⟩
  rw [found, Option.some.injEq] at found'
  rw [found']

theorem Change.storedRoot (change : Change hand s t) (accounted : s.Accounted)
    (found : Assoc.get? k t.roots = some r) : RootSeen k r t := by
  have before : Assoc.get? k s.roots = some r → RootSeen k r t :=
    fun old => change.rootSeen (accounted.roots k r old)
  have put : ∀ {k' r'}, Stamped k' t.version r' → t.roots = Assoc.set k' r' s.roots →
      RootSeen k r t := by
    intro k' r' stamped roots
    by_cases here : k = k'
    · subst here
      have same := found
      rw [roots, Assoc.get?_set_self, Option.some.injEq] at same
      exact rootSeen_stored found (same ▸ stamped) (Nat.le_refl _)
    · rw [roots, Assoc.get?_set_other _ _ here] at found
      exact before found
  cases change with
  | still _ _ roots | written _ _ _ _ roots => exact before (by rw [← roots]; exact found)
  | added _ _ stamped _ _ roots => exact put stamped roots
  | edited _ _ stamped _ _ _ roots => exact put stamped roots
  | @dropped k' _ _ _ _ _ roots =>
    by_cases here : k = k'
    · rw [roots, here, Assoc.get?_erase_self] at found
      cases found
    · rw [roots, Assoc.get?_erase_other _ here] at found
      exact before found

theorem Change.storedObject {e : ObjectKey × Json} (change : Change hand s t)
    (accounted : s.Accounted) (mem : e ∈ t.objects) : ObjectSeen e.1 e.2 t := by
  have before : ∀ e ∈ s.objects, ObjectSeen e.1 e.2 t :=
    fun e old => change.objectSeen (accounted.objects e old)
  cases change with
  | still _ _ _ objects => exact before e (objects e mem)
  | added _ _ _ _ _ _ objects | edited _ _ _ _ _ _ _ objects =>
    exact before e (by rw [← objects]; exact mem)
  | dropped _ _ _ _ _ objects => exact before e (objects e mem).1
  | written _ _ _ fresh _ objects =>
    rw [objects] at mem
    rcases Assoc.mem_set mem with rfl | old
    · rcases fresh with ⟨newer, stamp⟩ | ⟨old, there, kept, owners⟩
      · -- No other object has a version that was just handed out.
        refine ⟨⟨t.version, Nat.le_refl _, stamp⟩, fun w mem same => ?_⟩
        rw [objects] at mem
        rcases Assoc.mem_set mem with new | older
        · cases new
          exact fun _ => rfl
        · obtain ⟨⟨m, low, version⟩, _⟩ := accounted.objects _ older
          rw [version, stamp] at same
          have equal := toString_injective (Json.str.inj same)
          omega
      · obtain ⟨known, alike⟩ := before _ there
        refine ⟨by rw [kept]; exact known, fun w mem same uid => ?_⟩
        rw [alike w mem (same.trans kept), owners]
    · exact before e old

theorem Change.accounted (change : Change hand s t) (accounted : s.Accounted) : t.Accounted where
  roots _ _ found := change.storedRoot accounted found
  objects _ mem := change.storedObject accounted mem
  owners := change.noOrphans accounted.owners

end SchedulerOperator.Cluster
