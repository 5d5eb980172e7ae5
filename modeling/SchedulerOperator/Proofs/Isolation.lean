import SchedulerOperator.Proofs.RootCalls
import SchedulerOperator.Proofs.TeardownCalls

namespace SchedulerOperator
open Cluster Pass

namespace ChildKind

def ending (k : ChildKind) : List UInt8 := ("-" ++ k.suffix).toByteArray.data.toList

theorem namespaced (k : ChildKind) : ∀ t ∈ k.resources, t.namespaced = true := by
  cases k <;> decide

theorem ending_apart : ∀ k ∈ all, ∀ l ∈ all, (∃ t ∈ k.resources, t ∈ l.resources) →
    k.ending <:+ l.ending → k = l := by
  decide +kernel

theorem childName_bytes (root : String) (k : ChildKind) :
    (k.childName root).toByteArray.data.toList = root.toByteArray.data.toList ++ k.ending := by
  rw [childName, String.append_assoc, String.toByteArray_append, ByteArray.data_append,
    Array.toList_append]
  rfl

/-- Children with one type and one name have one root. A root may well be called like another
one's child; what tells the names apart is how they end. -/
theorem childName_root {k l : ChildKind} {t : ResourceType} {root root' : String}
    (typed : t ∈ k.resources) (typed' : t ∈ l.resources)
    (same : k.childName root = l.childName root') : root = root' := by
  have bytes : root.toByteArray.data.toList ++ k.ending =
      root'.toByteArray.data.toList ++ l.ending := by
    rw [← childName_bytes, ← childName_bytes, same]
  have equal : k = l := by
    cases List.suffix_or_suffix_of_suffix (List.suffix_append _ k.ending)
        (bytes ▸ List.suffix_append _ l.ending) with
    | inl first => exact ending_apart k k.mem_all l l.mem_all ⟨t, typed, typed'⟩ first
    | inr second => exact (ending_apart l l.mem_all k k.mem_all ⟨t, typed', typed⟩ second).symm
  subst equal
  exact (String.append_left_inj _).mp ((String.append_left_inj _).mp same)

end ChildKind

def childObjectKeys (registry : TypeRegistry) (ns name : String) : List ObjectKey :=
  (childKeys name).map fun k => (registry.api k.1).objectKey (k.1.within ns) k.2

theorem childObjectKeys_parts {ns name : String} {key : ObjectKey}
    (mem : key ∈ childObjectKeys .builtin ns name) :
    ∃ (k : ChildKind) (t : ResourceType), t ∈ k.resources ∧ key.kind = t.builtinApi.kind ∧
      key.namespace_ = ns ∧ key.name = k.childName name := by
  obtain ⟨⟨t, child⟩, listed, rfl⟩ := List.mem_map.mp mem
  obtain ⟨k, _, grouped⟩ := List.mem_flatMap.mp listed
  obtain ⟨t, typed, same⟩ := List.mem_map.mp grouped
  obtain ⟨rfl, rfl⟩ := Prod.mk.inj same
  refine ⟨k, t, typed, rfl, ?_, rfl⟩
  change (t.within ns).getD "" = ns
  rw [ResourceType.within, if_pos (k.namespaced t typed)]
  rfl

theorem childObjectKeys_disjoint {ns name ns' name' : String} (other : (ns', name') ≠ (ns, name)) :
    (childObjectKeys .builtin ns' name').Disjoint (childObjectKeys .builtin ns name) := by
  intro key mem mem'
  obtain ⟨k, t, typed, kind, inNamespace, named⟩ := childObjectKeys_parts mem
  obtain ⟨l, u, typed', kind', inNamespace', named'⟩ := childObjectKeys_parts mem'
  have sameType : t = u := ResourceType.builtin_kind_inj (kind.symm.trans kind')
  subst sameType
  have sameName := ChildKind.childName_root typed typed' (named.symm.trans named')
  exact other (Prod.ext (inNamespace.symm.trans inNamespace') sameName)

namespace Cluster
variable {k : RootKey} {keys : List ObjectKey} {s t u : Cluster} {c : StoreCall}

def besides (keys : List ObjectKey) (s : Cluster) : List (ObjectKey × Json) :=
  s.objects.filter fun e => decide (e.1 ∉ keys)

/-- Nothing changed but the root at `k`, which has not gone, and objects under `keys`. -/
structure Confined (k : RootKey) (keys : List ObjectKey) (s t : Cluster) : Prop where
  roots : Assoc.erase k t.roots = Assoc.erase k s.roots
  stays : (Assoc.get? k s.roots).isSome → (Assoc.get? k t.roots).isSome
  objects : t.besides keys = s.besides keys

theorem Confined.of_same (roots : t.roots = s.roots) (objects : t.objects = s.objects) :
    Confined k keys s t where
  roots := by rw [roots]
  stays there := by rw [roots]; exact there
  objects := by rw [besides, objects, besides]

theorem Confined.trans (first : Confined k keys s t) (second : Confined k keys t u) :
    Confined k keys s u where
  roots := second.roots.trans first.roots
  stays there := second.stays (first.stays there)
  objects := second.objects.trans first.objects

theorem Confined.of_putRoot {r : InferenceScheduler} (roots : t.roots = Assoc.set k r s.roots)
    (objects : t.objects = s.objects) : Confined k keys s t where
  roots := by
    let listed : RootKey → Bool := fun l => decide (l ≠ k)
    have unlisted : listed k = false := by simp [listed]
    rw [roots]
    exact Assoc.filter_set unlisted
  stays _ := by
    rw [roots, Assoc.get?_set_self]
    rfl
  objects := by rw [besides, objects, besides]

theorem Confined.of_putObject {key : ObjectKey} {v : Json} (mem : key ∈ keys)
    (roots : t.roots = s.roots) (objects : t.objects = Assoc.set key v s.objects) :
    Confined k keys s t where
  roots := by rw [roots]
  stays there := by rw [roots]; exact there
  objects := by
    let listed : ObjectKey → Bool := fun l => decide (l ∉ keys)
    have unlisted : listed key = false := by simp [listed, mem]
    rw [besides, objects]
    exact Assoc.filter_set unlisted

theorem Confined.of_erase {key : ObjectKey} (mem : key ∈ keys) (roots : t.roots = s.roots)
    (objects : t.objects = Assoc.erase key s.objects) : Confined k keys s t where
  roots := by rw [roots]
  stays there := by rw [roots]; exact there
  objects := by
    rw [besides, objects, besides, Assoc.erase, List.filter_filter]
    apply List.filter_congr
    intro e _
    by_cases here : e.1 = key
    · simp [here, mem]
    · simp [here]

end Cluster

/-- A call that writes to no other root than the one at `k` and to no object but under `keys`,
and that takes no last finalizer off. -/
def StoreCall.Within (k : RootKey) (keys : List ObjectKey) : StoreCall → Prop
  | .setFinalizers root finalizers => ⟨root.namespaceOr "", root.name⟩ = k ∧ finalizers ≠ []
  | .writeStatus ns name _ => (⟨ns, name⟩ : RootKey) = k
  | .create api ns object =>
    ∀ name, ((object.get "metadata").get "name").str? = some name → api.objectKey ns name ∈ keys
  | .replace api ns name _ | .delete api ns name => api.objectKey ns name ∈ keys
  | _ => True

namespace Cluster
variable {k : RootKey} {keys : List ObjectKey} {s t : Cluster} {c : StoreCall}

theorem Touch.confined (touch : Touch c s t) (within : c.Within k keys) : Confined k keys s t := by
  cases touch with
  | nothing roots objects => exact .of_same roots objects
  | finalized call _ _ _ roots objects =>
    subst call
    obtain ⟨rfl, _⟩ := within
    exact .of_putRoot roots objects
  | reported call _ _ roots objects =>
    subst call
    cases within
    exact .of_putRoot roots objects
  | released call =>
    subst call
    exact absurd rfl within.2
  | @written a v address roots objects =>
    refine .of_putObject ?_ roots objects
    cases c with
    | create api ns object =>
      obtain ⟨name, named, same⟩ := Option.map_eq_some_iff.mp address
      cases same
      exact within name named
    | replace api ns name object =>
      cases address
      exact within
    | _ => cases address
  | deleted call roots objects =>
    subst call
    exact .of_erase within roots objects

theorem Touch.fewer (touch : Touch c s t) (reads : c.isChildWrite = false)
    (keeps : c.op ≠ .setFinalizers) :
    t.objects.Sublist s.objects ∧ (c.op ≠ .delete → t.objects = s.objects) := by
  cases touch with
  | nothing _ objects | reported _ _ _ _ objects =>
    rw [objects]
    exact ⟨.refl _, fun _ => rfl⟩
  | finalized call | released call => exact absurd (congrArg StoreCall.op call) keeps
  | written address =>
    cases c with
    | create => cases reads
    | replace => cases reads
    | _ => cases address
  | deleted call _ objects =>
    subst call
    rw [objects]
    exact ⟨List.filter_sublist, fun other => absurd rfl other⟩

end Cluster

namespace Engine
variable {g : Engine} {k : RootKey} {keys : List ObjectKey} {s t z : Cluster}
  {r root : InferenceScheduler} {before trace : List Turn} {c : StoreCall}

def ownKeys (g : Engine) (k : RootKey) : List ObjectKey :=
  childObjectKeys g.registry k.namespace_ k.name

theorem own_key {key : ResourceType × String} (located : Located k r) (fallback : String)
    (listed : key ∈ childKeys r.name) :
    (g.registry.api key.1).objectKey (key.1.within (r.namespaceOr fallback)) key.2 ∈ g.ownKeys k := by
  obtain ⟨ns, name⟩ := located.place fallback
  rw [name] at listed
  rw [ns]
  exact List.mem_map_of_mem listed

theorem childAddresses_own {a : Address} (located : Located k r) (mem : a ∈ g.childAddresses r) :
    a.api.objectKey a.ns a.name ∈ g.ownKeys k := by
  obtain ⟨key, listed, rfl⟩ := List.mem_map.mp mem
  exact own_key located "default" listed

theorem sweptAddresses_own {a : Address} (located : Located k root)
    (mem : a ∈ g.sweptAddresses root (childKeys root.name).reverse) :
    a.api.objectKey a.ns a.name ∈ g.ownKeys k := by
  obtain ⟨key, listed, rfl⟩ := List.mem_map.mp mem
  exact own_key located "" (List.mem_reverse.mp listed)

theorem within_of_alive (located : Located k r) (alive : r.metadata.deletionTimestamp = none)
    (snapshot : Snapshot k r before) (write : RootWrite g k before c)
    (keeps : c.op ≠ .delete)
    (addressed : c.isChildWrite = true → ∃ a ∈ g.childAddresses r, c.address? = some a) :
    c.Within k (g.ownKeys k) := by
  cases c with
  | setFinalizers root finalizers =>
    obtain ⟨r', first, marks⟩ := write
    have same := first.unique snapshot
    subst same
    cases marks with
    | attaches _ _ same list =>
      subst same
      refine ⟨located.key "", ?_⟩
      rw [list]
      simp
    | releases deleted =>
      rw [alive] at deleted
      cases deleted
  | writeStatus ns name status =>
    obtain ⟨r', first, place, _⟩ := write
    have same := first.unique snapshot
    subst same
    obtain ⟨inNamespace, named⟩ := place located
    change RootKey.mk ns name = k
    rw [inNamespace, named]
  | create api ns object =>
    obtain ⟨a, mem, same⟩ := addressed rfl
    intro name named
    change Option.map _ ((object.get "metadata").get "name").str? = some a at same
    rw [named] at same
    cases same
    exact childAddresses_own located mem
  | replace api ns name object =>
    obtain ⟨a, mem, same⟩ := addressed rfl
    cases same
    exact childAddresses_own located mem
  | delete api ns name => exact absurd rfl keeps
  | _ => trivial

theorem upkeep_confined {out : Except ReconcileError Requeue} (located : Located k r)
    (alive : r.metadata.deletionTimestamp = none)
    (turns : TurnsOn Cluster.answer (g.upkeep k.namespace_ k.name r) s trace out t) :
    Confined k (g.ownKeys k) s t := by
  have writes : Conforms (fun _ c => c.op ≠ .delete ∧
      (c.isChildWrite = true → ∃ a ∈ g.childAddresses r, c.address? = some a))
      (fun _ _ => True) (opening k r) (g.upkeep k.namespace_ k.name r) := by
    have calls := conforms_alive g k.namespace_ r
    rw [located.name] at calls
    refine Conforms.anywhere ((calls.mono fun _ _ _ => trivial).allow ?_)
    intro later c ⟨keeps, addressed⟩
    refine ⟨keeps, ?_⟩
    intro isWrite
    obtain ⟨a, same, allowed⟩ := addressed isWrite
    exact ⟨a, List.mem_of_getElem? allowed.inOrder, same⟩
  let inv := fun (later : List Turn) (z : Cluster) =>
    Snapshot k r later ∧ Confined k (g.ownKeys k) s z
  have start : inv (opening k r) s := ⟨⟨[], rfl⟩, .of_same rfl rfl⟩
  have kept : inv (opening k r ++ trace) t := by
    refine turns.keeps ((conforms_reports alive).and writes) start ?_
    intro later c z ⟨write, keeps, addressed⟩ ⟨snapshot, confined⟩
    refine ⟨snapshot.append _, confined.trans ((answer_effect z c).touch.confined ?_)⟩
    exact within_of_alive located alive snapshot write keeps addressed
  exact kept.2

structure Restated (r root : InferenceScheduler) : Prop where
  renewed : r.Renewed root
  finalizers : root.finalizers = r.finalizers

structure Standing (g : Engine) (k : RootKey) (r : InferenceScheduler) (s : Cluster)
    (before : List Turn) (z : Cluster) : Prop where
  read : ∀ ns name root, ⟨.getRoot ns name, .ok (some root)⟩ ∈ before → Restated r root
  stored : ∃ r', Assoc.get? k z.roots = some r' ∧ Restated r r'
  confined : Confined k (g.ownKeys k) s z
  fewer : z.objects.Sublist s.objects
  whole : g.settings.cleanup = .cascade → z.objects = s.objects

theorem Restated.located (restated : Restated r root) (located : Located k r) : Located k root where
  namespace_ := by
    rw [restated.renewed.metadata]
    exact located.namespace_
  name := restated.renewed.name.trans located.name

theorem Standing.wasRead (standing : g.Standing k r s before z) (read : WasRead r root before) :
    Restated r root := by
  cases read with
  | inl same =>
    subst same
    exact ⟨.refl root, rfl⟩
  | inr again =>
    obtain ⟨ns, name, mem⟩ := again
    exact standing.read ns name root mem

theorem Standing.within (standing : g.Standing k r s before z) (located : Located k r)
    (may : g.MayTearDown r before c) (keeps : c.op ≠ .setFinalizers) :
    c.Within k (g.ownKeys k) := by
  obtain ⟨_, may⟩ := may
  cases c with
  | setFinalizers root finalizers => exact absurd rfl keeps
  | writeStatus ns name status =>
    obtain ⟨rfl, rfl⟩ := may
    exact located.key "default"
  | create api ns object => exact may.elim
  | replace api ns name object => exact may.elim
  | delete api ns name =>
    obtain ⟨_, root, read, here⟩ := may
    exact sweptAddresses_own ((standing.wasRead read).located located) (List.mem_of_getElem? here)
  | _ => trivial

theorem Standing.answer (standing : g.Standing k r s before z) (located : Located k r)
    (may : g.MayTearDown r before c) (keeps : c.op ≠ .setFinalizers) :
    g.Standing k r s (before ++ [⟨c, (z.answer c).1⟩]) (z.answer c).2 := by
  have touch := (answer_effect z c).touch
  have confined := touch.confined (standing.within located may keeps)
  obtain ⟨fewer, whole⟩ := touch.fewer may.isNoWrite keeps
  obtain ⟨r', there, restated⟩ := standing.stored
  refine ⟨?_, ?_, standing.confined.trans confined, fewer.trans standing.fewer, ?_⟩
  · intro ns name root mem
    cases List.mem_append.mp mem with
    | inl earlier => exact standing.read ns name root earlier
    | inr last =>
      -- The root was read just now, where it is stored.
      obtain ⟨rfl, reply⟩ := Turn.mk.inj (List.mem_singleton.mp last)
      have done := (eq_of_heq reply).symm
      rw [answer_ok done] at done
      obtain ⟨_, rfl, rfl⟩ := may
      have found : Assoc.get? ⟨r.namespaceOr "default", r.name⟩ z.roots = some root :=
        Except.ok.inj done
      rw [located.key, there] at found
      cases found
      exact restated
  · obtain ⟨after, found⟩ := Option.isSome_iff_exists.mp (confined.stays (by rw [there]; rfl))
    obtain ⟨old, same, descends⟩ := answer_descends c found
    rw [there] at same
    cases same
    refine ⟨after, found, restated.renewed.trans descends.renewed, ?_⟩
    rw [← restated.finalizers]
    refine descends.finalizers.resolve_right ?_
    rintro ⟨root, finalizers, rfl, _⟩
    exact keeps rfl
  · intro policy
    refine (whole ?_).trans (standing.whole policy)
    intro isDelete
    cases policy.symm.trans (may.sweeps isDelete)

/-- What a pass over the root at `k` leaves of everything else. Where the root is let go, the
objects that name its uid are collected, and no others. -/
structure Isolated (policy : CleanupPolicy) (k : RootKey) (keys : List ObjectKey)
    (s t : Cluster) : Prop where
  roots : Assoc.erase k t.roots = Assoc.erase k s.roots
  kept : Assoc.get? k s.roots = none ∨ (Assoc.get? k t.roots).isSome →
    t.besides keys = s.besides keys
  released : ∀ r, Assoc.get? k s.roots = some r → Assoc.get? k t.roots = none →
    ∃ (uid : String) (u : Cluster), r.metadata.uid = some uid ∧ r.withoutMarker = [] ∧
      u.besides keys = s.besides keys ∧ u.objects.Sublist s.objects ∧
      (policy = .cascade → u.objects = s.objects) ∧
      t.objects = u.objects.filter fun e => !isOwnedBy uid e.2

theorem isolated_of_confined {policy : CleanupPolicy} (confined : Confined k keys s t) :
    Isolated policy k keys s t where
  roots := confined.roots
  kept _ := confined.objects
  released r there gone := by
    have stays := confined.stays (by rw [there]; rfl)
    rw [gone] at stays
    cases stays

theorem Standing.collect {uid : String} (standing : g.Standing k r s before z)
    (found : Assoc.get? k s.roots = some r) (known : r.metadata.uid = some uid)
    (last : r.withoutMarker = []) (roots : t.roots = Assoc.erase k z.roots)
    (objects : t.objects = z.objects.filter fun e => !isOwnedBy uid e.2) :
    Isolated g.settings.cleanup k (g.ownKeys k) s t where
  roots := by
    rw [roots, ← standing.confined.roots]
    simp [Assoc.erase, List.filter_filter]
  kept stays := by
    rw [found, roots, Assoc.get?_erase_self] at stays
    simp at stays
  released r' there _ := by
    have same : r' = r := Option.some.inj (there.symm.trans found)
    subst same
    exact ⟨uid, z, known, last, standing.confined.objects, standing.fewer, standing.whole, objects⟩

theorem Standing.lets_go {uid : String} {finalizers : List String}
    (standing : g.Standing k r s before z) (located : Located k r) (known : r.metadata.uid = some uid)
    (may : g.MayTearDown r before (.setFinalizers root finalizers)) {t : Cluster}
    (answered : (z.answer (.setFinalizers root finalizers)).2 = t) :
    t.objects = z.objects ∧ (t.roots = z.roots ∨ ∃ r', t.roots = Assoc.set k r' z.roots) ∨
    r.withoutMarker = [] ∧ t.roots = Assoc.erase k z.roots ∧
      t.objects = z.objects.filter fun e => !isOwnedBy uid e.2 := by
  subst answered
  obtain ⟨_, read, list, _⟩ := may
  have restated := standing.wasRead read
  have here := (restated.located located).key ""
  cases (answer_effect z (.setFinalizers root finalizers)).touch with
  | nothing roots objects => exact .inl ⟨objects, .inl roots⟩
  | finalized call _ _ _ roots objects =>
    cases call
    rw [here] at roots
    exact .inl ⟨objects, .inr ⟨_, roots⟩⟩
  | released call there _ _ roots objects =>
    cases call
    rw [here] at there roots
    obtain ⟨stored, there', still⟩ := standing.stored
    cases there.symm.trans there'
    rw [still.renewed.uid, known] at objects
    have last : r.withoutMarker = [] := by
      rw [InferenceScheduler.withoutMarker, ← restated.finalizers]
      exact list.symm
    exact .inr ⟨last, roots, objects⟩
  | reported call => cases call
  | written address => cases address
  | deleted call => cases call

theorem Standing.release {uid : String} {finalizers : List String}
    (standing : g.Standing k r s before z) (located : Located k r)
    (found : Assoc.get? k s.roots = some r) (known : r.metadata.uid = some uid)
    (may : g.MayTearDown r before (.setFinalizers root finalizers)) :
    Isolated g.settings.cleanup k (g.ownKeys k) s (z.answer (.setFinalizers root finalizers)).2 := by
  rcases standing.lets_go located known may rfl with
    ⟨objects, roots | ⟨r', roots⟩⟩ | ⟨last, roots, objects⟩
  · exact isolated_of_confined (standing.confined.trans (.of_same roots objects))
  · exact isolated_of_confined (standing.confined.trans (.of_putRoot roots objects))
  · exact standing.collect found known last roots objects

theorem tearDown_ends {out : Except ReconcileError Requeue} {P : Cluster → Prop}
    (located : Located k r) (found : Assoc.get? k s.roots = some r)
    (stands : ∀ before z, g.Standing k r s before z → P z)
    (released : ∀ before z root finalizers, g.Standing k r s before z →
      g.MayTearDown r before (.setFinalizers root finalizers) →
      P (z.answer (.setFinalizers root finalizers)).2)
    (turns : TurnsOn Cluster.answer (g.tearDown r) s trace out t) : P t := by
  let inv := fun (later : List Turn) (z : Cluster) =>
    P z ∧ (Unreleased later → g.Standing k r s later z)
  have start : inv [] s := by
    have standing : g.Standing k r s [] s :=
      ⟨fun ns name root mem => absurd mem List.not_mem_nil, ⟨r, found, .refl r, rfl⟩,
        .of_same rfl rfl, .refl _, fun _ => rfl⟩
    exact ⟨stands _ _ standing, fun _ => standing⟩
  have kept : inv ([] ++ trace) t := by
    refine turns.keeps conforms_teardownCalls start ?_
    intro later c z may ⟨_, standing⟩
    have standing := standing may.1
    by_cases releases : c.op = .setFinalizers
    · cases c with
      | setFinalizers root finalizers =>
        refine ⟨released later z root finalizers standing may, ?_⟩
        -- Nothing is called after this.
        intro unreleased
        exact absurd rfl (unreleased _ (List.mem_append_right _ (List.mem_singleton.mpr rfl)))
      | _ => cases releases
    · have standing' := standing.answer located may releases
      exact ⟨stands _ _ standing', fun _ => standing'⟩
  exact kept.1

theorem tearDown_isolated {out : Except ReconcileError Requeue} {uid : String}
    (located : Located k r) (found : Assoc.get? k s.roots = some r)
    (known : r.metadata.uid = some uid)
    (turns : TurnsOn Cluster.answer (g.tearDown r) s trace out t) :
    Isolated g.settings.cleanup k (g.ownKeys k) s t := by
  refine tearDown_ends located found ?_ ?_ turns
  · intro before z standing
    exact isolated_of_confined standing.confined
  · intro before z root finalizers standing may
    exact standing.release located found known may

/-- A pass that cannot read its root, or finds none, changes nothing. Any other goes on with the root
as it is stored. -/
theorem reconcile_goes_on {ns name : String} {out : Except ReconcileError Requeue}
    (run : RunsOn Cluster.answer (g.reconcile ns name) s out t) :
    t = s ∨ ∃ r trace, s.root? ns name = some r ∧ TurnsOn Cluster.answer
      (if r.metadata.deletionTimestamp.isSome then g.tearDown r else g.upkeep ns name r)
      s trace out t := by
  obtain ⟨trace, turns⟩ := turnsOn_of_runsOn run
  obtain ⟨rest, rfl, tail⟩ := turnsOn_call turns
  cases answer_cases (s := s) (.getRoot ns name) with
  | inl failed =>
    obtain ⟨e, failed⟩ := failed
    rw [failed] at tail
    cases tail
    exact .inl rfl
  | inr performed =>
    rw [performed] at tail
    simp only [Cluster.perform] at tail
    cases found : s.root? ns name with
    | none =>
      rw [found] at tail
      cases tail
      exact .inl rfl
    | some r =>
      rw [found] at tail
      exact .inr ⟨r, rest, rfl, tail⟩

theorem reconcile_isolated {out : Except ReconcileError Requeue} (reached : s.Reachable)
    (run : RunsOn Cluster.answer (g.reconcile k.namespace_ k.name) s out t) :
    Isolated g.settings.cleanup k (g.ownKeys k) s t := by
  rcases reconcile_goes_on run with rfl | ⟨r, trace, found, tail⟩
  · exact isolated_of_confined (.of_same rfl rfl)
  · obtain ⟨m, _, stamped⟩ := reached.versioned k r found
    obtain ⟨uid, known⟩ := Option.isSome_iff_exists.mp stamped.uid
    cases deleted : r.metadata.deletionTimestamp with
    | some time =>
      simp only [deleted, Option.isSome_some, if_true] at tail
      exact tearDown_isolated stamped.located found known tail
    | none =>
      simp only [deleted, Option.isSome_none, Bool.false_eq_true, if_false] at tail
      exact isolated_of_confined (upkeep_confined stamped.located deleted tail)

/-- However a pass ends, and whatever failures are arranged: all other roots stay as they are,
and so do all objects that are no children of its root, but for those that the root owns when
its last finalizer is taken off. No two uids need differ for this. And the children of
different roots lie at different places. -/
theorem roots_are_isolated (settings : PassSettings) (ns name : String) :
    (∀ s out t, s.Reachable →
      RunsOn Cluster.answer ((Engine.mk .builtin settings).reconcile ns name) s out t →
      Isolated settings.cleanup ⟨ns, name⟩ (childObjectKeys .builtin ns name) s t) ∧
    ∀ ns' name', (ns', name') ≠ (ns, name) →
      (childObjectKeys .builtin ns' name').Disjoint (childObjectKeys .builtin ns name) := by
  constructor
  · intro s out t reached run
    exact reconcile_isolated (k := ⟨ns, name⟩) (g := Engine.mk .builtin settings) reached run
  · intro ns' name' other
    exact childObjectKeys_disjoint other

theorem doomed_is_isolated :
    let once := ((Engine.mk .builtin { cleanup := .sweep }).reconcile "default" "demo").run
      (Cluster.asStore "") doomed
    once.2.root? "default" "demo" = none ∧
    (∃ u : Cluster, u.besides (childObjectKeys .builtin "default" "demo") =
        doomed.besides (childObjectKeys .builtin "default" "demo") ∧
      once.2.objects = u.objects.filter fun e => !isOwnedBy (uidText 1) e.2) ∧
    (childObjectKeys .builtin "default" "demo-epp").Disjoint
      (childObjectKeys .builtin "default" "demo") := by
  obtain ⟨isolated, apart⟩ := roots_are_isolated { cleanup := .sweep } "default" "demo"
  obtain ⟨r, found, known⟩ : ∃ r, Assoc.get? ⟨"default", "demo"⟩ doomed.roots = some r ∧
      r.metadata.uid = some (uidText 1) := ⟨_, rfl, by decide +kernel⟩
  have gone : (((Engine.mk .builtin { cleanup := .sweep }).reconcile "default" "demo").run
      (Cluster.asStore "") doomed).2.root? "default" "demo" = none := by
    decide +kernel
  have held := isolated doomed _ _ doomed_reachable (runsOn_run (Cluster.asStore "") _ doomed)
  obtain ⟨uid, u, named, _, besides, _, _, collected⟩ := held.released r found gone
  obtain rfl : uidText 1 = uid := Option.some.inj (known.symm.trans named)
  exact ⟨gone, ⟨u, besides, collected⟩, apart "default" "demo-epp" (by decide)⟩

end Engine
end SchedulerOperator
