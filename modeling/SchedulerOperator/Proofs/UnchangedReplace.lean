import SchedulerOperator.Proofs.Additions

/-!
What a replace compares is the object before the cluster gets to work on it, without its status, so
the stored object may still differ afterwards: a Service may get its first address, a Deployment
its replicas, and any object its first status.
-/
namespace SchedulerOperator

namespace Json
variable {v w x : Json}

theorem double_same_trans {x y z : Double} (first : x.same y = true) (second : y.same z = true) :
    x.same z = true := by
  simp only [Double.same, Bool.and_eq_true, decide_eq_true_eq] at first second ⊢
  exact ⟨⟨first.1.1, second.1.2⟩, first.2.trans second.2⟩

mutual
theorem same_trans : ∀ {v w x : Json}, v.same w = true → w.same x = true → v.same x = true
  | v, w, x, first, second => by
    cases v <;> cases w <;> first
      | exact second
      | exact (eq_of_beq first) ▸ second
      | cases first
      | (cases x <;> first
          | cases second
          | exact double_same_trans first second
          | exact sameItems_trans first second
          | exact sameMembers_trans first second)

theorem sameItems_trans : ∀ {as bs cs : List Json}, same.sameItems as bs = true →
    same.sameItems bs cs = true → same.sameItems as cs = true
  | [], [], _, _, second => second
  | a :: as, b :: bs, c :: cs, first, second => by
    simp only [same.sameItems, Bool.and_eq_true] at first second ⊢
    exact ⟨same_trans first.1 second.1, sameItems_trans first.2 second.2⟩

theorem sameMembers_trans : ∀ {as bs cs : List (String × Json)}, same.sameMembers as bs = true →
    same.sameMembers bs cs = true → same.sameMembers as cs = true
  | [], [], _, _, second => second
  | (k, a) :: as, (l, b) :: bs, (m, c) :: cs, first, second => by
    simp only [same.sameMembers, Bool.and_eq_true, beq_iff_eq] at first second ⊢
    exact ⟨⟨first.1.1.trans second.1.1, same_trans first.1.2 second.1.2⟩,
      sameMembers_trans first.2 second.2⟩
end

theorem same_isNull (alike : v.same w = true) : v.isNull = w.isNull := by
  cases v <;> cases w <;> first
    | rfl
    | cases alike

theorem SameMember.trans {v w x : Option Json} (first : SameMember v w) (second : SameMember w x) :
    SameMember v x := by
  cases first with
  | none => exact second
  | some first =>
    cases second with
    | some second => exact .some (same_trans first second)

theorem sameMember_refl {v : Option Json} (finite : ∀ w, v = some w → w.Finite) : SameMember v v := by
  cases v with
  | none => exact .none
  | some w => exact .some (same_refl (finite w rfl))

end Json

namespace Cluster
open ChildObject Json
variable {s t : Cluster} {api : ApiResource} {ns : Option String} {name kind : String}
  {object old version e v w x : Json} {o : Operation} {key : ObjectKey}

/-- Two stored objects are equal: they have the same members, and the same members in their
metadata, which every stored object has. -/
structure SameObject (v w : Json) : Prop where
  members : ∀ k, k ≠ "metadata" → SameMember (v.get? k) (w.get? k)
  metadata : ∀ k, SameMember ((v.get "metadata").get? k) ((w.get "metadata").get? k)

theorem SameObject.refl (finite : v.Finite) : SameObject v v where
  members _ _ := sameMember_refl fun _ found => finite.get? found
  metadata _ := sameMember_refl fun _ found => (finite.get _).get? found

theorem SameObject.trans (first : SameObject v w) (second : SameObject w x) :
    SameObject v x where
  members k other := (first.members k other).trans (second.members k other)
  metadata k := (first.metadata k).trans (second.metadata k)

/-- Nothing is left for the cluster to add when `object` is put in place of `old`. -/
structure Complete (s : Cluster) (api : ApiResource) (old object : Json) : Prop where
  addressed : ¬ Addressless api.kind old
  ready : api.kind = "Deployment" ∧ s.autoReady →
    SameMember (old.get? "status") (some (readyStatus (requestedReplicas object)))
  reported : ¬ (api.kind = "Deployment" ∧ s.autoReady) → old.get? "status" = none →
    object.get? "status" = none

theorem content_other {k : String} (metadata : k ≠ "metadata") (status : k ≠ "status") :
    (content v).get? k = v.get? k := by
  have kept : ∀ w : Json, (w.erase "status").get? k = w.get? k := by
    intro w
    cases w with
    | obj ms => exact Assoc.get?_erase_other ms status
    | _ => rfl
  unfold content modifyPresent
  rw [kept]
  split
  · exact get?_set_other _ _ metadata
  · rfl

theorem content_metadata {k : String} (other : k ≠ "resourceVersion") :
    ((content v).get "metadata").get? k = (v.get "metadata").get? k := by
  have kept : ∀ w : Json, (w.erase "resourceVersion").get? k = w.get? k := by
    intro w
    cases w with
    | obj ms => exact Assoc.get?_erase_other ms other
    | _ => rfl
  unfold content modifyPresent
  rw [get_erase_other _ (by decide)]
  cases found : v.get? "metadata" with
  | none => rfl
  | some metadata =>
    dsimp only
    rw [get_set_self, kept, Json.get, found]
    rfl

section
variable (compared : (content old).same (content (keepStatus old (placeIn ns object))) = true)
include compared

theorem compared_member {k : String} (metadata : k ≠ "metadata") (status : k ≠ "status") :
    SameMember (old.get? k) (object.get? k) := by
  have alike := same_get? compared k
  rw [content_other metadata status, content_other metadata status, get?_keepStatus, if_neg status,
    placeIn_other metadata] at alike
  exact alike

theorem compared_metadata {k : String} (other : k ≠ "resourceVersion") :
    SameMember ((old.get "metadata").get? k) (((placeIn ns object).get "metadata").get? k) := by
  have alike := same_get? (same_get compared "metadata") k
  rw [content_metadata other, content_metadata other, metadata_keepStatus] at alike
  exact alike

theorem compared_addressless : Addressless kind old ↔ Addressless kind object := by
  have spec := (compared_member compared (k := "spec") (by decide) (by decide)).get
  unfold Addressless
  rw [same_isNull (same_get spec "clusterIP")]

end

theorem Replaced.complete_of_same (replaced : Replaced s api ns name object old e false t)
    (alike : SameObject old e) : s.Complete api old object := by
  have compared : (content old).same (content (keepStatus old (placeIn ns object))) = true :=
    replaced.compared
  have stored : e = s.furnished api ns old object (resourceVersion old) := replaced.stored
  have status := alike.members "status" (by decide)
  rw [stored, furnished_status] at status
  refine ⟨fun bare => ?_, fun ready => ?_, fun unready missing => ?_⟩
  · have spec := (alike.members "spec" (by decide)).get
    have address := same_isNull (same_get spec "clusterIP")
    rw [bare.2, stored, get_of_get? (furnished_bare ((compared_addressless compared).mp bare)),
      get_set_other _ _ (by decide), get_set_self] at address
    cases address
  · rw [if_pos ready] at status
    exact status
  · rw [if_neg unready, missing, Option.none_or] at status
    cases there : object.get? "status" with
    | none => rfl
    | some v =>
      rw [there] at status
      cases status

theorem Complete.status (complete : s.Complete api old object) (kept : Kept old) :
    SameMember (old.get? "status") ((s.furnished api ns old object version).get? "status") := by
  rw [furnished_status]
  split
  · exact complete.ready ‹_›
  · cases there : old.get? "status" with
    | none =>
      rw [Option.none_or, complete.reported ‹_› there]
      exact .none
    | some v => exact .some (same_refl (kept.finite.get? there))

theorem Replaced.same_of_complete (replaced : Replaced s api ns name object old e false t)
    (kept : Kept old) (complete : s.Complete api old object) : SameObject old e := by
  have compared : (content old).same (content (keepStatus old (placeIn ns object))) = true :=
    replaced.compared
  have stored : e = s.furnished api ns old object (resourceVersion old) := replaced.stored
  refine ⟨fun k other => ?_, fun k => ?_⟩
  · rw [stored]
    by_cases status : k = "status"
    · subst status
      exact complete.status kept
    · have member := compared_member compared other status
      by_cases spec : k = "spec"
      · subst spec
        rw [furnished_spec ((compared_addressless compared).not.mp complete.addressed)]
        exact member
      · rw [furnished_other other spec status]
        exact member
  · rw [stored, furnished_metadata, get?_set]
    split
    · rename_i here
      obtain ⟨text, version⟩ := kept.version
      have present : ((old.get "metadata").get? "resourceVersion") = some (resourceVersion old) :=
        get?_of_get (by change (resourceVersion old).isNull = false; rw [version]; rfl)
      rw [here, present, version]
      exact .some (same_refl (finite_str text))
    · exact compared_metadata compared ‹_›

theorem answer_replace (done : (s.answer (.replace api ns name object)).1 = .ok e) :
    ∃ old changed, Replaced s api ns name object old e changed (s.answer (.replace api ns name object)).2 := by
  have performed := answer_ok done
  rw [performed] at done ⊢
  exact replace_done (Prod.ext done rfl)

inductive Entered (o : Operation) (s t : Cluster) (key : ObjectKey) (w : Json) : Prop where
  | kept (before : Assoc.get? key s.objects = some w)
  | renewed (later : s.version < t.version) (version : resourceVersion w = .str (toString t.version))
  | idle {api : ApiResource} {ns : Option String} {name : String} {object old : Json}
      (call : o = .call (.replace api ns name object)) (here : api.objectKey ns name = key)
      (replaced : Replaced s api ns name object old w false t)

theorem Entered.put {k : ObjectKey} (objects : t.objects = Assoc.set k v s.objects)
    (later : s.version < t.version) (version : resourceVersion v = .str (toString t.version))
    (found : Assoc.get? key t.objects = some w) : Entered o s t key w := by
  rcases Assoc.get?_set_cases (objects ▸ found) with ⟨rfl, rfl⟩ | ⟨_, before⟩
  · exact .renewed later version
  · exact .kept before

theorem entered_replace (found : Assoc.get? key (s.replace api ns name object).2.objects = some w) :
    Entered (.call (.replace api ns name object)) s (s.replace api ns name object).2 key w := by
  cases result : (s.replace api ns name object).1 with
  | error why =>
    rw [replace_refused result] at found ⊢
    exact .kept found
  | ok e =>
    obtain ⟨old, changed, replaced⟩ := replace_done (Prod.ext result rfl)
    cases changed with
    | true =>
      refine .put replaced.objects ?_ ?_ found
      · rw [replaced.version]
        exact Nat.lt_succ_self _
      · rw [replaced.version, replaced.stored, furnished_version]
        rfl
    | false =>
      rcases Assoc.get?_set_cases (replaced.objects ▸ found) with ⟨rfl, rfl⟩ | ⟨_, before⟩
      · exact .idle rfl rfl replaced
      · exact .kept before

theorem entered_apply (unique : Assoc.Unique s.objects) (o : Operation)
    (found : Assoc.get? key (o.apply s).objects = some w) : Entered o s (o.apply s) key w := by
  cases restocked_apply (s := s) o with
  | fewer objects => exact .kept (unique.get?_of_mem (objects.subset (Assoc.mem_of_get? found)))
  | renewed later version objects => exact .put objects later version found
  | @restored api ns name object v old call =>
    subst call
    change Assoc.get? key (s.answer _).2.objects = some w at found
    change Entered _ s (s.answer _).2 key w
    rcases answer_cases (s := s) (.replace api ns name object) with ⟨e, failed⟩ | performed
    · rw [failed] at found ⊢
      exact .kept found
    · rw [performed] at found ⊢
      exact entered_replace found

/-- A replace of the object at `key` that is put down as unchanged leaves nothing to be added. -/
def CompleteAt (key : ObjectKey) (s : Cluster) (o : Operation) : Prop :=
  ∀ api ns name object old e, o = .call (.replace api ns name object) → api.objectKey ns name = key →
    Replaced s api ns name object old e false (o.apply s) → s.Complete api old object

def CompleteAlong (key : ObjectKey) : List Operation → Cluster → Prop
  | [], _ => True
  | o :: os, s => s.CompleteAt key o ∧ CompleteAlong key os (o.apply s)

/-- As long as what is stored at `key` has the version of `v`, it is `v`. -/
structure Names (key : ObjectKey) (v : Json) (s : Cluster) : Prop where
  issued : ∃ n, n ≤ s.version ∧ resourceVersion v = .str (toString n)
  same : ∀ w, Assoc.get? key s.objects = some w → resourceVersion w = resourceVersion v → SameObject v w

theorem Names.apply (names : Names key v s) (reached : s.Reachable) (complete : s.CompleteAt key o) :
    Names key v (o.apply s) := by
  obtain ⟨n, low, version⟩ := names.issued
  refine ⟨⟨n, Nat.le_trans low (version_le_apply s o), version⟩, fun w found equal => ?_⟩
  cases entered_apply reached.numbered.unique o found with
  | kept before => exact names.same w before equal
  | renewed later stamp =>
    rw [stamp, version] at equal
    have number := toString_injective (Json.str.inj equal)
    omega
  | @idle api ns name object old call here replaced =>
    have there : Assoc.get? key s.objects = some old := here ▸ replaced.found
    have stamp : resourceVersion w = resourceVersion old := by
      rw [replaced.stored, furnished_version]
      rfl
    have unmoved : SameObject old w :=
      replaced.same_of_complete (reached.sound.object there) (complete _ _ _ _ _ _ call here replaced)
    exact (names.same old there (stamp.symm.trans equal)).trans unmoved

theorem Names.applyAll {os : List Operation} (names : Names key v s) (reached : s.Reachable)
    (typed : ∀ o ∈ os, o.WellTyped) (complete : CompleteAlong key os s) :
    Names key v (Operation.applyAll os s) := by
  induction os generalizing s with
  | nil => exact names
  | cons o os ih =>
    refine ih (names.apply reached complete.1) (reached.next o (typed o (List.mem_cons_self ..))) ?_
      complete.2
    exact fun o' mem => typed o' (List.mem_cons_of_mem _ mem)

/-- After a replace that is put down as unchanged the object has the version that it had, and is
what it was if and only if nothing was left to be added to it. As long as this is so for every
such replace of an object, two reads of it that see one version see one object. -/
theorem unchanged_replace_leaves (reached : s.Reachable) :
    (∀ api ns name object e w, (s.answer (.replace api ns name object)).1 = .ok e →
      (s.answer (.replace api ns name object)).2.writes = w :: s.writes → w.changed = false →
      ∃ old, s.object? api ns name = some old ∧
        (s.answer (.replace api ns name object)).2.object? api ns name = some e ∧
        resourceVersion e = resourceVersion old ∧
        (SameObject old e ↔ s.Complete api old object)) ∧
    ∀ os key v w, (∀ o ∈ os, o.WellTyped) → CompleteAlong key os s →
      Assoc.get? key s.objects = some v →
      Assoc.get? key (Operation.applyAll os s).objects = some w →
      resourceVersion w = resourceVersion v → SameObject v w := by
  constructor
  · intro api ns name object e w done logged unchanged
    obtain ⟨old, changed, replaced⟩ := answer_replace done
    obtain ⟨rfl, -⟩ := List.cons.inj (logged.symm.trans replaced.writes)
    subst unchanged
    have kept := reached.sound.object replaced.found
    refine ⟨old, replaced.found, ?_, ?_, replaced.complete_of_same, replaced.same_of_complete kept⟩
    · rw [object?, replaced.objects, Assoc.get?_set_self]
    · rw [replaced.stored, furnished_version]
      rfl
  · intro os key v w typed complete before after equal
    obtain ⟨n, low, version⟩ := reached.numbered.version _ (Assoc.mem_of_get? before)
    have names : Names key v s := by
      refine ⟨⟨n, low, version⟩, fun w found _ => ?_⟩
      obtain rfl := Option.some.inj (before.symm.trans found)
      exact .refl (reached.sound.object before).finite
    exact (names.applyAll reached typed complete).same w after equal

def seeded (r : ResourceType) (name : String) (spec : Json) : Cluster :=
  Operation.applyAll
    [.install r.builtinApi,
      .insertObject r.builtinApi (some "ns")
        (.obj [("metadata", .obj [("name", .str name)]), ("spec", spec)])] {}

theorem seeded_reachable {r : ResourceType} {name : String} {spec : Json} (finite : spec.Finite) :
    (seeded r name spec).Reachable := by
  refine Reachable.empty.foldl _ fun o mem => ?_
  simp only [List.mem_cons, List.not_mem_nil, or_false] at mem
  rcases mem with rfl | rfl
  · trivial
  · exact ⟨⟨trivial, trivial⟩, finite, trivial⟩

def seededObject (r : ResourceType) (name : String) (spec : Json) : Json :=
  .obj [("apiVersion", .str r.builtinApi.apiVersion), ("kind", .str r.builtinApi.kind),
    ("metadata", .obj [("name", .str name), ("namespace", .str "ns"), ("resourceVersion", .str "1")]),
    ("spec", spec)]

/-- A Service without an address gets one from a replace by itself, which is put down as
unchanged and leaves the version. -/
theorem unchanged_replace_assigns_address :
    let api := ResourceType.service.builtinApi
    let s := seeded .service "s" (.obj [("type", .str "ClusterIP")])
    let old := seededObject .service "s" (.obj [("type", .str "ClusterIP")])
    ∃ e w, s.Reachable ∧ s.object? api (some "ns") "s" = some old ∧
      (s.answer (.replace api (some "ns") "s" old)).1 = .ok e ∧
      (s.answer (.replace api (some "ns") "s" old)).2.writes = w :: s.writes ∧ w.changed = false ∧
      (s.answer (.replace api (some "ns") "s" old)).2.object? api (some "ns") "s" = some e ∧
      resourceVersion e = resourceVersion old ∧ old.same e = false := by
  refine ⟨_, _, seeded_reachable ⟨trivial, trivial⟩, rfl, rfl, rfl, rfl, rfl, rfl, ?_⟩
  decide

theorem replaced_pool_stays :
    let api := ResourceType.inferencePool.builtinApi
    let s := seeded .inferencePool "p" .null
    let old := seededObject .inferencePool "p" .null
    let replace := StoreCall.replace api (some "ns") "p" old
    ∃ e, (s.answer replace).1 = .ok e ∧ SameObject old e ∧
      ∀ w, Assoc.get? (api.objectKey (some "ns") "p")
          (Operation.applyAll [.call replace] s).objects = some w → SameObject old w := by
  intro api s old replace
  have reached : s.Reachable := seeded_reachable trivial
  have there : s.object? api (some "ns") "p" = some old := rfl
  have complete : s.Complete api old old := by
    refine ⟨fun bare => ?_, fun ready => ?_, fun _ missing => missing⟩
    · exact absurd bare.1 (by decide)
    · exact absurd ready.1 (by decide)
  have along : CompleteAlong (api.objectKey (some "ns") "p") [.call replace] s := by
    refine ⟨fun api' ns' name' object' old' e' call here replaced => ?_, trivial⟩
    obtain ⟨rfl, rfl, rfl, rfl⟩ := StoreCall.replace.inj (Operation.call.inj call)
    obtain rfl := Option.some.inj (there.symm.trans replaced.found)
    exact complete
  obtain ⟨first, second⟩ := unchanged_replace_leaves reached
  obtain ⟨old', found, _, _, same⟩ := first api (some "ns") "p" old _ _ rfl rfl rfl
  obtain rfl := Option.some.inj (there.symm.trans found)
  refine ⟨_, rfl, same.mpr complete, fun w after => second _ _ _ w ?_ along there after ?_⟩
  · intro o mem
    rw [List.mem_singleton.mp mem]
    exact (reached.sound.object there).finite
  · cases after
    rfl

end Cluster
end SchedulerOperator
