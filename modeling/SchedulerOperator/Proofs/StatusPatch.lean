import SchedulerOperator.ApiServer
import SchedulerOperator.Proofs.RoundTrip

namespace SchedulerOperator
namespace Json

mutual
/-- What a merge patch makes of a value. -/
def merge (old : Json) : Json → Json
  | .obj changes => .obj (mergeMembers old.members changes)
  | v => v

def mergeMembers (ms : List (String × Json)) : List (String × Json) → List (String × Json)
  | [] => ms
  | (k, .null) :: rest => mergeMembers (Assoc.erase k ms) rest
  | (k, v) :: rest => mergeMembers (Assoc.set k (merge ((Assoc.get? k ms).getD .null) v) ms) rest
end

def mergeMember (old : Option Json) : Option Json → Option Json
  | none => old
  | some .null => none
  | some v => some (merge (old.getD .null) v)

theorem mergeMembers_cons (ms : List (String × Json)) (k : String) (v : Json)
    (rest : List (String × Json)) :
    ∃ next, mergeMembers ms ((k, v) :: rest) = mergeMembers next rest ∧
      (Assoc.Unique ms → Assoc.Unique next) ∧
      Assoc.get? k next = mergeMember (Assoc.get? k ms) (some v) ∧
      ∀ l, l ≠ k → Assoc.get? l next = Assoc.get? l ms := by
  have kept : ∀ w, ∃ next, mergeMembers (Assoc.set k w ms) rest = mergeMembers next rest ∧
      (Assoc.Unique ms → Assoc.Unique next) ∧ Assoc.get? k next = some w ∧
      ∀ l, l ≠ k → Assoc.get? l next = Assoc.get? l ms := fun w =>
    ⟨_, rfl, Assoc.Unique.set, Assoc.get?_set_self _ _ _, fun _ other =>
      Assoc.get?_set_other _ _ other⟩
  cases v with
  | null =>
    exact ⟨_, by rw [mergeMembers], fun unique => unique.erase k, Assoc.get?_erase_self _ _,
      fun _ other => Assoc.get?_erase_other _ other⟩
  | _ =>
    rw [mergeMembers.eq_def]
    exact kept _

theorem get?_mergeMembers {changes : List (String × Json)} (unique : Assoc.Unique changes)
    (ms : List (String × Json)) (k : String) :
    Assoc.get? k (mergeMembers ms changes) =
      mergeMember (Assoc.get? k ms) (Assoc.get? k changes) := by
  induction changes generalizing ms with
  | nil =>
    rw [mergeMembers]
    rfl
  | cons change rest ih =>
    obtain ⟨l, v⟩ := change
    obtain ⟨fresh, others⟩ := List.nodup_cons.mp unique
    obtain ⟨next, same, _, here, elsewhere⟩ := mergeMembers_cons ms l v rest
    rw [same, ih others next, Assoc.get?]
    split
    next hit =>
      subst hit
      have later : Assoc.get? k rest = none :=
        Option.eq_none_iff_forall_ne_some.mpr fun w found =>
          fresh (List.mem_map.mpr ⟨_, Assoc.mem_of_get? found, rfl⟩)
      rw [later, here]
      rfl
    next other => rw [elsewhere k other]

theorem unique_mergeMembers {ms : List (String × Json)} (unique : Assoc.Unique ms)
    (changes : List (String × Json)) : Assoc.Unique (mergeMembers ms changes) := by
  induction changes generalizing ms with
  | nil =>
    rw [mergeMembers]
    exact unique
  | cons change rest ih =>
    obtain ⟨next, same, kept, _⟩ := mergeMembers_cons ms change.1 change.2 rest
    rw [same]
    exact ih (kept unique)

/-- A value that takes the place of whatever there is. -/
def Leaf (v : Json) : Prop := v ≠ .null ∧ ∀ old, merge old v = v

theorem leaf_str (s : String) : (str s).Leaf := ⟨nofun, fun _ => by rw [merge]; exact nofun⟩

theorem leaf_int (n : Int) : (int n).Leaf := ⟨nofun, fun _ => by rw [merge]; exact nofun⟩

theorem leaf_bool (b : Bool) : (bool b).Leaf := ⟨nofun, fun _ => by rw [merge]; exact nofun⟩

theorem leaf_arr (items : List Json) : (arr items).Leaf :=
  ⟨nofun, fun _ => by rw [merge]; exact nofun⟩

theorem Leaf.mergeMember {v : Json} (leaf : v.Leaf) (old : Option Json) :
    mergeMember old (some v) = some v := by
  rw [Json.mergeMember.eq_def]
  split
  next missing => cases missing
  next none => exact absurd (Option.some.inj none) leaf.1
  next w same =>
    cases same
    rw [leaf.2]

theorem mergeMember_cleared {α : Type} {write : α → Json} (leaf : ∀ a, (write a).Leaf)
    (old : Option Json) (o : Option α) :
    mergeMember old (some ((o.map write).getD .null)) = o.map write := by
  cases o with
  | none => rfl
  | some a => exact (leaf a).mergeMember old

end Json

namespace ApiServer

theorem get?_orElse (k l : String) (fallback v : Json) :
    (orElse k fallback v).get? l =
      if l = k then some ((v.get? k).getD fallback) else v.get? l := by
  unfold orElse
  split
  next w found =>
    split
    next hit => rw [hit, found]; rfl
    next => rfl
  next absent => rw [Json.get?_set, absent]; rfl

theorem ordered_orElse {v : Json} (ordered : v.Ordered) (k : String) (fallback : Json) :
    (orElse k fallback v).Ordered := by
  unfold orElse
  split
  · exact ordered
  · exact ordered.set k fallback

def cleared (keys : List String) (v : Json) : Json :=
  keys.foldl (fun v k => orElse k .null v) v

theorem get?_cleared (keys : List String) (v : Json) (l : String) :
    (cleared keys v).get? l = if l ∈ keys then some ((v.get? l).getD .null) else v.get? l := by
  induction keys generalizing v with
  | nil => rfl
  | cons k rest ih =>
    change (cleared rest (orElse k .null v)).get? l = _
    rw [ih, get?_orElse]
    by_cases hit : l = k
    · subst hit
      simp
    · simp [hit]

theorem ordered_cleared {v : Json} (ordered : v.Ordered) (keys : List String) :
    (cleared keys v).Ordered := by
  induction keys generalizing v with
  | nil => exact ordered
  | cons k rest ih => exact ih (ordered_orElse ordered k .null)

end ApiServer

namespace SchedulerStatus

/-- All that is written for a status: it, with what it lacks. -/
def update (s : SchedulerStatus) : Json := (ApiServer.statusUpdate s).get "status"

def told (s : SchedulerStatus) : List (String × Option Json) :=
  s.listed (some (conditionsJson s.conditions))

theorem listed_ascending (conditions : Option Json) (s : SchedulerStatus) :
    Assoc.Ascending (s.listed conditions) := by
  change ["conditions", "eppReplicas", "gatewayReady", "inferencePoolReady",
    "modelServerReplicas", "observedGeneration", "phase", "prerequisiteMessage",
    "prerequisitesValidated"].Pairwise (· < ·)
  decide

theorem get?_listed_other (s : SchedulerStatus) {k : String} (other : k ≠ "conditions")
    {c d : Option Json} : Assoc.get? k (s.listed c) = Assoc.get? k (s.listed d) :=
  (if_neg other).trans (if_neg other).symm

theorem get?_toJson (s : SchedulerStatus) (k : String) :
    s.toJson.get? k = (Assoc.get? k (s.listed
      (if s.conditions.isEmpty then none else some (conditionsJson s.conditions)))).join :=
  Json.get?_present (listed_ascending _ s) k

theorem get?_update (s : SchedulerStatus) (k : String) :
    s.update.get? k =
      if k = "conditions" then some ((s.toJson.get? k).getD (.arr []))
      else if k ∈ ApiServer.clearable then some ((s.toJson.get? k).getD .null)
      else s.toJson.get? k := by
  change (ApiServer.orElse "conditions" (.arr [])
    (ApiServer.cleared ApiServer.clearable s.toJson)).get? k = _
  rw [ApiServer.get?_orElse, ApiServer.get?_cleared, ApiServer.get?_cleared]
  split
  next hit => subst hit; rfl
  next => rfl

theorem known_names : fields.names = ["phase", "conditions", "modelServerReplicas", "eppReplicas",
    "gatewayReady", "inferencePoolReady", "prerequisitesValidated", "prerequisiteMessage",
    "observedGeneration"] := rfl

theorem update_conditions (s : SchedulerStatus) :
    s.update.get? "conditions" = some (conditionsJson s.conditions) := by
  rw [get?_update, get?_toJson, if_pos rfl]
  cases conditions : s.conditions <;> rfl

theorem update_known (s : SchedulerStatus) (old : Option Json) :
    ∀ k ∈ fields.names, Json.mergeMember old (s.update.get? k) = (Assoc.get? k s.told).join := by
  intro k known
  by_cases list : k = "conditions"
  · subst list
    rw [update_conditions]
    exact (Json.leaf_arr _).mergeMember old
  rw [get?_update, get?_toJson]
  simp only [known_names, List.mem_cons, List.not_mem_nil, or_false] at known
  rcases known with rfl | rfl | rfl | rfl | rfl | rfl | rfl | rfl | rfl
  · exact Json.mergeMember_cleared (fun p : Phase => Json.leaf_str p.name) old s.phase
  · exact absurd rfl list
  · exact (Json.leaf_int _).mergeMember old
  · exact (Json.leaf_int _).mergeMember old
  · exact (Json.leaf_bool _).mergeMember old
  · exact (Json.leaf_bool _).mergeMember old
  · exact (Json.leaf_bool _).mergeMember old
  · exact Json.mergeMember_cleared Json.leaf_str old s.prerequisiteMessage
  · exact Json.mergeMember_cleared (fun _ => Json.leaf_int _) old s.observedGeneration

theorem update_unknown (s : SchedulerStatus) {k : String} (unknown : k ∉ fields.names) :
    s.update.get? k = none := by
  rw [get?_update, get?_toJson]
  simp only [known_names, List.mem_cons, List.not_mem_nil, or_false, not_or] at unknown
  simp [listed, Assoc.get?, ApiServer.clearable, unknown]

theorem ordered_update (s : SchedulerStatus) : s.update.Ordered :=
  ApiServer.ordered_orElse
    (ApiServer.ordered_cleared (Json.present_ordered (listed_ascending _ s)) _) _ _

theorem merge_statusUpdate (object : Json) (s : SchedulerStatus) :
    object.merge (ApiServer.statusUpdate s) =
      object.set "status" (Json.merge (object.get "status") s.update) := by
  obtain ⟨changes, same, _⟩ := ordered_update s
  change Json.merge object (.obj [("status", s.update)]) = _
  rw [same, Json.merge]
  simp only [Json.mergeMembers]
  rfl

/-- Writing a status leaves exactly that status, whatever there was: it is read from what is
stored, each member that a status can have is as the status has it and missing where the
status lacks it, and no other member is touched. -/
theorem patch_leaves_exactly (s : SchedulerStatus) (sound : s.Representable) (object : Json)
    (unique : Assoc.Unique (object.get "status").members) :
    let after := object.merge (ApiServer.statusUpdate s)
    decoder.ofJson (after.get "status") = .ok s ∧
    (after.get "status").get? "conditions" = some (conditionsJson s.conditions) ∧
    (∀ k ∈ fields.names, k ≠ "conditions" → (after.get "status").get? k = s.toJson.get? k) ∧
    (∀ k, k ∉ fields.names → (after.get "status").get? k = (object.get "status").get? k) ∧
    ∀ k, k ≠ "status" → after.get? k = object.get? k := by
  intro after
  have whole : after = object.set "status" (Json.merge (object.get "status") s.update) :=
    merge_statusUpdate object s
  have stored : after.get "status" = Json.merge (object.get "status") s.update := by
    rw [whole, Json.get_set_self]
  rw [stored]
  obtain ⟨changes, same, order⟩ := ordered_update s
  have lookup : ∀ k, (Json.merge (object.get "status") s.update).get? k =
      Json.mergeMember ((object.get "status").get? k) (s.update.get? k) := by
    intro k
    rw [same, Json.merge]
    exact Json.get?_mergeMembers order.unique _ k
  have known : ∀ k ∈ fields.names, (Json.merge (object.get "status") s.update).get? k =
      (Assoc.get? k s.told).join := fun k mem => (lookup k).trans (update_known s _ k mem)
  refine ⟨?_, ?_, ?_, ?_, ?_⟩
  · have reads := (agrees fun _ => Or.inl rfl).reads s _ known sound
    rw [same, Json.merge] at reads ⊢
    exact reads.ofJson (Json.unique_mergeMembers unique changes) _
  · exact known "conditions" (by decide)
  · intro k mem other
    rw [known k mem, get?_toJson, told, get?_listed_other s other]
  · intro k unknown
    rw [lookup, update_unknown s unknown]
    rfl
  · intro k other
    rw [whole, Json.get?_set_other _ _ other]

theorem patch_leaves_nothing_old :
    let old : Json := .obj [("conditions", .arr [.obj [("type", .str "EPPReady")]]),
      ("drained", .bool true), ("observedGeneration", .int 3), ("phase", .str "Ready"),
      ("prerequisiteMessage", .str "no class")]
    let s : SchedulerStatus := { eppReplicas := 2, gatewayReady := true }
    let after := Json.merge (.obj [("kind", .str "InferenceScheduler"), ("status", old)])
      (ApiServer.statusUpdate s)
    (s.Representable ∧ Assoc.Unique old.members) ∧ decoder.ofJson (after.get "status") = .ok s ∧
      (after.get "status").get? "conditions" = some (.arr []) ∧
      (after.get "status").get? "phase" = none ∧
      (after.get "status").get? "drained" = some (.bool true) ∧
      after.get? "kind" = some (.str "InferenceScheduler") := by
  intro old s
  have sound : s.Representable :=
    { modelServerReplicas := isInt32_zero
      eppReplicas := ⟨by decide, by decide⟩ }
  have unique : Assoc.Unique old.members := by
    change ["conditions", "drained", "observedGeneration", "phase", "prerequisiteMessage"].Nodup
    decide
  obtain ⟨read, conditions, known, unknown, others⟩ := patch_leaves_exactly s sound
    (.obj [("kind", .str "InferenceScheduler"), ("status", old)]) unique
  exact ⟨⟨sound, unique⟩, read, conditions, known "phase" (by decide) (by decide),
    unknown "drained" (by decide), others "kind" (by decide)⟩

end SchedulerStatus

end SchedulerOperator
