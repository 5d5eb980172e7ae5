import SchedulerOperator.Proofs.StoredChild

namespace SchedulerOperator

namespace Json

variable {v w : Json}

/-- A member in two objects: in neither of them, or in both with values that are the same. -/
def SameMember (v w : Option Json) : Prop := Option.Rel (fun v w => v.same w = true) v w

theorem sameMembers_get? {ms ns : List (String × Json)} (alike : same.sameMembers ms ns = true)
    (k : String) : SameMember (Assoc.get? k ms) (Assoc.get? k ns) := by
  induction ms generalizing ns with
  | nil =>
    cases ns with
    | nil => exact .none
    | cons n rest => cases alike
  | cons m rest ih =>
    cases ns with
    | nil => cases alike
    | cons n rest' =>
      simp only [same.sameMembers, Bool.and_eq_true, beq_iff_eq] at alike
      obtain ⟨⟨key, value⟩, others⟩ := alike
      by_cases here : k = m.1
      · rw [Assoc.get?, Assoc.get?, if_pos here, if_pos (here.trans key)]
        exact .some value
      · have there : ¬ k = n.1 := fun hit => here (hit.trans key.symm)
        rw [Assoc.get?, Assoc.get?, if_neg here, if_neg there]
        exact ih others

theorem same_get? (alike : v.same w = true) (k : String) : SameMember (v.get? k) (w.get? k) := by
  cases v <;> cases w <;> first
    | exact sameMembers_get? alike k
    | exact .none
    | cases alike

theorem SameMember.get {k : String} (alike : SameMember (v.get? k) (w.get? k)) :
    (v.get k).same (w.get k) = true := by
  unfold Json.get
  generalize v.get? k = a at alike ⊢
  generalize w.get? k = b at alike ⊢
  cases alike with
  | none => rfl
  | some alike => exact alike

theorem same_get (alike : v.same w = true) (k : String) : (v.get k).same (w.get k) = true :=
  SameMember.get (same_get? alike k)

theorem same_str? (alike : v.same w = true) : v.str? = w.str? := by
  cases v <;> cases w <;> first
    | exact congrArg some (eq_of_beq alike)
    | rfl
    | cases alike

theorem sameItems_any {f : Json → Bool} (congruent : ∀ {v w}, v.same w = true → f v = f w)
    {items others : List Json} (alike : same.sameItems items others = true) :
    items.any f = others.any f := by
  induction items generalizing others with
  | nil =>
    cases others with
    | nil => rfl
    | cons w rest => cases alike
  | cons v rest ih =>
    cases others with
    | nil => cases alike
    | cons w rest' =>
      simp only [same.sameItems, Bool.and_eq_true] at alike
      rw [List.any_cons, List.any_cons, congruent alike.1, ih alike.2]

theorem get_erase_other {k l : String} (v : Json) (other : l ≠ k) :
    (v.erase k).get l = v.get l := by
  cases v with
  | obj ms => exact congrArg (·.getD .null) (Assoc.get?_erase_other ms other)
  | _ => rfl

end Json

namespace Cluster
variable {s : Cluster} {v w : Json} {uid : String}

theorem isOwnedBy_congr
    (kept : (v.get "metadata").get "ownerReferences" = (w.get "metadata").get "ownerReferences") :
    isOwnedBy uid v = isOwnedBy uid w := by
  unfold isOwnedBy
  rw [kept]

theorem isOwnedBy_setMetadata {key : String} (other : "ownerReferences" ≠ key) :
    isOwnedBy uid (setMetadata key w v) = isOwnedBy uid v := by
  refine isOwnedBy_congr ?_
  rw [setMetadata, Json.get_modify_self, Json.get_set_other _ _ other]

theorem isOwnedBy_set {key : String} (other : "metadata" ≠ key) :
    isOwnedBy uid (v.set key w) = isOwnedBy uid v := by
  refine isOwnedBy_congr ?_
  rw [Json.get_set_other _ _ other]

theorem isOwnedBy_placeIn (ns : Option String) :
    isOwnedBy uid (placeIn ns v) = isOwnedBy uid v := by
  cases ns with
  | none => rfl
  | some ns => exact isOwnedBy_setMetadata (by decide)

theorem isOwnedBy_keepStatus (old : Json) :
    isOwnedBy uid (keepStatus old v) = isOwnedBy uid v := by
  unfold keepStatus
  split
  · exact isOwnedBy_set (by decide)
  · rfl

theorem metadata_assignAddress (kind : String) :
    (s.assignAddress kind v).1.get "metadata" = v.get "metadata" := by
  unfold assignAddress
  split
  · dsimp only
    rw [Json.get_modify_other _ _ (by decide)]
  · rfl

theorem metadata_reportReady (kind : String) (autoReady : Bool) :
    (reportReady kind autoReady v).get "metadata" = v.get "metadata" := by
  unfold reportReady
  split
  · rw [Json.get_set_other _ _ (by decide)]
  · rfl

theorem metadata_simulate (kind : String) :
    (s.simulate kind v).1.get "metadata" = v.get "metadata" :=
  (metadata_reportReady kind _).trans (metadata_assignAddress kind)

theorem isOwnedBy_same (alike : v.same w = true) : isOwnedBy uid v = isOwnedBy uid w := by
  have refs := Json.same_get (Json.same_get alike "metadata") "ownerReferences"
  unfold isOwnedBy
  generalize (v.get "metadata").get "ownerReferences" = a at refs ⊢
  generalize (w.get "metadata").get "ownerReferences" = b at refs ⊢
  cases a <;> cases b <;> first
    | exact Json.sameItems_any (fun same => by rw [Json.same_str? (Json.same_get same "uid")]) refs
    | rfl
    | cases refs

theorem isOwnedBy_content : isOwnedBy uid (content v) = isOwnedBy uid v := by
  refine isOwnedBy_congr ?_
  unfold content
  rw [Json.get_erase_other _ (by decide)]
  unfold Json.modifyPresent
  cases found : v.get? "metadata" with
  | none => rfl
  | some metadata =>
    have whole : v.get "metadata" = metadata := by rw [Json.get, found]; rfl
    rw [whole]
    change ((v.set "metadata" (metadata.erase "resourceVersion")).get "metadata").get _ = _
    rw [Json.get_set_self, Json.get_erase_other _ (by decide)]

theorem isOwnedBy_of_content (alike : (content v).same (content w) = true) :
    isOwnedBy uid v = isOwnedBy uid w := by
  rw [← isOwnedBy_content, isOwnedBy_same alike, isOwnedBy_content]

def Live (s : Cluster) (uid : String) : Prop :=
  ∃ k r, Assoc.get? k s.roots = some r ∧ r.metadata.uid = some uid

/-- Of the uids that were handed out, an object names only those of stored roots. -/
def OwnersLive (s : Cluster) (v : Json) : Prop :=
  ∀ n, 1 ≤ n → n ≤ s.uids → isOwnedBy (uidText n) v = true → s.Live (uidText n)

def NoOrphans (s : Cluster) : Prop := ∀ e ∈ s.objects, s.OwnersLive e.2

theorem OwnersLive.congr (live : s.OwnersLive v)
    (same : ∀ uid, isOwnedBy uid w = isOwnedBy uid v) : s.OwnersLive w := by
  intro n low high owned
  rw [same] at owned
  exact live n low high owned

end Cluster

namespace ChildObject
open Cluster
variable {d : ChildObject} {uid : String}

theorem isOwnedBy_withOwners (owners : List Json) (payload : Json) :
    isOwnedBy uid (withOwners owners payload) =
      owners.any fun r => (r.get "uid").str? == some uid := by
  unfold isOwnedBy withOwners
  rw [Json.get_modify_self, Json.get_set_self]
  rfl

theorem mergeOwners_any {f : Json → Bool} {owner : Json} {refs : List Json}
    (named : (mergeOwners owner refs).any f = true) : f owner = true ∨ refs.any f = true := by
  induction refs with
  | nil => simpa [mergeOwners] using named
  | cons r rest ih =>
    unfold mergeOwners at named
    split at named
    · rw [List.any_cons, Bool.or_eq_true] at named
      rcases named with ours | other
      · exact .inl ours
      · exact .inr (by rw [List.any_cons, other, Bool.or_true])
    · rw [List.any_cons, Bool.or_eq_true] at named
      rw [List.any_cons, Bool.or_eq_true]
      rcases named with first | more
      · exact .inr (.inl first)
      · exact (ih more).imp_right .inr

theorem created_owner (owned : isOwnedBy uid (withOwners [d.owner.toJson] d.payload) = true) :
    uid = d.owner.uid := by
  simp only [isOwnedBy_withOwners, List.any_cons, List.any_nil, Bool.or_false, owner_uid] at owned
  exact (Option.some.inj (eq_of_beq owned)).symm

theorem keepAssigned_other {old payload : Json} {k : String} (other : k ≠ "spec")
    (fields : List String) : (keepAssigned old payload fields).get? k = payload.get? k := by
  induction fields generalizing payload with
  | nil => rfl
  | cons field rest ih =>
    rw [keepAssigned, ih]
    split
    · exact Json.get?_set_other _ _ other
    · rfl

theorem metadata_replacement (old : Json) :
    (d.replacement old).get "metadata" =
      (withOwners (d.ownersOver old)
        (setMetadata "resourceVersion" (resourceVersion old) d.payload)).get "metadata" := by
  unfold replacement
  split
  · have other : "metadata" ≠ "spec" := by decide
    exact congrArg (·.getD Json.null) (keepAssigned_other other _)
  · rfl

theorem replacement_owner {old : Json} (owned : isOwnedBy uid (d.replacement old) = true) :
    uid = d.owner.uid ∨ isOwnedBy uid old = true := by
  rw [isOwnedBy_congr (congrArg (·.get "ownerReferences") (metadata_replacement old)),
    isOwnedBy_withOwners] at owned
  rcases mergeOwners_any owned with ours | kept
  · rw [owner_uid] at ours
    exact .inl (Option.some.inj (eq_of_beq ours)).symm
  · right
    unfold isOwnedBy
    cases list : ((old.get "metadata").get "ownerReferences").arr? with
    | none =>
      rw [list] at kept
      cases kept
    | some refs =>
      rw [list] at kept
      exact kept

theorem replacement_version (old : Json) :
    resourceVersion (d.replacement old) = resourceVersion old := by
  unfold resourceVersion
  rw [metadata_replacement, withOwners, Json.get_modify_self, Json.get_set_other _ _ (by decide)]
  exact resourceVersion_set

end ChildObject
end SchedulerOperator
