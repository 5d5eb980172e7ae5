import SchedulerOperator.Proofs.Selectors
import SchedulerOperator.Text.Label

/-!
A server admits a custom resource under labels that dots separate. The limit on the length of the
root's name leaves room for every suffix, but nothing asks for a single label.
-/
namespace SchedulerOperator

namespace Text

structure IsLabel (cs : List Char) : Prop where
  first : cs.head?.any isLabelAlnum = true
  last : cs.getLast?.any isLabelAlnum = true
  chars : ∀ c ∈ cs, isLabelChar c = true

instance (cs : List Char) : Decidable (IsLabel cs) :=
  decidable_of_iff (cs.head?.any isLabelAlnum = true ∧ cs.getLast?.any isLabelAlnum = true ∧
      cs.all isLabelChar = true)
    ⟨fun ⟨first, last, chars⟩ => ⟨first, last, List.all_eq_true.mp chars⟩,
      fun label => ⟨label.first, label.last, List.all_eq_true.mpr label.chars⟩⟩

inductive IsSubdomain : List Char → Prop where
  | label {cs : List Char} (label : IsLabel cs) : IsSubdomain cs
  | dot {cs rest : List Char} (label : IsLabel cs) (more : IsSubdomain rest) :
      IsSubdomain (cs ++ '.' :: rest)

def IsHostLabel (s : String) : Prop := IsLabel s.toList ∧ s.length ≤ 63

variable {cs rest : List Char}

theorem IsLabel.hyphen (front : IsLabel cs) (back : IsLabel rest) :
    IsLabel (cs ++ '-' :: rest) where
  first := by
    cases cs with
    | nil => exact absurd front.first (by decide)
    | cons c more => exact front.first
  last := by
    cases rest with
    | nil => exact absurd back.last (by decide)
    | cons c more =>
      have tail : (cs ++ '-' :: c :: more).getLast? = (c :: more).getLast? := by
        simp [List.getLast?_append, List.getLast?_cons]
      rw [tail]
      exact back.last
  chars c mem := by
    rcases List.mem_append.mp mem with here | there
    · exact front.chars c here
    · rcases List.mem_cons.mp there with rfl | later
      · decide
      · exact back.chars c later

theorem IsSubdomain.hyphen (front : IsSubdomain cs) (back : IsLabel rest) :
    IsSubdomain (cs ++ '-' :: rest) := by
  induction front with
  | label label => exact .label (label.hyphen back)
  | dot label _ ih =>
    rw [List.append_assoc, List.cons_append]
    exact .dot label ih

theorem IsLabel.undotted (label : IsLabel cs) : '.' ∉ cs :=
  fun dot => absurd (label.chars _ dot) (by decide)

theorem IsSubdomain.isLabel_iff (name : IsSubdomain cs) : IsLabel cs ↔ '.' ∉ cs := by
  refine ⟨IsLabel.undotted, fun undotted => ?_⟩
  cases name with
  | label label => exact label
  | dot _ _ => exact absurd (List.mem_append_right _ List.mem_cons_self) undotted

theorem length_le_bytes (s : String) : s.length ≤ s.utf8ByteSize := by
  have chars : ∀ cs : List Char, cs.length ≤ (String.ofList cs).utf8ByteSize := by
    intro cs
    induction cs with
    | nil => exact Nat.zero_le _
    | cons c rest ih =>
      have apart : String.ofList (c :: rest) = String.singleton c ++ String.ofList rest := by
        rw [String.singleton_eq_ofList, ← String.ofList_append, List.singleton_append]
      have one := c.utf8Size_pos
      rw [apart, String.utf8ByteSize_append, String.utf8ByteSize_singleton, List.length_cons]
      omega
  have all := chars s.toList
  rwa [String.ofList_toList, String.length_toList] at all

end Text

namespace ChildKind
open Text

theorem suffix_label (k : ChildKind) : IsLabel k.suffix.toList ∧ k.suffix.length ≤ 16 := by
  cases k <;> decide +kernel

theorem childName_toList (root : String) (k : ChildKind) :
    (k.childName root).toList = root.toList ++ '-' :: k.suffix.toList := by
  simp [childName]

theorem childName_length (root : String) (k : ChildKind) :
    (k.childName root).length = root.length + 1 + k.suffix.length := by
  rw [childName, String.length_append, String.length_append]
  rfl

theorem childName_isLabel_iff {root : String} (name : IsSubdomain root.toList) (k : ChildKind) :
    IsLabel (k.childName root).toList ↔ '.' ∉ root.toList := by
  rw [childName_toList]
  constructor
  · intro label dot
    exact label.undotted (List.mem_append_left _ dot)
  · intro undotted
    exact (name.isLabel_iff.mpr undotted).hyphen k.suffix_label.1

end ChildKind

namespace Plan
open Text

theorem resolve_name_short {r : InferenceScheduler} {plan : Plan}
    (resolved : resolve r = .ok plan) :
    r.name.utf8ByteSize ≤ 46 := by
  obtain ⟨owner, _, _, _, checked, _⟩ := resolve_parts resolved
  unfold checkRoot at checked
  split at checked
  next long => cases checked
  next short => exact Nat.not_lt.mp short

/-- Of an accepted root that a server admits, every child has a name of labels with dots between
them, of at most 63 characters. It is one label exactly if the root's name has no dot. -/
theorem child_names_of_accepted_root {r : InferenceScheduler} {plan : Plan}
    (admitted : IsSubdomain r.name.toList) (resolved : resolve r = .ok plan) :
    ∀ e ∈ childKeys r.name, IsSubdomain e.2.toList ∧ e.2.length ≤ 63 ∧
      (IsHostLabel e.2 ↔ '.' ∉ r.name.toList) := by
  intro e mem
  obtain ⟨k, _, listed⟩ := List.mem_flatMap.mp mem
  obtain ⟨t, _, rfl⟩ := List.mem_map.mp listed
  obtain ⟨suffix, short⟩ := k.suffix_label
  have fits : (k.childName r.name).length ≤ 63 := by
    have root := Nat.le_trans (length_le_bytes r.name) (resolve_name_short resolved)
    rw [ChildKind.childName_length]
    omega
  refine ⟨?_, fits, ?_⟩
  · rw [ChildKind.childName_toList]
    exact admitted.hyphen suffix
  · rw [← k.childName_isLabel_iff admitted]
    exact and_iff_left fits

def rootNamed (name : String) : InferenceScheduler :=
  { rootServing "m" with
    metadata := { name := some name, namespace_ := some "default", uid := some "uid-0001" } }

theorem child_names_of_longest_root :
    let name := "llama-3-1-8b-instruct-2024-07-23-fp8-batch-012"
    ∃ plan, IsSubdomain (rootNamed name).name.toList ∧ resolve (rootNamed name) = .ok plan ∧
      ∀ e ∈ childKeys name, IsHostLabel e.2 := by
  intro name
  have admitted : IsSubdomain (rootNamed name).name.toList :=
    .label (by decide +kernel)
  obtain ⟨plan, resolved⟩ : ∃ plan, resolve (rootNamed name) = .ok plan :=
    resolves_of_isOk (by decide +kernel)
  refine ⟨plan, admitted, resolved, fun e mem => ?_⟩
  exact (child_names_of_accepted_root admitted resolved e mem).2.2.mpr (by decide +kernel)

theorem dotted_root_names_no_labels :
    ¬ ∀ (r : InferenceScheduler) (plan : Plan), IsSubdomain r.name.toList → resolve r = .ok plan →
      ∀ e ∈ childKeys r.name, IsHostLabel e.2 := by
  intro labels
  have front : IsLabel ['a'] := by decide
  have back : IsLabel ['b'] := by decide
  have admitted : IsSubdomain (rootNamed "a.b").name.toList := .dot front (.label back)
  obtain ⟨plan, resolved⟩ : ∃ plan, resolve (rootNamed "a.b") = .ok plan :=
    resolves_of_isOk (by decide +kernel)
  have first : (ResourceType.deployment, "a.b-model-server") ∈ childKeys "a.b" := by decide
  exact absurd (labels _ plan admitted resolved _ first).1.undotted (by decide)

end Plan
end SchedulerOperator
