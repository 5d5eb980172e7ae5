import Mathlib.Data.List.DropRight
import SchedulerOperator.Proofs.Acceptance
import SchedulerOperator.Proofs.ChildNames

namespace SchedulerOperator.Text

theorem isLabelAlnum_iff (c : Char) : isLabelAlnum c = true ↔
    (97 ≤ c.toNat ∧ c.toNat ≤ 122) ∨ (48 ≤ c.toNat ∧ c.toNat ≤ 57) := by
  simp only [isLabelAlnum, Bool.or_eq_true, Bool.and_eq_true, decide_eq_true_eq, Char.le_def,
    UInt32.le_iff_toNat_le]
  exact Iff.rfl

theorem isAlphanum_iff (c : Char) : c.isAlphanum = true ↔
    (65 ≤ c.toNat ∧ c.toNat ≤ 90) ∨ (97 ≤ c.toNat ∧ c.toNat ≤ 122) ∨
      (48 ≤ c.toNat ∧ c.toNat ≤ 57) := by
  have ranges : c.isAlphanum = (decide (65 ≤ c.val ∧ c.val ≤ 90) ||
      (decide (97 ≤ c.val) && decide (c.val ≤ 122)) ||
      (decide (48 ≤ c.val) && decide (c.val ≤ 57))) := rfl
  simp only [ranges, Bool.or_eq_true, Bool.and_eq_true, decide_eq_true_eq, UInt32.le_iff_toNat_le,
    or_assoc]
  exact Iff.rfl

theorem toNat_lowerAscii (c : Char) : (lowerAscii c).toNat =
    if 65 ≤ c.toNat ∧ c.toNat ≤ 90 then c.toNat + 32 else c.toNat := by
  have upper : ('A' ≤ c ∧ c ≤ 'Z') ↔ 65 ≤ c.toNat ∧ c.toNat ≤ 90 := by
    simp only [Char.le_def, UInt32.le_iff_toNat_le]
    exact Iff.rfl
  simp only [lowerAscii, upper]
  split
  · rename_i letter
    have valid : (c.toNat + 32).isValidChar := Or.inl (by omega)
    rw [Char.ofNat, dif_pos valid]
    rfl
  · rfl

theorem isLabelAlnum_lowerAscii (c : Char) : isLabelAlnum (lowerAscii c) = c.isAlphanum := by
  rw [Bool.eq_iff_iff, isLabelAlnum_iff, isAlphanum_iff, toNat_lowerAscii]
  split <;> omega

theorem isLabelAlnum_eq {c : Char} (label : isLabelChar c = true) :
    isLabelAlnum c = !isHyphen c := by
  by_cases hyphen : c = '-'
  · subst hyphen
    decide
  · simp only [isLabelChar, isHyphen, beq_false_of_ne hyphen, Bool.or_false] at label ⊢
    rw [label, Bool.not_false]

theorem isHyphen_of_alnum {c : Char} (alnum : isLabelAlnum c = true) : isHyphen c = false := by
  have label : isLabelChar c = true := by simp [isLabelChar, alnum]
  rw [isLabelAlnum_eq label] at alnum
  simpa using alnum

theorem isLabelChar_labelChar (c : Char) : isLabelChar (labelChar c) = true := by
  simp only [labelChar]
  split
  · assumption
  · decide

theorem isLabelAlnum_labelChar (c : Char) : isLabelAlnum (labelChar c) = c.isAlphanum := by
  have hyphen : isLabelAlnum '-' = false := by decide
  rw [← isLabelAlnum_lowerAscii]
  simp only [labelChar]
  split
  · rfl
  · rename_i outside
    simp only [isLabelChar, Bool.or_eq_true, not_or, Bool.not_eq_true] at outside
    rw [hyphen, outside.1]

theorem isHyphen_labelChar (c : Char) : isHyphen (labelChar c) = !c.isAlphanum := by
  rw [← isLabelAlnum_labelChar, isLabelAlnum_eq (isLabelChar_labelChar c), Bool.not_not]

theorem labelChar_of_isLabelChar {c : Char} (label : isLabelChar c = true) : labelChar c = c := by
  have small : lowerAscii c = c := by
    apply Char.toNat_inj.mp
    rw [toNat_lowerAscii, if_neg]
    simp only [isLabelChar, Bool.or_eq_true, isLabelAlnum_iff, beq_iff_eq] at label
    rcases label with alnum | rfl
    · omega
    · decide
  simp only [labelChar, small, label, if_true]

section
variable {cs xs : List Char}

theorem trimChars_starts (p : Char → Bool) (cs : List Char) :
    trimChars p cs <+: cs.dropWhile p := List.rdropWhile_prefix p _

theorem head_of_trimmed {p : Char → Bool} (front : xs <+: cs.dropWhile p) (some : xs ≠ []) :
    p (xs.head some) = false := by
  rw [front.head some]
  exact List.head_dropWhile_not p _

theorem labelValueChars_starts (cs : List Char) :
    labelValueChars cs <+: (trimChars isHyphen (cs.map labelChar)).take maxLabelLength :=
  List.rdropWhile_prefix isHyphen _

theorem length_labelValueChars (cs : List Char) : (labelValueChars cs).length ≤ 63 :=
  Nat.le_trans (labelValueChars_starts cs).length_le (List.length_take_le _ _)

/-- The cut at the 63rd character leaves the first one, so it never leaves hyphens alone. -/
theorem labelValueChars_eq_nil_iff :
    labelValueChars cs = [] ↔ ∀ c ∈ cs, c.isAlphanum = false := by
  have hyphens : trimChars isHyphen (cs.map labelChar) = [] ↔ ∀ c ∈ cs, c.isAlphanum = false := by
    simp only [trimChars_eq_nil, List.forall_mem_map, isHyphen_labelChar, Bool.not_eq_true']
  rw [← hyphens]
  constructor
  · intro empty
    have all := List.rdropWhile_eq_nil_iff.mp empty
    by_contra trimmed
    have cut : (trimChars isHyphen (cs.map labelChar)).take maxLabelLength ≠ [] := by
      simp [List.take_eq_nil_iff, trimmed, maxLabelLength]
    have first := head_of_trimmed ((List.take_prefix _ _).trans (trimChars_starts _ _)) cut
    rw [all _ (List.head_mem cut)] at first
    cases first
  · intro empty
    rw [labelValueChars, empty]
    rfl

theorem isLabel_labelValueChars (some : labelValueChars cs ≠ []) :
    IsLabel (labelValueChars cs) := by
  have front : labelValueChars cs <+: (cs.map labelChar).dropWhile isHyphen :=
    (labelValueChars_starts cs).trans ((List.take_prefix _ _).trans (trimChars_starts _ _))
  have chars : ∀ c ∈ labelValueChars cs, isLabelChar c = true := by
    intro c mem
    obtain ⟨d, _, rfl⟩ := List.mem_map.mp ((List.dropWhile_sublist _).mem (front.mem mem))
    exact isLabelChar_labelChar d
  have last : isHyphen ((labelValueChars cs).getLast some) = false :=
    Bool.eq_false_iff.mpr (List.rdropWhile_last_not isHyphen _ some)
  constructor
  · rw [List.head?_eq_some_head some, Option.any_some, isLabelAlnum_eq (chars _ (List.head_mem some)),
      head_of_trimmed front some, Bool.not_false]
  · rw [List.getLast?_eq_some_getLast some, Option.any_some,
      isLabelAlnum_eq (chars _ (List.getLast_mem some)), last, Bool.not_false]
  · exact chars

theorem IsLabel.labelValueChars_eq (label : IsLabel cs) (short : cs.length ≤ 63) :
    labelValueChars cs = cs := by
  have mapped : cs.map labelChar = cs := by
    have same : ∀ c ∈ cs, labelChar c = id c := fun c mem =>
      labelChar_of_isLabelChar (label.chars c mem)
    rw [List.map_congr_left same, List.map_id]
  have front : cs.dropWhile isHyphen = cs := by
    cases cs with
    | nil => rfl
    | cons c rest =>
      have first := isHyphen_of_alnum (c := c) label.first
      exact List.dropWhile_cons_of_neg (by simp [first])
  have back : cs.rdropWhile isHyphen = cs := by
    rw [List.rdropWhile_eq_self_iff]
    intro some
    have last := label.last
    rw [List.getLast?_eq_some_getLast some, Option.any_some] at last
    simp [isHyphen_of_alnum last]
  have trimmed : trimChars isHyphen cs = cs := by
    change (cs.dropWhile isHyphen).rdropWhile isHyphen = cs
    rw [front, back]
  change ((trimChars isHyphen (cs.map labelChar)).take 63).rdropWhile isHyphen = cs
  rw [mapped, trimmed, List.take_of_length_le short, back]

end

theorem labelValue_eq_empty_iff (s : String) :
    labelValue s = "" ↔ ∀ c ∈ s.toList, c.isAlphanum = false :=
  String.ofList_eq_empty_iff.trans labelValueChars_eq_nil_iff

theorem labelValue_empty_or_label (s : String) :
    labelValue s = "" ∨ IsHostLabel (labelValue s) := by
  by_cases empty : labelValueChars s.toList = []
  · exact Or.inl (String.ofList_eq_empty_iff.mpr empty)
  · refine Or.inr ⟨?_, ?_⟩
    · rw [labelValue, String.toList_ofList]
      exact isLabel_labelValueChars empty
    · rw [labelValue, String.length_ofList]
      exact length_labelValueChars _

theorem labelValue_of_label {s : String} (value : s = "" ∨ IsHostLabel s) : labelValue s = s := by
  rcases value with empty | ⟨label, short⟩
  · subst empty
    rfl
  · rw [← String.length_toList] at short
    rw [labelValue, label.labelValueChars_eq short, String.ofList_toList]

/-- The label values are the labels of at most 63 characters and the empty text, and they are the
texts that stay as they are. The empty one comes of what has no ASCII letter or digit in it. -/
theorem label_values_are_short_labels (s : String) :
    (labelValue s = "" ∨ IsHostLabel (labelValue s)) ∧
    (labelValue s = "" ↔ ∀ c ∈ s.toList, c.isAlphanum = false) ∧
    (labelValue s = s ↔ s = "" ∨ IsHostLabel s) ∧
    labelValue (labelValue s) = labelValue s ∧
    ((∃ raw, labelValue raw = s) ↔ s = "" ∨ IsHostLabel s) := by
  have lands := labelValue_empty_or_label s
  refine ⟨lands, labelValue_eq_empty_iff s, ?_, labelValue_of_label lands, ?_⟩
  · constructor
    · intro fixed
      rwa [fixed] at lands
    · exact labelValue_of_label
  · constructor
    · rintro ⟨raw, rfl⟩
      exact labelValue_empty_or_label raw
    · intro value
      exact ⟨s, labelValue_of_label value⟩

example : labelValue ("".pushn 'a' 62 ++ "_b") = "".pushn 'a' 62 := by decide +kernel

end SchedulerOperator.Text
