import Mathlib.Algebra.Group.Nat.Defs
import Mathlib.Data.List.Basic
import SchedulerOperator.Yaml.Document

/-!
A style writes each character so that a reader gets it back with the rest of the line; a text goes
on until something comes that no character starts with. Styles that keep the lines of a text write
an indentation after each break, and it is the indentation that tells a further line from the end.
-/
namespace SchedulerOperator.Yaml
variable {write : Char → List Char} {cs ds r t : List Char} {c : Char} {indent : Nat}

/-- No written character is the start of another one. -/
def Separates (write : Char → List Char) : Prop :=
  ∀ c d r t, write c ++ r = write d ++ t → c = d ∧ r = t

def EndsBefore (write : Char → List Char) (r : List Char) : Prop := ∀ c t, r ≠ write c ++ t

theorem flatMap_inj (separates : Separates write) (ends : EndsBefore write r)
    (ends' : EndsBefore write t) (same : cs.flatMap write ++ r = ds.flatMap write ++ t) :
    cs = ds ∧ r = t := by
  induction cs generalizing ds with
  | nil =>
    cases ds with
    | nil => exact ⟨rfl, same⟩
    | cons d rest =>
      rw [List.flatMap_cons, List.append_assoc] at same
      exact absurd same (ends d _)
  | cons c more ih =>
    cases ds with
    | nil =>
      rw [List.flatMap_cons, List.append_assoc] at same
      exact absurd same.symm (ends' c _)
    | cons d rest =>
      simp only [List.flatMap_cons, List.append_assoc] at same
      obtain ⟨rfl, rest⟩ := separates _ _ _ _ same
      obtain ⟨rfl, equal⟩ := ih rest
      exact ⟨rfl, equal⟩

theorem Separates.of_read {read? : List Char → Option (Char × List Char)}
    (reads : ∀ c r, read? (write c ++ r) = some (c, r)) : Separates write := by
  intro c d r t same
  have both : some (c, r) = some (d, t) := by rw [← reads, ← reads, same]
  cases both
  exact ⟨rfl, rfl⟩

/-! Lines. -/

def afterBreak : Bool → List Char → Bool
  | broke, [] => broke
  | _, c :: rest => afterBreak (isBreak c) rest

/-- Nothing that lines of this indentation go on with: no break, and no character with the
indentation before it where there was one. -/
structure EndsLines (indent : Nat) (write : Char → List Char) (broke : Bool) (r : List Char) :
    Prop where
  noBreak : ∀ c t, isBreak c = true → r ≠ c :: t
  noChar : ∀ c t, isBreak c = false → r ≠ (if broke then spaces indent else []) ++ (write c ++ t)

/-- Written characters that are no breaks do not start as one. -/
def KeepsBreaks (write : Char → List Char) : Prop :=
  ∀ c, isBreak c = false → ∃ d more, write c = d :: more ∧ isBreak d = false

theorem indented_ne_break {broke : Bool} {c d : Char} (unbroken : isBreak c = false)
    (breaks : isBreak d = true) : (if broke then spaces indent else []) ++ c :: r ≠ d :: t := by
  have first : ∀ {c : Char} {u : List Char}, isBreak c = false → c :: u ≠ d :: t := by
    intro c u unbroken same
    rw [(List.cons.inj same).1, breaks] at unbroken
    cases unbroken
  cases broke with
  | false => exact first unbroken
  | true =>
    cases indent with
    | zero => exact first unbroken
    | succ n => exact first (by decide)

theorem indentLines_break {broke : Bool} (breaks : isBreak c = true) :
    indentLines indent write broke (c :: cs) = c :: indentLines indent write true cs := by
  rw [indentLines, if_pos breaks]

theorem indentLines_char {broke : Bool} (plain : isBreak c = false) :
    indentLines indent write broke (c :: cs) ++ r =
      (if broke then spaces indent else []) ++
        (write c ++ (indentLines indent write false cs ++ r)) := by
  rw [indentLines, if_neg (by simp [plain]), List.append_assoc, List.append_assoc]

theorem indentLines_ne_break (keeps : KeepsBreaks write) {broke : Bool} {d : Char}
    (plain : isBreak c = false) (breaks : isBreak d = true) :
    indentLines indent write broke (c :: cs) ++ r ≠ d :: t := by
  obtain ⟨first, more, written, unbroken⟩ := keeps c plain
  rw [indentLines_char plain, written]
  exact indented_ne_break unbroken breaks

theorem indentLines_inj (separates : Separates write) (keeps : KeepsBreaks write) {broke : Bool}
    (ends : EndsLines indent write (afterBreak broke cs) r)
    (ends' : EndsLines indent write (afterBreak broke ds) t)
    (same : indentLines indent write broke cs ++ r = indentLines indent write broke ds ++ t) :
    cs = ds ∧ r = t := by
  -- Both texts are read in step, so a break has come before both or neither.
  induction cs generalizing ds broke with
  | nil =>
    cases ds with
    | nil => exact ⟨rfl, same⟩
    | cons d rest =>
      cases breaks : isBreak d with
      | true =>
        rw [indentLines_break breaks] at same
        exact absurd same (ends.noBreak d _ breaks)
      | false =>
        rw [indentLines_char breaks] at same
        exact absurd same (ends.noChar d _ breaks)
  | cons c more ih =>
    cases ds with
    | nil =>
      cases breaks : isBreak c with
      | true =>
        rw [indentLines_break breaks] at same
        exact absurd same.symm (ends'.noBreak c _ breaks)
      | false =>
        rw [indentLines_char breaks] at same
        exact absurd same.symm (ends'.noChar c _ breaks)
    | cons d rest =>
      rw [afterBreak] at ends ends'
      cases breaks : isBreak c with
      | true =>
        cases breaks' : isBreak d with
        | true =>
          rw [indentLines_break breaks, indentLines_break breaks', List.cons_append,
            List.cons_append, List.cons.injEq] at same
          obtain ⟨rfl, lines⟩ := same
          rw [breaks] at ends ends'
          obtain ⟨rfl, equal⟩ := ih ends ends' lines
          exact ⟨rfl, equal⟩
        | false =>
          rw [indentLines_break breaks] at same
          exact absurd same.symm (indentLines_ne_break keeps breaks' breaks)
      | false =>
        cases breaks' : isBreak d with
        | true =>
          rw [indentLines_break breaks'] at same
          exact absurd same (indentLines_ne_break keeps breaks breaks')
        | false =>
          rw [indentLines_char breaks, indentLines_char breaks'] at same
          obtain ⟨rfl, lines⟩ := separates _ _ _ _ (List.append_cancel_left same)
          rw [breaks] at ends ends'
          obtain ⟨rfl, equal⟩ := ih ends ends' lines
          exact ⟨rfl, equal⟩

theorem afterBreak_eq (broke : Bool) (cs : List Char) :
    afterBreak broke cs = (cs.getLast?.map isBreak).getD broke := by
  induction cs generalizing broke with
  | nil => rfl
  | cons c rest ih =>
    rw [afterBreak, ih]
    cases rest with
    | nil => rfl
    | cons d more => simp [List.getLast?_cons]

theorem afterBreak_append (broke : Bool) (cs ds : List Char) :
    afterBreak broke (cs ++ ds) = afterBreak (afterBreak broke cs) ds := by
  induction cs generalizing broke with
  | nil => rfl
  | cons c rest ih => exact ih (isBreak c)

theorem indentLines_append (broke : Bool) (cs ds : List Char) :
    indentLines indent write broke (cs ++ ds) =
      indentLines indent write broke cs ++ indentLines indent write (afterBreak broke cs) ds := by
  induction cs generalizing broke with
  | nil => rfl
  | cons c rest ih =>
    rw [List.cons_append, indentLines, indentLines, afterBreak]
    split
    next breaks => rw [ih, breaks, List.cons_append]
    next plain =>
      rw [ih, eq_false_of_ne_true plain]
      simp only [List.append_assoc]

/-! Single quotes. -/

def readSingleQuoted? : List Char → Option (Char × List Char)
  | [] => none
  | c :: rest => some (c, if c = '\x27' then rest.tail else rest)

theorem read_singleQuotedChar (c : Char) (r : List Char) :
    readSingleQuoted? (singleQuotedChar c ++ r) = some (c, r) := by
  unfold singleQuotedChar
  split
  next quote =>
    rw [quote]
    rfl
  next other => simp [readSingleQuoted?, other]

theorem singleQuoted_eq : singleQuoted indent cs =
    '\x27' :: (indentLines indent singleQuotedChar false cs ++
      ((if afterBreak false cs then spaces indent else []) ++ ['\x27'])) := by
  have last : (cs.getLast?.any isBreak) = afterBreak false cs := by
    rw [afterBreak_eq]
    cases cs.getLast? <;> rfl
  rw [singleQuoted, last, List.append_assoc]

theorem singleQuoted_keepsBreaks : KeepsBreaks singleQuotedChar := by
  intro c plain
  unfold singleQuotedChar
  split
  · exact ⟨_, _, rfl, by decide⟩
  · exact ⟨_, _, rfl, plain⟩

theorem endsLines_quote {broke : Bool} (closed : r.head? ≠ some '\x27') :
    EndsLines indent singleQuotedChar broke
      ((if broke then spaces indent else []) ++ '\x27' :: r) where
  noBreak c u breaks := indented_ne_break (by decide) breaks
  noChar c u plain same := by
    have here := List.append_cancel_left same
    unfold singleQuotedChar at here
    split at here
    · rw [(List.cons.inj here).2] at closed
      exact closed rfl
    next other => exact other (List.cons.inj here).1.symm

/-- A quote in the text is doubled, so the first one that has no other behind it ends the text. -/
theorem singleQuoted_inj (closed : r.head? ≠ some '\x27') (closed' : t.head? ≠ some '\x27')
    (same : singleQuoted indent cs ++ r = singleQuoted indent ds ++ t) : cs = ds ∧ r = t := by
  simp only [singleQuoted_eq, List.cons_append, List.append_assoc, List.cons.injEq, true_and]
    at same
  obtain ⟨rfl, rest⟩ := indentLines_inj (.of_read read_singleQuotedChar) singleQuoted_keepsBreaks
    (endsLines_quote closed) (endsLines_quote closed') same
  exact ⟨rfl, (List.cons.inj (List.append_cancel_left rest)).2⟩

/-! Double quotes. -/

theorem digitValue?_digit {n : Nat} (small : n < 16) :
    digitValue? 16 (n.digitChar).toUpper = some n :=
  (by decide +kernel : ∀ n < 16, digitValue? 16 (n.digitChar).toUpper = some n) n small

theorem natural?_zeros (w : Nat) (digits : List Char) (given : digits ≠ []) :
    natural? 16 (List.replicate w '0' ++ digits) = natural? 16 digits := by
  induction w with
  | zero => rfl
  | succ w ih =>
    rw [← ih]
    cases digits with
    | nil => exact absurd rfl given
    | cons d rest => cases w <;> rfl

theorem natural?_snoc {digits : List Char} {n d : Nat} (reads : natural? 16 digits = some n)
    (digit : digitValue? 16 c = some d) : natural? 16 (digits ++ [c]) = some (n * 16 + d) := by
  unfold natural? at reads ⊢
  split at reads
  · cases reads
  · rw [if_neg (by simp), List.foldl_append, reads]
    simp [digit]

theorem natural?_toDigits (n : Nat) :
    natural? 16 ((Nat.toDigits 16 n).map Char.toUpper) = some n := by
  induction n using Nat.strongRecOn with
  | ind n ih =>
    by_cases small : n < 16
    · rw [Nat.toDigits_of_lt_base small]
      simp [natural?, digitValue?_digit small]
    · rw [Nat.toDigits_of_base_le (by decide) (by omega), List.map_append]
      have reads := natural?_snoc (ih (n / 16) (by omega))
        (digitValue?_digit (Nat.mod_lt n (by decide)))
      rwa [Nat.div_add_mod'] at reads

theorem natural?_upperHex (w n : Nat) : natural? 16 (upperHex w n) = some n := by
  rw [upperHex, natural?_zeros _ _ (by simp [Nat.toDigits_ne_nil]), natural?_toDigits]

theorem length_upperHex {w n : Nat} (digits : 0 < w) (small : n < 16 ^ w) :
    (upperHex w n).length = w := by
  have fits := (Nat.length_toDigits_le_iff (by decide) digits).mpr small
  simp only [upperHex, List.length_append, List.length_replicate, List.length_map]
  omega

def digitsAfter? : Char → Option Nat
  | 'x' => some 2
  | 'u' => some 4
  | 'U' => some 8
  | _ => none

def escaped : Char → Char
  | '0' => '\x00'
  | 'a' => '\x07'
  | 'b' => '\x08'
  | 't' => '\t'
  | 'n' => '\n'
  | 'v' => '\x0b'
  | 'f' => '\x0c'
  | 'r' => '\r'
  | 'e' => '\x1b'
  | 'N' => '\u0085'
  | 'L' => '\u2028'
  | 'P' => '\u2029'
  | c => c

def readEscape? : List Char → Option (Char × List Char)
  | [] => none
  | mark :: rest =>
    match digitsAfter? mark with
    | some w => (natural? 16 (rest.take w)).map fun n => (Char.ofNat n, rest.drop w)
    | none => some (escaped mark, rest)

def readDoubleQuoted? : List Char → Option (Char × List Char)
  | [] => none
  | c :: rest => if c = '\\' then readEscape? rest else some (c, rest)

theorem escaped_letter {l : Char} (letter : escapeLetter? c = some l) :
    digitsAfter? l = none ∧ escaped l = c := by
  unfold escapeLetter? at letter
  split at letter <;> cases letter <;> decide

theorem read_number {mark : Char} {w : Nat} (known : digitsAfter? mark = some w) (digits : 0 < w)
    (small : c.toNat < 16 ^ w) :
    readDoubleQuoted? (('\\' :: mark :: upperHex w c.toNat) ++ r) = some (c, r) := by
  have width := length_upperHex digits small
  simp [readDoubleQuoted?, readEscape?, known, List.take_left' width, List.drop_left' width,
    natural?_upperHex]

theorem read_doubleQuotedChar (c : Char) (r : List Char) :
    readDoubleQuoted? (doubleQuotedChar c ++ r) = some (c, r) := by
  unfold doubleQuotedChar
  cases letter : escapeLetter? c with
  | some l =>
    obtain ⟨unnumbered, same⟩ := escaped_letter letter
    simp [readDoubleQuoted?, readEscape?, unnumbered, same]
  | none =>
    have unlike : c ≠ '\\' := by
      rintro rfl
      cases letter
    simp only
    split
    · exact if_neg unlike
    split
    next small => exact read_number rfl (by decide) (by omega)
    split
    next small => exact read_number rfl (by decide) (by omega)
    next =>
      refine read_number rfl (by decide) ?_
      have bound := c.val.toNat_lt
      exact bound

/-- An escaped quote starts with a backslash, so the first bare quote ends the text. -/
theorem doubleQuoted_inj (same : doubleQuoted cs ++ r = doubleQuoted ds ++ t) :
    cs = ds ∧ r = t := by
  have ends : ∀ u, EndsBefore doubleQuotedChar ('\x22' :: u) := by
    intro u c v same
    have reads := read_doubleQuotedChar c v
    rw [← same] at reads
    cases reads
    exact absurd (List.cons.inj same).1 (by decide)
  simp only [doubleQuoted, List.cons_append, List.append_assoc, List.cons.injEq, true_and,
    List.nil_append] at same
  obtain ⟨texts, rest⟩ := flatMap_inj (.of_read read_doubleQuotedChar) (ends r) (ends t) same
  exact ⟨texts, (List.cons.inj rest).2⟩

end SchedulerOperator.Yaml
