import SchedulerOperator.Proofs.QuotedTexts

/-!
The first character of a scalar tells its style, and whatever the style, the scalar is told from
what follows it: a plain one ends at its line or at the first colon before a space, a quoted one at
its quote, a literal block where the indentation falls back.
-/
namespace SchedulerOperator.Yaml
variable {cs ds r t : List Char} {c : Char} {indent : Nat}

/-! Texts in literal blocks. -/

def endedLines (cs : List Char) : List Char := if cs.getLast?.any isBreak then cs else cs ++ ['\n']

theorem afterBreak_endedLines (cs : List Char) : afterBreak true (endedLines cs) = true := by
  unfold endedLines
  split
  next ended =>
    rw [afterBreak_eq]
    cases last : cs.getLast? with
    | none => rfl
    | some c =>
      rw [last] at ended
      exact ended
  next =>
    rw [afterBreak_append]
    rfl

theorem bare_separates : Separates fun c => [c] := fun _ _ _ _ same => List.cons.inj same

theorem bare_keepsBreaks : KeepsBreaks fun c => [c] := fun _ plain => ⟨_, _, rfl, plain⟩

/-- The text goes on less indented, or with nothing. -/
def Outdented (indent : Nat) (r : List Char) : Prop :=
  ∃ n < indent, ∃ tail, r = spaces n ++ tail ∧ ∀ c ∈ tail.head?, isEdge c = false

theorem Outdented.mono {more : Nat} (outdented : Outdented indent r) (le : indent ≤ more) :
    Outdented more r := by
  obtain ⟨n, less, rest⟩ := outdented
  exact ⟨n, Nat.lt_of_lt_of_le less le, rest⟩

theorem Outdented.endsLines (outdented : Outdented indent r) :
    EndsLines indent (fun c => [c]) true r := by
  obtain ⟨n, less, tail, rfl, starts⟩ := outdented
  constructor
  · intro c u breaks same
    cases n with
    | zero =>
      rw [show tail = c :: u from same] at starts
      have edge := starts c rfl
      simp [isEdge, breaks] at edge
    | succ n =>
      rw [← (List.cons.inj same).1] at breaks
      exact absurd breaks (by decide)
  · intro c u plain same
    -- The character would have to stand behind more spaces than there are.
    obtain ⟨more, rfl⟩ : ∃ more, indent = n + (more + 1) := ⟨indent - n - 1, by omega⟩
    rw [if_pos rfl, spaces, spaces, List.replicate_add, List.append_assoc] at same
    rw [List.append_cancel_left same] at starts
    exact absurd (starts ' ' rfl) (by decide)

theorem append_first_inj (free : c ∉ cs) (free' : c ∉ ds) (same : cs ++ c :: r = ds ++ c :: t) :
    cs = ds ∧ r = t := by
  have cut : ∀ {cs r : List Char}, c ∉ cs → (cs ++ c :: r).takeWhile (· ≠ c) = cs := by
    intro cs r free
    have unlike : ∀ a ∈ cs, decide (a ≠ c) = true := fun a mem =>
      decide_eq_true (ne_of_mem_of_not_mem mem free)
    rw [List.takeWhile_append_of_pos unlike]
    simp
  have front : cs = ds := by rw [← cut (r := r) free, same, cut free']
  rw [front] at same
  exact ⟨front, (List.cons.inj (List.append_cancel_left same)).2⟩

/-- How the end of the text is told in the first line of its block. -/
def blockHeader (cs : List Char) : List Char := indentationHint cs ++ chomping cs

theorem dash_mem_blockHeader : '-' ∈ blockHeader cs ↔ cs.getLast?.any isBreak = false := by
  have hint : '-' ∉ indentationHint cs := by
    unfold indentationHint
    split <;> decide
  rw [blockHeader, List.mem_append, or_iff_right hint, chomping, ← List.head?_reverse]
  cases cs.reverse with
  | nil => decide
  | cons c rest =>
    cases rest with
    | nil => cases breaks : isBreak c <;> simp [breaks]
    | cons d more => cases breaks : isBreak c <;> cases isBreak d <;> simp [breaks]

theorem newline_notMem_blockHeader : '\n' ∉ blockHeader cs := by
  rw [blockHeader, List.mem_append, not_or]
  constructor
  · unfold indentationHint
    split <;> decide
  · unfold chomping
    split
    · decide
    · split <;> decide
    · split
      · decide
      · split <;> decide

def blockText (indent : Nat) (cs : List Char) : List Char :=
  blockHeader cs ++ '\n' :: indentLines indent (fun c => [c]) true (endedLines cs)

theorem blockText_inj (outdented : Outdented indent r) (outdented' : Outdented indent t)
    (same : blockText indent cs ++ r = blockText indent ds ++ t) : cs = ds ∧ r = t := by
  simp only [blockText, List.append_assoc, List.cons_append] at same
  obtain ⟨header, lines⟩ :=
    append_first_inj newline_notMem_blockHeader newline_notMem_blockHeader same
  have ends := outdented.endsLines
  have ends' := outdented'.endsLines
  rw [← afterBreak_endedLines cs] at ends
  rw [← afterBreak_endedLines ds] at ends'
  -- A block always ends after a break: its own, or the one that the text ends in.
  obtain ⟨texts, rest⟩ := indentLines_inj bare_separates bare_keepsBreaks ends ends' lines
  refine ⟨?_, rest⟩
  have last : cs.getLast?.any isBreak = ds.getLast?.any isBreak := by
    rw [Bool.eq_iff_iff, ← not_iff_not, Bool.not_eq_true, Bool.not_eq_true,
      ← dash_mem_blockHeader, header, dash_mem_blockHeader]
  unfold endedLines at texts
  rw [last] at texts
  split at texts
  · exact texts
  · exact List.append_cancel_right texts

/-! Plain texts. -/

structure Bare (cs : List Char) : Prop where
  nonempty : cs ≠ []
  oneLine : ∀ c ∈ cs, isBreak c = false
  opens : opensSpecially cs = false
  colons : someBeforeSeparator ':' cs = false
  starts : ∀ c ∈ cs.head?, isEdge c = false

inductive Styled (s : String) : Style → Prop where
  | literal (lines : '\n' ∈ s.toList) : Styled s .literal
  | single : Styled s .singleQuoted
  | double : Styled s .doubleQuoted
  | plain (own : readsAsOther s = false) (allowed : plainAllowed s.toList = true) : Styled s .plain

theorem styled_quoted (s : String) : Styled s (quotedStyle s.toList) := by
  unfold quotedStyle
  split
  · exact .single
  · exact .double

theorem styleOf_styled (s : String) : Styled s (styleOf s) := by
  unfold styleOf
  simp only
  split
  next lines =>
    split
    · exact .literal (List.contains_iff_mem.mp lines)
    · exact .double
  split
  · exact styled_quoted s
  next reads =>
    split
    next allowed => exact .plain (eq_false_of_ne_true reads) allowed
    next => exact styled_quoted s

theorem Bare.of_allowed {s : String} (own : readsAsOther s = false)
    (allowed : plainAllowed s.toList = true) : Bare s.toList := by
  simp only [plainAllowed, hasIndicator, isMultiline, Bool.and_eq_true, Bool.not_eq_true',
    Bool.or_eq_false_iff] at allowed
  obtain ⟨⟨⟨⟨_, oneLine⟩, ⟨⟨_, opens⟩, colons⟩, _⟩, starts⟩, _⟩ := allowed
  refine ⟨?_, ?_, opens, colons, ?_⟩
  · intro empty
    rw [String.toList_eq_nil_iff.mp empty] at own
    revert own
    decide
  · intro c mem
    exact eq_false_of_ne_true (List.any_eq_false.mp oneLine c mem)
  · intro c first
    rwa [Option.mem_def.mp first] at starts

theorem bare_of_plain {s : String} (style : styleOf s = .plain) : Bare s.toList := by
  have styled := styleOf_styled s
  rw [style] at styled
  cases styled with
  | plain own allowed => exact .of_allowed own allowed

theorem Bare.newline_notMem (bare : Bare cs) : '\n' ∉ cs :=
  fun mem => absurd (bare.oneLine _ mem) (by decide)

theorem Bare.first (bare : Bare cs) :
    ∃ c rest, cs = c :: rest ∧ isOpeningIndicator c = false ∧ isEdge c = false := by
  obtain ⟨c, rest, rfl⟩ := List.exists_cons_of_ne_nil bare.nonempty
  have opens := bare.opens
  simp only [opensSpecially, Bool.or_eq_false_iff] at opens
  exact ⟨c, rest, rfl, opens.1, bare.starts c rfl⟩

theorem ne_colon (colons : someBeforeSeparator ':' (c :: cs) = false) :
    c :: cs ++ ':' :: ' ' :: r ≠ ':' :: ' ' :: t := by
  intro same
  obtain ⟨rfl, after⟩ := List.cons.inj same
  cases cs with
  | nil => exact absurd (List.cons.inj after).1 (by decide)
  | cons d rest =>
    rw [(List.cons.inj after).1] at colons
    simp [someBeforeSeparator, isSeparator] at colons

theorem key_inj (colons : someBeforeSeparator ':' cs = false)
    (colons' : someBeforeSeparator ':' ds = false)
    (same : cs ++ ':' :: ' ' :: r = ds ++ ':' :: ' ' :: t) : cs = ds ∧ r = t := by
  induction cs generalizing ds with
  | nil =>
    cases ds with
    | nil => exact ⟨rfl, (List.cons.inj (List.cons.inj same).2).2⟩
    | cons d rest => exact absurd same.symm (ne_colon colons')
  | cons c rest ih =>
    cases ds with
    | nil => exact absurd same (ne_colon colons)
    | cons d more =>
      obtain ⟨rfl, after⟩ := List.cons.inj same
      simp only [someBeforeSeparator, Bool.or_eq_false_iff] at colons colons'
      obtain ⟨rfl, equal⟩ := ih colons.2 colons'.2 after
      exact ⟨rfl, equal⟩

/-! Scalars. -/

def toldStyle : Char → Style
  | '\x27' => .singleQuoted
  | '\x22' => .doubleQuoted
  | '|' => .literal
  | _ => .plain

theorem toldStyle_plain (opens : isOpeningIndicator c = false) : toldStyle c = .plain := by
  unfold toldStyle
  split <;> first | rfl | exact absurd opens (by decide)

def written (indent : Nat) (cs : List Char) : Style → List Char
  | .plain => cs
  | .singleQuoted => singleQuoted indent cs
  | .doubleQuoted => doubleQuoted cs
  | .literal => literal indent cs

theorem scalar_styled {s : String} {style : Style} (told : styleOf s = style) :
    scalar indent s = written indent s.toList style := by
  rw [← told]
  rfl

theorem scalar_opens (indent : Nat) (s : String) :
    ∃ c rest, scalar indent s = c :: rest ∧ toldStyle c = styleOf s ∧ isEdge c = false := by
  rw [scalar_styled rfl]
  cases style : styleOf s with
  | plain =>
    obtain ⟨c, rest, text, opens, starts⟩ := (bare_of_plain style).first
    exact ⟨c, rest, text, toldStyle_plain opens, starts⟩
  | singleQuoted => exact ⟨_, _, rfl, rfl, by decide⟩
  | doubleQuoted => exact ⟨_, _, rfl, rfl, by decide⟩
  | literal => exact ⟨_, _, rfl, rfl, by decide⟩

theorem styleOf_congr {s s' : String} (same : scalar indent s ++ r = scalar indent s' ++ t) :
    styleOf s = styleOf s' := by
  obtain ⟨c, rest, opens, told, _⟩ := scalar_opens indent s
  obtain ⟨d, more, opens', told', _⟩ := scalar_opens indent s'
  rw [opens, opens'] at same
  rw [← told, ← told', (List.cons.inj same).1]

theorem scalarLine_literal {s : String} (style : styleOf s = .literal) :
    scalarLine indent s = '|' :: blockText indent s.toList := by
  rw [scalarLine, scalar_styled style, style, blockText, endedLines]
  by_cases ended : s.toList.getLast?.any isBreak = true
  · rw [if_pos ⟨rfl, ended⟩, if_pos ended]
    simp [written, literal, blockHeader]
  · rw [if_neg fun both => ended both.2, if_neg ended, indentLines_append]
    simp [written, literal, blockHeader, indentLines, isBreak]

theorem scalarLine_short {s : String} (style : styleOf s ≠ .literal) :
    scalarLine indent s ++ r = scalar indent s ++ '\n' :: r := by
  rw [scalarLine, if_neg fun both => style both.1, List.append_assoc]
  rfl

/-- A scalar in one line is told from what follows it, if a plain one is. -/
theorem scalar_inj {s s' : String} (unquoted : c ≠ '\x27') (short : styleOf s ≠ .literal)
    (plain : Bare s.toList → Bare s'.toList → s.toList ++ c :: r = s'.toList ++ c :: t →
      s.toList = s'.toList ∧ r = t)
    (same : scalar indent s ++ c :: r = scalar indent s' ++ c :: t) : s = s' ∧ r = t := by
  have style := styleOf_congr same
  rw [scalar_styled rfl, scalar_styled style.symm] at same
  rw [← String.toList_inj]
  cases told : styleOf s with
  | literal => exact absurd told short
  | plain =>
    rw [told] at same style
    exact plain (bare_of_plain told) (bare_of_plain style.symm) same
  | singleQuoted =>
    rw [told] at same
    obtain ⟨texts, rest⟩ := singleQuoted_inj (by simpa) (by simpa) same
    exact ⟨texts, (List.cons.inj rest).2⟩
  | doubleQuoted =>
    rw [told] at same
    obtain ⟨texts, rest⟩ := doubleQuoted_inj same
    exact ⟨texts, (List.cons.inj rest).2⟩

theorem scalarLine_inj {s s' : String} (outdented : Outdented indent r)
    (outdented' : Outdented indent t)
    (same : scalarLine indent s ++ r = scalarLine indent s' ++ t) : s = s' ∧ r = t := by
  have style : styleOf s = styleOf s' := by
    simp only [scalarLine, List.append_assoc] at same
    exact styleOf_congr same
  by_cases lines : styleOf s = .literal
  · rw [scalarLine_literal lines, scalarLine_literal (style ▸ lines)] at same
    obtain ⟨texts, rest⟩ := blockText_inj outdented outdented' (List.cons.inj same).2
    exact ⟨String.toList_inj.mp texts, rest⟩
  · rw [scalarLine_short lines, scalarLine_short (style ▸ lines)] at same
    exact scalar_inj (by decide) lines
      (fun bare bare' => append_first_inj bare.newline_notMem bare'.newline_notMem) same

/-! Members of a mapping from texts to texts. -/

theorem short_of_isSimpleKey {s : String} (simple : isSimpleKey s = true) :
    styleOf s ≠ .literal := by
  intro style
  have styled := styleOf_styled s
  rw [style] at styled
  cases styled with
  | literal lines =>
    simp only [isSimpleKey, isMultiline, Bool.and_eq_true, Bool.not_eq_true', List.any_eq_false]
      at simple
    exact simple.1 _ lines (by decide)

theorem scalar_ne_mark (s : String) : scalar indent s ++ ':' :: r ≠ '?' :: ' ' :: t := by
  intro same
  have style : styleOf s = .plain := by
    obtain ⟨c, rest, opens, told, _⟩ := scalar_opens indent s
    rw [opens] at same
    rw [← told, (List.cons.inj same).1]
    rfl
  have opens := (bare_of_plain style).opens
  rw [scalar_styled style, written] at same
  cases text : s.toList with
  | nil => exact (bare_of_plain style).nonempty text
  | cons c rest =>
    rw [text] at same opens
    obtain ⟨rfl, after⟩ := List.cons.inj same
    cases rest with
    | nil => exact absurd opens (by decide)
    | cons d more =>
      rw [(List.cons.inj after).1] at opens
      simp [opensSpecially, isSeparator] at opens

theorem keyStart_simple {k : String} (simple : isSimpleKey k = true) :
    keyStart indent k ++ r = scalar (indent + 2) k ++ ':' :: r := by
  rw [keyStart, if_pos simple, List.append_assoc]
  rfl

theorem keyStart_lines {k : String} (lines : ¬ isSimpleKey k = true) : keyStart indent k ++ r =
    '?' :: ' ' :: (scalarLine (indent + 2) k ++ (spaces indent ++ ':' :: r)) := by
  rw [keyStart, if_neg lines]
  simp

theorem keyStart_inj {k k' : String}
    (same : keyStart indent k ++ ' ' :: r = keyStart indent k' ++ ' ' :: t) : k = k' ∧ r = t := by
  have outdented : ∀ u, Outdented (indent + 2) (spaces indent ++ ':' :: u) := fun u =>
    ⟨indent, by omega, _, rfl, fun c first => by cases first; decide⟩
  -- A question mark tells a key in lines of its own from one in the line of its colon.
  by_cases simple : isSimpleKey k = true <;> by_cases simple' : isSimpleKey k' = true
  · rw [keyStart_simple simple, keyStart_simple simple'] at same
    obtain ⟨keys, rest⟩ := scalar_inj (by decide) (short_of_isSimpleKey simple)
      (fun bare bare' same => (key_inj bare.colons bare'.colons same).imp_right (congrArg _))
      same
    exact ⟨keys, (List.cons.inj rest).2⟩
  · rw [keyStart_simple simple, keyStart_lines simple'] at same
    exact absurd same (scalar_ne_mark k)
  · rw [keyStart_lines simple, keyStart_simple simple'] at same
    exact absurd same.symm (scalar_ne_mark k')
  · rw [keyStart_lines simple, keyStart_lines simple'] at same
    obtain ⟨keys, rest⟩ := scalarLine_inj (outdented _) (outdented _)
      (List.cons.inj (List.cons.inj same).2).2
    exact ⟨keys, (List.cons.inj (List.cons.inj (List.append_cancel_left rest)).2).2⟩

theorem keyStart_opens (indent : Nat) (k : String) :
    ∃ c rest, keyStart indent k = c :: rest ∧ isEdge c = false := by
  unfold keyStart
  split
  · obtain ⟨c, rest, opens, _, starts⟩ := scalar_opens (indent + 2) k
    exact ⟨c, rest ++ [':'], by rw [opens, List.cons_append], starts⟩
  · exact ⟨_, _, rfl, by decide⟩

def textMembers (indent : Nat) (m : List (String × String)) : List Char :=
  blockMembers indent (m.map fun e => (e.1, .str e.2))

theorem textMembers_nil (indent : Nat) : textMembers indent [] = [] := by
  simp [textMembers, blockMembers]

theorem textMembers_cons (e : String × String) (m : List (String × String)) :
    textMembers indent (e :: m) ++ r =
      spaces indent ++ (keyStart indent e.1 ++ ' ' ::
        (scalarLine (indent + 2) e.2 ++ (textMembers indent m ++ r))) := by
  simp [textMembers, blockMembers, member, leafLine]

theorem textMembers_outdented (m : List (String × String)) (outdented : Outdented indent r) :
    Outdented (indent + 2) (textMembers indent m ++ r) := by
  cases m with
  | nil =>
    rw [textMembers_nil]
    exact outdented.mono (Nat.le_add_right _ _)
  | cons e rest =>
    obtain ⟨c, more, opens, starts⟩ := keyStart_opens indent e.1
    refine ⟨indent, by omega, _, textMembers_cons e rest, fun d first => ?_⟩
    rw [opens] at first
    cases first
    exact starts

theorem Outdented.ne_key {k : String} (outdented : Outdented indent r) :
    r ≠ spaces indent ++ (keyStart indent k ++ t) := by
  obtain ⟨c, more, opens, starts⟩ := keyStart_opens indent k
  rw [opens]
  exact outdented.endsLines.noChar c _ (Bool.or_eq_false_iff.mp starts).2

theorem textMembers_inj {m m' : List (String × String)} (outdented : Outdented indent r)
    (outdented' : Outdented indent t)
    (same : textMembers indent m ++ r = textMembers indent m' ++ t) : m = m' ∧ r = t := by
  induction m generalizing m' with
  | nil =>
    rw [textMembers_nil] at same
    cases m' with
    | nil =>
      rw [textMembers_nil] at same
      exact ⟨rfl, same⟩
    | cons e rest =>
      rw [textMembers_cons] at same
      exact absurd same outdented.ne_key
  | cons e rest ih =>
    cases m' with
    | nil =>
      rw [textMembers_nil, textMembers_cons] at same
      exact absurd same.symm outdented'.ne_key
    | cons e' rest' =>
      rw [textMembers_cons, textMembers_cons] at same
      obtain ⟨keys, values⟩ := keyStart_inj (List.append_cancel_left same)
      obtain ⟨texts, more⟩ := scalarLine_inj (textMembers_outdented rest outdented)
        (textMembers_outdented rest' outdented') values
      obtain ⟨rfl, equal⟩ := ih more
      exact ⟨by rw [Prod.ext keys texts], equal⟩

end SchedulerOperator.Yaml
