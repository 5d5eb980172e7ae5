import SchedulerOperator.Double

/-!
Text scalars in block-style YAML. A text is written plain where a reader gets the same
text back; where it would read as something else it is single quoted; lines go into a
literal block; what none of these can hold is double quoted with escapes.
-/
namespace SchedulerOperator.Yaml

def isBreak (c : Char) : Bool :=
  c == '\n' || c == '\r' || c == '\u0085' || c == '\u2028' || c == '\u2029'

def isSpace (c : Char) : Bool := c == ' '

def isSeparator (c : Char) : Bool := c == ' ' || c == '\t' || c == '\x00' || isBreak c

def isPrintable (c : Char) : Bool :=
  let n := c.toNat
  n == 0xA || (0x20 ≤ n && n ≤ 0x7E) ||
    (0xA0 ≤ n && n != 0xFEFF && n != 0xFFFE && n != 0xFFFF)

/-! Texts that a reader takes for something else. -/

def isNullWord (s : String) : Bool := s.isEmpty || ["null", "Null", "NULL", "~"].contains s

def isBoolWord (s : String) : Bool :=
  ["true", "True", "TRUE", "false", "False", "FALSE"].contains s

def isSign (c : Char) : Bool := c == '+' || c == '-'

def dropSign : List Char → List Char
  | c :: rest => if isSign c then rest else c :: rest
  | [] => []

def dropPlus : List Char → List Char
  | '+' :: rest => rest
  | cs => cs

/-- Leading zeros make a text of digits, not a number. -/
def isPaddedDigits (cs : List Char) : Bool :=
  match dropSign cs with
  | '0' :: d :: rest => (d :: rest).all Char.isDigit
  | _ => false

def digitValue? (radix : Nat) (c : Char) : Option Nat :=
  let n := if c.isDigit then c.toNat - 48
    else if 'a' ≤ c ∧ c ≤ 'z' then c.toNat - 87
    else if 'A' ≤ c ∧ c ≤ 'Z' then c.toNat - 55
    else radix
  if n < radix then some n else none

def natural? (radix : Nat) (cs : List Char) : Option Nat :=
  if cs.isEmpty then none
  else cs.foldl (fun acc c => do return (← acc) * radix + (← digitValue? radix c)) (some 0)

def radixOf? : Char → Option Nat
  | 'x' => some 16
  | 'o' => some 8
  | 'b' => some 2
  | _ => none

def isRadixNumber (limit : Nat) : List Char → Bool
  | '0' :: mark :: digits => match radixOf? mark with
    | some radix => (natural? radix digits).any (· < limit)
    | none => false
  | _ => false

def isIntegerWord (cs : List Char) : Bool :=
  isRadixNumber (twoTo 128) (dropPlus cs) ||
  (match cs with
    | '-' :: rest => isRadixNumber (twoTo 127 + 1) rest
    | _ => false) ||
  (!isPaddedDigits cs && (natural? 10 (dropSign cs)).any (· < twoTo 128))

structure DecimalParts where
  digits : List Char
  places : Nat
  exponent : Int

def decimalParts? (cs : List Char) : Option DecimalParts :=
  let body := dropSign cs
  let whole := body.takeWhile Char.isDigit
  let (fraction, rest) := match body.dropWhile Char.isDigit with
    | '.' :: tail => (tail.takeWhile Char.isDigit, tail.dropWhile Char.isDigit)
    | rest => ([], rest)
  if whole.isEmpty && fraction.isEmpty then none
  else
    let parts (e : Int) : DecimalParts := ⟨whole ++ fraction, fraction.length, e⟩
    match rest with
    | [] => some (parts 0)
    | mark :: tail =>
      if mark != 'e' && mark != 'E' then none
      else
        match natural? 10 (dropSign tail) with
        | none => none
        | some n => some (parts (if tail.head? == some '-' then -(n : Int) else n))

def DecimalParts.isFinite (p : DecimalParts) : Bool :=
  let significant := p.digits.dropWhile (· == '0')
  let point : Int := (significant.length : Int) - p.places + p.exponent
  if significant.isEmpty || point < 300 then true
  else if 320 < point then false
  else
    let scale : Int := p.exponent - p.places
    let n := (natural? 10 significant).getD 0
    (Double.ofRatio false (n * tenTo scale.toNat) (tenTo (-scale).toNat)).isFinite

def isFloatWord (s : String) : Bool :=
  let cs := s.toList
  let bare := dropPlus cs
  let doubleSign := cs.head? == some '+' && bare.head?.any isSign
  !doubleSign &&
    ([".inf", ".Inf", ".INF"].contains (String.ofList bare) ||
     ["-.inf", "-.Inf", "-.INF", ".nan", ".NaN", ".NAN"].contains s ||
     (decimalParts? bare).any DecimalParts.isFinite)

def readsAsOther (s : String) : Bool :=
  isNullWord s || isBoolWord s || isIntegerWord s.toList || isPaddedDigits s.toList ||
    isFloatWord s

/-! Which styles can hold a text. -/

def someAdjacent (p q : Char → Bool) : List Char → Bool
  | a :: b :: rest => (p a && q b) || someAdjacent p q (b :: rest)
  | _ => false

def someBeforeSeparator (mark : Char) : List Char → Bool
  | [] => false
  | c :: rest =>
    (c == mark && (match rest with | [] => true | d :: _ => isSeparator d)) ||
      someBeforeSeparator mark rest

def isOpeningIndicator (c : Char) : Bool :=
  "#,[]\x7b\x7d&*!|>'\x22%@\x60".toList.contains c

def opensSpecially : List Char → Bool
  | [] => false
  | c :: rest =>
    isOpeningIndicator c ||
      ((c == '?' || c == '-') && (match rest with | [] => true | d :: _ => isSeparator d))

def opensDocument (cs : List Char) : Bool :=
  cs.take 3 == ['-', '-', '-'] || cs.take 3 == ['.', '.', '.']

def hasIndicator (cs : List Char) : Bool :=
  opensDocument cs || opensSpecially cs || someBeforeSeparator ':' cs ||
    someAdjacent isSeparator (· == '#') cs

def isMultiline (cs : List Char) : Bool := cs.any isBreak

def isEdge (c : Char) : Bool := isSpace c || isBreak c

def blocksQuotes (cs : List Char) : Bool :=
  cs.any (fun c => !isPrintable c) || someAdjacent isSpace isBreak cs

def singleAllowed (cs : List Char) : Bool :=
  !blocksQuotes cs && !someAdjacent isBreak isSpace cs

def plainAllowed (cs : List Char) : Bool :=
  singleAllowed cs && !isMultiline cs && !hasIndicator cs && !cs.head?.any isEdge &&
    !cs.getLast?.any isEdge

def literalAllowed (cs : List Char) : Bool := !blocksQuotes cs && !cs.getLast?.any isSpace

inductive Style where
  | plain
  | singleQuoted
  | doubleQuoted
  | literal
  deriving DecidableEq, Repr

def quotedStyle (cs : List Char) : Style :=
  if singleAllowed cs then .singleQuoted else .doubleQuoted

def styleOf (s : String) : Style :=
  let cs := s.toList
  if cs.contains '\n' then (if literalAllowed cs then .literal else .doubleQuoted)
  else if readsAsOther s then quotedStyle cs
  else if plainAllowed cs then .plain
  else quotedStyle cs

/-! Writing. -/

def spaces (n : Nat) : List Char := List.replicate n ' '

def indentLines (indent : Nat) (write : Char → List Char) (afterBreak : Bool) :
    List Char → List Char
  | [] => []
  | c :: rest =>
    if isBreak c then c :: indentLines indent write true rest
    else (if afterBreak then spaces indent else []) ++ write c ++
      indentLines indent write false rest

def singleQuotedChar (c : Char) : List Char := if c = '\x27' then ['\x27', '\x27'] else [c]

def singleQuoted (indent : Nat) (cs : List Char) : List Char :=
  '\x27' :: (indentLines indent singleQuotedChar false cs ++
    (if cs.getLast?.any isBreak then spaces indent else []) ++ ['\x27'])

def upperHex (width n : Nat) : List Char :=
  let digits := (Nat.toDigits 16 n).map Char.toUpper
  List.replicate (width - digits.length) '0' ++ digits

def escapeLetter? : Char → Option Char
  | '\x00' => some '0'
  | '\x07' => some 'a'
  | '\x08' => some 'b'
  | '\t' => some 't'
  | '\n' => some 'n'
  | '\x0b' => some 'v'
  | '\x0c' => some 'f'
  | '\r' => some 'r'
  | '\x1b' => some 'e'
  | '\x22' => some '\x22'
  | '\\' => some '\\'
  | '\u0085' => some 'N'
  | '\u2028' => some 'L'
  | '\u2029' => some 'P'
  | _ => none

def doubleQuotedChar (c : Char) : List Char :=
  match escapeLetter? c with
  | some letter => ['\\', letter]
  | none =>
    if isPrintable c then [c]
    else if c.toNat ≤ 0xFF then '\\' :: 'x' :: upperHex 2 c.toNat
    else if c.toNat ≤ 0xFFFF then '\\' :: 'u' :: upperHex 4 c.toNat
    else '\\' :: 'U' :: upperHex 8 c.toNat

def doubleQuoted (cs : List Char) : List Char :=
  '\x22' :: (cs.flatMap doubleQuotedChar ++ ['\x22'])

/-- `-` where the text ends without a break, `+` where it ends with more than one or is
nothing but one. -/
def chomping (cs : List Char) : List Char :=
  match cs.reverse with
  | [] => ['-']
  | [c] => if isBreak c then ['+'] else ['-']
  | c :: d :: _ => if !isBreak c then ['-'] else if isBreak d then ['+'] else []

/-- A text that starts with a space or a break needs its indentation told. -/
def indentationHint (cs : List Char) : List Char := if cs.head?.any isEdge then ['2'] else []

def literal (indent : Nat) (cs : List Char) : List Char :=
  '|' :: (indentationHint cs ++ chomping cs ++ '\n' :: indentLines indent (fun c => [c]) true cs)

def scalar (indent : Nat) (s : String) : List Char :=
  let cs := s.toList
  match styleOf s with
  | .plain => cs
  | .singleQuoted => singleQuoted indent cs
  | .doubleQuoted => doubleQuoted cs
  | .literal => literal indent cs

def scalarLine (indent : Nat) (s : String) : List Char :=
  scalar indent s ++
    if styleOf s = .literal ∧ s.toList.getLast?.any isBreak then [] else ['\n']

/-- Keys in one line of at most 128 bytes stand before their colon. -/
def isSimpleKey (s : String) : Bool := !isMultiline s.toList && s.utf8ByteSize ≤ 128

end SchedulerOperator.Yaml
