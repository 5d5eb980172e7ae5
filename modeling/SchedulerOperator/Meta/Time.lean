import SchedulerOperator.Double
import SchedulerOperator.Text.Label

/-!
Instants of UTC and their RFC 3339 texts. Reading is lenient: blanks between the parts,
years of any length with a sign, `UTC` or an offset for the zone. A rendered instant has
whole seconds and the zone `Z`.
-/
namespace SchedulerOperator

/-- Seconds since 1970-01-01T00:00:00Z and a fraction; a leap second is the second before
it with a fraction of a whole second or more. -/
structure Instant where
  seconds : Int
  nanos : Nat
  deriving DecidableEq, Repr

structure CivilDate where
  year : Int
  month : Nat
  day : Nat
  deriving DecidableEq, Repr

namespace CivilDate

def isLeap (year : Int) : Bool :=
  decide (year % 4 = 0 ∧ (year % 100 ≠ 0 ∨ year % 400 = 0))

def daysInMonth (year : Int) (month : Nat) : Nat :=
  if month = 2 then (if isLeap year then 29 else 28)
  else if month = 4 ∨ month = 6 ∨ month = 9 ∨ month = 11 then 30
  else 31

/-- Days since 1970-01-01, counting years from March so that leap days come last. -/
def toDays (d : CivilDate) : Int :=
  let year := if d.month ≤ 2 then d.year - 1 else d.year
  let era := year.fdiv 400
  let yearOfEra := year - era * 400
  let fromMarch : Int := if d.month ≤ 2 then d.month + 9 else d.month - 3
  let dayOfYear := (153 * fromMarch + 2).fdiv 5 + d.day - 1
  era * 146097 + (yearOfEra * 365 + yearOfEra.fdiv 4 - yearOfEra.fdiv 100 + dayOfYear) - 719468

def ofDays (days : Int) : CivilDate :=
  let shifted := days + 719468
  let era := shifted.fdiv 146097
  let day := shifted - era * 146097
  let yearOfEra := (day - day.fdiv 1460 + day.fdiv 36524 - day.fdiv 146096).fdiv 365
  let dayOfYear := day - (365 * yearOfEra + yearOfEra.fdiv 4 - yearOfEra.fdiv 100)
  let fromMarch := (5 * dayOfYear + 2).fdiv 153
  let month := if fromMarch < 10 then fromMarch + 3 else fromMarch - 9
  let year := yearOfEra + era * 400
  { year := if month ≤ 2 then year + 1 else year
    month := month.toNat
    day := (dayOfYear - (153 * fromMarch + 2).fdiv 5 + 1).toNat }

end CivilDate

def padded (width n : Nat) : List Char :=
  let digits := Nat.toDigits 10 n
  List.replicate (width - digits.length) '0' ++ digits

namespace Instant

def yearText (year : Int) : List Char :=
  if 0 ≤ year ∧ year ≤ 9999 then padded 4 year.toNat
  else if year < 0 then '-' :: padded 4 year.natAbs
  else '+' :: padded 4 year.natAbs

def render (t : Instant) : String :=
  let days := t.seconds.fdiv 86400
  let second := (t.seconds - days * 86400).toNat
  let date := CivilDate.ofDays days
  String.ofList (yearText date.year ++ '-' :: padded 2 date.month ++ '-' :: padded 2 date.day ++
    'T' :: padded 2 (second / 3600) ++ ':' :: padded 2 (second / 60 % 60) ++
    ':' :: padded 2 (second % 60 + t.nanos / 1000000000) ++ ['Z'])

end Instant

inductive TimeFault where
  | tooShort | outOfRange | invalid | trailing | impossible
  deriving DecidableEq, Repr

def TimeFault.message : TimeFault → String
  | .tooShort => "premature end of input"
  | .outOfRange => "input is out of range"
  | .invalid => "input contains invalid characters"
  | .trailing => "trailing input"
  | .impossible => "no possible date and time matching input"

namespace TimeText

def skipBlanks (cs : List Char) : List Char := cs.dropWhile Text.isBlank

/-- At most `limit` decimal digits and at least one, below `2 ^ 63`. -/
def number (limit : Nat) (cs : List Char) : Except TimeFault (Nat × List Char) :=
  match cs with
  | [] => .error .tooShort
  | c :: _ =>
    if !c.isDigit then .error .invalid
    else
      let digits := (cs.take limit).takeWhile Char.isDigit
      let n := digits.foldl (fun n d => n * 10 + (d.toNat - 48)) 0
      if n < twoTo 63 then .ok (n, cs.drop digits.length) else .error .outOfRange

def bounded (low high : Nat) (cs : List Char) : Except TimeFault (Nat × List Char) := do
  let (n, rest) ← number 2 (skipBlanks cs)
  if low ≤ n ∧ n ≤ high then .ok (n, rest) else .error .outOfRange

def year (cs : List Char) : Except TimeFault (Int × List Char) := do
  let (n, rest) ← (match skipBlanks cs with
    | '-' :: tail => do
      let (n, rest) ← number tail.length tail
      return (-(n : Int), rest)
    | '+' :: tail => do
      let (n, rest) ← number tail.length tail
      return ((n : Int), rest)
    | plain => do
      let (n, rest) ← number 4 plain
      return ((n : Int), rest))
  if -2147483648 ≤ n ∧ n ≤ 2147483647 then .ok (n, rest) else .error .outOfRange

def literal (c : Char) (cs : List Char) : Except TimeFault (List Char) :=
  match skipBlanks cs with
  | [] => .error .tooShort
  | x :: rest => if x = c then .ok rest else .error .invalid

def fraction (cs : List Char) : Except TimeFault (Nat × List Char) :=
  match cs with
  | '.' :: tail => do
    let (n, rest) ← number 9 tail
    return (n * tenTo (9 - (tail.length - rest.length)), rest.dropWhile Char.isDigit)
  | _ => .ok (0, cs)

/-- The next two characters. A last one of several bytes is too much rather than too
little. -/
def offsetDigits (cs : List Char) : Except TimeFault (Char × Char × List Char) :=
  match cs with
  | a :: b :: rest => .ok (a, b, rest)
  | [a] => .error (if a.utf8Size = 1 then .tooShort else .invalid)
  | [] => .error .tooShort

def isSeparator (c : Char) : Bool := c == ':' || Text.isBlank c

def offset (cs : List Char) : Except TimeFault (Int × List Char) :=
  match cs with
  | 'Z' :: rest | 'z' :: rest => .ok (0, rest)
  | [] => .error .tooShort
  | sign :: rest =>
    if sign ≠ '+' ∧ sign ≠ '-' ∧ sign ≠ '\u2212' then .error .invalid
    else do
      let (h₁, h₂, rest) ← offsetDigits rest
      if !h₁.isDigit || !h₂.isDigit then throw .invalid
      let (m₁, m₂, rest) ← offsetDigits (rest.dropWhile isSeparator)
      if !m₁.isDigit || !m₂.isDigit then throw .invalid
      if '6' ≤ m₁ then throw .outOfRange
      let hours := (h₁.toNat - 48) * 10 + (h₂.toNat - 48)
      let minutes := (m₁.toNat - 48) * 10 + (m₂.toNat - 48)
      let seconds : Int := hours * 3600 + minutes * 60
      return (if sign = '+' then seconds else -seconds, rest)

def isUtc (cs : List Char) : Bool := (cs.take 3).map Text.lowerAscii == ['u', 't', 'c']

def zone (cs : List Char) : Except TimeFault (Int × List Char) :=
  if isUtc cs then .ok (0, cs.drop 3) else offset cs

def maxYear : Int := 262142

def parse (s : String) : Except TimeFault Instant := do
  let (y, cs) ← year s.toList
  let cs ← literal '-' cs
  let (month, cs) ← bounded 1 12 cs
  let cs ← literal '-' cs
  let (day, cs) ← bounded 1 31 cs
  let cs ← match cs with
    | [] => .error .tooShort
    | c :: rest => if c = 't' ∨ c = 'T' ∨ c = ' ' then .ok rest else .error .invalid
  let (hour, cs) ← bounded 0 23 cs
  let cs ← literal ':' cs
  let (minute, cs) ← bounded 0 59 cs
  let cs ← literal ':' cs
  let (second, cs) ← bounded 0 60 cs
  let (nanos, cs) ← fraction cs
  let (east, cs) ← zone (skipBlanks cs)
  if !(skipBlanks cs).isEmpty then throw .trailing
  if y < -maxYear - 1 ∨ maxYear < y ∨ CivilDate.daysInMonth y month < day then throw .outOfRange
  if east.natAbs ≥ 86400 then throw .outOfRange
  let leap := second == 60
  let local_ : Int := CivilDate.toDays ⟨y, month, day⟩ * 86400 + hour * 3600 + minute * 60 +
    (if leap then 59 else second)
  let seconds := local_ - east
  let reached := (CivilDate.ofDays (seconds.fdiv 86400)).year
  if reached < -maxYear - 1 ∨ maxYear < reached then throw .impossible
  return ⟨seconds, nanos + if leap then 1000000000 else 0⟩

def canonical (s : String) : Except TimeFault String := (parse s).map Instant.render

end TimeText
end SchedulerOperator
