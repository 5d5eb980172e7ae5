/-!
White space as Unicode's `White_Space` property lists it, the trimming of it, and label values:
at most 63 lowercase letters, digits and hyphens, with a letter or digit at both ends.
-/
namespace SchedulerOperator.Text

def isBlank (c : Char) : Bool :=
  let n := c.toNat
  (0x9 ≤ n && n ≤ 0xD) || n == 0x20 || n == 0x85 || n == 0xA0 || n == 0x1680 ||
    (0x2000 ≤ n && n ≤ 0x200A) || n == 0x2028 || n == 0x2029 || n == 0x202F ||
    n == 0x205F || n == 0x3000

def trimChars (p : Char → Bool) (cs : List Char) : List Char :=
  ((cs.dropWhile p).reverse.dropWhile p).reverse

def trim (s : String) : String := String.ofList (trimChars isBlank s.toList)

def lowerAscii (c : Char) : Char :=
  if 'A' ≤ c ∧ c ≤ 'Z' then Char.ofNat (c.toNat + 32) else c

def lowercaseAscii (s : String) : String := String.ofList (s.toList.map lowerAscii)

def isBlankText (s : String) : Bool := s.toList.all isBlank

def isLabelAlnum (c : Char) : Bool := ('a' ≤ c && c ≤ 'z') || ('0' ≤ c && c ≤ '9')
def isLabelChar (c : Char) : Bool := isLabelAlnum c || c == '-'

def maxLabelLength : Nat := 63

/-- Lowercase, with a hyphen for whatever a label cannot hold. -/
def labelChar (c : Char) : Char :=
  let lower := lowerAscii c
  if isLabelChar lower then lower else '-'

def isHyphen (c : Char) : Bool := c == '-'

def dropTrailing (p : Char → Bool) (cs : List Char) : List Char :=
  (cs.reverse.dropWhile p).reverse

def labelValueChars (cs : List Char) : List Char :=
  dropTrailing isHyphen ((trimChars isHyphen (cs.map labelChar)).take maxLabelLength)

def labelValue (raw : String) : String := String.ofList (labelValueChars raw.toList)

end SchedulerOperator.Text
