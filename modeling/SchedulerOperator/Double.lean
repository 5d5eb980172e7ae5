/-!
IEEE 754 binary64 numbers as their 64-bit words. Classification, comparison and rounding
are exact integer arithmetic; no hardware float is involved.
-/
namespace SchedulerOperator

def twoTo (n : Nat) : Nat := Nat.pow 2 n

def tenTo (n : Nat) : Nat := Nat.pow 10 n

structure Double where
  bits : UInt64
  deriving DecidableEq, Repr, Inhabited

namespace Double

def word (x : Double) : Nat := x.bits.toNat
def isNegative (x : Double) : Bool := decide (twoTo 63 ≤ x.word)
def exponentField (x : Double) : Nat := x.word / twoTo 52 % twoTo 11
def fractionField (x : Double) : Nat := x.word % twoTo 52
def isFinite (x : Double) : Bool := decide (x.exponentField ≠ 2047)
def isNaN (x : Double) : Bool := decide (x.exponentField = 2047 ∧ x.fractionField ≠ 0)

/-- Monotone in the number for every word that is not a NaN; both zeros get `0`. -/
def rank (x : Double) : Int :=
  if x.isNegative then -((x.word % twoTo 63 : Nat) : Int) else ((x.word % twoTo 63 : Nat) : Int)

/-- Comparisons with a NaN are false. -/
def le (x y : Double) : Bool := !x.isNaN && !y.isNaN && decide (x.rank ≤ y.rank)
def lt (x y : Double) : Bool := !x.isNaN && !y.isNaN && decide (x.rank < y.rank)

/-- Numeric equality: the zeros are equal and a NaN differs from itself. -/
def same (x y : Double) : Bool := !x.isNaN && !y.isNaN && decide (x.rank = y.rank)

def zero : Double := ⟨0⟩
def negativeZero : Double := ⟨0x8000000000000000⟩
def one : Double := ⟨0x3FF0000000000000⟩
def two : Double := ⟨0x4000000000000000⟩
def infinity : Double := ⟨0x7FF0000000000000⟩
def negativeInfinity : Double := ⟨0xFFF0000000000000⟩
def nan : Double := ⟨0x7FF8000000000000⟩

/-- A finite magnitude is `significand * 2 ^ scale`. -/
def significand (x : Double) : Nat :=
  if x.exponentField = 0 then x.fractionField else twoTo 52 + x.fractionField

def scale (x : Double) : Int := (max x.exponentField 1 : Nat) - 1075

def ratio (x : Double) : Nat × Nat :=
  (x.significand * twoTo x.scale.toNat, twoTo (-x.scale).toNat)

def withSign (negative : Bool) (magnitude : Nat) : Double :=
  ⟨UInt64.ofNat (magnitude + if negative then twoTo 63 else 0)⟩

/-- The nearest integer to `num / den`; a half goes to the even neighbour. -/
def roundHalfEven (num den : Nat) : Nat :=
  let below := num / den
  let rest := 2 * (num % den)
  if rest < den then below
  else if den < rest then below + 1
  else below + below % 2

def floorLog2 (num den : Nat) : Int :=
  let guess : Int := (num.log2 : Int) - den.log2
  if den * twoTo guess.toNat ≤ num * twoTo (-guess).toNat then guess else guess - 1

/-- The double nearest `num / den`; a half goes to the even neighbour, and what exceeds
the largest finite number becomes infinite. -/
def ofRatio (negative : Bool) (num den : Nat) : Double :=
  if num = 0 then withSign negative 0
  else
    let unit : Int := max (floorLog2 num den - 52) (-1074)
    let steps := roundHalfEven (num * twoTo (-unit).toNat) (den * twoTo unit.toNat)
    -- A carry out of the fraction runs into the exponent field, which is what is wanted.
    let magnitude := if steps < twoTo 52 then steps
      else steps - twoTo 52 + ((unit + 1075).toNat) * twoTo 52
    withSign negative (min magnitude infinity.word)

def ofNat (n : Nat) : Double := ofRatio false n 1

def quotient (x y : Double) : Double :=
  ofRatio false (x.ratio.1 * y.ratio.2) (x.ratio.2 * y.ratio.1)

def product (x y : Double) : Double :=
  ofRatio false (x.ratio.1 * y.ratio.1) (x.ratio.2 * y.ratio.2)

def negate (x : Double) : Double := withSign (!x.isNegative) (x.word % twoTo 63)

def powerOfTen (n : Nat) : Double := ofNat (tenTo n)

end Double
end SchedulerOperator
