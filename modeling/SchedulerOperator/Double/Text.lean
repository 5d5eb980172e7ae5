import SchedulerOperator.Double

namespace SchedulerOperator.Double

def digitsOf (n : Nat) : List Char := Nat.toDigits 10 n

/-- Decimal digits `d₁d₂…` and a point position `p`, standing for `0.d₁d₂… * 10 ^ p`. -/
structure Decimal where
  digits : List Char
  point : Int
  deriving DecidableEq, Repr

/-- The open or closed interval of reals that round to a finite double, over the common
denominator `den`; an end is included exactly when the significand is even. -/
structure Neighbourhood where
  low : Nat
  mid : Nat
  high : Nat
  den : Nat
  ends : Bool

def neighbourhood (x : Double) : Neighbourhood :=
  let m := x.significand
  let up := twoTo x.scale.toNat
  let narrow := x.fractionField = 0 ∧ 1 < x.exponentField
  { low := (4 * m - if narrow then 1 else 2) * up
    mid := 4 * m * up
    high := (4 * m + 2) * up
    den := 4 * twoTo (-x.scale).toNat
    ends := m % 2 == 0 }

def Neighbourhood.holds (n : Neighbourhood) (num den : Nat) : Bool :=
  let a := num * n.den
  if n.ends then n.low * den ≤ a && a ≤ n.high * den else n.low * den < a && a < n.high * den

/-- Number of decimal places left of the point of a positive fraction, at most zero for
values below one tenth. -/
def pointOf (num den : Nat) : Int := ((digitsOf (num * tenTo 400 / den)).length : Int) - 400

inductive Tie where
  | toEven
  | away
  deriving DecidableEq, Repr

def Tie.pick (below : Nat) : Tie → Nat
  | .toEven => below + below % 2
  | .away => below + 1

/-- The grid point of `count` digits nearest the value, of those that read back. -/
def shortestOn (tie : Tie) (n : Neighbourhood) (point : Int) (count : Nat) : Option Nat :=
  let up := tenTo (point - count).toNat
  let down := tenTo (count - point).toNat
  let below := n.mid * down / (n.den * up)
  let above := below + 1
  let hits (d : Nat) := 0 < d && n.holds (d * up) down
  match hits below, hits above with
  | false, false => none
  | true, false => some below
  | false, true => some above
  | true, true =>
    let gap := 2 * (n.mid * down % (n.den * up))
    if gap < n.den * up then some below
    else if n.den * up < gap then some above
    else some (tie.pick below)

def dropTrailingZeros (digits : List Char) : List Char :=
  (digits.reverse.dropWhile (· == '0')).reverse

def shortest (tie : Tie) (x : Double) : Decimal :=
  let n := x.neighbourhood
  let point := pointOf n.mid n.den
  let found := (List.range 17).findSome? fun i =>
    (shortestOn tie n point (i + 1)).map fun d => (d, i + 1)
  let (d, count) := found.getD (n.mid / n.den, 17)
  let digits := digitsOf d
  ⟨dropTrailingZeros digits, point + digits.length - count⟩

/-- How a finite double is laid out. `low` and `high` bound the point positions written
without an exponent. -/
structure Layout where
  low : Int
  high : Int
  wholeSuffix : String
  positiveExponent : String
  tie : Tie

def zeros (n : Nat) : List Char := List.replicate n '0'

def Layout.positional (style : Layout) (d : Decimal) : List Char :=
  if d.point ≤ 0 then '0' :: '.' :: (zeros (-d.point).toNat ++ d.digits)
  else
    let whole := d.point.toNat
    if d.digits.length ≤ whole then
      d.digits ++ zeros (whole - d.digits.length) ++ style.wholeSuffix.toList
    else d.digits.take whole ++ '.' :: d.digits.drop whole

def Layout.exponential (style : Layout) (d : Decimal) : List Char :=
  let e := d.point - 1
  let mantissa := match d.digits with
    | [] => ['0']
    | [c] => [c]
    | c :: rest => c :: '.' :: rest
  mantissa ++ 'e' :: (if 0 ≤ e then style.positiveExponent.toList else ['-']) ++
    digitsOf e.natAbs

def Layout.text (style : Layout) (x : Double) : String :=
  if x.isNaN then "NaN"
  else
    let body :=
      if !x.isFinite then "inf".toList
      else if x.significand = 0 then '0' :: style.wholeSuffix.toList
      else
        let d := shortest style.tie x
        if style.low ≤ d.point && d.point ≤ style.high then style.positional d
        else style.exponential d
    String.ofList (if x.isNegative then '-' :: body else body)

/-- Never an exponent, and no fraction for a whole number; a tie goes away from zero. -/
def plainText : Double → String := Layout.text ⟨-400, 400, "", "", .away⟩

/-- JSON numbers: always a fraction or an exponent; a tie goes to the even neighbour. -/
def jsonText : Double → String := Layout.text ⟨-4, 16, ".0", "+", .toEven⟩

/-- YAML numbers: as in JSON, without the plus sign of an exponent. -/
def yamlText : Double → String := Layout.text ⟨-4, 16, ".0", "", .toEven⟩

def twoPlaces (x : Double) : String :=
  let hundredths := roundHalfEven (100 * x.ratio.1) x.ratio.2
  let fraction := digitsOf (hundredths % 100)
  let body := digitsOf (hundredths / 100) ++ '.' :: (zeros (2 - fraction.length) ++ fraction)
  String.ofList (if x.isNegative then '-' :: body else body)

def hex (x : Double) : String :=
  let digits := Nat.toDigits 16 x.word
  String.ofList (zeros (16 - digits.length) ++ digits)

end SchedulerOperator.Double
