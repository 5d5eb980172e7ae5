import SchedulerOperator.Json.Reader

/-!
Numbers in JSON. An integer of 64 bits stays an integer. Of any other number as many
digits count as fit 64 bits; they are scaled by one power of ten, so the double is not
always the one nearest the written number.
-/
namespace SchedulerOperator.Json.Number
open Reader

def natOfDigits (ds : List Char) : Nat := ds.foldl (fun n d => n * 10 + (d.toNat - 48)) 0

/-- Decimal digits up to the largest significand of 64 bits, and how many were left over. -/
def gather (significand : Nat) : List Char → Nat × Nat
  | [] => (significand, 0)
  | d :: rest =>
    let next := significand * 10 + (d.toNat - 48)
    if next < twoTo 64 then gather next rest else (significand, rest.length + 1)

/-- The digits that count and the power of ten that they are multiplied by. Digits after
the point count as far as they still fit behind those before it. -/
def mantissa (whole fraction : List Char) : Nat × Int :=
  let (n, dropped) := gather 0 whole
  let (m, lost) := gather n fraction
  (m, (dropped : Int) - (fraction.length - lost : Nat))

/-- Rounded after every step. A power beyond the doubles is reached in several steps. -/
def scaled (fuel : Nat) (f : Double) (exponent : Int) : Option Double :=
  match fuel with
  | 0 => some f
  | fuel + 1 =>
    if exponent.natAbs ≤ 308 then
      if 0 ≤ exponent then
        let product := f.product (.powerOfTen exponent.natAbs)
        if product.isFinite then some product else none
      else some (f.quotient (.powerOfTen exponent.natAbs))
    else if f.significand = 0 then some f
    else if 0 ≤ exponent then none
    else scaled fuel (f.quotient (.powerOfTen 308)) (exponent + 308)

def double (negative : Bool) (significand : Nat) (exponent : Int) : Option Double :=
  (scaled 4 (.ofNat significand) (max exponent (-1300))).map fun f =>
    if negative then f.negate else f

def wholeNumber (negative : Bool) (digits : List Char) : Option Json :=
  match gather 0 digits with
  | (n, 0) =>
    if !negative then some (.int n)
    else if n = 0 then some (.double .negativeZero)
    else if n ≤ twoTo 63 then some (.int (-n))
    else some (.double (Double.ofNat n).negate)
  | (n, dropped) => (double negative n dropped).map .double

def digits : Reader (List Char) := takeWhile Char.isDigit

def noDigit (atEnd : SyntaxFault) : Reader α := do
  match ← next? with
  | none => faultNext atEnd
  | some _ => faultNext .badNumber

def someDigits (atEnd : SyntaxFault) : Reader (List Char) := do
  let ds ← digits
  if ds.isEmpty then noDigit atEnd else return ds

def wholeDigits (atEnd : SyntaxFault) : Reader (List Char) := do
  match ← next? with
  | some '0' => do
    advance
    match ← next? with
    | some c => if c.isDigit then faultNext .badNumber else return ['0']
    | none => return ['0']
  | _ => someDigits atEnd

def fractionDigits (atEnd : SyntaxFault) : Reader (Option (List Char)) := do
  match ← next? with
  | some '.' => do
    advance
    return some (← someDigits atEnd)
  | _ => return none

def exponentMark : Reader (Option Bool) := do
  match ← next? with
  | some 'e' | some 'E' => do
    advance
    match ← next? with
    | some '+' => do
      advance
      return some false
    | some '-' => do
      advance
      return some true
    | _ => return some false
  | _ => return none

/-- How many digits it takes to exceed the limit, after digits that make `n`. -/
def digitsBeyond (limit n : Nat) : List Char → Option Nat
  | [] => none
  | d :: rest =>
    let next := n * 10 + (d.toNat - 48)
    if limit < next then some 1 else (digitsBeyond limit next rest).map (· + 1)

/-- An exponent of more than 32 bits is too large as soon as that shows. -/
def exponent (significand : Nat) : Reader (Option Int) := do
  match ← exponentMark with
  | none => return none
  | some negative => do
    let start := (← cursor).position
    let ds ← someDigits .endInValue
    match negative || significand == 0, digitsBeyond (twoTo 31 - 1) 0 ds with
    | false, some count =>
      throw ⟨.malformed .numberTooLarge, ⟨start.line, start.column + count⟩⟩
    | _, _ => return some (if negative then -natOfDigits ds else natOfDigits ds)

def read (negative : Bool) : Reader Json := do
  let whole ← wholeDigits .endInValue
  let fraction ← fractionDigits .endInValue
  let (significand, shift) := mantissa whole (fraction.getD [])
  let power ← exponent significand
  let value := match fraction, power with
    | none, none => wholeNumber negative whole
    | _, _ => (double negative significand (power.getD 0 + shift)).map .double
  match value with
  | some v => return v
  | none => fault .numberTooLarge

def pass : Reader Unit := do
  let _ ← wholeDigits .badNumber
  let _ ← fractionDigits .badNumber
  match ← exponentMark with
  | none => return ()
  | some _ => do
    let _ ← someDigits .badNumber

end SchedulerOperator.Json.Number
