import SchedulerOperator.Json.Reader

namespace SchedulerOperator.Json.Quoted
open Reader

def hexValue? (c : Char) : Option Nat :=
  if c.isDigit then some (c.toNat - 48)
  else if 'a' ≤ c ∧ c ≤ 'f' then some (c.toNat - 87)
  else if 'A' ≤ c ∧ c ≤ 'F' then some (c.toNat - 55)
  else none

/-- Four hexadecimal digits. The next four bytes are taken before they are looked at. -/
def hexFour : Reader Nat := do
  let c ← cursor
  match c.position.pastBytes? 4 c.rest, (c.rest.take 4).mapM hexValue? with
  | none, _ => do
    moveTo c.finish
    fault .endInString
  | some p, none => throw ⟨.malformed .badEscape, p⟩
  | some p, some digits => do
    moveTo { c with rest := c.rest.drop 4, position := p }
    return digits.foldl (fun n d => n * 16 + d) 0

def isLeading (n : Nat) : Bool := 0xD800 ≤ n && n ≤ 0xDBFF
def isTrailing (n : Nat) : Bool := 0xDC00 ≤ n && n ≤ 0xDFFF

def between (c : Char) : Reader Unit := do
  match ← next? with
  | none => fault .endInString
  | some x => if x = c then advance else faultNext .halfPair

/-- The character that follows `\u`, of which either all is there or nothing. -/
def codePoint : Reader Char := do
  let n ← hexFour
  if isTrailing n then fault .loneSurrogate
  else if isLeading n then do
    between '\\'
    between 'u'
    let m ← hexFour
    if isTrailing m then
      return Char.ofNat (0x10000 + (n - 0xD800) * 0x400 + (m - 0xDC00))
    else fault .loneSurrogate
  else return Char.ofNat n

def simpleEscape? : Char → Option Char
  | '\x22' => some '\x22'
  | '\\' => some '\\'
  | '/' => some '/'
  | 'b' => some '\x08'
  | 'f' => some '\x0c'
  | 'n' => some '\n'
  | 'r' => some '\r'
  | 't' => some '\t'
  | _ => none

def escape (coded : Reader Char) : Reader Char := do
  match ← next? with
  | none => fault .endInString
  | some 'u' => do
    advance
    coded
  | some c =>
    match simpleEscape? c with
    | some x => do
      advance
      return x
    | none => faultNext .badEscape

def isControl (c : Char) : Bool := c.toNat < 0x20

def textFuel : Nat → List Char → Reader String
  | 0, _ => fault .endInString
  | fuel + 1, done => do
    match ← next? with
    | none => fault .endInString
    | some '\x22' => do
      advance
      return String.ofList done.reverse
    | some '\\' => do
      advance
      let c ← escape codePoint
      textFuel fuel (c :: done)
    | some c => do
      advance
      if isControl c then fault .controlCharacter else textFuel fuel (c :: done)

def text : Reader String := do textFuel ((← cursor).rest.length + 1) []

def passFuel : Nat → Reader Unit
  | 0 => fault .endInString
  | fuel + 1 => do
    match ← next? with
    | none => fault .endInString
    | some '\x22' => advance
    | some '\\' => do
      advance
      let _ ← escape (Char.ofNat <$> hexFour)
      passFuel fuel
    | some c => if isControl c then fault .controlCharacter else do
      advance
      passFuel fuel

/-- Passes a text over, in which any half of a pair may stand alone. -/
def pass : Reader Unit := do passFuel ((← cursor).rest.length + 1)

end SchedulerOperator.Json.Quoted
