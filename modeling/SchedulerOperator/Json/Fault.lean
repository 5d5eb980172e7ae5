import SchedulerOperator.Double.Text
import SchedulerOperator.Json
import SchedulerOperator.Text.Quoted

/-!
What can be wrong with a JSON text, and with a value where a certain type is wanted. A
value need not come from a text, so what is wrong with it has no place by itself.
-/
namespace SchedulerOperator

/-- Line from one, column in bytes of that line already passed. -/
structure TextPosition where
  line : Nat
  column : Nat
  deriving DecidableEq, Repr, Inhabited

namespace TextPosition

def start : TextPosition := ⟨1, 0⟩

def past (p : TextPosition) (c : Char) : TextPosition :=
  if c = '\n' then ⟨p.line + 1, 0⟩ else ⟨p.line, p.column + c.utf8Size⟩

def peeked (p : TextPosition) : List Char → TextPosition
  | [] => p
  | c :: _ => if c = '\n' then ⟨p.line + 1, 0⟩ else ⟨p.line, p.column + 1⟩

def pastBytes? (p : TextPosition) (count : Nat) : List Char → Option TextPosition
  | [] => if count = 0 then some p else none
  | c :: rest =>
    if count = 0 then some p
    else if count < c.utf8Size then some ⟨p.line, p.column + count⟩
    else (p.past c).pastBytes? (count - c.utf8Size) rest

end TextPosition

inductive SyntaxFault where
  | endInList | endInObject | endInString | endInValue
  | wantedColon | wantedListEnd | wantedObjectEnd | wantedIdent | wantedValue
  | badEscape | badNumber | numberTooLarge | controlCharacter
  | keyNotText | loneSurrogate | halfPair | trailingComma | trailingCharacters | tooDeep
  deriving DecidableEq, Repr

def SyntaxFault.message : SyntaxFault → String
  | .endInList => "EOF while parsing a list"
  | .endInObject => "EOF while parsing an object"
  | .endInString => "EOF while parsing a string"
  | .endInValue => "EOF while parsing a value"
  | .wantedColon => "expected \x60:\x60"
  | .wantedListEnd => "expected \x60,\x60 or \x60]\x60"
  | .wantedObjectEnd => "expected \x60,\x60 or \x60\x7d\x60"
  | .wantedIdent => "expected ident"
  | .wantedValue => "expected value"
  | .badEscape => "invalid escape"
  | .badNumber => "invalid number"
  | .numberTooLarge => "number out of range"
  | .controlCharacter => "control character (\\u0000-\\u001F) found while parsing a string"
  | .keyNotText => "key must be a string"
  | .loneSurrogate => "lone leading surrogate in hex escape"
  | .halfPair => "unexpected end of hex escape"
  | .trailingComma => "trailing comma"
  | .trailingCharacters => "trailing characters"
  | .tooDeep => "recursion limit exceeded"

inductive Found where
  | null
  | bool (b : Bool)
  | int (n : Int)
  | double (x : Double)
  | str (s : String)
  | sequence
  | map
  deriving DecidableEq, Repr

namespace Found

def ofJson : Json → Found
  | .null => .null
  | .bool b => .bool b
  | .int n => .int n
  | .double x => .double x
  | .str s => .str s
  | .arr _ => .sequence
  | .obj _ => .map

def describe : Found → String
  | .null => "null"
  | .bool b => "boolean \x60" ++ (if b then "true" else "false") ++ "\x60"
  | .int n => "integer \x60" ++ toString n ++ "\x60"
  | .double x => "floating point \x60" ++ x.jsonText ++ "\x60"
  | .str s => "string " ++ Text.quoted s
  | .sequence => "sequence"
  | .map => "map"

end Found

inductive DecodeError where
  | wrongType (found : Found) (wanted : String)
  | wrongValue (found : Found) (wanted : String)
  | notVariant (found : Found)
  | unknownVariant (name : String) (known : List String)
  | missingField (name : String)
  | duplicateField (name : String)
  | wrongLength (count : Nat) (wanted : String)
  | surplusItems (count : Nat)
  | malformed (message : String)
  deriving DecidableEq, Repr

def oneOf : List String → String
  | [] => "there are no variants"
  | [a] => "expected \x60" ++ a ++ "\x60"
  | [a, b] => "expected \x60" ++ a ++ "\x60 or \x60" ++ b ++ "\x60"
  | all => "expected one of " ++ ", ".intercalate (all.map fun a => "\x60" ++ a ++ "\x60")

def DecodeError.message : DecodeError → String
  | .wrongType found wanted => "invalid type: " ++ found.describe ++ ", expected " ++ wanted
  | .wrongValue found wanted => "invalid value: " ++ found.describe ++ ", expected " ++ wanted
  | .notVariant found => "invalid type: " ++ found.describe ++ ", expected string or map"
  | .unknownVariant name known => "unknown variant \x60" ++ name ++ "\x60, " ++ oneOf known
  | .missingField name => "missing field \x60" ++ name ++ "\x60"
  | .duplicateField name => "duplicate field \x60" ++ name ++ "\x60"
  | .wrongLength count wanted => "invalid length " ++ toString count ++ ", expected " ++ wanted
  | .surplusItems count =>
    "invalid length " ++ toString count ++ ", expected fewer elements in array"
  | .malformed message => message

inductive TextFault where
  | malformed (fault : SyntaxFault)
  | unfit (error : DecodeError)
  deriving DecidableEq, Repr

def TextFault.message : TextFault → String
  | .malformed fault => fault.message
  | .unfit error => error.message

structure TextError where
  fault : TextFault
  position : TextPosition
  deriving DecidableEq, Repr

def TextError.message (e : TextError) : String :=
  e.fault.message ++ " at line " ++ toString e.position.line ++
    " column " ++ toString e.position.column

end SchedulerOperator
