namespace SchedulerOperator

structure HttpRequest where
  method : String
  uri : String
  accept : Option String := none
  contentType : Option String := none
  body : Option String := none
  deriving DecidableEq, Repr

structure HttpResponse where
  status : Nat
  text : String
  deriving DecidableEq, Repr

inductive Exchange where
  | response (r : HttpResponse)
  | failure (message : String)
  deriving DecidableEq, Repr

inductive UriFault where
  | character
  | length
  deriving DecidableEq, Repr

def UriFault.message : UriFault → String
  | .character => "invalid uri character"
  | .length => "uri too long"

namespace HttpUri

def within (c : Char) (low high : Nat) : Bool := low ≤ c.toNat && c.toNat ≤ high

def isPathChar (c : Char) : Bool :=
  within c 0x21 0x3B || c == '=' || within c 0x40 0x5F || within c 0x61 0x7E || 0x80 ≤ c.toNat

def isQueryChar (c : Char) : Bool :=
  c == '!' || within c 0x24 0x3B || c == '=' || within c 0x3F 0x7E || 0x80 ≤ c.toNat

/-- What goes out of a path and query: all before the fragment, if every character may
stand where it does. -/
def normalize (s : String) : Except UriFault String :=
  let sent := s.toList.takeWhile (· != '#')
  let path := sent.takeWhile (· != '?')
  let query := (sent.dropWhile (· != '?')).drop 1
  if 65534 < s.utf8ByteSize then .error .length
  else if path.all isPathChar && query.all isQueryChar then .ok (String.ofList sent)
  else .error .character

end HttpUri
end SchedulerOperator
