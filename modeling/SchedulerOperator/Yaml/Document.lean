import SchedulerOperator.Double.Text
import SchedulerOperator.Json
import SchedulerOperator.Yaml.Scalar

namespace SchedulerOperator.Yaml

def leafLine (indent : Nat) : Json → List Char
  | .null => "null\n".toList
  | .bool b => (if b then "true\n" else "false\n").toList
  | .int n => (toString n ++ "\n").toList
  | .double x => (x.yamlText ++ "\n").toList
  | .str s => scalarLine indent s
  | .arr _ => "[]\n".toList
  | .obj _ => "\x7b\x7d\n".toList

def keyStart (indent : Nat) (key : String) : List Char :=
  if isSimpleKey key then scalar (indent + 2) key ++ [':']
  else '?' :: ' ' :: scalarLine (indent + 2) key ++ spaces indent ++ [':']

mutual
def block (indent : Nat) : Json → List Char
  | .arr [] => leafLine indent (.arr [])
  | .obj [] => leafLine indent (.obj [])
  | .arr (v :: rest) => '-' :: ' ' :: (block (indent + 2) v ++ blockItems indent rest)
  | .obj ((k, v) :: rest) => keyStart indent k ++ member indent v ++ blockMembers indent rest
  | .null => leafLine indent .null
  | .bool b => leafLine indent (.bool b)
  | .int n => leafLine indent (.int n)
  | .double x => leafLine indent (.double x)
  | .str s => leafLine indent (.str s)

def member (indent : Nat) : Json → List Char
  | .arr (v :: rest) => '\n' :: spaces indent ++ block indent (.arr (v :: rest))
  | .obj (e :: rest) => '\n' :: spaces (indent + 2) ++ block (indent + 2) (.obj (e :: rest))
  | .arr [] => ' ' :: leafLine indent (.arr [])
  | .obj [] => ' ' :: leafLine indent (.obj [])
  | .null => ' ' :: leafLine indent .null
  | .bool b => ' ' :: leafLine indent (.bool b)
  | .int n => ' ' :: leafLine indent (.int n)
  | .double x => ' ' :: leafLine indent (.double x)
  | .str s => ' ' :: leafLine (indent + 2) (.str s)

def blockItems (indent : Nat) : List Json → List Char
  | [] => []
  | v :: rest => spaces indent ++ '-' :: ' ' :: (block (indent + 2) v ++ blockItems indent rest)

def blockMembers (indent : Nat) : List (String × Json) → List Char
  | [] => []
  | (k, v) :: rest =>
    spaces indent ++ keyStart indent k ++ member indent v ++ blockMembers indent rest
end

def document (v : Json) : String := String.ofList (block 0 v)

end SchedulerOperator.Yaml
