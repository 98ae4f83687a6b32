import RemoteCall.Json.Basic
import RemoteCall.Text.Quoted

/-!
# JSON values in messages

Messages show values in one line: words with a capital for null and the truth values, quoted texts, and brackets with a
comma and a space between entries.
-/

namespace RemoteCall.Json

def commaSeparated (entries : List String) : String := ", ".intercalate entries

mutual
/-- The text of a value in a message. -/
def display : Json → String
  | null => "None"
  | bool b => if b then "True" else "False"
  | number n => n.toText
  | string s => Text.quoted s
  | list items => "[" ++ commaSeparated (displayItems items) ++ "]"
  | object members => "\x7b" ++ commaSeparated (displayMembers members) ++ "\x7d"

def displayItems : List Json → List String
  | [] => []
  | v :: rest => display v :: displayItems rest

def displayMembers : List (String × Json) → List String
  | [] => []
  | (name, v) :: rest => (Text.quoted name ++ ": " ++ display v) :: displayMembers rest
end

/-- Values in round brackets, where a single one is followed by a comma. -/
def displayTuple : List Json → String
  | [v] => "(" ++ display v ++ ",)"
  | values => "(" ++ commaSeparated (displayItems values) ++ ")"

end RemoteCall.Json
