import RemoteCall.Number.Basic
import RemoteCall.Ordered

/-!
# JSON values

A value of a JSON document, with integers and doubles told apart and the members of an object in document order.
-/

namespace RemoteCall

inductive Json where
  | null
  | bool (b : Bool)
  | number (n : Number)
  | string (s : String)
  | list (items : List Json)
  /-- Members with distinct names, in order. -/
  | object (members : List (String × Json))
deriving Repr, Inhabited

namespace Json

def int (i : Int) : Json := number (.integer i)

def double (x : Binary64) : Json := number (.double x)

def ofOption {α : Type} (f : α → Json) : Option α → Json
  | none => null
  | some a => f a

/-- The word for the kind of a value in messages. -/
def kindName : Json → String
  | null => "NoneType"
  | bool _ => "bool"
  | number (.integer _) => "int"
  | number (.double _) => "float"
  | string _ => "str"
  | list _ => "list"
  | object _ => "dict"

/-- The kind of a value with the module that holds it. -/
def typeName (v : Json) : String := "builtins." ++ v.kindName

def member? (v : Json) (name : String) : Option Json :=
  match v with
  | object members => Ordered.get? members name
  | _ => none

/-- Whether a value counts as true: it is not null, false, a zero, or empty. -/
def truthy : Json → Bool
  | null => false
  | bool b => b
  | number n => !n.isZero
  | string s => !s.isEmpty
  | list items => !items.isEmpty
  | object members => !members.isEmpty

end Json

end RemoteCall
