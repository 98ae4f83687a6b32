import RemoteCall.Json.Equality
import RemoteCall.Fault

/-!
# Header maps

A header map gives each header name its values in order; the names have an order too. Appending a map adds its values
after those already there and its new names after the names already there. Equality does not look at the order of
names.
-/

namespace RemoteCall

structure HeaderMap where
  entries : List (String × List Json)
deriving Repr

namespace HeaderMap

def empty : HeaderMap := ⟨[]⟩

instance : Inhabited HeaderMap := ⟨empty⟩

def names (h : HeaderMap) : List String := Ordered.names h.entries

def isEmpty (h : HeaderMap) : Bool := h.entries.isEmpty

def contains (h : HeaderMap) (name : String) : Bool := h.names.contains name

/-- The values of a name, none if it is absent. -/
def values (h : HeaderMap) (name : String) : List Json := (Ordered.get? h.entries name).getD []

def get (h : HeaderMap) (name : String) : Except Fault (List Json) :=
  match Ordered.get? h.entries name with
  | some values => .ok values
  | none => .error (.missingHeader name)

/-! ## From JSON -/

/-- The values in a JSON value for a header: the items of a list or the names of an object. A bare text is refused. -/
def sequence (name : String) (v : Json) : Except Fault (List Json) :=
  match v with
  | .list items => .ok items
  | .object members => .ok ((Ordered.names members).map .string)
  | .string _ => .error (.headerNotSequence name)
  | _ => .error (.notIterable v.kindName)

/-- The header map with the given members, the first bad one being the fault. -/
def freeze (members : List (String × Json)) : Except Fault HeaderMap :=
  return ⟨← members.mapM fun m => return (m.1, ← sequence m.1 m.2)⟩

/-! ## Appending -/

/-- The values of `extra` after those of `h`. -/
def append (h extra : HeaderMap) : HeaderMap :=
  ⟨h.entries.map (fun e => (e.1, e.2 ++ extra.values e.1)) ++ extra.entries.filter fun e => !h.contains e.1⟩

instance : Append HeaderMap := ⟨append⟩

/-- Members in the order in which appending them to `h` looks at them: shared names in the order of `h`, then the new
ones. -/
def arrange (h : HeaderMap) (members : List (String × Json)) : List (String × Json) :=
  h.names.filterMap (fun name => (Ordered.get? members name).map (name, ·)) ++
    members.filter fun m => !h.contains m.1

def appendMembers (h : HeaderMap) (members : List (String × Json)) : Except Fault HeaderMap :=
  return h ++ (← freeze (h.arrange members))

/-! ## Views -/

def toPairs (h : HeaderMap) : Json := .list (h.entries.map fun e => .list [.string e.1, .list e.2])

def toObject (h : HeaderMap) : Json := .object (h.entries.map fun e => (e.1, .list e.2))

def display (h : HeaderMap) : String :=
  let entries := h.entries.map fun e => Text.quoted e.1 ++ ": " ++ Json.displayTuple e.2
  "HeaderMap(\x7b" ++ Json.commaSeparated entries ++ "\x7d)"

/-! ## Equality -/

def same (h k : HeaderMap) : Bool :=
  h.entries.length == k.entries.length && h.entries.all fun e =>
    match Ordered.get? k.entries e.1 with
    | some values => Json.sameItems e.2 values
    | none => false

/-- The kind of the first value that cannot be hashed, a list or an object. -/
def unhashable? (h : HeaderMap) : Option String :=
  (h.entries.flatMap Prod.snd).findSome? fun v =>
    match v with
    | .list _ | .object _ => some v.kindName
    | _ => none

/-- Whether two maps have the same hash, which is when they are equal. -/
def sameHash (h k : HeaderMap) : Except Fault Bool :=
  match h.unhashable? <|> k.unhashable? with
  | some kind => .error (.unhashable kind)
  | none => .ok (h.same k)

end HeaderMap

/-! ## Shared maps -/

/-- A header map that may be shared, known by a number; zero is the one empty map that all share. -/
structure SharedHeaders where
  map : HeaderMap
  identity : Nat
deriving Repr

inductive HeaderArgument where
  | unset
  | members (members : List (String × Json))
  | shared (headers : SharedHeaders)
deriving Repr

namespace SharedHeaders

def empty : SharedHeaders := ⟨.empty, 0⟩

/-- A map of its own with the contents of the argument, known by `fresh`. -/
def copy (fresh : Nat) : HeaderArgument → Except Fault SharedHeaders
  | .unset => .ok ⟨.empty, fresh⟩
  | .members members => return ⟨← HeaderMap.freeze members, fresh⟩
  | .shared headers => .ok ⟨headers.map, fresh⟩

/-- The argument as a map: itself if it is one, the shared empty one if it has no members, else a new one. -/
def ofArgument (fresh : Nat) : HeaderArgument → Except Fault SharedHeaders
  | .unset => .ok empty
  | .members members => if members.isEmpty then .ok empty else return ⟨← HeaderMap.freeze members, fresh⟩
  | .shared headers => .ok headers

/-- The argument appended. When one side is empty the other one is kept and not copied. -/
def append (fresh : Nat) (current : SharedHeaders) (extra : HeaderArgument) : Except Fault SharedHeaders :=
  let isEmpty := match extra with
    | .unset => true
    | .members members => members.isEmpty
    | .shared headers => headers.map.isEmpty
  if isEmpty then .ok current
  else if current.map.isEmpty then ofArgument fresh extra
  else
    match extra with
    | .unset => .ok current
    | .members members => return ⟨← current.map.appendMembers members, fresh⟩
    | .shared headers => .ok ⟨current.map ++ headers.map, fresh⟩

/-- The names under which this very map is held, in alphabetical order. -/
def holders (held : List (String × SharedHeaders)) (h : SharedHeaders) : List String :=
  ((held.filter fun k => k.2.identity == h.identity).map Prod.fst).mergeSort (· ≤ ·)

end SharedHeaders

end RemoteCall
