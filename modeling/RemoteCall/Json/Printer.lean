import RemoteCall.Json.Basic
import RemoteCall.Text.Points

/-!
# Writing JSON text

Texts are written in ASCII: characters outside the printable range of ASCII become escapes, beyond the sixteen-bit range
in surrogate pairs, and so do halves of such pairs. A document stands on one line, or with one entry a line and two spaces for each level; in the second
form it can be nested only so deep. Doubles that are no numbers are written as words.
-/

namespace RemoteCall.Json

/-- An escape with four hexadecimal digits. -/
def unitEscape (n : Nat) : List Char :=
  let ds := Nat.toDigits 16 n
  '\\' :: 'u' :: List.replicate (4 - ds.length) '0' ++ ds

def escapeChar (c : Char) : List Char :=
  match c with
  | '"' => ['\\', '"']
  | '\\' => ['\\', '\\']
  | '\n' => ['\\', 'n']
  | '\r' => ['\\', 'r']
  | '\t' => ['\\', 't']
  | '\x08' => ['\\', 'b']
  | '\x0c' => ['\\', 'f']
  | c =>
    if 0x20 ≤ c.toNat && c.toNat < 0x7f then [c]
    else if c.toNat < 0x10000 then unitEscape c.toNat
    else
      unitEscape (0xd800 + (c.toNat - 0x10000) / 0x400) ++ unitEscape (0xdc00 + (c.toNat - 0x10000) % 0x400)

def escapePoint (n : Nat) : List Char := if Text.isSurrogate n then unitEscape n else escapeChar (Char.ofNat n)

def quote (s : String) : String := String.ofList ('"' :: (Text.points s).flatMap escapePoint ++ ['"'])

def numberText : Number → String
  | .integer i => toString i
  | .double x => x.textWith "NaN" "Infinity"

/-- What stands before an entry, between entries and before the closing bracket. -/
structure Layout where
  between : Nat → String
  colon : String

def compactLayout : Layout := ⟨fun _ => "", ":"⟩

/-- A line for each entry, two spaces to the level. -/
def indentedLayout : Layout :=
  ⟨fun depth => String.ofList ('\n' :: List.replicate (2 * depth) ' '), ": "⟩

/-- Entries between brackets; no entries leave nothing between them. -/
def bracketed (layout : Layout) (depth : Nat) (opening closing : String) : List String → String
  | [] => opening ++ closing
  | entries =>
    let gap := layout.between (depth + 1)
    opening ++ gap ++ ("," ++ gap).intercalate entries ++ layout.between depth ++ closing

mutual
def printAt (layout : Layout) (depth : Nat) : Json → String
  | null => "null"
  | bool b => if b then "true" else "false"
  | number n => numberText n
  | string s => quote s
  | list items => bracketed layout depth "[" "]" (printItems layout (depth + 1) items)
  | object members => bracketed layout depth "\x7b" "\x7d" (printMembers layout (depth + 1) members)

def printItems (layout : Layout) (depth : Nat) : List Json → List String
  | [] => []
  | v :: rest => printAt layout depth v :: printItems layout depth rest

def printMembers (layout : Layout) (depth : Nat) : List (String × Json) → List String
  | [] => []
  | (name, v) :: rest => (quote name ++ layout.colon ++ printAt layout depth v) :: printMembers layout depth rest
end

def compact (v : Json) : String := printAt compactLayout 0 v

/-! ## Levels -/

mutual
/-- The levels that it takes to write a value with a line for each entry. Every entry takes one, a double two. -/
def levels : Json → Nat
  | null | bool _ => 0
  | number (.integer _) | string _ => 1
  | number (.double _) => 2
  | list items => 1 + itemLevels items
  | object members => 1 + memberLevels members

def itemLevels : List Json → Nat
  | [] => 0
  | v :: rest => max (max 1 (levels v)) (itemLevels rest)

def memberLevels : List (String × Json) → Nat
  | [] => 0
  | (_, v) :: rest => max (max 1 (levels v)) (memberLevels rest)
end

/-- A document with a line for each entry, unless it takes more levels than there are. -/
def indented? (available : Nat) (v : Json) : Option String :=
  if v.levels ≤ available then some (printAt indentedLayout 0 v) else none

end RemoteCall.Json
