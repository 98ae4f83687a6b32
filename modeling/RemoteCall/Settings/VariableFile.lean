import RemoteCall.Ordered
import RemoteCall.Text.Blank

/-!
# Variable files

A variable file has a binding a line: a name, optionally after the word `export`, and a value after an equals sign. A
value stands alone up to a comment, or between single or double quotes, where it may span lines and has escapes. A
line that is no binding is skipped. References of the form `${name}` or `${name:-default}` are replaced in every
value.
-/

namespace RemoteCall.VariableFile

/-- White space that ends no line. -/
def isInlineBlank (c : Char) : Bool := Text.isSeparating c && c != '\n' && c != '\r'

def isLineEnd (c : Char) : Bool := c == '\n' || c == '\r'

/-- A reader takes characters from the front; where it fails it tells what was left. -/
abbrev Rest := List Char

/-! ## Pieces of a binding -/

/-- A quoted value: what stands in front of the first quote that no backslash precedes, or else in front of the last
quote of all, with the characters after it. -/
def splitQuoted (quote : Char) : List Char → Option (List Char × Rest)
  | [] => none
  | [c] => if c = quote then some ([], []) else none
  | c :: d :: rest =>
    if c = quote then some ([], d :: rest)
    else if c = '\\' ∧ d = quote then
      match splitQuoted quote rest with
      | some (value, after) => some ('\\' :: quote :: value, after)
      | none => some (['\\'], rest)
    else (splitQuoted quote (d :: rest)).map fun p => (c :: p.1, p.2)

def doubleEscape? : Char → Option Char
  | '\\' => some '\\'
  | '\'' => some '\''
  | '"' => some '"'
  | 'a' => some '\x07'
  | 'b' => some '\x08'
  | 'f' => some '\x0c'
  | 'n' => some '\n'
  | 'r' => some '\r'
  | 't' => some '\t'
  | 'v' => some '\x0b'
  | _ => none

def singleEscape? : Char → Option Char
  | '\\' => some '\\'
  | '\'' => some '\''
  | _ => none

/-- The value with its escapes replaced; a backslash in front of anything else stands for itself. -/
def unescape (escape? : Char → Option Char) : List Char → List Char
  | '\\' :: c :: rest =>
    match escape? c with
    | some d => d :: unescape escape? rest
    | none => '\\' :: unescape escape? (c :: rest)
  | c :: rest => c :: unescape escape? rest
  | [] => []

/-- What stands in front of a comment, which starts with a number sign after white space. -/
def beforeComment : (afterBlank : Bool) → List Char → List Char
  | _, [] => []
  | afterBlank, c :: rest =>
    if c = '#' ∧ afterBlank then [] else c :: beforeComment (Text.isSeparating c) rest

/-- The value after the equals sign and the blanks that follow it. -/
def readValue (cs : List Char) : Except Rest (List Char × Rest) :=
  match cs with
  | '\'' :: rest =>
    match splitQuoted '\'' rest with
    | some (value, after) => .ok (unescape singleEscape? value, after)
    | none => .error cs
  | '"' :: rest =>
    match splitQuoted '"' rest with
    | some (value, after) => .ok (unescape doubleEscape? value, after)
    | none => .error cs
  | cs =>
    let line := cs.takeWhile (!isLineEnd ·)
    .ok (Text.trimRight Text.isSeparating (beforeComment false line), cs.dropWhile (!isLineEnd ·))

/-- The name of a binding; a comment has none. -/
def readName (cs : List Char) : Except Rest (Option (List Char) × Rest) :=
  match cs with
  | '#' :: _ => .ok (none, cs)
  | '\'' :: rest =>
    let name := rest.takeWhile (· != '\'')
    match name, rest.dropWhile (· != '\'') with
    | _ :: _, _ :: after => .ok (some name, after)
    | _, _ => .error cs
  | cs =>
    let inName (c : Char) := c != '=' && c != '#' && !Text.isSeparating c
    match cs.takeWhile inName with
    | [] => .error cs
    | name => .ok (some name, cs.dropWhile inName)

/-- The characters after the word `export` and blanks, if these come next. -/
def skipExport (cs : List Char) : List Char :=
  match cs with
  | 'e' :: 'x' :: 'p' :: 'o' :: 'r' :: 't' :: c :: rest =>
    if isInlineBlank c then rest.dropWhile isInlineBlank else cs
  | cs => cs

def skipComment (cs : List Char) : List Char :=
  match cs.dropWhile isInlineBlank with
  | '#' :: rest => rest.dropWhile (!isLineEnd ·)
  | _ => cs

/-- The characters after the end of the line, which must come next. -/
def endLine (cs : List Char) : Except Rest Rest :=
  match cs.dropWhile isInlineBlank with
  | [] => .ok []
  | '\r' :: '\n' :: rest => .ok rest
  | c :: rest => if isLineEnd c then .ok rest else .error cs

/-! ## Bindings -/

/-- A name with its value; a name without an equals sign has none. -/
abbrev Binding := String × Option String

/-- The next binding, unless it is a comment. -/
def readBinding (cs : List Char) : Except Rest (Option Binding × Rest) := do
  let (name, rest) ← readName (skipExport cs)
  let rest := rest.dropWhile isInlineBlank
  let (value, rest) ← match rest with
    | '=' :: rest => do
      let (value, rest) ← readValue (rest.dropWhile isInlineBlank)
      pure (some value, rest)
    | rest => pure (none, rest)
  let rest ← endLine (skipComment rest)
  return (name.map fun name => (String.ofList name, value.map String.ofList), rest)

/-- The bindings of a text, which the first argument bounds the number of. -/
def readBindings : Nat → List Char → List Binding
  | 0, _ => []
  | steps + 1, cs =>
    match cs.dropWhile Text.isSeparating with
    | [] => []
    | cs =>
      match readBinding cs with
      | .ok (binding, rest) => binding.toList ++ readBindings steps rest
      | .error left => readBindings steps ((left.dropWhile (!isLineEnd ·)).drop 1)

/-! ## References -/

/-- The name and the default of a reference whose opening brace was read, with the characters after it. -/
def readReference (cs : List Char) : Option (List Char × List Char × Rest) :=
  let name := cs.takeWhile fun c => c != '}' && c != ':'
  match cs.dropWhile fun c => c != '}' && c != ':' with
  | '}' :: rest => some (name, [], rest)
  | ':' :: '-' :: rest =>
    match rest.dropWhile (· != '}') with
    | _ :: after => some (name, rest.takeWhile (· != '}'), after)
    | [] => none
  | _ => none

/-- The value with its references replaced; the first argument bounds the number of steps. -/
def expand (lookup : String → Option String) : Nat → List Char → List Char
  | 0, cs => cs
  | _, [] => []
  | steps + 1, c :: rest =>
    match c, rest with
    | '$', '{' :: reference =>
      match readReference reference with
      | some (name, standard, after) =>
        ((lookup (String.ofList name)).getD (String.ofList standard)).toList ++ expand lookup steps after
      | none => c :: expand lookup steps rest
    | _, _ => c :: expand lookup steps rest

/-- The variables of a text in the order in which they first occur. A reference is looked up among the variables before
it and then in the environment; a variable without a value counts as empty. -/
def read (environment : List (String × String)) (text : List Char) : List Binding :=
  (readBindings (text.length + 1) text).foldl (fun done (name, value) =>
    let lookup (n : String) : Option String :=
      match Ordered.get? done n with
      | some v => some (v.getD "")
      | none => Ordered.get? environment n
    let value := value.map fun v => String.ofList (expand lookup (v.length + 1) v.toList)
    Ordered.insert name value done) []

end RemoteCall.VariableFile
