import RemoteCall.Fault
import RemoteCall.Json.Reader
import RemoteCall.OpenError
import RemoteCall.Text.Utf8

/-!
# Files

A path is normalized before it is opened: empty and dot components go. A file holds a JSON document in UTF-8 with any
kind of line ends. `Directory` is a directory with the given files and nothing else, for running the program on
contents that are known.
-/

namespace RemoteCall.CommandLine

/-! ## Paths -/

/-- The components of a path that say something. -/
def components (path : String) : List String :=
  (path.splitOn "/").filter fun c => c ≠ "" ∧ c ≠ "."

/-- The slashes that a path starts with: none, one, or exactly two. -/
def rootOf (path : String) : String :=
  match path.toList.takeWhile (· == '/') with
  | [] => ""
  | [_, _] => "//"
  | _ => "/"

/-- The path in its shortest form; no components at all are the current directory. -/
def normalizePath (path : String) : String :=
  let body := rootOf path ++ "/".intercalate (components path)
  if body.isEmpty then "." else body

/-! ## Documents in files -/

inductive DocumentError where
  | unopened (path : String) (e : OpenError)
  | undecodable (e : Text.Utf8Error)
  /-- The text, and what is wrong with it. -/
  | malformed (text : List Char) (e : Json.ReadError)
  | notObject (path : String)

namespace DocumentError

def message : DocumentError → String
  | unopened path e => e.message (Text.quoted (normalizePath path))
  | undecodable e => e.message
  | malformed text e => e.message text
  | notObject path => s!"{path}: expected a JSON object"

end DocumentError

abbrev FileReader := String → Except OpenError (List UInt8)

/-- The members of the object in a file, where so many levels are left. -/
def readDocument (levels : Nat) (files : FileReader) (path : String) : Except DocumentError (List (String × Json)) := do
  let octets ← (files path).mapError (.unopened path)
  let text ← (Text.decodeFile octets).mapError .undecodable
  match ← (Json.readChars levels text).mapError (.malformed text) with
  | .object members => return members
  | _ => throw (.notObject path)

/-! ## A directory with known files -/

/-- Files by their relative paths. -/
structure Directory where
  files : List (String × List UInt8)

namespace Directory

/-- The most octets that a component and a path may have. -/
def maxName : Nat := 255

def maxPath : Nat := 4096

/-- Where a path leads from a place on, the place being given by the components that lead to it, or by nothing when it
is outside of the directory. Of what is outside only directories above are known. -/
def walk (d : Directory) : (reached : Option (List String)) → List String → Except OpenError (List UInt8)
  | some reached, [] =>
    match d.files.find? fun f => components f.1 == reached with
    | some f => .ok f.2
    | none => .error .isDirectory
  | some reached, name :: rest =>
    if (d.files.any fun f => components f.1 == reached) then .error .notDirectory
    else if name = ".." then d.walk (if reached.isEmpty then none else some reached.dropLast) rest
    else if maxName < name.utf8ByteSize then .error .nameTooLong
    else if d.files.any fun f => (reached ++ [name]).isPrefixOf (components f.1) then
      d.walk (some (reached ++ [name])) rest
    else .error .notFound
  | none, [] => .error .isDirectory
  | none, name :: rest =>
    if name = ".." then d.walk none rest
    else .error (if maxName < name.utf8ByteSize then .nameTooLong else .notFound)

/-- The octets of a file. A path with a root leads out of the directory. -/
def read (d : Directory) : FileReader := fun path =>
  let path := normalizePath path
  if path.toList.contains '\x00' then .error .nulInPath
  else if maxPath ≤ path.utf8ByteSize then .error .nameTooLong
  else d.walk (if rootOf path = "" then some [] else none) (components path)

end Directory

end RemoteCall.CommandLine
