/-!
# Errors of opening a file
-/

namespace RemoteCall

inductive OpenError where
  /-- The number and the text of an error of the operating system. -/
  | system (number : Nat) (text : String)
  | nulInPath
deriving DecidableEq, Repr

namespace OpenError

def notFound : OpenError := system 2 "No such file or directory"

def notDirectory : OpenError := system 20 "Not a directory"

def isDirectory : OpenError := system 21 "Is a directory"

def nameTooLong : OpenError := system 36 "File name too long"

/-- The text of the error, with the path as it is shown. -/
def message (shownPath : String) : OpenError → String
  | system number text => s!"[Errno {number}] {text}: {shownPath}"
  | nulInPath => "embedded null byte"

end OpenError

end RemoteCall
