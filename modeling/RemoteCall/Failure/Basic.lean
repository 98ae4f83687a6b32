import RemoteCall.Fault
import RemoteCall.Json.Equality

/-!
# Failures

Failures are objects with an identity: several futures may share one, and one may be the cause of another. They live
in a store, in which a failure is known by its place. A failure has a class, a message, links to other failures, the
secondary failures attached to it, and notes.
-/

namespace RemoteCall

inductive FailureClass where
  | api
  | value
  | key
  /-- A failure of the operating system, by the class for its error number. -/
  | system (name : String)
  | runtime
  | type
  | timeout
  | stopIteration
  | exception
  | cancelled
  | asyncTask
  /-- The envelope around a failure of a computation. -/
  | envelope
  | keyboardInterrupt
  | systemExit
  | generatorExit
  | base
  /-- The cancellation of a cooperative task. -/
  | taskCancelled
deriving DecidableEq, Repr

namespace FailureClass

def name : FailureClass → String
  | api => "ApiError"
  | value => "ValueError"
  | key => "KeyError"
  | system name => name
  | runtime => "RuntimeError"
  | type => "TypeError"
  | timeout => "TimeoutError"
  | stopIteration => "StopIteration"
  | exception => "Exception"
  | cancelled => "CancelledError"
  | asyncTask => "AsyncTaskException"
  | envelope => "UncheckedExecutionError"
  | keyboardInterrupt => "KeyboardInterrupt"
  | systemExit => "SystemExit"
  | generatorExit => "GeneratorExit"
  | base => "BaseException"
  | taskCancelled => "CancelledError"

/-- Whether callers are expected to catch the failure; the others end a thread, a task or the program. -/
def isOrdinary : FailureClass → Bool
  | keyboardInterrupt | systemExit | generatorExit | base | taskCancelled => false
  | _ => true

/-- The classes that a failure may be made of directly, by name. -/
def byName : List (String × FailureClass) := [
  ("ApiError", api), ("ValueError", value), ("KeyError", key), ("OSError", system "OSError"),
  ("RuntimeError", runtime), ("TypeError", type), ("TimeoutError", timeout), ("StopIteration", stopIteration),
  ("Exception", exception), ("CancelledError", cancelled), ("AsyncTaskException", asyncTask),
  ("KeyboardInterrupt", keyboardInterrupt), ("SystemExit", systemExit), ("GeneratorExit", generatorExit),
  ("BaseException", base), ("asyncio.CancelledError", taskCancelled)]

/-- The classes of the operating system's failures by error number. -/
def systemClasses : List (Int × String) := [
  (1, "PermissionError"), (2, "FileNotFoundError"), (3, "ProcessLookupError"), (4, "InterruptedError"),
  (10, "ChildProcessError"), (11, "BlockingIOError"), (13, "PermissionError"), (17, "FileExistsError"),
  (20, "NotADirectoryError"), (21, "IsADirectoryError"), (32, "BrokenPipeError"), (103, "ConnectionAbortedError"),
  (104, "ConnectionResetError"), (108, "BrokenPipeError"), (110, "TimeoutError"),
  (111, "ConnectionRefusedError"), (114, "BlockingIOError"), (115, "BlockingIOError")]

def narrowed (cls : FailureClass) (arguments : List Json) : FailureClass :=
  match cls, arguments with
  | system "OSError", number :: _ :: _ =>
    if 5 < arguments.length then cls
    else ((systemClasses.find? fun c => number.same (.int c.1)).map (system ·.2)).getD cls
  | cls, _ => cls

end FailureClass

namespace FailureMessage

/-- A value as it stands in a message: a text by itself, anything else as it is displayed. -/
def plain : Json → String
  | .string s => s
  | v => v.display

/-- No arguments give no message, one is the message, several are shown in round brackets. -/
def ofArguments : List Json → String
  | [] => ""
  | [v] => plain v
  | values => Json.displayTuple values

/-- Error number and text, with the names of files if there are any. -/
def ofSystem (blocking : Bool) (arguments : List Json) : String :=
  match arguments with
  | number :: text :: rest =>
    let start := "[Errno " ++ plain number ++ "] " ++ plain text
    match rest with
    | [] | [.null] | [.null, _] | [.null, _, _] => start
    | [file] | [file, _] | [file, _, .null] =>
      if blocking && file.numeric?.isSome then start else start ++ ": " ++ file.display
    | [file, _, other] => start ++ ": " ++ file.display ++ " -> " ++ other.display
    | _ => ofArguments arguments
  | _ => ofArguments arguments

end FailureMessage

def FailureClass.message (cls : FailureClass) (arguments : List Json) : String :=
  match cls, arguments with
  | key, [v] => v.display
  | asyncTask, [] => "Asynchronous task failed"
  | system name, _ => FailureMessage.ofSystem (name == "BlockingIOError") arguments
  | timeout, _ => FailureMessage.ofSystem false arguments
  | _, _ => FailureMessage.ofArguments arguments

/-! ## The store -/

/-- A failure's place in the store. -/
abbrev FailureId := Nat

structure Failure where
  cls : FailureClass
  message : String
  /-- The failure that this one was raised from. -/
  cause : Option FailureId
  /-- The failure that was being handled when this one was raised. -/
  context : Option FailureId
  /-- The failure in an envelope. -/
  wrapped : Option FailureId
  suppressed : List FailureId
  notes : List String
deriving Repr

namespace Failure

def plain (cls : FailureClass) (message : String) : Failure := ⟨cls, message, none, none, none, [], []⟩

def ofArguments (cls : FailureClass) (arguments : List Json) : Failure :=
  let cls := cls.narrowed arguments
  plain cls (cls.message arguments)

def marker : Failure := ofArguments .asyncTask []

def cancellation : Failure := plain .cancelled ""

def envelope (id : FailureId) (e : Failure) : Failure :=
  { plain .envelope (e.cls.name ++ ": " ++ e.message) with cause := some id, wrapped := some id }

end Failure

/-- The failures made so far; each one keeps its place. -/
structure FailureStore where
  failures : List Failure
deriving Repr

namespace FailureStore

def empty : FailureStore := ⟨[]⟩

def size (s : FailureStore) : Nat := s.failures.length

def get? (s : FailureStore) (id : FailureId) : Option Failure := s.failures[id]?

/-- The store with one more failure, which gets the next place. -/
def add (s : FailureStore) (e : Failure) : FailureStore := ⟨s.failures ++ [e]⟩

def modify (s : FailureStore) (id : FailureId) (f : Failure → Failure) : FailureStore := ⟨s.failures.modify id f⟩

/-- A secondary failure attached to another one, at the end of those already there. -/
def attach (s : FailureStore) (id suppressed : FailureId) : FailureStore :=
  s.modify id fun e => { e with suppressed := e.suppressed ++ [suppressed] }

/-- A secondary failure attached to another one; no failure is attached to itself. -/
def addSuppressed (s : FailureStore) (id suppressed : FailureId) : Except Fault FailureStore :=
  if id = suppressed then .error .selfSuppression else .ok (s.attach id suppressed)

def addNote (s : FailureStore) (id : FailureId) (note : String) : FailureStore :=
  s.modify id fun e => { e with notes := e.notes ++ [note] }

end FailureStore

end RemoteCall
