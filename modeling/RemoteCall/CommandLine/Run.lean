import RemoteCall.CommandLine.Files
import RemoteCall.CommandLine.Invocation
import RemoteCall.Context.Configured
import RemoteCall.Context.Description
import RemoteCall.Context.Merge
import RemoteCall.Json.Printer
import RemoteCall.Settings.Sources

/-!
# Running the program

The program prints one JSON document: the settings, or the merge of two contexts that are described in files. What goes
wrong on the way is reported in one line. Three things are not and end the program: a number too large for what holds it,
a document nested too deep, and a variable file that cannot be opened.
-/

namespace RemoteCall.CommandLine

/-- How events are shown once logging is set up. -/
structure Logging where
  level : LogLevel
  json : Bool
deriving DecidableEq, Repr

structure Report where
  exit : Nat
  stdout : String
  stderr : String
  /-- Unset when the run ended before logging was set up. -/
  logging : Option Logging
  events : List Event

/-- What the program does not handle. -/
inductive Uncaught where
  | fault (f : Fault)
  | tooDeep (message : String)
  | unopened (e : OpenError)

def Uncaught.message : Uncaught → String
  | fault f => f.message
  | tooDeep message => message
  | unopened e => e.message "'.env'"

inductive Outcome where
  | finished (r : Report)
  /-- The program is ended, before or after logging was set up. -/
  | escaped (cause : Uncaught) (logging : Option Logging) (events : List Event)

/-- How many levels of lists and objects there are where variables and documents are read and where the result is
printed. Merging what was read, or showing it in a message, takes no more levels than reading it. -/
structure Limits where
  settings : Nat := SettingSources.usualLevels
  documents : Nat := 991
  output : Nat := 994

/-- The report of a run that ended before logging was set up. -/
def Report.early (exit : Nat) (stdout stderr : String) : Report := ⟨exit, stdout, stderr, none, []⟩

def stopReport (g : Grammar) : Stop → Report
  | .help => .early 0 (g.usage ++ g.help) ""
  | .version => .early 0 (g.program ++ " " ++ version ++ "\n") ""
  | .misuse message => .early 2 "" (g.usage ++ g.program ++ ": error: " ++ message ++ "\n")

/-! ## Commands -/

inductive CommandError where
  | document (e : DocumentError)
  | fault (f : Fault)

namespace CommandError

def message : CommandError → String
  | document e => e.message
  | fault f => f.message

/-- What is behind an error that the program does not handle. -/
def unhandled? : CommandError → Option Uncaught
  | fault f => if f.kind = .outOfRange ∨ f.kind = .missingName then some (.fault f) else none
  | document (.malformed text e) =>
    match e.problem with
    | .tooDeep _ => some (.tooDeep (e.message text))
    | _ => none
  | document _ => none

end CommandError

def logger : String := "rpccontext.cli"

/-- The events so far, and the result or the error after them. -/
abbrev Step (α : Type) := List Event × Except CommandError α

def loadFile (limits : Limits) (files : FileReader) (transport : Transport) (path : String) :
    Except CommandError Context := do
  let description ← (readDocument limits.documents files path).mapError .document
  (Context.load transport description).mapError .fault

/-- The two contexts that are to be merged: the base first, from a file or from the settings. -/
def loadBoth (limits : Limits) (files : FileReader) (settings : Settings) (transport : Transport) (override : String)
    (base : Option String) : Except CommandError (Context × Context) := do
  let under ← match base with
    | some path => loadFile limits files transport path
    | none => (Context.ofSettings transport settings).mapError .fault
  return (under, ← loadFile limits files transport override)

def mergingEvent (transport : Transport) (base : Option String) : Event :=
  ⟨logger, .info, "merging_contexts",
    [("transport", .string transport.name), ("base", .string (base.getD "config"))]⟩

def runMerge (limits : Limits) (files : FileReader) (settings : Settings) (transport : Transport) (override : String)
    (base : Option String) : Step (List (String × Json)) :=
  let base := base.filter (!·.isEmpty)
  match loadBoth limits files settings transport override base with
  | .error e => ([], .error e)
  | .ok (under, upper) =>
    let merging := mergingEvent transport base
    match under.merge (.context upper) with
    | .error f => ([merging], .error (.fault f))
    | .ok merged => ([merging, merged.mergedEvent], .ok merged.toMembers)

def runCommand (limits : Limits) (files : FileReader) (settings : Settings) : Command → Step (List (String × Json))
  | .showSettings => ([], settings.shown.mapError .fault)
  | .merge override base transport => runMerge limits files settings transport override base

/-! ## The whole run -/

def finish (limits : Limits) (command : Command) (logging : Logging) : Step (List (String × Json)) → Outcome
  | (events, .ok members) =>
    match (Json.object members).indented? limits.output with
    | some text => .finished ⟨0, text ++ "\n", "", some logging, Event.passing logging.level events⟩
    | none => .escaped (.tooDeep "maximum recursion depth exceeded") logging (Event.passing logging.level events)
  | (events, .error e) =>
    match e.unhandled? with
    | some cause => .escaped cause logging (Event.passing logging.level events)
    | none =>
      let failed : Event :=
        ⟨logger, .error, "command_failed", [("command", .string command.name), ("error", .string e.message)]⟩
      .finished ⟨2, "", s!"error: {e.message}\n", some logging, Event.passing logging.level (events ++ [failed])⟩

/-- What becomes of a run without settings. Only invalid values are reported. -/
def refuse : SettingsFault → Outcome
  | .unopened e => .escaped (.unopened e) none []
  | .tooDeep message => .escaped (.tooDeep message) none []
  | fault => .finished (.early 2 "" s!"error: invalid configuration: {fault.summary}\n")

/-- A run on arguments, with the settings as they are configured and the files that can be read. -/
def run (limits : Limits) (settings : Except SettingsFault Settings) (files : FileReader) (args : List String) :
    Outcome :=
  match Invocation.ofArguments args with
  | .error (g, stop) => .finished (stopReport g stop)
  | .ok i =>
    match i.command, settings with
    | none, _ => .finished (.early 1 (mainGrammar.usage ++ mainGrammar.help) "")
    | some _, .error fault => refuse fault
    | some command, .ok settings =>
      let logging : Logging := ⟨i.logLevel.getD settings.logLevel, i.logJson || settings.logJson⟩
      finish limits command logging (runCommand limits files settings command)

end RemoteCall.CommandLine
