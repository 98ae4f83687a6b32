import RemoteCall.CommandLine.Grammar
import RemoteCall.Event
import RemoteCall.Handle

/-!
# Invocations

The program shows its settings or merges two contexts. What is asked for is read off the arguments by the grammar of the
program and then by the grammar of the command.
-/

namespace RemoteCall.CommandLine

inductive Command where
  | showSettings
  /-- Without a base the settings are the base. -/
  | merge (override : String) (base : Option String) (transport : Transport)
deriving DecidableEq, Repr

namespace Command

def name : Command → String
  | showSettings => "show-config"
  | merge .. => "merge"

def names : List String := ["show-config", "merge"]

end Command

structure Invocation where
  logLevel : Option LogLevel
  logJson : Bool
  /-- Nothing may be asked for at all. -/
  command : Option Command
deriving DecidableEq, Repr

/-! ## The grammars -/

def version : String := "0.1.0"

/-- Choices between braces, as the usage shows them. -/
def braced (choices : List String) : String := "\x7b" ++ ",".intercalate choices ++ "\x7d"

/-- The log levels that can be asked for. -/
def levelChoices : List String := [LogLevel.debug, .info, .warning, .error].map LogLevel.name

def transportChoices : List String := Transport.all.map Transport.name

def helpOption : OptionSpec := ⟨["-h", "--help"], .help⟩

def mainGrammar : Grammar where
  program := "rpc-context"
  usage := "usage: rpc-context [-h] [--version] [--log-level " ++ braced levelChoices ++ "]\n" ++
    "                   [--log-json]\n" ++
    "                   " ++ braced Command.names ++ " ...\n"
  help := "\nInspect RPC call context defaults and merges\n\npositional arguments:\n  " ++ braced Command.names ++
    "   Command to run\n" ++
    "    show-config         Print the effective configuration\n" ++
    "    merge               Merge a call override on top of a base context\n\noptions:\n" ++
    "  -h, --help            show this help message and exit\n" ++
    "  --version             show program's version number and exit\n" ++
    "  --log-level " ++ braced levelChoices ++ "\n" ++
    "                        Logging level (default: from configuration)\n" ++
    "  --log-json            Output logs in JSON format\n"
  options := [
    helpOption, ⟨["--version"], .version⟩, ⟨["--log-level"], .value "log_level" levelChoices⟩,
    ⟨["--log-json"], .flag "log_json"⟩]
  positional := .command "command" Command.names

def showGrammar : Grammar where
  program := "rpc-context show-config"
  usage := "usage: rpc-context show-config [-h]\n"
  help := "\noptions:\n  -h, --help  show this help message and exit\n"
  options := [helpOption]
  positional := .none

def mergeGrammar : Grammar where
  program := "rpc-context merge"
  usage := "usage: rpc-context merge [-h] [--base BASE] [--transport " ++ braced transportChoices ++ "]\n" ++
    "                         override\n"
  help := "\npositional arguments:\n" ++
    "  override              JSON file describing the call-site context\n\noptions:\n" ++
    "  -h, --help            show this help message and exit\n" ++
    "  --base BASE           JSON file describing the base context (default:\n" ++
    "                        configured defaults)\n" ++
    "  --transport " ++ braced transportChoices ++ "\n" ++
    "                        Transport of the contexts (default: httpjson)\n"
  options := [
    helpOption, ⟨["--base"], .value "base" []⟩, ⟨["--transport"], .value "transport" transportChoices⟩]
  positional := .value "override"

/-! ## Reading the arguments -/

def Parsed.last? (p : Parsed) (name : String) : Option String := p.values.reverse.lookup name

/-- The command with its arguments, and the arguments that mean nothing to it. -/
def readCommand (name : String) (args : List String) : Except (Grammar × Stop) (Command × List String) :=
  if name = Command.showSettings.name then do
    let p ← (showGrammar.parse args).mapError (showGrammar, ·)
    return (.showSettings, p.extras)
  else do
    let p ← (mergeGrammar.parse args).mapError (mergeGrammar, ·)
    let transport := ((p.last? "transport").bind Transport.ofName?).getD .httpJson
    return (.merge (p.positional.getD "") (p.last? "base") transport, p.extras)

/-- What the arguments ask for, or the grammar at which reading them stopped. -/
def Invocation.ofArguments (args : List String) : Except (Grammar × Stop) Invocation := do
  let p ← (mainGrammar.parse args).mapError (mainGrammar, ·)
  let (command, extras) ← match p.command with
    | none => pure (none, [])
    | some (name, rest) => do
      let (command, extras) ← readCommand name rest
      pure (some command, extras)
  let extras := p.extras ++ extras
  if extras.isEmpty then
    return ⟨(p.last? "log_level").bind LogLevel.ofName?, p.flags.contains "log_json", command⟩
  else throw (mainGrammar, .misuse ("unrecognized arguments: " ++ " ".intercalate extras))

end RemoteCall.CommandLine
