import RemoteCall.CommandLine.Run

/-!
# The program

Reads the environment and the files that the arguments name, runs, and writes what the run leaves behind. Log events
go to the standard error stream, one a line.
-/

open RemoteCall CommandLine

/-- The variables of an environment block, in which each one ends with a NUL. -/
def environmentOf (block : List Char) : List (String × String) :=
  (block.splitOn '\x00').filterMap fun entry =>
    match Grammar.splitEquals entry with
    | (name, some value) => some (Text.ofChars name, Text.ofChars value)
    | _ => none

/-- The number of an error of the operating system, which may be given negated. -/
def errorNumber (code : UInt32) : Nat := min code.toNat (0 - code).toNat

/-- Why a file cannot be opened. -/
def openError : IO.Error → OpenError
  | .noFileOrDirectory .. => .notFound
  | .inappropriateType _ code _ => if errorNumber code = 20 then .notDirectory else .isDirectory
  | .invalidArgument _ code text => if errorNumber code = 36 then .nameTooLong else .system (errorNumber code) text
  | .permissionDenied _ code _ => .system (errorNumber code) "Permission denied"
  | e => .system 5 (toString e)

def readOctets (path : String) : IO (Except OpenError (List UInt8)) := do
  if path.toList.contains '\x00' then return .error .nulInPath
  try
    return .ok (← IO.FS.readBinFile (String.ofList (Text.chars (normalizePath path)))).toList
  catch e => return .error (openError e)

/-- The variable file, which counts as missing where there is no file of that name. -/
def variableFile (file : Except OpenError (List UInt8)) : Option (Except OpenError (List UInt8)) :=
  match file with
  | .error (.system number _) =>
    -- what says that there is no file: nothing there, a directory, no directory on the way, or a cycle of links
    if number ∈ [2, 9, 20, 21, 40] then none else some file
  | _ => some file

def namedFiles (args : List String) : List String :=
  match Invocation.ofArguments args with
  | .ok ⟨_, _, some (.merge override base _)⟩ => override :: base.toList
  | _ => []

def eventLine (json : Bool) (e : Event) : String :=
  if json then (e.toJson "level").compact
  else "[" ++ e.level.eventName ++ "] " ++ e.name ++
    String.join (e.fields.map fun f => " " ++ f.1 ++ "=" ++ f.2.display)

/-- A text as it is written, with escapes for halves of surrogate pairs. -/
def written (s : String) : String :=
  String.ofList <| (Text.points s).flatMap fun n =>
    if Text.isSurrogate n then '\\' :: 'u' :: Text.hex 4 n else [Char.ofNat n]

def main (args : List String) : IO UInt32 := do
  let args := args.map fun arg => Text.ofChars arg.toList
  let environment ← readOctets "/proc/self/environ"
  let file ← readOctets ".env"
  let files ← (namedFiles args).mapM fun path => return (path, ← readOctets path)
  let bindings := match environment with
    | .ok octets => environmentOf ((Text.decodeUtf8 octets).toOption.getD [])
    | .error _ => []
  let limits : Limits := {}
  let settings := SettingSources.settingsWithin limits.settings ⟨[], bindings, variableFile file⟩
  let reader : FileReader := fun path => (files.lookup path).getD (.error .notFound)
  match run limits settings reader args with
  | .finished r =>
    let json := (r.logging.map Logging.json).getD false
    r.events.forM fun e => IO.eprintln (written (eventLine json e))
    IO.eprint (written r.stderr)
    IO.print (written r.stdout)
    return r.exit.toUInt32
  | .escaped cause l events =>
    let json := (l.map Logging.json).getD false
    events.forM fun e => IO.eprintln (written (eventLine json e))
    IO.eprintln (written ("fatal: " ++ cause.message))
    return 1
