import RemoteCall.Json.Reader
import RemoteCall.OpenError
import RemoteCall.Settings.Conversion
import RemoteCall.Settings.VariableFile
import RemoteCall.Text.Lowercase
import RemoteCall.Text.Points
import RemoteCall.Text.Utf8

/-!
# Where settings come from

A setting may be given by keyword, by an environment variable or in a variable file; the first of these that gives it
wins, except that objects are merged member by member. Variables have a common start of their names, and the case of
names does not count. Settings that are lists or objects are JSON texts in variables.
-/

namespace RemoteCall

structure SettingSources where
  keywords : List (String × Json)
  /-- Environment variables; of two with one name the later counts. -/
  environment : List (String × String)
  /-- The variable file, if there is one: its contents, or why it cannot be opened. -/
  file : Option (Except OpenError (List UInt8))

inductive SettingsFault where
  | undecodable (e : Text.Utf8Error)
  /-- A variable that should hold JSON and does not. -/
  | unreadable (name source : String)
  | invalid (complaints : List Complaint)
  /-- The variable file is there and cannot be opened. -/
  | unopened (e : OpenError)
  /-- A variable holds JSON that is nested too deep. -/
  | tooDeep (message : String)

namespace SettingsFault

def summary : SettingsFault → String
  | undecodable e => e.message
  | unreadable name source => "error parsing value for field \"" ++ name ++ "\" from source \"" ++ source ++ "\""
  | invalid complaints =>
    let plural := if complaints.length = 1 then "" else "s"
    s!"{complaints.length} validation error{plural} for CallContextConfig"
  | unopened e => e.message "'.env'"
  | tooDeep message => message

end SettingsFault

namespace SettingSources

/-- What the names of variables start with, in lower case. -/
def variableStart : String := "rpc_context_"

def lowerNames {α : Type} (bindings : List (String × α)) : List (String × α) :=
  Ordered.ofList (bindings.map fun v => (Text.lower v.1, v.2))

/-- The value of a variable that holds JSON, where so many levels are left. -/
def readVariable (levels : Nat) (source name text : String) : Except SettingsFault Json :=
  match Json.readChars levels (Text.chars text) with
  | .ok v => .ok v
  | .error e =>
    match e.problem with
    | .tooDeep _ => .error (.tooDeep e.problem.text)
    | _ => .error (.unreadable name source)

/-- The settings that bindings with lower-case names give. -/
def ofVariables (levels : Nat) (source : String) (bindings : List (String × String)) :
    Except SettingsFault (List (String × Json)) := do
  let found ← Settings.names.mapM fun name => do
    match Ordered.get? bindings (variableStart ++ name) with
    | none => return none
    | some text =>
      if Settings.structuredNames.contains name then
        match ← readVariable levels source name text with
        | .null => return none
        | v => return some (name, v)
      else return some (name, Json.string text)
  return found.filterMap id

/-- The bindings of the file that are no settings and yet must be: those with a value, under a name that is neither a
setting by itself nor the start of a variable for one. -/
def strayVariables (bindings : List (String × String)) : List (String × Json) :=
  let used (name : String) : Bool :=
    Settings.names.contains name || (Settings.names.map (variableStart ++ ·)).contains name ||
      Settings.structuredNames.any fun s => (variableStart ++ s).toList.isPrefixOf name.toList
  (bindings.filter fun v => !v.2.isEmpty && !used v.1).map fun v => (v.1, .string v.2)

/-- The keywords under the names of settings where they differ from one only in case. -/
def ofKeywords (keywords : List (String × Json)) : List (String × Json) :=
  let known := Settings.names.filterMap fun name =>
    let exact := keywords.find? fun k => k.1 == name
    (exact <|> keywords.find? fun k => Text.lower k.1 == name).map fun k => (k.1, name, k.2)
  let taken := known.map Prod.fst
  known.map (fun k => (k.2.1, k.2.2)) ++ keywords.filter fun k => !taken.contains k.1

mutual
/-- The members of the second list on top of those of the first; two objects under one name are merged. -/
def overlay (under : List (String × Json)) : List (String × Json) → List (String × Json)
  | [] => under
  | (name, v) :: rest => overlay (Ordered.insert name (overlayValue (Ordered.get? under name) v) under) rest

def overlayValue : Option Json → Json → Json
  | some (.object under), .object upper => .object (overlay under upper)
  | _, v => v
end

def fileBindings (s : SettingSources) : Except SettingsFault (List (String × Option String)) :=
  match s.file with
  | none => .ok []
  | some (.error e) => .error (.unopened e)
  | some (.ok octets) =>
    match Text.decodeFile octets with
    | .ok text => .ok (VariableFile.read s.environment (Text.ofChars text).toList)
    | .error e => .error (.undecodable e)

/-- The settings that the sources give together. The file is decoded first; then the variables are read, those of the
environment before those of the file. -/
def members (levels : Nat) (s : SettingSources) : Except SettingsFault (List (String × Json)) := do
  let fromFile := (lowerNames (← s.fileBindings)).filterMap fun v => v.2.map (v.1, ·)
  let environment ← ofVariables levels "EnvSettingsSource" (lowerNames s.environment)
  let file ← ofVariables levels "DotEnvSettingsSource" fromFile
  return overlay (overlay (file ++ strayVariables fromFile) environment) (ofKeywords s.keywords)

/-- The settings that the sources describe, where so many levels are left. -/
def settingsWithin (levels : Nat) (s : SettingSources) : Except SettingsFault Settings := do
  (Settings.ofMembers (← s.members levels)).mapError .invalid

/-- The levels that are left when settings are made in a program. -/
def usualLevels : Nat := 980

def settings (s : SettingSources) : Except SettingsFault Settings := s.settingsWithin usualLevels

end SettingSources

end RemoteCall
