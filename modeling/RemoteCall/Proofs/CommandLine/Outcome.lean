import RemoteCall.CommandLine.Run
import RemoteCall.Proofs.Context.Overflow
import RemoteCall.Proofs.Json.Reader
import RemoteCall.Proofs.Levels

/-!
# How a run ends

A run on a command prints the document the command asks for, or reports an error, or is ended by what it does not
handle: a number too large for what holds it, a document nested too deep, or a variable file that cannot be opened. Which
of these it is follows from the settings and the files.
-/

namespace RemoteCall

theorem Text.decodeUtf8From_ascii {cs : List Char} (h : ∀ c ∈ cs, c.toNat < 0x80) (position : Nat) :
    decodeUtf8From position (cs.map fun c => UInt8.ofNat c.toNat) = .ok cs := by
  induction cs generalizing position with
  | nil => rw [List.map_nil, decodeUtf8From]
  | cons c cs ih =>
    obtain ⟨hc, h⟩ := List.forall_mem_cons.mp h
    have hb : (UInt8.ofNat c.toNat).toNat = c.toNat := UInt8.toNat_ofNat_of_lt' (by simp [UInt8.size]; omega)
    rw [List.map_cons, decodeUtf8From, hb, if_pos hc, ih h, ok_bind, Char.ofNat_toNat]
    rfl

namespace CommandLine

section
variable {limits : Limits} {files : FileReader} {s : Settings} {t : Transport}

/-! ## What a command asks for -/

inductive Base (limits : Limits) (files : FileReader) (s : Settings) (t : Transport) : Option String → Context → Prop
  | file {path : String} {c : Context} : path ≠ "" → loadFile limits files t path = .ok c →
      Base limits files s t (some path) c
  | settings {base : Option String} {c : Context} : base.getD "" = "" → Context.ofSettings t s = .ok c →
      Base limits files s t base c

inductive Yields (limits : Limits) (files : FileReader) (s : Settings) : Command → List (String × Json) → Prop
  | settings {retry : RetrySettings} : s.retrySettings = .ok retry →
      Yields limits files s .showSettings (s.toMembers ++ [("retry_settings", .object retry.toMembers)])
  | merge {t : Transport} {override : String} {base : Option String} {under upper merged : Context} :
      Base limits files s t base under → loadFile limits files t override = .ok upper →
      under.merge (.context upper) = .ok merged → Yields limits files s (.merge override base t) merged.toMembers

def TooLargeFile (limits : Limits) (files : FileReader) (t : Transport) (path : String) : Prop :=
  ∃ d, readDocument limits.documents files path = .ok d ∧ Context.TooLargeIn t d

def TooDeepFile (limits : Limits) (files : FileReader) (path : String) : Prop :=
  ∃ more, limits.documents ≤ more ∧ readDocument more files path ≠ readDocument limits.documents files path

/-- The first step of the command that fails does so in a way that the program does not handle. -/
inductive Breaks (limits : Limits) (files : FileReader) (s : Settings) : Command → Prop
  | settings : TooLargeSeconds s.retrySeconds → Breaks limits files s .showSettings
  | baseFile {t : Transport} {override path : String} : path ≠ "" →
      TooLargeFile limits files t path ∨ TooDeepFile limits files path →
      Breaks limits files s (.merge override (some path) t)
  | baseSettings {t : Transport} {override : String} {base : Option String} : base.getD "" = "" →
      TooLargeSeconds (Context.settingsSeconds s) → Breaks limits files s (.merge override base t)
  | override {t : Transport} {override : String} {base : Option String} {under : Context} :
      Base limits files s t base under → TooLargeFile limits files t override ∨ TooDeepFile limits files override →
      Breaks limits files s (.merge override base t)

inductive Stops (limits : Limits) (files : FileReader) : Except SettingsFault Settings → Command → Prop
  | variableFile {e : OpenError} {command : Command} : Stops limits files (.error (.unopened e)) command
  | deepVariable {message : String} {command : Command} : Stops limits files (.error (.tooDeep message)) command
  | command {s : Settings} {command : Command} : Breaks limits files s command → Stops limits files (.ok s) command
  | output {s : Settings} {command : Command} {members : List (String × Json)} : Yields limits files s command members →
      limits.output < (Json.object members).levels → Stops limits files (.ok s) command

/-! ## Errors that are not handled -/

def Escapes {α : Type} (x : Except CommandError α) : Prop := ∃ e f, x = .error e ∧ e.unhandled? = some f

section
variable {α β : Type}

@[simp] theorem escapes_ok (a : α) : ¬ Escapes (.ok a) := by
  rintro ⟨e, f, he, -⟩; cases he

@[simp] theorem escapes_error (e : CommandError) : Escapes (.error e : Except CommandError α) ↔
    ∃ f, e.unhandled? = some f :=
  ⟨fun ⟨_, f, he, hf⟩ => by cases he; exact ⟨f, hf⟩, fun ⟨f, hf⟩ => ⟨e, f, rfl, hf⟩⟩

theorem escapes_bind {x : Except CommandError α} {f : α → Except CommandError β} :
    Escapes (x >>= f) ↔ Escapes x ∨ ∃ a, x = .ok a ∧ Escapes (f a) := by
  cases x <;> simp

theorem escapes_fault (x : Except Fault α) :
    Escapes (x.mapError .fault) ↔ Faults .outOfRange x ∨ Faults .missingName x := by
  cases x with
  | ok a => simp [Except.mapError]
  | error f => simp [Except.mapError, CommandError.unhandled?]

end

/-! ## Files -/

def asObject (path : String) : Json → Except DocumentError (List (String × Json))
  | .object members => .ok members
  | _ => .error (.notObject path)

theorem readDocument_eq (levels : Nat) (files : FileReader) (path : String) : readDocument levels files path =
    (files path).mapError (.unopened path) >>= fun octets => (Text.decodeFile octets).mapError .undecodable >>= fun text =>
      (Json.readChars levels text).mapError (.malformed text) >>= asObject path := by
  unfold readDocument
  refine bind_congr fun octets => bind_congr fun text => bind_congr fun v => ?_
  cases v <;> rfl

theorem readDocument_of_text {n : Nat} {path : String} {octets : List UInt8} {text : List Char}
    (ho : files path = .ok octets) (ht : Text.decodeFile octets = .ok text) :
    readDocument n files path = (Json.readChars n text).mapError (.malformed text) >>= asObject path := by
  simp only [readDocument_eq, ho, ht, Except.mapError, ok_bind]

theorem nodup_names_readDocument {n : Nat} {path : String} {d : List (String × Json)}
    (h : readDocument n files path = .ok d) : (Ordered.names d).Nodup := by
  rw [readDocument_eq] at h
  obtain ⟨octets, -, h⟩ := bind_eq_ok.mp h
  obtain ⟨text, -, h⟩ := bind_eq_ok.mp h
  obtain ⟨v, hv, h⟩ := bind_eq_ok.mp h
  cases v with
  | object members => cases h; exact Json.nodup_names_readChars (mapError_eq_ok.mp hv)
  | _ => cases h

theorem escapes_asObject {path : String} {text : List Char} {x : Except Json.ReadError Json} :
    Escapes ((x.mapError (.malformed text) >>= asObject path).mapError .document) ↔ FailsBy Json.ReadError.Deep x := by
  cases x with
  | ok v => cases v <;> simp [Except.mapError, asObject, CommandError.unhandled?]
  | error e => cases h : e.problem <;> simp [Except.mapError, CommandError.unhandled?, Json.ReadError.Deep, h]

/-- Of all errors of a file only the one that the levels have run out is not handled. -/
theorem escapes_readDocument {n : Nat} {path : String} : Escapes ((readDocument n files path).mapError .document) ↔
    ∃ octets text, files path = .ok octets ∧ Text.decodeFile octets = .ok text ∧
      FailsBy Json.ReadError.Deep (Json.readChars n text) := by
  constructor
  · intro h
    cases ho : files path with
    | error e => simp [readDocument_eq, ho, Except.mapError, CommandError.unhandled?] at h
    | ok octets =>
      cases ht : Text.decodeFile octets with
      | error e => simp [readDocument_eq, ho, ht, Except.mapError, CommandError.unhandled?] at h
      | ok text =>
        rw [readDocument_of_text ho ht, escapes_asObject] at h
        exact ⟨octets, text, rfl, ht, h⟩
  · rintro ⟨octets, text, ho, ht, h⟩
    rwa [readDocument_of_text ho ht, escapes_asObject]

theorem tooDeepFile_iff {path : String} :
    TooDeepFile limits files path ↔ Escapes ((readDocument limits.documents files path).mapError .document) := by
  constructor
  · rintro ⟨more, hle, hne⟩
    cases ho : files path with
    | error e => simp [readDocument_eq, ho, Except.mapError] at hne
    | ok octets =>
      cases ht : Text.decodeFile octets with
      | error e => simp [readDocument_eq, ho, ht, Except.mapError] at hne
      | ok text =>
        rw [readDocument_of_text ho ht, readDocument_of_text ho ht] at hne
        rw [readDocument_of_text ho ht, escapes_asObject, Json.deep_readChars]
        exact ⟨more, hle, fun h => hne (by rw [h])⟩
  · intro h
    obtain ⟨octets, text, ho, ht, -⟩ := escapes_readDocument.mp h
    refine ⟨max limits.documents (2 * text.length + 2), Nat.le_max_left .., fun he => ?_⟩
    rw [← he, readDocument_of_text ho ht, escapes_asObject] at h
    exact Json.not_deep_readChars (Nat.le_max_right ..) h

theorem escapes_loadFile {path : String} :
    Escapes (loadFile limits files t path) ↔ TooLargeFile limits files t path ∨ TooDeepFile limits files path := by
  unfold loadFile TooLargeFile
  rw [escapes_bind, ← tooDeepFile_iff, or_comm]
  simp only [mapError_eq_ok, escapes_fault]
  refine or_congr_left (exists_congr fun d => and_congr_right fun hd => ?_)
  have hn := nodup_names_readDocument hd
  rw [Context.overflows_load hn, or_iff_left (Context.named_load hn)]

/-! ## Merges -/

def baseContext (limits : Limits) (files : FileReader) (s : Settings) (t : Transport) (base : Option String) :
    Except CommandError Context :=
  match base.filter (!·.isEmpty) with
  | some path => loadFile limits files t path
  | none => (Context.ofSettings t s).mapError .fault

theorem baseContext_of_empty {base : Option String} (h : base.getD "" = "") :
    baseContext limits files s t base = (Context.ofSettings t s).mapError .fault := by
  have hb : base.filter (!·.isEmpty) = none := by
    cases base with
    | none => rfl
    | some path => obtain rfl : path = "" := h; rfl
  rw [baseContext, hb]

theorem baseContext_of_path {path : String} (h : path ≠ "") :
    baseContext limits files s t (some path) = loadFile limits files t path := by
  have hb : (some path).filter (!·.isEmpty) = some path := by simp [h]
  rw [baseContext, hb]

theorem base_iff {base : Option String} {c : Context} :
    Base limits files s t base c ↔ baseContext limits files s t base = .ok c := by
  constructor
  · intro h
    cases h with
    | file hp hc => rw [baseContext_of_path hp, hc]
    | settings hb hc => rw [baseContext_of_empty hb, hc]; rfl
  · intro h
    by_cases hb : base.getD "" = ""
    · rw [baseContext_of_empty hb] at h
      exact .settings hb (mapError_eq_ok.mp h)
    · cases base with
      | none => exact absurd rfl hb
      | some path =>
        have hp : path ≠ "" := hb
        rw [baseContext_of_path hp] at h
        exact .file hp h

theorem loadBoth_eq (override : String) (base : Option String) :
    loadBoth limits files s t override (base.filter (!·.isEmpty)) =
      baseContext limits files s t base >>= fun under => (loadFile limits files t override).map (under, ·) := by
  unfold loadBoth baseContext
  cases base.filter (!·.isEmpty) <;> rfl

theorem runMerge_snd (override : String) (base : Option String) : (runMerge limits files s t override base).2 =
    baseContext limits files s t base >>= fun under => loadFile limits files t override >>= fun upper =>
      ((under.merge (.context upper)).map Context.toMembers).mapError .fault := by
  simp only [runMerge, loadBoth_eq]
  cases baseContext limits files s t base with
  | error e => rfl
  | ok under =>
    cases loadFile limits files t override with
    | error e => rfl
    | ok upper =>
      simp only [ok_bind, map_ok]
      cases under.merge (.context upper) <;> rfl

theorem runCommand_eq_ok {command : Command} {members : List (String × Json)} :
    (runCommand limits files s command).2 = .ok members ↔ Yields limits files s command members := by
  cases command with
  | showSettings =>
    simp only [runCommand, Settings.shown, mapError_eq_ok, bind_eq_ok, pure_eq_ok, Except.ok.injEq]
    constructor
    · rintro ⟨retry, hr, rfl⟩
      exact .settings hr
    · intro h
      cases h with
      | settings hr => exact ⟨_, hr, rfl⟩
  | merge override base t =>
    simp only [runCommand, runMerge_snd, bind_eq_ok, mapError_eq_ok, ← base_iff]
    constructor
    · rintro ⟨under, hu, upper, ho, hm⟩
      cases hc : under.merge (.context upper) with
      | error f => rw [hc] at hm; cases hm
      | ok merged => rw [hc] at hm; cases hm; exact .merge hu ho hc
    · intro h
      cases h with
      | merge hu ho hc => exact ⟨_, hu, _, ho, by rw [hc]; rfl⟩

theorem escapes_runCommand {command : Command} :
    Escapes (runCommand limits files s command).2 ↔ Breaks limits files s command := by
  cases command with
  | showSettings =>
    have hr : Escapes (runCommand limits files s .showSettings).2 ↔ TooLargeSeconds s.retrySeconds := by
      simp only [runCommand, Settings.shown, escapes_fault, faults_bind, pure_eq_ok, faults_ok, and_false, exists_false,
        or_false, Settings.overflows_retrySettings, Settings.named_retrySettings]
    rw [hr]
    exact ⟨.settings, fun h => by cases h; assumption⟩
  | merge override base t =>
    have hm (c d : Context) : ¬ Escapes (((c.merge (.context d)).map Context.toMembers).mapError .fault) := by
      rw [escapes_fault, faults_map, faults_map]
      rintro (h | h) <;> rcases Context.faults_merge h with h | h <;> cases h
    have hr : Escapes (runCommand limits files s (.merge override base t)).2 ↔
        Escapes (baseContext limits files s t base) ∨ ∃ under, Base limits files s t base under ∧
          (TooLargeFile limits files t override ∨ TooDeepFile limits files override) := by
      simp only [runCommand, runMerge_snd, escapes_bind, hm, and_false, exists_false, or_false, escapes_loadFile,
        base_iff]
    rw [hr]
    constructor
    · rintro (h | ⟨under, hu, ho⟩)
      · by_cases hb : base.getD "" = ""
        · rw [baseContext_of_empty hb, escapes_fault, or_iff_left (Context.named_ofSettings t s)] at h
          exact .baseSettings hb (Context.overflows_ofSettings.mp h)
        · cases base with
          | none => exact absurd rfl hb
          | some path =>
            have hp : path ≠ "" := hb
            rw [baseContext_of_path hp] at h
            exact .baseFile hp (escapes_loadFile.mp h)
      · exact .override hu ho
    · intro h
      cases h with
      | baseFile hp h =>
        rw [baseContext_of_path hp]
        exact .inl (escapes_loadFile.mpr h)
      | baseSettings hb h =>
        rw [baseContext_of_empty hb, escapes_fault]
        exact .inl (.inl (Context.overflows_ofSettings.mpr h))
      | override hu ho => exact .inr ⟨_, hu, ho⟩

/-! ## Whole runs -/

def Fails (o : Outcome) : Prop :=
  ∃ r message, o = .finished r ∧ r.exit = 2 ∧ r.stdout = "" ∧ r.stderr = "error: " ++ message ++ "\n"

def Succeeds (o : Outcome) (members : List (String × Json)) : Prop :=
  ∃ r, o = .finished r ∧ r.exit = 0 ∧ r.stdout = Json.printAt Json.indentedLayout 0 (.object members) ++ "\n" ∧
    r.stderr = ""

def Escaped (o : Outcome) : Prop := ∃ cause logging events, o = .escaped cause logging events

section
variable (command : Command) (logging : Logging)

theorem finish_ok (events : List Event) {members : List (String × Json)}
    (h : (Json.object members).levels ≤ limits.output) :
    Succeeds (finish limits command logging (events, .ok members)) members := by
  simp only [finish, Json.indented?, if_pos h]
  exact ⟨_, rfl, rfl, rfl, rfl⟩

theorem finish_handled (events : List Event) {e : CommandError} (h : e.unhandled? = none) :
    Fails (finish limits command logging (events, .error e)) := by
  simp only [finish, h]
  exact ⟨_, e.message, rfl, rfl, rfl, rfl⟩

theorem escaped_finish (step : Step (List (String × Json))) : Escaped (finish limits command logging step) ↔
    Escapes step.2 ∨ ∃ members, step.2 = .ok members ∧ limits.output < (Json.object members).levels := by
  obtain ⟨events, result⟩ := step
  cases result with
  | ok members =>
    by_cases h : (Json.object members).levels ≤ limits.output
    · simp [Escaped, finish, Json.indented?, h]
    · simp [Escaped, finish, Json.indented?, h, Nat.lt_of_not_le h]
  | error e => cases h : e.unhandled? <;> simp [Escaped, finish, h]

end

theorem run_of_command {args : List String} {i : Invocation} {command : Command}
    (ha : Invocation.ofArguments args = .ok i) (hc : i.command = some command) (s : Settings) :
    run limits (.ok s) files args =
      finish limits command ⟨i.logLevel.getD s.logLevel, i.logJson || s.logJson⟩
        (runCommand limits files s command) := by
  simp only [run, ha, hc]

theorem run_of_fault {args : List String} {i : Invocation} {command : Command}
    (ha : Invocation.ofArguments args = .ok i) (hc : i.command = some command) (fault : SettingsFault) :
    (Stops limits files (.error fault) command ∧ Escaped (run limits (.error fault) files args)) ∨
      (¬ Stops limits files (.error fault) command ∧ Fails (run limits (.error fault) files args)) := by
  simp only [run, ha, hc]
  cases fault with
  | unopened e => exact .inl ⟨.variableFile, .unopened e, none, [], rfl⟩
  | tooDeep message => exact .inl ⟨.deepVariable, .tooDeep message, none, [], rfl⟩
  | _ => exact .inr ⟨nofun, _, "invalid configuration: " ++ SettingsFault.summary _, rfl, rfl, rfl, rfl⟩

theorem stops_ok {command : Command} : Stops limits files (.ok s) command ↔ Breaks limits files s command ∨
    ∃ members, Yields limits files s command members ∧ limits.output < (Json.object members).levels := by
  constructor
  · intro h
    cases h with
    | command h => exact .inl h
    | output hy hl => exact .inr ⟨_, hy, hl⟩
  · rintro (h | ⟨members, hy, hl⟩)
    · exact .command h
    · exact .output hy hl

end

end CommandLine

end RemoteCall
