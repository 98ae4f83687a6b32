import RemoteCall.Settings.Basic
import RemoteCall.Text.Points

/-!
# Settings from values

Each setting accepts values of several kinds: numbers as text, truth values as numbers, words for truth values. A value
that is not accepted is a complaint with its place, and all complaints are reported together.
-/

namespace RemoteCall

inductive SettingProblem where
  | notNumber
  | unreadableNumber
  | notInteger
  | unreadableInteger
  | fractional
  | notFinite
  | integerTooLarge
  | notBoolean
  | unreadableBoolean
  | notText
  | notUnicode
  | notList
  | notObject
  | notStatus
  | below (minimum : Nat)
  | unknownLevel (text : String)
  | unknownName
deriving DecidableEq, Repr

namespace SettingProblem

def code : SettingProblem → String
  | notNumber => "float_type"
  | unreadableNumber => "float_parsing"
  | notInteger => "int_type"
  | unreadableInteger => "int_parsing"
  | fractional => "int_from_float"
  | notFinite => "finite_number"
  | integerTooLarge => "int_parsing_size"
  | notBoolean => "bool_type"
  | unreadableBoolean => "bool_parsing"
  | notText => "string_type"
  | notUnicode => "string_unicode"
  | notList => "list_type"
  | notObject => "dict_type"
  | notStatus => "enum"
  | below _ => "greater_than_equal"
  | unknownLevel _ => "value_error"
  | unknownName => "extra_forbidden"

/-- The names in quotes, with a word before the last one. -/
def alternatives (names : List String) : String :=
  let quoted := names.map fun name => "'" ++ name ++ "'"
  ", ".intercalate quoted.dropLast ++ " or " ++ quoted.getLastD ""

def message : SettingProblem → String
  | notNumber => "Input should be a valid number"
  | unreadableNumber => "Input should be a valid number, unable to parse string as a number"
  | notInteger => "Input should be a valid integer"
  | unreadableInteger => "Input should be a valid integer, unable to parse string as an integer"
  | fractional => "Input should be a valid integer, got a number with a fractional part"
  | notFinite => "Input should be a finite number"
  | integerTooLarge => "Unable to parse input string as an integer, exceeded maximum size"
  | notBoolean => "Input should be a valid boolean"
  | unreadableBoolean => "Input should be a valid boolean, unable to interpret input"
  | notText => "Input should be a valid string"
  | notUnicode => "Input should be a valid string, unable to parse raw data as a unicode string"
  | notList => "Input should be a valid list"
  | notObject => "Input should be a valid dictionary"
  | notStatus => "Input should be " ++ alternatives (Status.all.map Status.name)
  | below minimum => s!"Input should be greater than or equal to {minimum}"
  | unknownLevel text => s!"Value error, Unknown log level: {text}"
  | unknownName => "Extra inputs are not permitted"

end SettingProblem

/-- A problem with its place: the name of the setting, then names and positions inside its value. -/
structure Complaint where
  place : List Json
  problem : SettingProblem
deriving Repr

/-! ## Values with all their complaints -/

/-- A value, or at least one complaint. -/
inductive Checked (α : Type) where
  | ok (a : α)
  | refused (first : Complaint) (others : List Complaint)

namespace Checked

variable {α β : Type}

def map (f : α → β) : Checked α → Checked β
  | ok a => ok (f a)
  | refused first others => refused first others

/-- The function applied to the value; complaints of both are kept. -/
def apply : Checked (α → β) → Checked α → Checked β
  | ok f, ok a => ok (f a)
  | ok _, refused first others => refused first others
  | refused first others, ok _ => refused first others
  | refused first others, refused first' others' => refused first (others ++ first' :: others')

/-- The values of all, or the complaints of all. -/
def all : List (Checked α) → Checked (List α)
  | [] => ok []
  | c :: rest => (c.map fun a as => a :: as).apply (all rest)

/-- The value of a conversion, or its problem at a place. -/
def ofExcept (place : List Json) : Except SettingProblem α → Checked α
  | .ok a => ok a
  | .error problem => refused ⟨place, problem⟩ []

def toExcept : Checked α → Except (List Complaint) α
  | ok a => .ok a
  | refused first others => .error (first :: others)

end Checked

namespace SettingValue

/-- A text with no half of a surrogate pair. -/
def wholeText (s : String) : Except SettingProblem String :=
  if Text.hasSurrogate s then .error .notUnicode else .ok s

/-! ## Numbers -/

/-- The text without its underscores, if there are any and each stands alone inside. -/
def dropSingleUnderscores (cs : List Char) : Option (List Char) :=
  let doubled := (cs.zip (cs.drop 1)).any fun p => p.1 == '_' && p.2 == '_'
  if cs.head? == some '_' || cs.getLast? == some '_' || !cs.contains '_' || doubled then none
  else some (cs.filter (· != '_'))

def numberOfText? (s : String) : Option Binary64 :=
  match Numeral.decimal? (Text.trim Text.isBlank s.toList) with
  | some x => some x
  | none => (dropSingleUnderscores s.toList).bind Numeral.decimal?

def number (v : Json) : Except SettingProblem Binary64 :=
  match v with
  | .number (.double x) => .ok x
  | .string s => do
    match numberOfText? (← wholeText s) with
    | some x => .ok x
    | none => .error .unreadableNumber
  | v =>
    match v.toDouble with
    | .ok x => .ok x
    | .error _ => .error .notNumber

/-- A number that is not below the minimum; a NaN is. -/
def numberFrom (minimum : Nat) (v : Json) : Except SettingProblem Binary64 := do
  let x ← number v
  if x.isNaN || x.bltInt minimum then .error (.below minimum) else .ok x

/-! ## Integers -/

/-- An optional sign and digits that make up the whole text. -/
def plainInteger? (cs : List Char) : Option Int :=
  let (negative, ds) := Numeral.splitSign cs
  if ds.isEmpty || !ds.all Char.isDigit then none
  else some (if negative then -(digitsValue ds : Int) else digitsValue ds)

/-- The text from its first digit that is no zero on; a zero in front of a point or of nothing stays. -/
def dropZeros : List Char → Option (List Char)
  | '0' :: rest =>
    match rest.dropWhile fun c => c == '0' || c == '_' with
    | [] => some ['0']
    | '.' :: fraction => some ('0' :: '.' :: fraction)
    | c :: more => if c.isDigit then some (c :: more) else none
  | c :: rest => if c.isDigit || c == '-' then some (c :: rest) else none
  | [] => none

/-- The text without a fraction of zeros. -/
def dropZeroFraction (cs : List Char) : List Char :=
  match cs.dropWhile (· != '.') with
  | _ :: fraction => if fraction.all (· == '0') then cs.takeWhile (· != '.') else cs
  | [] => cs

/-- The integer that a text denotes once blanks, a plus sign, leading zeros, a fraction of zeros and underscores are
taken away. -/
def cleanedInteger? (cs : List Char) : Option Int := do
  let trimmed := Text.trim Text.isBlank cs
  let unsigned := match trimmed with
    | '+' :: rest => rest
    | rest => rest
  if unsigned.head? == some '-' && trimmed.head? == some '+' then none
  let body := dropZeroFraction (← dropZeros unsigned)
  plainInteger? ((dropSingleUnderscores body).getD body)

def integerOfText (s : String) : Except SettingProblem Int :=
  if Numeral.maxDigits < s.utf8ByteSize then .error .integerTooLarge
  else
    match plainInteger? s.toList <|> cleanedInteger? s.toList with
    | some i => .ok i
    | none => .error .unreadableInteger

/-- The integer from which on no integer has 64 bits. -/
def machineIntegers : Int := 9223372036854775808

def integerOfDouble (x : Binary64) : Except SettingProblem Int :=
  if !x.isFinite then .error .notFinite
  else if !x.isWhole then .error .fractional
  else if -machineIntegers < x.truncate ∧ x.truncate < machineIntegers then .ok x.truncate
  else .error .integerTooLarge

def integer (v : Json) : Except SettingProblem Int :=
  match v with
  | .bool b => .ok (if b then 1 else 0)
  | .number (.integer i) => .ok i
  | .number (.double x) => integerOfDouble x
  | .string s => wholeText s >>= integerOfText
  | _ => .error .notInteger

/-- An integer that is not negative. -/
def natural (v : Json) : Except SettingProblem Int := do
  let i ← integer v
  if i < 0 then .error (.below 0) else .ok i

/-! ## Truth values, texts and codes -/

def trueWords : List String := ["1", "on", "t", "true", "y", "yes"]

def falseWords : List String := ["0", "off", "f", "false", "n", "no"]

/-- One is true and zero false; no other integer is a truth value. -/
def booleanOfInteger (i : Int) : Except SettingProblem Bool :=
  if i = 0 then .ok false
  else if i = 1 then .ok true
  else .error .unreadableBoolean

def boolean (v : Json) : Except SettingProblem Bool :=
  match v with
  | .bool b => .ok b
  | .string s => do
    let word := String.ofList ((← wholeText s).toList.map Char.toLower)
    if trueWords.contains word then .ok true
    else if falseWords.contains word then .ok false
    else .error .unreadableBoolean
  | .number (.integer i) =>
    if -machineIntegers ≤ i ∧ i < machineIntegers then booleanOfInteger i else .error .notBoolean
  | .number (.double x) =>
    match integerOfDouble x with
    | .ok i => booleanOfInteger i
    | .error _ => .error .notBoolean
  | _ => .error .notBoolean

def text (v : Json) : Except SettingProblem String :=
  match v with
  | .string s => wholeText s
  | _ => .error .notText

def status (v : Json) : Except SettingProblem Status :=
  match Status.ofJson v with
  | .ok s => .ok s
  | .error _ => .error .notStatus

/-- The upper case of a character, as far as it can occur in the name of a level. -/
def upperChar (c : Char) : Char := if c.toNat = 0x131 then 'I' else c.toUpper

/-- A log level, in any case. -/
def level (v : Json) : Except SettingProblem LogLevel := do
  let name ← text v
  match LogLevel.ofName? (String.ofList (name.toList.map upperChar)) with
  | some l => .ok l
  | none => .error (.unknownLevel name)

/-! ## Lists and objects -/

def listOf {α : Type} (item : Json → Except SettingProblem α) (place : List Json) (v : Json) : Checked (List α) :=
  match v with
  | .list items =>
    .all (items.zipIdx.map fun (v, i) => .ofExcept (place ++ [.int i]) (item v))
  | _ => .refused ⟨place, .notList⟩ []

/-- Names with a list of texts each. -/
def headers (place : List Json) (v : Json) : Checked (List (String × List String)) :=
  match v with
  | .object members =>
    .all (members.map fun m =>
      let place := place ++ [.string m.1]
      ((Checked.ofExcept (place ++ [.string "[key]"]) (wholeText m.1)).map Prod.mk).apply (listOf text place m.2))
  | _ => .refused ⟨place, .notObject⟩ []

end SettingValue

namespace Settings

/-- The names of the settings, in the order of declaration. -/
def names : List String := Ordered.names default.toMembers

/-- The settings whose values are lists or objects. -/
def structuredNames : List String := ["default_headers", "retryable_codes"]

/-- The settings that the given members describe, the others as by default. Complaints come in the order of
declaration, and those about unknown names after them. -/
def ofMembers (members : List (String × Json)) : Except (List Complaint) Settings :=
  let field {α : Type} (name : String) (standard : α) (convert : List Json → Json → Checked α) : Checked α :=
    match Ordered.get? members name with
    | some v => convert [.string name] v
    | none => .ok standard
  let plain {α : Type} (name : String) (standard : α) (convert : Json → Except SettingProblem α) : Checked α :=
    field name standard fun place v => .ofExcept place (convert v)
  let timeout (v : Json) : Except SettingProblem (Option Binary64) :=
    match v with
    | .null => .ok none
    | v => some <$> SettingValue.numberFrom 0 v
  let unknown : Checked (List Unit) :=
    .all ((members.filter fun m => !names.contains m.1).map fun m => .refused ⟨[.string m.1], .unknownName⟩ [])
  let d := default
  let checked := Checked.ok mk
    |>.apply (plain "default_timeout_seconds" d.defaultTimeoutSeconds timeout)
    |>.apply (field "default_headers" d.defaultHeaders SettingValue.headers)
    |>.apply (plain "retry_total_timeout_seconds" d.retryTotalTimeoutSeconds (SettingValue.numberFrom 0))
    |>.apply (plain "retry_initial_delay_seconds" d.retryInitialDelaySeconds (SettingValue.numberFrom 0))
    |>.apply (plain "retry_delay_multiplier" d.retryDelayMultiplier (SettingValue.numberFrom 1))
    |>.apply (plain "retry_max_delay_seconds" d.retryMaxDelaySeconds (SettingValue.numberFrom 0))
    |>.apply (plain "retry_max_attempts" d.retryMaxAttempts SettingValue.natural)
    |>.apply (plain "retry_jittered" d.retryJittered SettingValue.boolean)
    |>.apply (plain "retry_initial_rpc_timeout_seconds" d.retryInitialRpcTimeoutSeconds (SettingValue.numberFrom 0))
    |>.apply (plain "retry_rpc_timeout_multiplier" d.retryRpcTimeoutMultiplier (SettingValue.numberFrom 1))
    |>.apply (plain "retry_max_rpc_timeout_seconds" d.retryMaxRpcTimeoutSeconds (SettingValue.numberFrom 0))
    |>.apply (field "retryable_codes" d.retryableCodes (SettingValue.listOf SettingValue.status))
    |>.apply (plain "log_level" d.logLevel SettingValue.level)
    |>.apply (plain "log_json" d.logJson SettingValue.boolean)
  ((checked.map fun s _ => s).apply unknown).toExcept

end Settings

end RemoteCall
