import RemoteCall.Json.Display

/-!
# Faults

What can be wrong with the value handed to an operation, one constructor a cause. `Fault.kind` sorts the causes, and
`Fault.message` words them.
-/

namespace RemoteCall

inductive FaultKind where
  /-- A value of the right type that is not allowed. -/
  | invalidValue
  | wrongType
  | missingName
  /-- A number too large for what holds it. -/
  | outOfRange
  /-- A context or channel of another transport. -/
  | foreignTransport
  | unsupportedCapability
  | missingFields
deriving DecidableEq, Repr

inductive Fault where
  -- Numbers
  | notReadableAsDouble (kind : String)
  | malformedDouble (text : String)
  | integerTooLargeForDouble
  | notReadableAsInteger (kind : String)
  | malformedInteger (text : String)
  | tooManyDigits (limit digits : Nat)
  | integerFromNaN
  | integerFromInfinity
  -- Durations
  | daysOutOfRange (days : Int)
  | daysBeyondMachineInteger
  | notSeconds (kind : String)
  -- Timestamps
  | malformedTimestamp (text : String)
  | timestampField (name bounds : String)
  | dayOutOfRange
  | yearOutOfRange (year : Nat)
  /-- An offset of a day or more, given with its text. -/
  | offsetOutOfRange (offset : String)
  -- Status codes
  | unknownStatus (value : Json)
  -- Retry settings
  | negativeSetting (name : String)
  | multiplierBelowOne (name : String)
  | limitBelowInitial (limit initial : String)
  | unknownRetrySetting (key : String)
  -- Headers
  | headerNotSequence (name : String)
  | notIterable (kind : String)
  | missingHeader (name : String)
  -- Contexts
  | headersUnset
  | tracerUnset
  | transportChannelUnset
  | foreign (subject expected found : String)
  | noStreaming
  | unexpectedArgument (context argument : String)
  | negativeStreamTimeout (seconds : Binary64)
  | fieldOfWrongKind (key wanted kind : String)
  | unknownField (key : String)
  | unhashable (kind : String)
  | unknownRegister (name : String)
  -- Batches
  | negativeCount (name : String) (count : Number)
  | notComparable (kind : String)
  | missingCounters (names : List String)
  -- Failures
  | selfSuppression
deriving Repr

namespace Fault

def kind : Fault → FaultKind
  | notReadableAsDouble _ | notReadableAsInteger _ | notSeconds _ | headerNotSequence _ | notIterable _
  | unexpectedArgument .. | unhashable _ | notComparable _ => .wrongType
  | integerTooLargeForDouble | integerFromInfinity | daysOutOfRange _ | daysBeyondMachineInteger => .outOfRange
  | missingHeader _ | unknownRegister _ => .missingName
  | foreign .. => .foreignTransport
  | noStreaming => .unsupportedCapability
  | missingCounters _ => .missingFields
  | _ => .invalidValue

def message : Fault → String
  | notReadableAsDouble kind => s!"float() argument must be a string or a real number, not '{kind}'"
  | malformedDouble text => s!"could not convert string to float: {Text.quoted text}"
  | integerTooLargeForDouble => "int too large to convert to float"
  | notReadableAsInteger kind =>
    s!"int() argument must be a string, a bytes-like object or a real number, not '{kind}'"
  | malformedInteger text => s!"invalid literal for int() with base 10: {Text.quoted text}"
  | tooManyDigits limit digits =>
    s!"Exceeds the limit ({limit} digits) for integer string conversion: value has {digits} digits; " ++
      "use sys.set_int_max_str_digits() to increase the limit"
  | integerFromNaN => "cannot convert float NaN to integer"
  | integerFromInfinity => "cannot convert float infinity to integer"
  | daysOutOfRange days => s!"days={days}; must have magnitude <= 999999999"
  | daysBeyondMachineInteger => "Python int too large to convert to C int"
  | notSeconds kind => s!"unsupported type for timedelta seconds component: {kind}"
  | malformedTimestamp text => s!"Invalid isoformat string: {Text.quoted text}"
  | timestampField name bounds => s!"{name} must be in {bounds}"
  | dayOutOfRange => "day is out of range for month"
  | yearOutOfRange year => s!"year {year} is out of range"
  | offsetOutOfRange offset =>
    s!"offset must be a timedelta strictly between -timedelta(hours=24) and timedelta(hours=24), not {offset}."
  | unknownStatus value => s!"{value.display} is not a valid StatusCode"
  | negativeSetting name => s!"{name} must not be negative"
  | multiplierBelowOne name => s!"{name} must be at least 1.0"
  | limitBelowInitial limit initial => s!"{limit} must not be less than {initial}"
  | unknownRetrySetting key => s!"Unknown retry setting: {key}"
  | headerNotSequence name =>
    s!"Header {Text.quoted name} values must be a sequence of strings, not a single string"
  | notIterable kind => s!"'{kind}' object is not iterable"
  | missingHeader name => Text.quoted name
  | unknownRegister name => Text.quoted name
  | headersUnset => "extra_headers must not be None"
  | tracerUnset => "tracer must not be None"
  | transportChannelUnset => "transport channel must not be None"
  | foreign subject expected found => s!"{subject} must be an instance of {expected}, but found {found}"
  | noStreaming => "Http/json transport does not support streaming"
  | unexpectedArgument context argument =>
    s!"{context}.__init__() got an unexpected keyword argument '{argument}'"
  | negativeStreamTimeout seconds => s!"Invalid timeout: < 0 s ({seconds.toText} s)"
  | fieldOfWrongKind key wanted kind => s!"Context field {key} must be {wanted}, got {kind}"
  | unknownField key => s!"Unknown context field: {key}"
  | unhashable kind => s!"unhashable type: '{kind}'"
  | negativeCount name count => s!"{name} must not be negative, got {count.toText}"
  | notComparable kind => s!"'<' not supported between instances of '{kind}' and 'int'"
  | missingCounters names => "Missing required properties: " ++ ", ".intercalate names
  | selfSuppression => "An error cannot suppress itself"

end Fault

end RemoteCall
