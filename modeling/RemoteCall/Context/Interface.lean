import RemoteCall.Context.Fields
import RemoteCall.Event
import RemoteCall.Settings.Basic
import RemoteCall.Timestamp.Reader

/-!
# The interface of contexts

Each transport has a class of contexts. The classes have the same methods, and every method gives a context or fails. What
is written once for all of them is written against the interface: the view of a context and the loading of one.
-/

namespace RemoteCall

/-- The headers that a constructor is given. A map is not frozen again. -/
inductive GivenHeaders where
  | unset
  | members (members : List (String × Json))
  | frozen (headers : HeaderMap)

/-- What a method is given as a context: one of its own class, or anything else, by the name of its type. -/
inductive Operand (α : Type) where
  | own (c : α)
  | foreign (typeName : String)

class CallFields (α : Type) where
  channel : α → Option Handle
  timeout : α → Option Duration
  deadline : α → Option Timestamp
  credentials : α → Option Credentials
  headers : α → HeaderMap
  /-- What the call reports to, which is never missing. -/
  tracer : α → Tracer
  retry : α → Option RetrySettings
  codes : α → Option StatusSet

class CallContext (α : Type) extends CallFields α where
  createDefault : Except Fault α
  make : Context.Arguments → Except Fault α
  ofSettings : Settings → Except Fault α
  /-- The context of a call over a channel of the class's own transport. -/
  ofChannel : Option Handle → Except Fault α
  /-- A channel of the class's own transport. -/
  wrap : Option Handle → ChannelArgument
  nullToSelf : α → Option (Operand α) → Except Fault α
  merge : α → Option (Operand α) → Except Fault α
  /-- What is reported of a context that was merged. -/
  mergedEvent : α → Event
  withCredentials : α → Option Credentials → Except Fault α
  withTransportChannel : α → ChannelArgument → Except Fault α
  withChannel : α → Option Handle → Except Fault α
  withTimeout : α → Option Duration → Except Fault α
  withDeadline : α → Option Timestamp → Except Fault α
  streamWait : α → Except Fault (Option Duration)
  withStreamWait : α → Option Duration → Except Fault α
  streamIdle : α → Except Fault (Option Duration)
  withStreamIdle : α → Option Duration → Except Fault α
  withHeaders : α → Option (List (String × Json)) → Except Fault α
  withTracer : α → Option Tracer → Except Fault α
  withRetry : α → Option RetrySettings → Except Fault α
  withCodes : α → Option StatusSet → Except Fault α
  toMembers : α → List (String × Json)

namespace CallContext

section
variable {α : Type}

/-- The members of the view that every context has. -/
def describe [CallFields α] (transport : String) (c : α) : List (String × Json) := [
  ("transport", .string transport),
  ("channel", Json.ofOption (fun h => .string h.typeName) (CallFields.channel c)),
  ("timeout_seconds", Context.secondsOf (CallFields.timeout c)),
  ("deadline", Json.ofOption (fun t => .string t.toText) (CallFields.deadline c)),
  ("credentials", Json.ofOption (fun k => .string k.typeName) (CallFields.credentials c)),
  ("extra_headers", (CallFields.headers c).toObject),
  ("tracer", .string (CallFields.tracer c).className),
  ("retry_settings", Json.ofOption (fun s => .object s.toMembers) (CallFields.retry c)),
  ("retryable_codes", Json.ofOption (fun s => .list (s.sortedNames.map .string)) (CallFields.codes c))]

end

end CallContext

/-! ## Loading -/

namespace Context

/-- The number of seconds in an entry, which must be a number and no truth value. -/
def secondsField (key : String) (v : Json) : Except Fault Duration :=
  match v with
  | .number n => Duration.ofSeconds n
  | _ => .error (.fieldOfWrongKind key "a number of seconds" v.kindName)

def textField (key wanted : String) (v : Json) : Except Fault String :=
  match v with
  | .string s => .ok s
  | _ => .error (.fieldOfWrongKind key wanted v.kindName)

def objectField (key : String) (v : Json) : Except Fault (List (String × Json)) :=
  match v with
  | .object members => .ok members
  | _ => .error (.fieldOfWrongKind key "an object" v.kindName)

def listField (key : String) (v : Json) : Except Fault (List Json) :=
  match v with
  | .list items => .ok items
  | _ => .error (.fieldOfWrongKind key "a list" v.kindName)

end Context

namespace CallContext

section
variable {α : Type} [CallContext α]

def setEntry (c : α) (key : String) (v : Json) : Except Fault α := do
  match key with
  | "timeout_seconds" => withTimeout c (some (← Context.secondsField key v))
  | "deadline" => withDeadline c (some (← Timestamp.read (← Context.textField key "an ISO 8601 string" v)))
  | "extra_headers" => withHeaders c (some (← Context.objectField key v))
  | "retry_settings" => withRetry c (some (← RetrySettings.ofMembers (← Context.objectField key v)))
  | "retryable_codes" => withCodes c (some (.ofList (← (← Context.listField key v).mapM Status.ofJson)))
  | "stream_wait_timeout_seconds" => withStreamWait c (some (← Context.secondsField key v))
  | "stream_idle_timeout_seconds" => withStreamIdle c (some (← Context.secondsField key v))
  | _ => .error (.unknownField key)

/-- The context that a description denotes. -/
def load (description : List (String × Json)) : Except Fault α := do
  description.foldlM (fun c entry => setEntry c entry.1 entry.2) (← createDefault)

end

end CallContext

end RemoteCall
