import RemoteCall.Context.Interface

/-!
# Contexts of calls with streams

The class of contexts of the transport with streams, which has two timeouts more. A copy with one field changed is
constructed anew from all fields, so whatever the constructor checks is checked again.
-/

namespace RemoteCall

structure StreamingContext where
  channel : Option Handle
  timeout : Option Duration
  deadline : Option Timestamp
  credentials : Option Credentials
  headers : HeaderMap
  tracer : Option Tracer
  retry : Option RetrySettings
  codes : Option StatusSet
  streamWait : Option Duration
  streamIdle : Option Duration

namespace StreamingContext

/-! ## Construction -/

structure Given where
  channel : Option Handle := none
  timeout : Option Duration := none
  deadline : Option Timestamp := none
  credentials : Option Credentials := none
  headers : GivenHeaders := .frozen .empty
  tracer : Option Tracer := none
  retry : Option RetrySettings := none
  codes : Option StatusSet := none
  streamWait : Option Duration := none
  streamIdle : Option Duration := none

def construct (g : Given) : Except Fault StreamingContext := do
  let headers ← match g.headers with
    | .unset => .error .headersUnset
    | .members members => HeaderMap.freeze members
    | .frozen headers => .ok headers
  let _ ← Context.checkStreamTimeout g.streamWait
  let _ ← Context.checkStreamTimeout g.streamIdle
  return ⟨g.channel, Context.normalizeTimeout g.timeout, g.deadline, g.credentials, headers, g.tracer, g.retry, g.codes,
    g.streamWait, g.streamIdle⟩

/-- The fields of a context, given to the constructor again. -/
def given (c : StreamingContext) : Given :=
  ⟨c.channel, c.timeout, c.deadline, c.credentials, .frozen c.headers, c.tracer, c.retry, c.codes, c.streamWait,
    c.streamIdle⟩

def createDefault : Except Fault StreamingContext := construct {}

def make (a : Context.Arguments) : Except Fault StreamingContext :=
  construct ⟨a.channel, a.timeout, a.deadline, a.credentials, (a.headers.map .members).getD .unset, a.tracer, a.retry,
    a.codes, a.streamWait.join, a.streamIdle.join⟩

/-! ## Copies with one field changed -/

def withCredentials (c : StreamingContext) (credentials : Option Credentials) : Except Fault StreamingContext :=
  construct { c.given with credentials }

def withChannel (c : StreamingContext) (channel : Option Handle) : Except Fault StreamingContext :=
  construct { c.given with channel }

def withTransportChannel (c : StreamingContext) (channel : ChannelArgument) : Except Fault StreamingContext :=
  match channel with
  | .unset => .error .transportChannelUnset
  | .wrapped .streaming h => c.withChannel h
  | .wrapped t _ => .error (.foreign "transport channel" "StreamingTransportChannel" t.qualifiedChannelType)
  | .other found => .error (.foreign "transport channel" "StreamingTransportChannel" found)

/-- A timeout that is not shorter than the one already set leaves the context as it is. -/
def withTimeout (c : StreamingContext) (timeout : Option Duration) : Except Fault StreamingContext :=
  let timeout := Context.normalizeTimeout timeout
  match timeout, c.timeout with
  | some new, some old => if old ≤ new then .ok c else construct { c.given with timeout }
  | _, _ => construct { c.given with timeout }

def withDeadline (c : StreamingContext) (deadline : Option Timestamp) : Except Fault StreamingContext :=
  construct { c.given with deadline }

def withStreamWait (c : StreamingContext) (timeout : Option Duration) : Except Fault StreamingContext := do
  construct { c.given with streamWait := ← Context.checkStreamTimeout timeout }

def withStreamIdle (c : StreamingContext) (timeout : Option Duration) : Except Fault StreamingContext := do
  construct { c.given with streamIdle := ← Context.checkStreamTimeout timeout }

def withHeaders (c : StreamingContext) (members : Option (List (String × Json))) : Except Fault StreamingContext :=
  match members with
  | none => .error .headersUnset
  | some members => do construct { c.given with headers := .frozen (← c.headers.appendMembers members) }

def withTracer (c : StreamingContext) (tracer : Option Tracer) : Except Fault StreamingContext :=
  match tracer with
  | none => .error .tracerUnset
  | some _ => construct { c.given with tracer }

def withRetry (c : StreamingContext) (retry : Option RetrySettings) : Except Fault StreamingContext :=
  construct { c.given with retry }

def withCodes (c : StreamingContext) (codes : Option StatusSet) : Except Fault StreamingContext :=
  construct { c.given with codes }

def ofSettings (s : Settings) : Except Fault StreamingContext := do
  let c ← (← createDefault).withTimeout (← s.defaultTimeout)
  let c ← c.withHeaders (some s.headerMembers)
  let c ← c.withRetry (some (← s.retrySettings))
  c.withCodes (some (.ofList s.retryableCodes))

def ofChannel (channel : Option Handle) : Except Fault StreamingContext := do (← createDefault).withChannel channel

/-! ## Merging -/

def checkSameType : Operand StreamingContext → Except Fault StreamingContext
  | .own d => .ok d
  | .foreign found => .error (.foreign "context" "StreamingCallContext" found)

def nullToSelf (c : StreamingContext) (other : Option (Operand StreamingContext)) : Except Fault StreamingContext :=
  match other with
  | none => .ok c
  | some other => checkSameType other

def merge (c : StreamingContext) (other : Option (Operand StreamingContext)) : Except Fault StreamingContext :=
  match other with
  | none => .ok c
  | some other => do
    let d ← checkSameType other
    construct {
      channel := Context.firstSet d.channel c.channel
      timeout := Context.firstSet d.timeout c.timeout
      deadline := Context.firstSet d.deadline c.deadline
      credentials := Context.firstSet d.credentials c.credentials
      headers := .frozen (c.headers ++ d.headers)
      tracer := Context.firstSet d.tracer c.tracer
      retry := Context.firstSet d.retry c.retry
      codes := Context.firstSet d.codes c.codes
      streamWait := Context.firstSet d.streamWait c.streamWait
      streamIdle := Context.firstSet d.streamIdle c.streamIdle }

def mergedEvent (merged : StreamingContext) : Event where
  logger := "rpccontext.streaming.context"
  level := .debug
  name := "call_context_merged"
  fields := [
    ("transport", .string "streaming"),
    ("timeout_seconds", Context.secondsOf merged.timeout),
    ("header_names", .list (merged.headers.names.map .string))]

/-! ## The interface -/

instance : CallFields StreamingContext where
  channel := channel
  timeout := timeout
  deadline := deadline
  credentials := credentials
  headers := headers
  tracer c := c.tracer.getD .shared
  retry := retry
  codes := codes

def toMembers (c : StreamingContext) : List (String × Json) :=
  CallContext.describe "streaming" c ++
    [("stream_wait_timeout_seconds", Context.secondsOf c.streamWait),
     ("stream_idle_timeout_seconds", Context.secondsOf c.streamIdle)]

instance : CallContext StreamingContext where
  createDefault := createDefault
  make := make
  ofSettings := ofSettings
  ofChannel := ofChannel
  wrap := .wrapped .streaming
  nullToSelf := nullToSelf
  merge := merge
  mergedEvent := mergedEvent
  withCredentials := withCredentials
  withTransportChannel := withTransportChannel
  withChannel := withChannel
  withTimeout := withTimeout
  withDeadline := withDeadline
  streamWait c := .ok c.streamWait
  withStreamWait := withStreamWait
  streamIdle c := .ok c.streamIdle
  withStreamIdle := withStreamIdle
  withHeaders := withHeaders
  withTracer := withTracer
  withRetry := withRetry
  withCodes := withCodes
  toMembers := toMembers

end StreamingContext

end RemoteCall
