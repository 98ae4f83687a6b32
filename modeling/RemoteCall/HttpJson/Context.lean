import RemoteCall.Context.Interface

/-!
# Contexts of HTTP/JSON calls

The class of contexts of the transport without streams. A copy with one field changed is constructed anew from all fields,
so whatever the constructor checks is checked again.
-/

namespace RemoteCall

structure HttpJsonContext where
  channel : Option Handle
  timeout : Option Duration
  deadline : Option Timestamp
  credentials : Option Credentials
  headers : HeaderMap
  tracer : Option Tracer
  retry : Option RetrySettings
  codes : Option StatusSet

namespace HttpJsonContext

/-! ## Construction -/

structure Given where
  channel : Option Handle := none
  timeout : Option Duration := none
  deadline : Option Timestamp := none
  credentials : Option Credentials := none
  headers : GivenHeaders := .frozen .empty
  tracer : Option Tracer := none
  retry : Option RetrySettings := none
  codes : Option StatusSet := none

def construct (g : Given) : Except Fault HttpJsonContext := do
  let headers ← match g.headers with
    | .unset => .error .headersUnset
    | .members members => HeaderMap.freeze members
    | .frozen headers => .ok headers
  return ⟨g.channel, Context.normalizeTimeout g.timeout, g.deadline, g.credentials, headers, g.tracer, g.retry, g.codes⟩

/-- The fields of a context, given to the constructor again. -/
def given (c : HttpJsonContext) : Given :=
  ⟨c.channel, c.timeout, c.deadline, c.credentials, .frozen c.headers, c.tracer, c.retry, c.codes⟩

def createDefault : Except Fault HttpJsonContext := construct {}

/-- The constructor called with named values. It has no parameter for the timeouts of streams. -/
def make (a : Context.Arguments) : Except Fault HttpJsonContext :=
  match a.streamIdle, a.streamWait with
  | some _, _ => .error (.unexpectedArgument "HttpJsonCallContext" "stream_idle_timeout")
  | none, some _ => .error (.unexpectedArgument "HttpJsonCallContext" "stream_wait_timeout")
  | none, none =>
    construct ⟨a.channel, a.timeout, a.deadline, a.credentials, (a.headers.map .members).getD .unset, a.tracer, a.retry,
      a.codes⟩

/-! ## Copies with one field changed -/

def withCredentials (c : HttpJsonContext) (credentials : Option Credentials) : Except Fault HttpJsonContext :=
  construct { c.given with credentials }

def withChannel (c : HttpJsonContext) (channel : Option Handle) : Except Fault HttpJsonContext :=
  construct { c.given with channel }

def withTransportChannel (c : HttpJsonContext) (channel : ChannelArgument) : Except Fault HttpJsonContext :=
  match channel with
  | .unset => .error .transportChannelUnset
  | .wrapped .httpJson h => c.withChannel h
  | .wrapped t _ => .error (.foreign "transport channel" "HttpJsonTransportChannel" t.qualifiedChannelType)
  | .other found => .error (.foreign "transport channel" "HttpJsonTransportChannel" found)

/-- A timeout that is not shorter than the one already set leaves the context as it is. -/
def withTimeout (c : HttpJsonContext) (timeout : Option Duration) : Except Fault HttpJsonContext :=
  let timeout := Context.normalizeTimeout timeout
  match timeout, c.timeout with
  | some new, some old => if old ≤ new then .ok c else construct { c.given with timeout }
  | _, _ => construct { c.given with timeout }

def withDeadline (c : HttpJsonContext) (deadline : Option Timestamp) : Except Fault HttpJsonContext :=
  construct { c.given with deadline }

def streamWait (_ : HttpJsonContext) : Except Fault (Option Duration) := .error .noStreaming

def withStreamWait (_ : HttpJsonContext) (_ : Option Duration) : Except Fault HttpJsonContext := .error .noStreaming

def streamIdle (_ : HttpJsonContext) : Except Fault (Option Duration) := .error .noStreaming

def withStreamIdle (_ : HttpJsonContext) (_ : Option Duration) : Except Fault HttpJsonContext := .error .noStreaming

def withHeaders (c : HttpJsonContext) (members : Option (List (String × Json))) : Except Fault HttpJsonContext :=
  match members with
  | none => .error .headersUnset
  | some members => do construct { c.given with headers := .frozen (← c.headers.appendMembers members) }

def withTracer (c : HttpJsonContext) (tracer : Option Tracer) : Except Fault HttpJsonContext :=
  match tracer with
  | none => .error .tracerUnset
  | some _ => construct { c.given with tracer }

def withRetry (c : HttpJsonContext) (retry : Option RetrySettings) : Except Fault HttpJsonContext :=
  construct { c.given with retry }

def withCodes (c : HttpJsonContext) (codes : Option StatusSet) : Except Fault HttpJsonContext :=
  construct { c.given with codes }

def ofSettings (s : Settings) : Except Fault HttpJsonContext := do
  let c ← (← createDefault).withTimeout (← s.defaultTimeout)
  let c ← c.withHeaders (some s.headerMembers)
  let c ← c.withRetry (some (← s.retrySettings))
  c.withCodes (some (.ofList s.retryableCodes))

def ofChannel (channel : Option Handle) : Except Fault HttpJsonContext := do (← createDefault).withChannel channel

/-! ## Merging -/

def checkSameType : Operand HttpJsonContext → Except Fault HttpJsonContext
  | .own d => .ok d
  | .foreign found => .error (.foreign "context" "HttpJsonCallContext" found)

def nullToSelf (c : HttpJsonContext) (other : Option (Operand HttpJsonContext)) : Except Fault HttpJsonContext :=
  match other with
  | none => .ok c
  | some other => checkSameType other

def merge (c : HttpJsonContext) (other : Option (Operand HttpJsonContext)) : Except Fault HttpJsonContext :=
  match other with
  | none => .ok c
  | some other => do
    let d ← checkSameType other
    construct {
      channel := Context.firstSet d.channel c.channel
      timeout := Context.firstSet d.timeout c.timeout
      deadline := Context.firstSet d.deadline c.deadline
      credentials := Context.firstSet d.credentials c.credentials
      headers := .frozen (c.headers ++ d.headers)
      tracer := Context.firstSet d.tracer c.tracer
      retry := Context.firstSet d.retry c.retry
      codes := Context.firstSet d.codes c.codes }

def mergedEvent (merged : HttpJsonContext) : Event where
  logger := "rpccontext.httpjson.context"
  level := .debug
  name := "call_context_merged"
  fields := [
    ("transport", .string "httpjson"),
    ("timeout_seconds", Context.secondsOf merged.timeout),
    ("header_names", .list (merged.headers.names.map .string))]

/-! ## The interface -/

instance : CallFields HttpJsonContext where
  channel := channel
  timeout := timeout
  deadline := deadline
  credentials := credentials
  headers := headers
  tracer c := c.tracer.getD .shared
  retry := retry
  codes := codes

def toMembers (c : HttpJsonContext) : List (String × Json) := CallContext.describe "httpjson" c

instance : CallContext HttpJsonContext where
  createDefault := createDefault
  make := make
  ofSettings := ofSettings
  ofChannel := ofChannel
  wrap := .wrapped .httpJson
  nullToSelf := nullToSelf
  merge := merge
  mergedEvent := mergedEvent
  withCredentials := withCredentials
  withTransportChannel := withTransportChannel
  withChannel := withChannel
  withTimeout := withTimeout
  withDeadline := withDeadline
  streamWait := streamWait
  withStreamWait := withStreamWait
  streamIdle := streamIdle
  withStreamIdle := withStreamIdle
  withHeaders := withHeaders
  withTracer := withTracer
  withRetry := withRetry
  withCodes := withCodes
  toMembers := toMembers

end HttpJsonContext

end RemoteCall
