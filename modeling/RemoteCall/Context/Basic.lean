import RemoteCall.Context.Fields
import RemoteCall.Event

/-!
# Call contexts

A context holds what is known about one call over a transport. Every field but the headers may be unset. Only the
streaming transport has the two stream timeouts. `HttpJsonContext` and `StreamingContext` are the classes of contexts;
this record holds a context of either, and the functions on it do what the methods of its class do
(`CallContext.SeenAs`).
-/

namespace RemoteCall

structure Context where
  transport : Transport
  channel : Option Handle
  timeout : Option Duration
  deadline : Option Timestamp
  credentials : Option Credentials
  headers : HeaderMap
  tracer : Option Tracer
  retry : Option RetrySettings
  codes : Option StatusSet
  /-- How long to wait for the next message of a stream. -/
  streamWait : Option Duration
  /-- How long a stream may be idle. -/
  streamIdle : Option Duration
deriving Repr

namespace Context

def create (transport : Transport) : Context :=
  ⟨transport, none, none, none, none, .empty, none, none, none, none, none⟩

/-! ## Construction -/

/-- The context with its timeout normalized and its stream timeouts checked. -/
def check (c : Context) : Except Fault Context := do
  let _ ← checkStreamTimeout c.streamWait
  let _ ← checkStreamTimeout c.streamIdle
  return { c with timeout := normalizeTimeout c.timeout }

/-- The context with the given values. A transport without streams has no argument for their timeouts. -/
def make (transport : Transport) (a : Arguments) : Except Fault Context :=
  match transport, a.streamIdle, a.streamWait with
  | .httpJson, some _, _ => .error (.unexpectedArgument transport.contextType "stream_idle_timeout")
  | .httpJson, _, some _ => .error (.unexpectedArgument transport.contextType "stream_wait_timeout")
  | _, idle, wait =>
    match a.headers with
    | none => .error .headersUnset
    | some members => do
      let headers ← HeaderMap.freeze members
      check ⟨transport, a.channel, a.timeout, a.deadline, a.credentials, headers, a.tracer, a.retry, a.codes,
        wait.join, idle.join⟩

/-- The tracer's class; a context without a tracer reports to the one that reports nothing. -/
def tracerClass (c : Context) : String := ((c.tracer.map Tracer.className).getD "BaseApiTracer")

/-- Whether calls report to the one tracer that reports nothing. -/
def tracesNothing (c : Context) : Bool :=
  match c.tracer with
  | none | some (.noOp _) => true
  | _ => false

end Context

end RemoteCall
