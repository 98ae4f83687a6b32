import RemoteCall.Context.Basic

/-!
# Changing one field

Each function gives a context that differs from the given one in one field. A timeout can only be shortened, until it is
disabled; headers are appended to those already there; a stream timeout is refused by a transport without streams.
-/

namespace RemoteCall.Context

def withChannel (c : Context) (channel : Option Handle) : Context := { c with channel }

/-- The channel that a transport's channel wraps, which must be of the context's own transport. -/
def withTransportChannel (c : Context) (channel : ChannelArgument) : Except Fault Context :=
  let wanted := c.transport.channelType
  match channel with
  | .unset => .error .transportChannelUnset
  | .wrapped t h =>
    if t = c.transport then .ok (c.withChannel h)
    else .error (.foreign "transport channel" wanted t.qualifiedChannelType)
  | .other found => .error (.foreign "transport channel" wanted found)

def withCredentials (c : Context) (credentials : Option Credentials) : Context := { c with credentials }

def withTracer (c : Context) (tracer : Option Tracer) : Except Fault Context :=
  match tracer with
  | none => .error .tracerUnset
  | some _ => .ok { c with tracer }

/-- Whether a new timeout leaves the context as it is: one is set already that is not longer. -/
def keepsTimeout (c : Context) (timeout : Option Duration) : Bool :=
  match normalizeTimeout timeout, c.timeout with
  | some new, some old => old ≤ new
  | _, _ => false

def withTimeout (c : Context) (timeout : Option Duration) : Context :=
  if c.keepsTimeout timeout then c else { c with timeout := normalizeTimeout timeout }

def withDeadline (c : Context) (deadline : Option Timestamp) : Context := { c with deadline }

def withStreamWait (c : Context) (timeout : Option Duration) : Except Fault Context :=
  match c.transport with
  | .httpJson => .error .noStreaming
  | .streaming => return { c with streamWait := ← checkStreamTimeout timeout }

def withStreamIdle (c : Context) (timeout : Option Duration) : Except Fault Context :=
  match c.transport with
  | .httpJson => .error .noStreaming
  | .streaming => return { c with streamIdle := ← checkStreamTimeout timeout }

def withHeaders (c : Context) (members : Option (List (String × Json))) : Except Fault Context :=
  match members with
  | none => .error .headersUnset
  | some members => return { c with headers := ← c.headers.appendMembers members }

def withRetry (c : Context) (retry : Option RetrySettings) : Context := { c with retry }

def withCodes (c : Context) (codes : Option StatusSet) : Context := { c with codes }

/-- The context of a call over a channel, every other field unset. -/
def ofChannel (transport : Transport) (channel : Option Handle) : Context :=
  (create transport).withChannel channel

/-- The stream timeouts, where the transport has them. -/
def streamWait? (c : Context) : Except Fault (Option Duration) :=
  match c.transport with
  | .httpJson => .error .noStreaming
  | .streaming => .ok c.streamWait

def streamIdle? (c : Context) : Except Fault (Option Duration) :=
  match c.transport with
  | .httpJson => .error .noStreaming
  | .streaming => .ok c.streamIdle

end RemoteCall.Context
