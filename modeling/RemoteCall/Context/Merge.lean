import RemoteCall.Context.Basic

/-!
# Merging contexts

Merging puts a second context of the same transport on top of the first: each field that the second one has set wins,
and its headers are appended.
-/

namespace RemoteCall.Context

inductive Argument where
  | unset
  | context (c : Context)
  /-- Anything else, by the name of its type. -/
  | other (typeName : String)

/-- The other context, which must be of this one's transport, or this one if there is no other. -/
def nullToSelf (c : Context) (other : Argument) : Except Fault Context :=
  match other with
  | .unset => .ok c
  | .context d =>
    if d.transport = c.transport then .ok d
    else .error (.foreign "context" c.transport.contextType d.transport.qualifiedContextType)
  | .other found => .error (.foreign "context" c.transport.contextType found)

/-- The second context on top of the first, not yet checked. -/
def overlay (c d : Context) : Context where
  transport := c.transport
  channel := firstSet d.channel c.channel
  timeout := firstSet d.timeout c.timeout
  deadline := firstSet d.deadline c.deadline
  credentials := firstSet d.credentials c.credentials
  headers := c.headers ++ d.headers
  tracer := firstSet d.tracer c.tracer
  retry := firstSet d.retry c.retry
  codes := firstSet d.codes c.codes
  streamWait := firstSet d.streamWait c.streamWait
  streamIdle := firstSet d.streamIdle c.streamIdle

def merge (c : Context) (other : Argument) : Except Fault Context :=
  match other with
  | .unset => .ok c
  | other => do check (c.overlay (← c.nullToSelf other))

def mergedEvent (merged : Context) : Event where
  logger := merged.transport.contextModule
  level := .debug
  name := "call_context_merged"
  fields := [
    ("transport", .string merged.transport.name),
    ("timeout_seconds", Json.ofOption (fun d => .double d.seconds) merged.timeout),
    ("header_names", .list (merged.headers.names.map .string))]

end RemoteCall.Context
