import RemoteCall.Context.Basic

/-!
# Equality of contexts

Contexts are equal when all their fields are, where the order of header names does not count. The hash leaves out the
channel, the credentials and the tracer, so two hashes agree when all the other fields do.
-/

namespace RemoteCall.Context

/-- Equality of the fields that the hash covers. -/
def sameValues (c d : Context) : Bool :=
  c.transport == d.transport && c.timeout == d.timeout &&
    sameOption Timestamp.same c.deadline d.deadline && c.headers.same d.headers &&
    sameOption RetrySettings.same c.retry d.retry && c.codes == d.codes && c.streamWait == d.streamWait &&
    c.streamIdle == d.streamIdle

/-- Equality of the fields that the hash leaves out. -/
def sameHandles (c d : Context) : Bool :=
  c.channel == d.channel && sameOption Credentials.same c.credentials d.credentials &&
    sameOption Tracer.same c.tracer d.tracer

def same (c d : Context) : Bool := c.sameValues d && c.sameHandles d

/-- Whether two contexts of one transport have the same hash; a header value without a hash is a fault. -/
def sameHash (c d : Context) : Except Fault Bool :=
  match c.headers.unhashable? <|> d.headers.unhashable? with
  | some kind => .error (.unhashable kind)
  | none => .ok (c.sameValues d)

end RemoteCall.Context
