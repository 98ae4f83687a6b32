import RemoteCall.Context.Interface
import RemoteCall.Context.Setters

/-!
# Contexts as JSON

The diagnostic view of a context is an object with every field, handles by their type only. A context is loaded from an
object with some of the fields: the entries are taken over one after the other, so the first bad one is the fault.
-/

namespace RemoteCall.Context

/-! ## The view -/

def toMembers (c : Context) : List (String × Json) :=
  [("transport", .string c.transport.name),
   ("channel", Json.ofOption (fun h => .string h.typeName) c.channel),
   ("timeout_seconds", secondsOf c.timeout),
   ("deadline", Json.ofOption (fun t => .string t.toText) c.deadline),
   ("credentials", Json.ofOption (fun k => .string k.typeName) c.credentials),
   ("extra_headers", c.headers.toObject),
   ("tracer", .string c.tracerClass),
   ("retry_settings", Json.ofOption (fun s => .object s.toMembers) c.retry),
   ("retryable_codes", Json.ofOption (fun s => .list (s.sortedNames.map .string)) c.codes)] ++
  match c.transport with
  | .httpJson => []
  | .streaming =>
    [("stream_wait_timeout_seconds", secondsOf c.streamWait), ("stream_idle_timeout_seconds", secondsOf c.streamIdle)]

/-! ## Loading -/

def setEntry (c : Context) (key : String) (v : Json) : Except Fault Context :=
  match key with
  | "timeout_seconds" => return c.withTimeout (some (← secondsField key v))
  | "deadline" => return c.withDeadline (some (← Timestamp.read (← textField key "an ISO 8601 string" v)))
  | "extra_headers" => do c.withHeaders (some (← objectField key v))
  | "retry_settings" => return c.withRetry (some (← RetrySettings.ofMembers (← objectField key v)))
  | "retryable_codes" => return c.withCodes (some (.ofList (← (← listField key v).mapM Status.ofJson)))
  | "stream_wait_timeout_seconds" => do c.withStreamWait (some (← secondsField key v))
  | "stream_idle_timeout_seconds" => do c.withStreamIdle (some (← secondsField key v))
  | _ => .error (.unknownField key)

def load (transport : Transport) (description : List (String × Json)) : Except Fault Context :=
  description.foldlM (fun c entry => c.setEntry entry.1 entry.2) (create transport)

end RemoteCall.Context
