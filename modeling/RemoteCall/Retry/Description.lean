import RemoteCall.Retry.Basic
import RemoteCall.Json.Conversion
import RemoteCall.Json.Equality

/-!
# Retry settings as JSON

The description of retry settings is an object with nine members, durations in seconds. Reading takes any of the members
in any order, converts leniently, leaves the others at their defaults and checks the policy at the end.
-/

namespace RemoteCall.RetrySettings

def toMembers (s : RetrySettings) : List (String × Json) := [
  ("total_timeout_seconds", .double s.totalTimeout.seconds),
  ("initial_retry_delay_seconds", .double s.initialRetryDelay.seconds),
  ("retry_delay_multiplier", .number s.retryDelayMultiplier),
  ("max_retry_delay_seconds", .double s.maxRetryDelay.seconds),
  ("max_attempts", .int s.maxAttempts),
  ("jittered", .bool s.jittered),
  ("initial_rpc_timeout_seconds", .double s.initialRpcTimeout.seconds),
  ("rpc_timeout_multiplier", .number s.rpcTimeoutMultiplier),
  ("max_rpc_timeout_seconds", .double s.maxRpcTimeout.seconds)]

def setMember (s : RetrySettings) (key : String) (v : Json) : Except Fault RetrySettings :=
  match key with
  | "total_timeout_seconds" => return { s with totalTimeout := ← v.toDuration }
  | "initial_retry_delay_seconds" => return { s with initialRetryDelay := ← v.toDuration }
  | "max_retry_delay_seconds" => return { s with maxRetryDelay := ← v.toDuration }
  | "initial_rpc_timeout_seconds" => return { s with initialRpcTimeout := ← v.toDuration }
  | "max_rpc_timeout_seconds" => return { s with maxRpcTimeout := ← v.toDuration }
  | "retry_delay_multiplier" => return { s with retryDelayMultiplier := .double (← v.toDouble) }
  | "rpc_timeout_multiplier" => return { s with rpcTimeoutMultiplier := .double (← v.toDouble) }
  | "max_attempts" => return { s with maxAttempts := ← v.toInteger }
  | "jittered" => return { s with jittered := v.truthy }
  | _ => .error (.unknownRetrySetting key)

def ofMembers (members : List (String × Json)) : Except Fault RetrySettings := do
  check (← members.foldlM (fun s m => s.setMember m.1 m.2) default)

/-- Whether two settings are equal, multipliers by numeric value. -/
def same (s t : RetrySettings) : Bool :=
  s.totalTimeout == t.totalTimeout && s.initialRetryDelay == t.initialRetryDelay &&
    Json.sameNumber s.retryDelayMultiplier t.retryDelayMultiplier && s.maxRetryDelay == t.maxRetryDelay &&
    s.maxAttempts == t.maxAttempts && s.jittered == t.jittered &&
    s.initialRpcTimeout == t.initialRpcTimeout &&
    Json.sameNumber s.rpcTimeoutMultiplier t.rpcTimeoutMultiplier && s.maxRpcTimeout == t.maxRpcTimeout

end RemoteCall.RetrySettings
