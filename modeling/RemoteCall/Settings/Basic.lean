import RemoteCall.Event
import RemoteCall.Retry.Description
import RemoteCall.Status

/-!
# Settings

The client-wide defaults that contexts are built from, all valid by themselves: seconds are not negative, multipliers at
least one. Whether they make sense together shows when the retry settings are built from them.
-/

namespace RemoteCall

structure Settings where
  defaultTimeoutSeconds : Option Binary64
  defaultHeaders : List (String × List String)
  retryTotalTimeoutSeconds : Binary64
  retryInitialDelaySeconds : Binary64
  retryDelayMultiplier : Binary64
  retryMaxDelaySeconds : Binary64
  retryMaxAttempts : Int
  retryJittered : Bool
  retryInitialRpcTimeoutSeconds : Binary64
  retryRpcTimeoutMultiplier : Binary64
  retryMaxRpcTimeoutSeconds : Binary64
  retryableCodes : List Status
  logLevel : LogLevel
  logJson : Bool
deriving DecidableEq, Repr

namespace Settings

/-- The settings where nothing is configured. -/
def default : Settings where
  defaultTimeoutSeconds := none
  defaultHeaders := []
  retryTotalTimeoutSeconds := .ofDecimal false 600 0
  retryInitialDelaySeconds := .ofDecimal false 1 (-1)
  retryDelayMultiplier := .ofDecimal false 13 (-1)
  retryMaxDelaySeconds := .ofDecimal false 60 0
  retryMaxAttempts := 0
  retryJittered := true
  retryInitialRpcTimeoutSeconds := .ofDecimal false 60 0
  retryRpcTimeoutMultiplier := .one
  retryMaxRpcTimeoutSeconds := .ofDecimal false 60 0
  retryableCodes := [.unavailable, .deadlineExceeded]
  logLevel := .info
  logJson := false

instance : Inhabited Settings := ⟨default⟩

/-- The default timeout; zero disables it. -/
def defaultTimeout (s : Settings) : Except Fault (Option Duration) :=
  match s.defaultTimeoutSeconds with
  | none => .ok none
  | some x => if x.isZero then .ok none else return some (← Duration.ofSeconds (.double x))

def retrySettings (s : Settings) : Except Fault RetrySettings := do
  RetrySettings.check {
    totalTimeout := ← Duration.ofSeconds (.double s.retryTotalTimeoutSeconds)
    initialRetryDelay := ← Duration.ofSeconds (.double s.retryInitialDelaySeconds)
    retryDelayMultiplier := .double s.retryDelayMultiplier
    maxRetryDelay := ← Duration.ofSeconds (.double s.retryMaxDelaySeconds)
    maxAttempts := s.retryMaxAttempts
    jittered := s.retryJittered
    initialRpcTimeout := ← Duration.ofSeconds (.double s.retryInitialRpcTimeoutSeconds)
    rpcTimeoutMultiplier := .double s.retryRpcTimeoutMultiplier
    maxRpcTimeout := ← Duration.ofSeconds (.double s.retryMaxRpcTimeoutSeconds) }

def headerMembers (s : Settings) : List (String × Json) :=
  s.defaultHeaders.map fun h => (h.1, .list (h.2.map .string))

/-- The settings as members of an object, in the order of declaration. -/
def toMembers (s : Settings) : List (String × Json) := [
  ("default_timeout_seconds", Json.ofOption .double s.defaultTimeoutSeconds),
  ("default_headers", .object s.headerMembers),
  ("retry_total_timeout_seconds", .double s.retryTotalTimeoutSeconds),
  ("retry_initial_delay_seconds", .double s.retryInitialDelaySeconds),
  ("retry_delay_multiplier", .double s.retryDelayMultiplier),
  ("retry_max_delay_seconds", .double s.retryMaxDelaySeconds),
  ("retry_max_attempts", .int s.retryMaxAttempts),
  ("retry_jittered", .bool s.retryJittered),
  ("retry_initial_rpc_timeout_seconds", .double s.retryInitialRpcTimeoutSeconds),
  ("retry_rpc_timeout_multiplier", .double s.retryRpcTimeoutMultiplier),
  ("retry_max_rpc_timeout_seconds", .double s.retryMaxRpcTimeoutSeconds),
  ("retryable_codes", .list (s.retryableCodes.map (.string ·.name))),
  ("log_level", .string s.logLevel.name),
  ("log_json", .bool s.logJson)]

/-- The settings as they are shown, with the retry settings they describe. -/
def shown (s : Settings) : Except Fault (List (String × Json)) :=
  return s.toMembers ++ [("retry_settings", .object (← s.retrySettings).toMembers)]

end Settings

end RemoteCall
