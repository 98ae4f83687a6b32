import RemoteCall.Duration

/-!
# Retry settings

How often and how soon a call is tried again: a budget of time and attempts, a delay that grows between attempts, and a
timeout for each attempt that grows too. `RetrySettings.check` accepts the settings that satisfy the whole policy.
-/

namespace RemoteCall

structure RetrySettings where
  /-- The budget across all attempts; zero is no bound. -/
  totalTimeout : Duration
  /-- The delay before the first retry. -/
  initialRetryDelay : Duration
  /-- What the delay is multiplied by after each retry. -/
  retryDelayMultiplier : Number
  maxRetryDelay : Duration
  /-- The number of attempts; zero is no bound. -/
  maxAttempts : Int
  /-- Whether delays are randomized. -/
  jittered : Bool
  /-- The timeout of the first attempt. -/
  initialRpcTimeout : Duration
  /-- What the timeout is multiplied by after each attempt. -/
  rpcTimeoutMultiplier : Number
  maxRpcTimeout : Duration
deriving DecidableEq, Repr

namespace RetrySettings

/-- No delays, no timeouts and no bounds. -/
def default : RetrySettings where
  totalTimeout := .zero
  initialRetryDelay := .zero
  retryDelayMultiplier := .double .one
  maxRetryDelay := .zero
  maxAttempts := 0
  jittered := true
  initialRpcTimeout := .zero
  rpcTimeoutMultiplier := .double .one
  maxRpcTimeout := .zero

instance : Inhabited RetrySettings := ⟨default⟩

/-- The durations with their names, in the order in which they are checked. -/
def durations (s : RetrySettings) : List (String × Duration) := [
  ("total_timeout", s.totalTimeout), ("initial_retry_delay", s.initialRetryDelay),
  ("max_retry_delay", s.maxRetryDelay), ("initial_rpc_timeout", s.initialRpcTimeout),
  ("max_rpc_timeout", s.maxRpcTimeout)]

/-- Whether a multiplier is less than one; a NaN is not. -/
def belowOne (multiplier : Number) : Bool := multiplier.blt (.integer 1)

/-- The first part of the policy that the settings break. -/
def violation? (s : RetrySettings) : Option Fault :=
  match s.durations.find? fun d => d.2 < Duration.zero with
  | some (name, _) => some (.negativeSetting name)
  | none =>
    if belowOne s.retryDelayMultiplier then some (.multiplierBelowOne "retry_delay_multiplier")
    else if belowOne s.rpcTimeoutMultiplier then some (.multiplierBelowOne "rpc_timeout_multiplier")
    else if s.maxAttempts < 0 then some (.negativeSetting "max_attempts")
    else if s.maxRetryDelay < s.initialRetryDelay then
      some (.limitBelowInitial "max_retry_delay" "initial_retry_delay")
    else if s.maxRpcTimeout < s.initialRpcTimeout then
      some (.limitBelowInitial "max_rpc_timeout" "initial_rpc_timeout")
    else none

def check (s : RetrySettings) : Except Fault RetrySettings :=
  match s.violation? with
  | some fault => .error fault
  | none => .ok s

/-- Exactly one attempt with the given timeout, where zero is no timeout. -/
def singleAttempt (timeout : Duration) : Except Fault RetrySettings :=
  check { default with totalTimeout := timeout, maxAttempts := 1, initialRpcTimeout := timeout,
                       maxRpcTimeout := timeout }

end RetrySettings

end RemoteCall
