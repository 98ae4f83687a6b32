import RemoteCall.Retry.Description
import RemoteCall.Proofs.Duration
import RemoteCall.Proofs.Results

/-!
# Full descriptions of retry settings

A description with all nine members fixes every field, so reading it converts the values one after the other and checks
the policy of what they make up. The first value that cannot be converted is the fault. Settings that keep the policy,
with multipliers that are doubles and durations that are short, come back from their own description.
-/

namespace RemoteCall.RetrySettings

def fullMembers (totalTimeout initialRetryDelay retryDelayMultiplier maxRetryDelay maxAttempts jittered
    initialRpcTimeout rpcTimeoutMultiplier maxRpcTimeout : Json) : List (String × Json) := [
  ("total_timeout_seconds", totalTimeout),
  ("initial_retry_delay_seconds", initialRetryDelay),
  ("retry_delay_multiplier", retryDelayMultiplier),
  ("max_retry_delay_seconds", maxRetryDelay),
  ("max_attempts", maxAttempts),
  ("jittered", jittered),
  ("initial_rpc_timeout_seconds", initialRpcTimeout),
  ("rpc_timeout_multiplier", rpcTimeoutMultiplier),
  ("max_rpc_timeout_seconds", maxRpcTimeout)]

theorem toMembers_eq (s : RetrySettings) : s.toMembers = fullMembers (.double s.totalTimeout.seconds)
    (.double s.initialRetryDelay.seconds) (.number s.retryDelayMultiplier) (.double s.maxRetryDelay.seconds)
    (.int s.maxAttempts) (.bool s.jittered) (.double s.initialRpcTimeout.seconds) (.number s.rpcTimeoutMultiplier)
    (.double s.maxRpcTimeout.seconds) := rfl

theorem ofMembers_fullMembers (totalTimeout initialRetryDelay retryDelayMultiplier maxRetryDelay maxAttempts jittered
    initialRpcTimeout rpcTimeoutMultiplier maxRpcTimeout : Json) :
    ofMembers (fullMembers totalTimeout initialRetryDelay retryDelayMultiplier maxRetryDelay maxAttempts jittered
      initialRpcTimeout rpcTimeoutMultiplier maxRpcTimeout) = (do
    let totalTimeout ← totalTimeout.toDuration
    let initialRetryDelay ← initialRetryDelay.toDuration
    let retryDelayMultiplier ← retryDelayMultiplier.toDouble
    let maxRetryDelay ← maxRetryDelay.toDuration
    let maxAttempts ← maxAttempts.toInteger
    let initialRpcTimeout ← initialRpcTimeout.toDuration
    let rpcTimeoutMultiplier ← rpcTimeoutMultiplier.toDouble
    let maxRpcTimeout ← maxRpcTimeout.toDuration
    check ⟨totalTimeout, initialRetryDelay, .double retryDelayMultiplier, maxRetryDelay, maxAttempts, jittered.truthy,
      initialRpcTimeout, .double rpcTimeoutMultiplier, maxRpcTimeout⟩) := by
  simp only [ofMembers, fullMembers, List.foldlM_cons, List.foldlM_nil, setMember, bind_assoc, pure_bind]

/-! ## Reading a description back -/

/-- The settings keep the policy, and their description holds their values exactly. -/
structure Describable (s : RetrySettings) : Prop where
  valid : s.violation? = none
  short : ∀ d ∈ s.durations, d.2.Short
  retryDelayMultiplier : ∃ x, s.retryDelayMultiplier = .double x
  rpcTimeoutMultiplier : ∃ x, s.rpcTimeoutMultiplier = .double x

theorem nonneg_of_valid {s : RetrySettings} (h : s.violation? = none) {d : String × Duration} (hd : d ∈ s.durations) :
    Duration.zero ≤ d.2 := by
  have hf : s.durations.find? (fun d => d.2 < Duration.zero) = none := by
    unfold violation? at h
    split at h
    · cases h
    · assumption
  have hn := List.find?_eq_none.mp hf d hd
  simpa [Duration.le_def, Duration.lt_def] using hn

theorem ofMembers_toMembers {s : RetrySettings} (h : s.Describable) : ofMembers s.toMembers = .ok s := by
  have read (d : Duration) (name : String) (hd : (name, d) ∈ s.durations) :
      (Json.double d.seconds).toDuration = .ok d :=
    Duration.ofSeconds_of_short (nonneg_of_valid h.valid hd) (h.short _ hd)
  have hc : check s = .ok s := by simp only [check, h.valid]
  obtain ⟨x, hx⟩ := h.retryDelayMultiplier
  obtain ⟨y, hy⟩ := h.rpcTimeoutMultiplier
  rw [toMembers_eq, ofMembers_fullMembers, hx, hy,
    read s.totalTimeout "total_timeout" (by simp [durations]),
    read s.initialRetryDelay "initial_retry_delay" (by simp [durations]),
    read s.maxRetryDelay "max_retry_delay" (by simp [durations]),
    read s.initialRpcTimeout "initial_rpc_timeout" (by simp [durations]),
    read s.maxRpcTimeout "max_rpc_timeout" (by simp [durations])]
  simp only [Json.toDouble, Json.toInteger, Json.int, Json.truthy, ok_bind, ← hx, ← hy, hc]

end RemoteCall.RetrySettings
