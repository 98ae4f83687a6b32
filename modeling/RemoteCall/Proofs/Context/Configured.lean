import RemoteCall.Context.Configured
import RemoteCall.Proofs.Context.Loading
import RemoteCall.Proofs.Duration
import RemoteCall.Proofs.Retry
import RemoteCall.Proofs.Status

/-!
# Settings as a description

Settings can be written down as the description of a context. Loading it gives what building the context from the
settings gives: the same context, or the same fault.
-/

namespace RemoteCall

/-! ## The description -/

namespace Settings

def retryMembers (s : Settings) : List (String × Json) :=
  RetrySettings.fullMembers (.double s.retryTotalTimeoutSeconds) (.double s.retryInitialDelaySeconds)
    (.double s.retryDelayMultiplier) (.double s.retryMaxDelaySeconds) (.int s.retryMaxAttempts) (.bool s.retryJittered)
    (.double s.retryInitialRpcTimeoutSeconds) (.double s.retryRpcTimeoutMultiplier)
    (.double s.retryMaxRpcTimeoutSeconds)

/-- The description of the context that the settings stand for. A timeout that is not set has no entry. -/
def description (s : Settings) : List (String × Json) :=
  (s.defaultTimeoutSeconds.map fun x => ("timeout_seconds", Json.double x)).toList ++ [
    ("extra_headers", .object s.headerMembers),
    ("retry_settings", .object s.retryMembers),
    ("retryable_codes", .list (s.retryableCodes.map (.string ·.name)))]

theorem ofMembers_retryMembers (s : Settings) : RetrySettings.ofMembers s.retryMembers = s.retrySettings := by
  simp only [retryMembers, RetrySettings.ofMembers_fullMembers, retrySettings, Json.double, Json.int, Json.toDuration,
    Json.toDouble, Json.toInteger, Json.truthy, ok_bind]

end Settings

/-! ## Loading it -/

namespace Context

variable (t : Transport) (s : Settings)

/-- A default timeout of zero seconds is none, as is an entry of zero seconds. -/
theorem withTimeout_defaultTimeout (x : Binary64) (h : s.defaultTimeoutSeconds = some x) :
    (s.defaultTimeout.map fun d => (create t).withTimeout d) =
      (Duration.ofSeconds (.double x)).map fun d => (create t).withTimeout (some d) := by
  simp only [Settings.defaultTimeout, h]
  split
  · rename_i hz
    rw [Duration.ofSeconds_of_isZero hz]
    rfl
  · cases Duration.ofSeconds (.double x) <;> rfl

theorem load_timeout (x : Binary64) (rest : List (String × Json)) :
    load t (("timeout_seconds", .double x) :: rest) =
      ((Duration.ofSeconds (.double x)).map fun d => (create t).withTimeout (some d)) >>= fun c =>
        rest.foldlM (fun c e => c.setEntry e.1 e.2) c := by
  simp only [load, List.foldlM_cons, setEntry, Json.double, secondsField]
  cases Duration.ofSeconds (.double x) <;> rfl

theorem foldlM_description (c : Context) :
    [("extra_headers", Json.object s.headerMembers), ("retry_settings", .object s.retryMembers),
      ("retryable_codes", .list (s.retryableCodes.map (.string ·.name)))].foldlM (fun c e => c.setEntry e.1 e.2) c = (do
    let c ← c.withHeaders (some s.headerMembers)
    return (c.withRetry (some (← s.retrySettings))).withCodes (some (.ofList s.retryableCodes))) := by
  simp only [List.foldlM_cons, List.foldlM_nil, setEntry, objectField, listField, ok_bind, bind_assoc, pure_bind,
    Settings.ofMembers_retryMembers, Status.mapM_ofJson_names]

/-- Building a context from settings is loading the description of the settings, for any numbers in the settings: both
give the same context, or both fail with the same fault. -/
theorem ofSettings_eq_load : ofSettings t s = load t s.description := by
  cases h : s.defaultTimeoutSeconds with
  | none =>
    have hd : s.defaultTimeout = .ok none := by simp only [Settings.defaultTimeout, h]
    simp only [ofSettings, hd, ok_bind, Settings.description, h, Option.map_none, Option.toList_none, List.nil_append,
      load, foldlM_description]
    rfl
  | some x =>
    have hd := withTimeout_defaultTimeout t s x h
    simp only [Settings.description, h, Option.map_some, Option.toList_some, List.singleton_append, load_timeout, ← hd,
      foldlM_description, ofSettings]
    cases s.defaultTimeout <;> rfl

end Context

end RemoteCall
