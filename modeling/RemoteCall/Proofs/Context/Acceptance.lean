import RemoteCall.Proofs.Context.Overflow
import RemoteCall.Proofs.DurationOrder
import RemoteCall.Proofs.Policy

/-!
# Which settings are taken over

A configuration gives settings whose numbers keep their bounds. A context is built from such settings unless one of the
numbers of seconds is no duration, or a first delay or timeout is larger than its limit. The durations themselves are
never out of order where the configured numbers are in order, and nothing else that is checked on the way can fail.
-/

namespace RemoteCall

/-! ## Retry settings of settings -/

namespace Settings

section
variable {s : Settings} {f : Fault}

theorem retrySettings_eq_error (h : s.retrySettings = .error f) :
    (∃ x ∈ s.retrySeconds, Duration.ofSeconds (.double x) = .error f) ∨ ∃ r, s.Describes r ∧ r.check = .error f := by
  obtain h | ⟨_, ht, h⟩ := bind_eq_error.mp h
  · exact .inl ⟨_, by simp [retrySeconds], h⟩
  obtain h | ⟨_, hi, h⟩ := bind_eq_error.mp h
  · exact .inl ⟨_, by simp [retrySeconds], h⟩
  obtain h | ⟨_, hm, h⟩ := bind_eq_error.mp h
  · exact .inl ⟨_, by simp [retrySeconds], h⟩
  obtain h | ⟨_, hri, h⟩ := bind_eq_error.mp h
  · exact .inl ⟨_, by simp [retrySeconds], h⟩
  obtain h | ⟨_, hrm, h⟩ := bind_eq_error.mp h
  · exact .inl ⟨_, by simp [retrySeconds], h⟩
  exact .inr ⟨_, ⟨ht, hi, hm, hri, hrm, rfl, rfl, rfl⟩, h⟩

end

end Settings

/-! ## Configured settings -/

theorem SettingValue.nonneg_of_natural {v : Json} {i : Int} (h : natural v = .ok i) : 0 ≤ i := by
  obtain ⟨j, -, h⟩ := bind_eq_ok.mp h
  split at h
  · cases h
  · cases h
    omega

namespace Settings

theorem inBounds_of_ofMembers {members : List (String × Json)} {s : Settings} (h : ofMembers members = .ok s) :
    s.InBounds := by
  obtain ⟨hdelay, hrpc⟩ := atLeastOne_of_ofMembers h
  have hs : ∀ x ∈ default.retrySeconds, x.bltInt 0 = false := by decide +kernel
  simp only [retrySeconds, List.forall_mem_cons, List.not_mem_nil, false_implies, implies_true, and_true] at hs
  obtain ⟨st, si, sm, sri, srm⟩ := hs
  have hn (v : Json) (x : Binary64) (hx : SettingValue.numberFrom 0 v = .ok x) : x.bltInt 0 = false :=
    (SettingValue.bounds_of_numberFrom hx).2
  simp only [ofMembers, Checked.toExcept_eq_ok, Checked.apply_eq_ok, Checked.map_eq_ok] at h
  obtain ⟨_, _, ⟨_, h, rfl⟩, -, rfl⟩ := h
  -- The settings are peeled off from the last one on; only the numbers with bounds are looked at.
  iterate 3 obtain ⟨_, _, h, -, rfl⟩ := h
  obtain ⟨_, _, h, hrm, rfl⟩ := h
  obtain ⟨_, _, h, -, rfl⟩ := h
  obtain ⟨_, _, h, hri, rfl⟩ := h
  obtain ⟨_, _, h, -, rfl⟩ := h
  obtain ⟨_, _, h, ha, rfl⟩ := h
  obtain ⟨_, _, h, hm, rfl⟩ := h
  obtain ⟨_, _, h, -, rfl⟩ := h
  obtain ⟨_, _, h, hi, rfl⟩ := h
  obtain ⟨_, _, h, ht, rfl⟩ := h
  obtain ⟨_, _, h, -, rfl⟩ := h
  obtain ⟨_, timeout, ⟨⟩, hd, rfl⟩ := h
  refine ⟨?_, .inl hdelay, .inl hrpc, ?_⟩
  · intro x hx
    rcases mem_seconds.mp hx with hx | hx
    · refine SettingValue.holds_of_field (p := fun o => ∀ x ∈ o, x.bltInt 0 = false) ?_ (by simp [default]) hd x hx
      intro v o h
      split at h
      · cases h
        simp
      · obtain ⟨y, hy, rfl⟩ := map_eq_ok.mp h
        rintro _ ⟨⟩
        exact (SettingValue.bounds_of_numberFrom hy).2
    · simp only [retrySeconds, List.mem_cons, List.not_mem_nil, or_false] at hx
      rcases hx with rfl | rfl | rfl | rfl | rfl
      · exact SettingValue.holds_of_field hn st ht
      · exact SettingValue.holds_of_field hn si hi
      · exact SettingValue.holds_of_field hn sm hm
      · exact SettingValue.holds_of_field hn sri hri
      · exact SettingValue.holds_of_field hn srm hrm
  · exact SettingValue.holds_of_field (fun _ _ => SettingValue.nonneg_of_natural)
      (by decide : 0 ≤ default.retryMaxAttempts) ha

theorem inBounds_of_configuration {sources : SettingSources} {s : Settings} (h : sources.settings = .ok s) :
    s.InBounds := by
  obtain ⟨members, -, hm⟩ := bind_eq_ok.mp h
  exact inBounds_of_ofMembers (mapError_eq_ok.mp hm)

end Settings

/-! ## Checked retry settings -/

namespace RetrySettings

theorem check_eq_error {r : RetrySettings} {f : Fault} : r.check = .error f ↔ r.violation? = some f := by
  unfold check
  cases r.violation? <;> simp

/-- Once all but the limits is within bounds, only a limit can be broken. -/
theorem limit_of_check_eq_error {r : RetrySettings} {f : Fault} (hd : ∀ d ∈ r.durations, Duration.zero ≤ d.2)
    (hm : r.retryDelayMultiplier.NotBelowOne) (hr : r.rpcTimeoutMultiplier.NotBelowOne) (ha : 0 ≤ r.maxAttempts)
    (h : r.check = .error f) :
    f = .limitBelowInitial "max_retry_delay" "initial_retry_delay" ∧ ¬ r.initialRetryDelay ≤ r.maxRetryDelay ∨
      f = .limitBelowInitial "max_rpc_timeout" "initial_rpc_timeout" ∧ ¬ r.initialRpcTimeout ≤ r.maxRpcTimeout := by
  have hf : r.durations.find? (fun d => d.2 < Duration.zero) = none := by
    simpa [List.find?_eq_none, Duration.le_def, Duration.lt_def] using hd
  rw [check_eq_error, violation?, hf] at h
  simp only [belowOne_eq_false.mpr hm, belowOne_eq_false.mpr hr, Bool.false_eq_true, if_false,
    if_neg (Int.not_lt.mpr ha)] at h
  split_ifs at h with hl hl'
  · cases h
    exact .inl ⟨rfl, Int.not_le.mpr hl⟩
  · cases h
    exact .inr ⟨rfl, Int.not_le.mpr hl'⟩

end RetrySettings

namespace Settings

variable {s : Settings} {r : RetrySettings} {f : Fault}

theorem Describes.durations_nonneg (h : s.Describes r) (hb : s.InBounds) : ∀ d ∈ r.durations, Duration.zero ≤ d.2 := by
  have hx : ∀ x ∈ s.retrySeconds, x.bltInt 0 = false := fun x hx => hb.seconds_nonneg x (mem_seconds.mpr (.inr hx))
  simp only [retrySeconds, List.forall_mem_cons, List.not_mem_nil, false_implies, implies_true, and_true] at hx
  obtain ⟨ht, hi, hm, hri, hrm⟩ := hx
  simp only [RetrySettings.durations, List.forall_mem_cons, List.not_mem_nil, false_implies, implies_true, and_true]
  exact ⟨Duration.ofSeconds_nonneg ht h.totalTimeout, Duration.ofSeconds_nonneg hi h.initialRetryDelay,
    Duration.ofSeconds_nonneg hm h.maxRetryDelay, Duration.ofSeconds_nonneg hri h.initialRpcTimeout,
    Duration.ofSeconds_nonneg hrm h.maxRpcTimeout⟩

/-- As no order is lost on the way to durations, a limit that is broken is below its first value as it is configured. -/
theorem Describes.blt_of_check (h : s.Describes r) (hb : s.InBounds) (hf : r.check = .error f) :
    f = .limitBelowInitial "max_retry_delay" "initial_retry_delay" ∧
        s.retryMaxDelaySeconds.blt s.retryInitialDelaySeconds = true ∨
      f = .limitBelowInitial "max_rpc_timeout" "initial_rpc_timeout" ∧
        s.retryMaxRpcTimeoutSeconds.blt s.retryInitialRpcTimeoutSeconds = true := by
  have blt {x y : Binary64} {a b : Duration} (hx : Duration.ofSeconds (.double x) = .ok a)
      (hy : Duration.ofSeconds (.double y) = .ok b) (hab : ¬ a ≤ b) : y.blt x = true := by
    by_contra hlt
    exact hab (Duration.ofSeconds_mono hx hy (Bool.not_eq_true _ ▸ hlt))
  have hm : r.retryDelayMultiplier.NotBelowOne := h.retryDelayMultiplier ▸ hb.retryDelay_multiplier
  have hr : r.rpcTimeoutMultiplier.NotBelowOne := h.rpcTimeoutMultiplier ▸ hb.rpcTimeout_multiplier
  have ha : 0 ≤ r.maxAttempts := h.maxAttempts ▸ hb.attempts_nonneg
  obtain ⟨he, hl⟩ | ⟨he, hl⟩ := RetrySettings.limit_of_check_eq_error (h.durations_nonneg hb) hm hr ha hf
  · exact .inl ⟨he, blt h.initialRetryDelay h.maxRetryDelay hl⟩
  · exact .inr ⟨he, blt h.initialRpcTimeout h.maxRpcTimeout hl⟩

theorem Describes.exists_ofSeconds (h : s.Describes r) {x : Binary64} (hx : x ∈ s.retrySeconds) :
    ∃ d, Duration.ofSeconds (.double x) = .ok d := by
  simp only [retrySeconds, List.mem_cons, List.not_mem_nil, or_false] at hx
  rcases hx with rfl | rfl | rfl | rfl | rfl
  · exact ⟨_, h.totalTimeout⟩
  · exact ⟨_, h.initialRetryDelay⟩
  · exact ⟨_, h.maxRetryDelay⟩
  · exact ⟨_, h.initialRpcTimeout⟩
  · exact ⟨_, h.maxRpcTimeout⟩

theorem defaultTimeout_eq_error : s.defaultTimeout = .error f ↔
    ∃ x, s.defaultTimeoutSeconds = some x ∧ x.isZero = false ∧ Duration.ofSeconds (.double x) = .error f := by
  unfold defaultTimeout
  cases s.defaultTimeoutSeconds with
  | none => simp
  | some x => by_cases hz : x.isZero <;> simp [hz, bind_eq_error]

end Settings

/-! ## Contexts from settings -/

namespace Context

open Settings Duration

section
variable {s : Settings} {f : Fault}

theorem outOfRange_of_ofSeconds {x : Binary64} (hc : x.Canonical) (h0 : x.bltInt 0 = false)
    (h : ofSeconds (.double x) = .error f) : OutOfRange x := by
  by_contra hr
  obtain ⟨a, ha⟩ := (exists_ofSeconds hc h0).mpr hr
  rw [ha] at h
  cases h

theorem exists_error_of_outOfRange {x : Binary64} (hc : x.Canonical) (h0 : x.bltInt 0 = false) (hr : OutOfRange x) :
    ∃ f, ofSeconds (.double x) = .error f := by
  cases h : ofSeconds (.double x) with
  | ok a => exact absurd hr ((exists_ofSeconds hc h0).mp ⟨a, h⟩)
  | error f => exact ⟨f, rfl⟩

end

/-- Taking over settings within their bounds fails only for a number of seconds out of range, or for a first delay or
timeout that is larger than its limit as configured. A number out of range does make it fail. -/
theorem ofSettings_refuses_only (t : Transport) {s : Settings} (hb : s.InBounds) (hc : ∀ x ∈ s.seconds, x.Canonical) :
    (∀ f, ofSettings t s = .error f →
      (∃ x ∈ s.seconds, OutOfRange x ∧ ofSeconds (.double x) = .error f) ∨
      f = .limitBelowInitial "max_retry_delay" "initial_retry_delay" ∧
        s.retryMaxDelaySeconds.blt s.retryInitialDelaySeconds = true ∨
      f = .limitBelowInitial "max_rpc_timeout" "initial_rpc_timeout" ∧
        s.retryMaxRpcTimeoutSeconds.blt s.retryInitialRpcTimeoutSeconds = true) ∧
    ((∃ x ∈ s.seconds, OutOfRange x) → ∃ f, ofSettings t s = .error f) := by
  constructor
  · intro f hf
    -- the fault of a number of seconds shows that the number is out of range
    have number {x : Binary64} (hx : x ∈ s.seconds) (h : ofSeconds (.double x) = .error f) :
        ∃ x ∈ s.seconds, OutOfRange x ∧ ofSeconds (.double x) = .error f :=
      ⟨x, hx, outOfRange_of_ofSeconds (hc x hx) (hb.seconds_nonneg x hx) h, h⟩
    obtain h | ⟨-, h⟩ := ofSettings_eq_error.mp hf
    · obtain ⟨x, hx, -, he⟩ := defaultTimeout_eq_error.mp h
      exact .inl (number (mem_seconds.mpr (.inl hx)) he)
    · obtain ⟨x, hx, he⟩ | ⟨r, hr, he⟩ := retrySettings_eq_error h
      · exact .inl (number (mem_seconds.mpr (.inr hx)) he)
      · exact .inr (hr.blt_of_check hb he)
  · rintro ⟨x, hx, hr⟩
    obtain ⟨f, hf⟩ := exists_error_of_outOfRange (hc x hx) (hb.seconds_nonneg x hx) hr
    cases hd : s.defaultTimeout with
    | error g => exact ⟨g, ofSettings_eq_error.mpr (.inl hd)⟩
    | ok d =>
      rcases mem_seconds.mp hx with hx | hx
      · -- zero is no number out of range, so the default timeout is converted
        have hz : x.isZero = false := by
          by_contra hz
          rw [ofSeconds_of_isZero (Bool.not_eq_false _ ▸ hz)] at hf
          cases hf
        rw [defaultTimeout_eq_error.mpr ⟨x, hx, hz, hf⟩] at hd
        cases hd
      · cases hs : s.retrySettings with
        | error g => exact ⟨g, ofSettings_eq_error.mpr (.inr ⟨⟨d, hd⟩, hs⟩)⟩
        | ok r =>
          obtain ⟨a, ha⟩ := (describes_of_retrySettings hs).1.exists_ofSeconds hx
          rw [ha] at hf
          cases hf

/-- A limit of `0.05` seconds is below the first delay of `0.1` seconds, and a budget of a billion days is no duration. -/
theorem ofSettings_refuses_only_numbers :
    let low : Settings := { Settings.default with retryMaxDelaySeconds := .ofDecimal false 5 (-2) }
    let long : Settings := { Settings.default with retryTotalTimeoutSeconds := .ofDecimal false 864 11 }
    (SettingSources.settings ⟨[("retry_max_delay_seconds", .string "0.05")], [], none⟩ = .ok low ∧
      SettingSources.settings ⟨[("retry_total_timeout_seconds", .string "864e11")], [], none⟩ = .ok long) ∧
    (low.InBounds ∧ ∀ x ∈ low.seconds, x.Canonical) ∧ (long.InBounds ∧ ∀ x ∈ long.seconds, x.Canonical) ∧
    ofSettings .httpJson low = .error (.limitBelowInitial "max_retry_delay" "initial_retry_delay") ∧
    ∃ f, ofSettings .streaming long = .error f := by
  intro low long
  have hlow : SettingSources.settings ⟨[("retry_max_delay_seconds", .string "0.05")], [], none⟩ = .ok low :=
    eq_ok_of_toOption (by decide +kernel)
  have hlong : SettingSources.settings ⟨[("retry_total_timeout_seconds", .string "864e11")], [], none⟩ = .ok long :=
    eq_ok_of_toOption (by decide +kernel)
  have clow : ∀ x ∈ low.seconds, x.Canonical := by decide +kernel
  have clong : ∀ x ∈ long.seconds, x.Canonical := by decide +kernel
  refine ⟨⟨hlow, hlong⟩, ⟨inBounds_of_configuration hlow, clow⟩, ⟨inBounds_of_configuration hlong, clong⟩, ?_, ?_⟩
  · have hf : (ofSettings .httpJson low).isOk = false := by decide +kernel
    cases h : ofSettings .httpJson low with
    | ok c => rw [h] at hf; cases hf
    | error f =>
      have hrange : ∀ x ∈ low.seconds, ¬ OutOfRange x := by decide +kernel
      have hrpc : low.retryMaxRpcTimeoutSeconds.blt low.retryInitialRpcTimeoutSeconds = false := by decide +kernel
      obtain ⟨x, hx, hr, -⟩ | ⟨rfl, -⟩ | ⟨-, hlt⟩ :=
        (ofSettings_refuses_only .httpJson (inBounds_of_configuration hlow) clow).1 _ h
      · exact absurd hr (hrange x hx)
      · rfl
      · rw [hrpc] at hlt; cases hlt
  · exact (ofSettings_refuses_only .streaming (inBounds_of_configuration hlong) clong).2
      ⟨long.retryTotalTimeoutSeconds, mem_seconds.mpr (.inr List.mem_cons_self), .inr (by decide +kernel)⟩

end Context

end RemoteCall
