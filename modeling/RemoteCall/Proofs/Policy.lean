import RemoteCall.Proofs.Context.Fields
import RemoteCall.Proofs.Overflow
import RemoteCall.Settings.Sources

/-!
# The policy of retry settings

Retry settings are built directly, read from a description, taken from configured settings or loaded with a context. On
all these ways they pass one check, which refuses what is below a bound. A NaN is below nothing, so what passes is the
policy with a NaN allowed as multiplier. A configuration refuses a NaN as well.
-/

namespace RemoteCall

/-! ## Multipliers -/

namespace Number

def AtLeastOne : Number → Prop
  | integer i => 1 ≤ i
  | double .nan => False
  | double (.infinite negative) => negative = false
  | double x => 1 ≤ x.value

/-- A NaN is neither below one nor at least one. -/
def NotBelowOne (m : Number) : Prop := m.AtLeastOne ∨ m = double .nan

theorem not_atLeastOne_nan : ¬ AtLeastOne (double .nan) := fun h => h

theorem notBelowOne_and_ne_nan {m : Number} : m.NotBelowOne ∧ m ≠ double .nan ↔ m.AtLeastOne := by
  constructor
  · rintro ⟨h | h, hn⟩
    · exact h
    · exact absurd h hn
  · intro h
    refine ⟨.inl h, ?_⟩
    rintro rfl
    exact not_atLeastOne_nan h

end Number

theorem Binary64.bltInt_one_eq_false {x : Binary64} (hn : x.isNaN = false) :
    x.bltInt 1 = false ↔ (Number.double x).AtLeastOne := by
  match x with
  | .nan => cases hn
  | .infinite negative => exact Iff.rfl
  | .finite negative significand exponent =>
    simp only [bltInt, Number.AtLeastOne, decide_eq_false_iff_not]
    exact Rat.not_lt

namespace RetrySettings

theorem belowOne_eq_false {m : Number} : belowOne m = false ↔ m.NotBelowOne := by
  match m with
  | .integer i => simp [belowOne, Number.blt, Number.NotBelowOne, Number.AtLeastOne]
  | .double .nan => simp [belowOne, Number.blt, Binary64.bltInt, Number.NotBelowOne]
  | .double (.infinite negative) => simp [belowOne, Number.blt, Binary64.bltInt, Number.NotBelowOne, Number.AtLeastOne]
  | .double (.finite negative significand exponent) =>
    simp only [Number.NotBelowOne, Number.double.injEq, reduceCtorEq, or_false]
    exact Binary64.bltInt_one_eq_false (x := .finite negative significand exponent) rfl

/-! ## The check -/

structure Keeps (multiplier : Number → Prop) (s : RetrySettings) : Prop where
  durations_nonneg : ∀ d ∈ s.durations, Duration.zero ≤ d.2
  retryDelay_multiplier : multiplier s.retryDelayMultiplier
  rpcTimeout_multiplier : multiplier s.rpcTimeoutMultiplier
  attempts_nonneg : 0 ≤ s.maxAttempts
  retryDelay_le : s.initialRetryDelay ≤ s.maxRetryDelay
  rpcTimeout_le : s.initialRpcTimeout ≤ s.maxRpcTimeout

def Policy (s : RetrySettings) : Prop := s.Keeps Number.AtLeastOne

def HasNaN (s : RetrySettings) : Prop :=
  s.retryDelayMultiplier = .double .nan ∨ s.rpcTimeoutMultiplier = .double .nan

section
variable {s t : RetrySettings}

theorem policy_iff : s.Policy ↔ s.Keeps Number.NotBelowOne ∧ ¬ s.HasNaN := by
  constructor
  · intro h
    have hd := Number.notBelowOne_and_ne_nan.mpr h.retryDelay_multiplier
    have hr := Number.notBelowOne_and_ne_nan.mpr h.rpcTimeout_multiplier
    exact ⟨{ h with retryDelay_multiplier := hd.1, rpcTimeout_multiplier := hr.1 }, not_or.mpr ⟨hd.2, hr.2⟩⟩
  · rintro ⟨h, hn⟩
    obtain ⟨hd, hr⟩ := not_or.mp hn
    exact { h with
      retryDelay_multiplier := Number.notBelowOne_and_ne_nan.mp ⟨h.retryDelay_multiplier, hd⟩
      rpcTimeout_multiplier := Number.notBelowOne_and_ne_nan.mp ⟨h.rpcTimeout_multiplier, hr⟩ }

theorem violation?_eq_none : s.violation? = none ↔ s.Keeps Number.NotBelowOne := by
  have hf : s.durations.find? (fun d => d.2 < Duration.zero) = none ↔ ∀ d ∈ s.durations, Duration.zero ≤ d.2 := by
    simp [List.find?_eq_none, Duration.le_def, Duration.lt_def]
  constructor
  · intro h
    unfold violation? at h
    split at h
    · cases h
    · rename_i hd
      split_ifs at h with hm hr ha hl hl'
      simp only [Bool.not_eq_true, belowOne_eq_false] at hm hr
      rw [Duration.lt_def] at hl hl'
      exact ⟨hf.mp hd, hm, hr, Int.not_lt.mp ha, Int.not_lt.mp hl, Int.not_lt.mp hl'⟩
  · intro h
    have hl : ¬ s.maxRetryDelay < s.initialRetryDelay := Int.not_lt.mpr h.retryDelay_le
    have hl' : ¬ s.maxRpcTimeout < s.initialRpcTimeout := Int.not_lt.mpr h.rpcTimeout_le
    unfold violation?
    rw [hf.mpr h.durations_nonneg]
    simp [belowOne_eq_false.mpr h.retryDelay_multiplier, belowOne_eq_false.mpr h.rpcTimeout_multiplier,
      Int.not_lt.mpr h.attempts_nonneg, hl, hl']

theorem check_eq_ok : s.check = .ok t ↔ s.Keeps Number.NotBelowOne ∧ t = s := by
  unfold check
  rw [← violation?_eq_none]
  cases s.violation? <;> simp [eq_comm]

theorem refuses_check : Faults .invalidValue s.check ↔ ¬ s.Keeps Number.NotBelowOne := by
  constructor
  · intro h hk
    rw [check_eq_ok.mpr ⟨hk, rfl⟩] at h
    exact faults_ok s h
  · intro hk
    cases hc : s.check with
    | ok t => exact absurd (check_eq_ok.mp hc).1 hk
    | error f =>
      have hf : Faults f.kind s.check := ⟨f, hc, rfl⟩
      rw [← faults_check hf]
      exact ⟨f, rfl, rfl⟩

theorem keeps_of_ofMembers {members : List (String × Json)} (h : ofMembers members = .ok s) :
    s.Keeps Number.NotBelowOne := by
  obtain ⟨t, -, hc⟩ := bind_eq_ok.mp h
  obtain ⟨hk, rfl⟩ := check_eq_ok.mp hc
  exact hk

end

end RetrySettings

/-! ## Loaded contexts -/

namespace Context

theorem Setter.ofMembers_of_ofEntry {key : String} {v : Json} {retry : Option RetrySettings}
    (h : Setter.ofEntry key v = .ok (.retry retry)) :
    ∃ members s, RetrySettings.ofMembers members = .ok s ∧ retry = some s := by
  unfold Setter.ofEntry at h
  split at h
  case h_4 =>
    obtain ⟨members, -, h⟩ := bind_eq_ok.mp h
    obtain ⟨s, hs, h⟩ := bind_eq_ok.mp h
    cases h
    exact ⟨members, s, hs, rfl⟩
  case h_8 => cases h
  all_goals
    obtain ⟨_, -, h⟩ := bind_eq_ok.mp h
    first | cases h | (obtain ⟨_, -, h⟩ := bind_eq_ok.mp h; cases h)

theorem Setter.eq_retry_of_field {s : Setter} (h : s.field = .retry) : ∃ retry, s = .retry retry := by
  cases s with
  | retry retry => exact ⟨retry, rfl⟩
  | _ => cases h

theorem ofMembers_of_load {t : Transport} {description : List (String × Json)} {c : Context} {s : RetrySettings}
    (h : load t description = .ok c) (hs : c.retry = some s) :
    ∃ members, RetrySettings.ofMembers members = .ok s := by
  induction description using List.reverseRecOn generalizing c with
  | nil => cases h; cases hs
  | append_singleton description entry ih =>
    simp only [load, List.foldlM_append, List.foldlM_cons, List.foldlM_nil, bind_pure] at h
    obtain ⟨d, hd, h⟩ := bind_eq_ok.mp h
    rw [setEntry_eq_apply] at h
    obtain ⟨setter, he, ha⟩ := bind_eq_ok.mp h
    by_cases hf : setter.field = .retry
    · obtain ⟨retry, rfl⟩ := Setter.eq_retry_of_field hf
      obtain ⟨members, s', hm, rfl⟩ := Setter.ofMembers_of_ofEntry he
      cases ha; cases hs
      exact ⟨members, hm⟩
    · have hr : c.retry = d.retry := Setter.get_of_apply_ne ha hf
      exact ih hd (hr ▸ hs)

end Context

/-! ## Configured settings -/

namespace Checked

variable {α β : Type}

theorem apply_eq_ok {f : Checked (α → β)} {a : Checked α} {b : β} :
    f.apply a = ok b ↔ ∃ g x, f = ok g ∧ a = ok x ∧ g x = b := by
  cases f <;> cases a <;> simp [apply]

theorem map_eq_ok {f : α → β} {a : Checked α} {b : β} : a.map f = ok b ↔ ∃ x, a = ok x ∧ f x = b := by
  cases a <;> simp [map]

theorem toExcept_eq_ok {a : Checked α} {x : α} : a.toExcept = .ok x ↔ a = ok x := by
  cases a <;> simp [toExcept]

theorem ofExcept_eq_ok {place : List Json} {a : Except SettingProblem α} {x : α} :
    ofExcept place a = ok x ↔ a = .ok x := by
  cases a <;> simp [ofExcept]

end Checked

theorem SettingValue.bounds_of_numberFrom {minimum : Nat} {v : Json} {x : Binary64} (h : numberFrom minimum v = .ok x) :
    x.isNaN = false ∧ x.bltInt minimum = false := by
  obtain ⟨y, -, h⟩ := bind_eq_ok.mp h
  split at h
  · cases h
  · rename_i hb
    cases h
    simpa only [Bool.or_eq_true, not_or, Bool.not_eq_true] using hb

theorem SettingValue.atLeastOne_of_numberFrom {v : Json} {x : Binary64} (h : numberFrom 1 v = .ok x) :
    (Number.double x).AtLeastOne := by
  obtain ⟨hn, hb⟩ := bounds_of_numberFrom h
  exact (Binary64.bltInt_one_eq_false hn).mp hb

theorem SettingValue.holds_of_field {α : Type} {p : α → Prop} {convert : Json → Except SettingProblem α}
    (hc : ∀ v x, convert v = .ok x → p x) {v? : Option Json} {place : List Json} {standard x : α} (hs : p standard)
    (h : (match v? with
      | some v => Checked.ofExcept place (convert v)
      | none => Checked.ok standard) = Checked.ok x) : p x := by
  cases v? with
  | none => cases h; exact hs
  | some v => exact hc v x (Checked.ofExcept_eq_ok.mp h)

namespace Settings

theorem atLeastOne_default : (Number.double default.retryDelayMultiplier).AtLeastOne ∧
    (Number.double default.retryRpcTimeoutMultiplier).AtLeastOne := by
  constructor
  · exact (Binary64.bltInt_one_eq_false (by decide +kernel)).mp (by decide +kernel)
  · exact (Binary64.bltInt_one_eq_false (by decide +kernel)).mp (by decide +kernel)

theorem atLeastOne_of_ofMembers {members : List (String × Json)} {s : Settings} (h : ofMembers members = .ok s) :
    (Number.double s.retryDelayMultiplier).AtLeastOne ∧ (Number.double s.retryRpcTimeoutMultiplier).AtLeastOne := by
  simp only [ofMembers, Checked.toExcept_eq_ok, Checked.apply_eq_ok, Checked.map_eq_ok] at h
  obtain ⟨_, _, ⟨_, h, rfl⟩, -, rfl⟩ := h
  -- The settings are peeled off from the last one on; the fifth and the tenth are the multipliers.
  iterate 4 obtain ⟨_, _, h, -, rfl⟩ := h
  obtain ⟨_, rpcTimeout, h, hr, rfl⟩ := h
  iterate 4 obtain ⟨_, _, h, -, rfl⟩ := h
  obtain ⟨_, retryDelay, h, hd, rfl⟩ := h
  iterate 3 obtain ⟨_, _, h, -, rfl⟩ := h
  obtain ⟨_, _, ⟨⟩, -, rfl⟩ := h
  exact ⟨SettingValue.holds_of_field (fun _ _ => SettingValue.atLeastOne_of_numberFrom) atLeastOne_default.1 hd,
    SettingValue.holds_of_field (fun _ _ => SettingValue.atLeastOne_of_numberFrom) atLeastOne_default.2 hr⟩

def seconds (s : Settings) : List Binary64 := s.defaultTimeoutSeconds.toList ++ s.retrySeconds

theorem mem_seconds {s : Settings} {x : Binary64} :
    x ∈ s.seconds ↔ s.defaultTimeoutSeconds = some x ∨ x ∈ s.retrySeconds := by
  simp [seconds]

/-- The bounds that the settings are declared with. A NaN is below no bound. -/
structure InBounds (s : Settings) : Prop where
  seconds_nonneg : ∀ x ∈ s.seconds, x.bltInt 0 = false
  retryDelay_multiplier : (Number.double s.retryDelayMultiplier).NotBelowOne
  rpcTimeout_multiplier : (Number.double s.retryRpcTimeoutMultiplier).NotBelowOne
  attempts_nonneg : 0 ≤ s.retryMaxAttempts

structure Describes (s : Settings) (r : RetrySettings) : Prop where
  totalTimeout : Duration.ofSeconds (.double s.retryTotalTimeoutSeconds) = .ok r.totalTimeout
  initialRetryDelay : Duration.ofSeconds (.double s.retryInitialDelaySeconds) = .ok r.initialRetryDelay
  maxRetryDelay : Duration.ofSeconds (.double s.retryMaxDelaySeconds) = .ok r.maxRetryDelay
  initialRpcTimeout : Duration.ofSeconds (.double s.retryInitialRpcTimeoutSeconds) = .ok r.initialRpcTimeout
  maxRpcTimeout : Duration.ofSeconds (.double s.retryMaxRpcTimeoutSeconds) = .ok r.maxRpcTimeout
  retryDelayMultiplier : r.retryDelayMultiplier = .double s.retryDelayMultiplier
  rpcTimeoutMultiplier : r.rpcTimeoutMultiplier = .double s.retryRpcTimeoutMultiplier
  maxAttempts : r.maxAttempts = s.retryMaxAttempts

theorem describes_of_retrySettings {s : Settings} {r : RetrySettings} (h : s.retrySettings = .ok r) :
    s.Describes r ∧ r.Keeps Number.NotBelowOne := by
  obtain ⟨_, ht, h⟩ := bind_eq_ok.mp h
  obtain ⟨_, hi, h⟩ := bind_eq_ok.mp h
  obtain ⟨_, hm, h⟩ := bind_eq_ok.mp h
  obtain ⟨_, hri, h⟩ := bind_eq_ok.mp h
  obtain ⟨_, hrm, h⟩ := bind_eq_ok.mp h
  obtain ⟨hk, rfl⟩ := RetrySettings.check_eq_ok.mp h
  exact ⟨⟨ht, hi, hm, hri, hrm, rfl, rfl, rfl⟩, hk⟩

theorem policy_of_retrySettings {s : Settings} {r : RetrySettings}
    (hdelay : (Number.double s.retryDelayMultiplier).AtLeastOne)
    (hrpc : (Number.double s.retryRpcTimeoutMultiplier).AtLeastOne) (h : s.retrySettings = .ok r) : r.Policy := by
  obtain ⟨hd, hk⟩ := describes_of_retrySettings h
  exact { hk with
    retryDelay_multiplier := hd.retryDelayMultiplier ▸ hdelay
    rpcTimeout_multiplier := hd.rpcTimeoutMultiplier ▸ hrpc }

/-- A configuration has no NaN as multiplier, so the settings that it gives keep the whole policy. -/
theorem policy_of_configuration {levels : Nat} {sources : SettingSources} {s : Settings} {r : RetrySettings}
    (hs : sources.settingsWithin levels = .ok s) (h : s.retrySettings = .ok r) : r.Policy := by
  obtain ⟨members, -, hm⟩ := bind_eq_ok.mp hs
  obtain ⟨hdelay, hrpc⟩ := atLeastOne_of_ofMembers (mapError_eq_ok.mp hm)
  exact policy_of_retrySettings hdelay hrpc h

end Settings

/-! ## All ways -/

namespace RetrySettings

/-- Retry settings that a program can come by. -/
inductive Obtained : RetrySettings → Prop
  | constructed {s t : RetrySettings} : s.check = .ok t → Obtained t
  | singleAttempt {timeout : Duration} {t : RetrySettings} : singleAttempt timeout = .ok t → Obtained t
  | described {members : List (String × Json)} {t : RetrySettings} : ofMembers members = .ok t → Obtained t
  | configured {s : Settings} {t : RetrySettings} : s.InBounds → s.retrySettings = .ok t → Obtained t
  | loaded {transport : Transport} {description : List (String × Json)} {c : Context} {t : RetrySettings} :
      Context.load transport description = .ok c → c.retry = some t → Obtained t

theorem Obtained.keeps {s : RetrySettings} (h : Obtained s) : s.Keeps Number.NotBelowOne := by
  cases h with
  | constructed h | singleAttempt h =>
    obtain ⟨hk, rfl⟩ := check_eq_ok.mp h
    exact hk
  | described h => exact keeps_of_ofMembers h
  | configured _ h => exact (Settings.describes_of_retrySettings h).2
  | loaded h hs =>
    obtain ⟨members, hm⟩ := Context.ofMembers_of_load h hs
    exact keeps_of_ofMembers hm

/-- The retry settings that a program can come by are those that keep the policy, but for a multiplier that is NaN; the
check refuses all others as invalid values. Without a NaN this is the whole policy, and settings whose multipliers are at
least one give no NaN. -/
theorem obtained_iff_keeps (s : RetrySettings) :
    (Obtained s ↔ s.Keeps Number.NotBelowOne) ∧
      (s.check = .ok s ↔ s.Keeps Number.NotBelowOne) ∧
      (Faults .invalidValue s.check ↔ ¬ s.Keeps Number.NotBelowOne) ∧
      (s.Policy ↔ s.Keeps Number.NotBelowOne ∧ ¬ s.HasNaN) ∧
      ∀ settings : Settings, (Number.double settings.retryDelayMultiplier).AtLeastOne →
        (Number.double settings.retryRpcTimeoutMultiplier).AtLeastOne → settings.retrySettings = .ok s → s.Policy := by
  have hc : s.check = .ok s ↔ s.Keeps Number.NotBelowOne := by simp [check_eq_ok]
  exact ⟨⟨Obtained.keeps, fun h => .constructed (hc.mpr h)⟩, hc, refuses_check, policy_iff,
    fun settings => Settings.policy_of_retrySettings⟩

/-- A description with a NaN as multiplier is read, though a NaN is not at least one; the standard settings give retry
settings that keep the policy. -/
theorem obtained_iff_keeps_nan :
    let s : RetrySettings := { default with retryDelayMultiplier := .double .nan }
    ofMembers [("retry_delay_multiplier", .double .nan)] = .ok s ∧ s.Keeps Number.NotBelowOne ∧ ¬ s.Policy ∧
      ∃ r, Settings.default.retrySettings = .ok r ∧ r.Policy := by
  intro s
  have hs : ofMembers [("retry_delay_multiplier", .double .nan)] = s.check := rfl
  have hv : s.violation? = none := Option.isNone_iff_eq_none.mp (by decide +kernel)
  obtain ⟨ho, hc, -, hp, -⟩ := obtained_iff_keeps s
  rw [hc.mpr (violation?_eq_none.mp hv)] at hs
  refine ⟨hs, ho.mp (.described hs), fun h => (hp.mp h).2 (.inl rfl), ?_⟩
  obtain ⟨r, hr⟩ : ∃ r, Settings.default.retrySettings = .ok r := exists_ok_of_isOk (by decide +kernel)
  obtain ⟨hd, ht⟩ := Settings.atLeastOne_default
  exact ⟨r, hr, (obtained_iff_keeps r).2.2.2.2 Settings.default hd ht hr⟩

end RetrySettings

end RemoteCall
