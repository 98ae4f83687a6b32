import RemoteCall.Proofs.Faults
import RemoteCall.Settings.Basic

/-!
# Numbers that are too large

Which conversions of numbers fail for the size of the number: to a duration, to a double and to an integer. Retry
settings are read member by member, so their first bad member decides.
-/

namespace RemoteCall

/-! ## Numbers -/

def Number.BeyondDurations : Number → Prop
  | .integer i => ¬ Duration.Representable (i * 1000000)
  | .double .nan => False
  | .double (.infinite _) => True
  | .double (.finite negative significand exponent) =>
    let us := Duration.nearestMicroseconds significand exponent
    ¬ Duration.Representable (if negative then -(us : Int) else us)

section
variable {k : FaultKind}

theorem Duration.faults_ofMicroseconds {us : Int} :
    Faults k (Duration.ofMicroseconds us) ↔ k = .outOfRange ∧ ¬ Duration.Representable us := by
  unfold Duration.ofMicroseconds
  by_cases h : Duration.Representable us
  · simp [h]
  · simp only [h, dite_false, not_false_eq_true, and_true]
    split <;> simp [Fault.kind, eq_comm]

/-- A number of seconds fails to be a duration for its size, or as a NaN. -/
theorem Duration.faults_ofSeconds {n : Number} : Faults k (Duration.ofSeconds n) ↔
    k = .outOfRange ∧ n.BeyondDurations ∨ k = .invalidValue ∧ n = .double .nan := by
  match n with
  | .integer i => simp [Duration.ofSeconds, Duration.faults_ofMicroseconds, Number.BeyondDurations]
  | .double .nan => simp [Duration.ofSeconds, Fault.kind, Number.BeyondDurations, eq_comm]
  | .double (.infinite _) => simp [Duration.ofSeconds, Fault.kind, Number.BeyondDurations, eq_comm]
  | .double (.finite negative s e) => simp [Duration.ofSeconds, Duration.faults_ofMicroseconds, Number.BeyondDurations]

namespace Json

theorem overflows_toDuration {v : Json} :
    Faults .outOfRange v.toDuration ↔ ∃ n, v = .number n ∧ n.BeyondDurations := by
  cases v with
  | bool b =>
    have hr : ¬ (Number.integer (if b then 1 else 0)).BeyondDurations := by
      cases b <;> exact fun h => h (by decide)
    have hd : (bool b).toDuration = Duration.ofSeconds (.integer (if b then 1 else 0)) := rfl
    rw [hd, Duration.faults_ofSeconds]
    simp only [hr, and_false, reduceCtorEq, false_and, or_false, exists_false]
  | number n => simp [toDuration, Duration.faults_ofSeconds]
  | _ => simp [toDuration, Fault.kind]

theorem overflows_toDouble {v : Json} :
    Faults .outOfRange v.toDouble ↔ ∃ i negative, v = .int i ∧ Binary64.ofInt i = .infinite negative := by
  match v with
  | .number (.integer i) =>
    cases h : Binary64.ofInt i <;> simp [toDouble, h, Json.int, Fault.kind]
  | .string s =>
    cases h : Numeral.ofText? s <;> simp [toDouble, h, Json.int, Fault.kind]
  | .number (.double _) | .null | .bool _ | .list _ | .object _ => simp [toDouble, Json.int, Fault.kind]

theorem overflows_toInteger {v : Json} :
    Faults .outOfRange v.toInteger ↔ ∃ negative, v = .double (.infinite negative) := by
  match v with
  | .number (.double (.finite ..)) | .number (.double .nan) | .number (.double (.infinite _)) =>
    simp [toInteger, Json.double, Fault.kind]
  | .string s =>
    cases h : Numeral.integer? s with
    | ok i => simp [toInteger, h, Json.double]
    | error e => cases e <;> simp [toInteger, h, Json.double, Fault.kind]
  | .number (.integer _) | .null | .bool _ | .list _ | .object _ => simp [toInteger, Json.double, Fault.kind]

theorem named_toDuration (v : Json) : ¬ Faults .missingName v.toDuration := by
  cases v <;> simp [toDuration, Duration.faults_ofSeconds, Fault.kind]

theorem named_toDouble (v : Json) : ¬ Faults .missingName v.toDouble := by
  unfold toDouble
  split <;> try simp [Fault.kind]
  all_goals split <;> simp [Fault.kind]

theorem named_toInteger (v : Json) : ¬ Faults .missingName v.toInteger := by
  unfold toInteger
  split <;> try simp [Fault.kind]
  all_goals split <;> simp [Fault.kind]

end Json

/-! ## Retry settings -/

namespace RetrySettings

def secondsKeys : List String := ["total_timeout_seconds", "initial_retry_delay_seconds", "max_retry_delay_seconds",
  "initial_rpc_timeout_seconds", "max_rpc_timeout_seconds"]

def multiplierKeys : List String := ["retry_delay_multiplier", "rpc_timeout_multiplier"]

inductive TooLarge : String → Json → Prop
  | seconds {key : String} {n : Number} : key ∈ secondsKeys → n.BeyondDurations → TooLarge key (.number n)
  | multiplier {key : String} {i : Int} {negative : Bool} : key ∈ multiplierKeys →
      Binary64.ofInt i = .infinite negative → TooLarge key (.int i)
  | attempts (negative : Bool) : TooLarge "max_attempts" (.double (.infinite negative))

def Converts (key : String) (v : Json) : Prop := ∃ s, default.setMember key v = .ok s

theorem exists_setMember (s : RetrySettings) (key : String) (v : Json) :
    (∃ t, s.setMember key v = .ok t) ↔ Converts key v := by
  unfold Converts setMember
  split <;> simp [bind_eq_ok]

theorem overflows_setMember (s : RetrySettings) (key : String) (v : Json) :
    Faults .outOfRange (s.setMember key v) ↔ TooLarge key v := by
  constructor
  · intro h
    unfold setMember at h
    split at h <;> simp only [pure_eq_ok, faults_bind, faults_ok, faults_error, Fault.kind, reduceCtorEq, and_false,
      exists_false, or_false, Json.overflows_toDuration, Json.overflows_toDouble, Json.overflows_toInteger] at h
    case h_6 | h_7 => obtain ⟨i, negative, rfl, hi⟩ := h; exact .multiplier (by decide) hi
    case h_8 => obtain ⟨negative, rfl⟩ := h; exact .attempts negative
    all_goals obtain ⟨n, rfl, hn⟩ := h; exact .seconds (by decide) hn
  · intro h
    cases h with
    | @seconds key n hk hn =>
      have hd : Faults .outOfRange (Json.number n).toDuration := Json.overflows_toDuration.mpr ⟨n, rfl, hn⟩
      simp only [secondsKeys, List.mem_cons, List.not_mem_nil, or_false] at hk
      rcases hk with rfl | rfl | rfl | rfl | rfl <;> exact faults_bind.mpr (.inl hd)
    | @multiplier key i negative hk hi =>
      have hd : Faults .outOfRange (Json.int i).toDouble := Json.overflows_toDouble.mpr ⟨i, negative, rfl, hi⟩
      simp only [multiplierKeys, List.mem_cons, List.not_mem_nil, or_false] at hk
      rcases hk with rfl | rfl <;> exact faults_bind.mpr (.inl hd)
    | attempts negative => exact faults_bind.mpr (.inl (Json.overflows_toInteger.mpr ⟨negative, rfl⟩))

theorem named_setMember (s : RetrySettings) (key : String) (v : Json) :
    ¬ Faults .missingName (s.setMember key v) := by
  unfold setMember
  split <;> simp [faults_bind, Json.named_toDuration, Json.named_toDouble, Json.named_toInteger, Fault.kind]

theorem faults_check {s : RetrySettings} (h : Faults k s.check) : k = .invalidValue := by
  unfold check violation? at h
  split at h
  · rename_i fault hv
    rw [← (faults_error fault).mp h]
    split at hv
    · cases hv; rfl
    · split_ifs at hv <;> cases hv <;> rfl
  · exact absurd h (faults_ok s)

theorem overflows_ofMembers (members : List (String × Json)) : Faults .outOfRange (ofMembers members) ↔
    FirstBad (fun m => Converts m.1 m.2) (fun m => TooLarge m.1 m.2) members := by
  have hc (s : RetrySettings) : ¬ Faults .outOfRange s.check := fun h => by cases faults_check h
  simp only [ofMembers, faults_bind, hc, and_false, exists_false, or_false]
  exact faults_foldlM (fun s m => exists_setMember s m.1 m.2) (fun s m => overflows_setMember s m.1 m.2) members default

theorem named_ofMembers (members : List (String × Json)) : ¬ Faults .missingName (ofMembers members) := by
  have hc (s : RetrySettings) : ¬ Faults .missingName s.check := fun h => by cases faults_check h
  simp only [ofMembers, faults_bind, hc, and_false, exists_false, or_false]
  have h := faults_foldlM (fun s (m : String × Json) => exists_setMember s m.1 m.2)
    (fun s m => iff_false_intro (named_setMember s m.1 m.2)) members default
  exact fun hm => let ⟨_, _, _, _, _, hf⟩ := h.mp hm; hf

end RetrySettings

/-! ## Settings -/

/-- Numbers of seconds that fail for the size of one: the first one that is no duration is beyond all durations. -/
def TooLargeSeconds (xs : List Binary64) : Prop :=
  FirstBad (fun x => ∃ d, Duration.ofSeconds (.double x) = .ok d) (fun x => (Number.double x).BeyondDurations) xs

namespace Settings

def retrySeconds (s : Settings) : List Binary64 :=
  [s.retryTotalTimeoutSeconds, s.retryInitialDelaySeconds, s.retryMaxDelaySeconds, s.retryInitialRpcTimeoutSeconds,
   s.retryMaxRpcTimeoutSeconds]

theorem overflows_retrySettings (s : Settings) :
    Faults .outOfRange s.retrySettings ↔ TooLargeSeconds s.retrySeconds := by
  have hc (r : RetrySettings) : ¬ Faults .outOfRange r.check := fun h => by cases RetrySettings.faults_check h
  simp only [retrySettings, TooLargeSeconds, retrySeconds, faults_bind, Duration.faults_ofSeconds, firstBad_cons,
    firstBad_nil, hc, true_and, reduceCtorEq, false_and, and_false, or_false, exists_false, exists_and_right]

theorem named_retrySettings (s : Settings) : ¬ Faults .missingName s.retrySettings := by
  have hc (r : RetrySettings) : ¬ Faults .missingName r.check := fun h => by cases RetrySettings.faults_check h
  simp [retrySettings, faults_bind, Duration.faults_ofSeconds, hc]

end Settings

end

end RemoteCall
