import Mathlib.Data.List.Induction
import RemoteCall.Proofs.Ordered
import RemoteCall.Proofs.Overflow
import RemoteCall.Proofs.Retry

/-!
# Retry settings member by member

Each member of a description sets one field, whatever the others are. So a description with distinct keys can be read when
every member can, and what is read, before the policy is checked, is what it has under each key, with a default where it
has nothing. The order of the keys does not show. Any part of the description of some settings is read as the settings
with the fields that are described, the other fields being at their defaults.
-/

namespace RemoteCall.RetrySettings

/-! ## Reading by keys -/

def readAt {α : Type} (read : Json → Except Fault α) (standard : α) (v? : Option Json) : α :=
  (v?.bind fun v => (read v).toOption).getD standard

def readMultiplier (v : Json) : Except Fault Number := v.toDouble.map .double

def ofLookup (get : String → Option Json) : RetrySettings where
  totalTimeout := readAt Json.toDuration default.totalTimeout (get "total_timeout_seconds")
  initialRetryDelay := readAt Json.toDuration default.initialRetryDelay (get "initial_retry_delay_seconds")
  retryDelayMultiplier := readAt readMultiplier default.retryDelayMultiplier (get "retry_delay_multiplier")
  maxRetryDelay := readAt Json.toDuration default.maxRetryDelay (get "max_retry_delay_seconds")
  maxAttempts := readAt Json.toInteger default.maxAttempts (get "max_attempts")
  jittered := readAt (fun v => .ok v.truthy) default.jittered (get "jittered")
  initialRpcTimeout := readAt Json.toDuration default.initialRpcTimeout (get "initial_rpc_timeout_seconds")
  rpcTimeoutMultiplier := readAt readMultiplier default.rpcTimeoutMultiplier (get "rpc_timeout_multiplier")
  maxRpcTimeout := readAt Json.toDuration default.maxRpcTimeout (get "max_rpc_timeout_seconds")

section
variable {s t : RetrySettings} {members : List (String × Json)}

@[simp] theorem readAt_of_ok {α : Type} {read : Json → Except Fault α} {standard a : α} {v : Json}
    (h : read v = .ok a) : readAt read standard (some v) = a := by
  simp [readAt, h, Except.toOption]

theorem setMember_ofLookup (get : String → Option Json) {key : String} {v : Json} (h : Converts key v) :
    (ofLookup get).setMember key v = .ok (ofLookup fun k => if k = key then some v else get k) := by
  obtain ⟨s, h⟩ := h
  unfold setMember at h
  split at h
  case h_9 => simp [setMember, ofLookup, readAt, Except.toOption]
  case h_10 => cases h
  case h_6 | h_7 =>
    obtain ⟨x, hx, -⟩ := bind_eq_ok.mp h
    have hm : readMultiplier v = .ok (.double x) := by rw [readMultiplier, hx]; rfl
    simp [setMember, ofLookup, hx, readAt_of_ok hm]
  all_goals
    obtain ⟨a, ha, -⟩ := bind_eq_ok.mp h
    simp [setMember, ofLookup, ha]

theorem foldlM_setMember_eq_ok (hm : (Ordered.names members).Nodup) :
    members.foldlM (fun s m => s.setMember m.1 m.2) default = .ok s ↔
      (∀ m ∈ members, Converts m.1 m.2) ∧ s = ofLookup (Ordered.get? members) := by
  induction members using List.reverseRecOn generalizing s with
  | nil =>
    have hd : ofLookup (Ordered.get? []) = default := rfl
    simp [hd, eq_comm]
  | append_singleton members m ih =>
    obtain ⟨key, v⟩ := m
    rw [Ordered.names_append, List.nodup_append] at hm
    obtain ⟨hm, -, hk⟩ := hm
    -- the last key is not among those before it, so its member replaces a default and no other member
    have hn : key ∉ Ordered.names members := fun h => hk _ h key (List.mem_singleton.mpr rfl) rfl
    rw [List.foldlM_append]
    simp only [List.foldlM_cons, List.foldlM_nil, bind_pure, bind_eq_ok, ih hm]
    constructor
    · rintro ⟨_, ⟨hc, rfl⟩, hs⟩
      have hv : Converts key v := (exists_setMember _ key v).mp ⟨s, hs⟩
      rw [setMember_ofLookup _ hv, Except.ok.injEq] at hs
      exact ⟨List.forall_mem_append.mpr ⟨hc, by simpa using hv⟩, by rw [Ordered.get?_concat hn, hs]⟩
    · rintro ⟨hc, rfl⟩
      obtain ⟨hc, hv⟩ := List.forall_mem_append.mp hc
      refine ⟨_, ⟨hc, rfl⟩, ?_⟩
      rw [setMember_ofLookup _ (hv _ (List.mem_singleton.mpr rfl)), Ordered.get?_concat hn]

/-- A description with distinct keys is read as what it has under each key, if every member can be taken over. -/
theorem ofMembers_of_converts (hm : (Ordered.names members).Nodup) (hc : ∀ m ∈ members, Converts m.1 m.2) :
    ofMembers members = check (ofLookup (Ordered.get? members)) := by
  rw [ofMembers, (foldlM_setMember_eq_ok hm).mpr ⟨hc, rfl⟩, ok_bind]

theorem eq_of_check (h : s.check = .ok t) : t = s := by
  unfold check at h
  split at h <;> cases h
  rfl

theorem ofMembers_eq_ok (hm : (Ordered.names members).Nodup) : ofMembers members = .ok s ↔
    (∀ m ∈ members, Converts m.1 m.2) ∧ check (ofLookup (Ordered.get? members)) = .ok s := by
  simp only [ofMembers, bind_eq_ok, foldlM_setMember_eq_ok hm, and_assoc, exists_and_left, exists_eq_left]

theorem ofMembers_perm {members' : List (String × Json)} (hm : (Ordered.names members).Nodup)
    (hp : members.Perm members') : ofMembers members = .ok s ↔ ofMembers members' = .ok s := by
  have hm' : (Ordered.names members').Nodup := (hp.map Prod.fst).nodup hm
  have hc : (∀ m ∈ members, Converts m.1 m.2) ↔ ∀ m ∈ members', Converts m.1 m.2 :=
    forall_congr' fun m => by rw [hp.mem_iff]
  rw [ofMembers_eq_ok hm, ofMembers_eq_ok hm', Ordered.get?_perm hm hp, hc]

end

/-! ## Parts of a description -/

def part (s : RetrySettings) (keys : List String) : List (String × Json) :=
  keys.filterMap fun key => (Ordered.get? s.toMembers key).map (key, ·)

/-- The settings with the fields that are described under the keys, every other field at its default. -/
def only (s : RetrySettings) (keys : List String) : RetrySettings where
  totalTimeout := if "total_timeout_seconds" ∈ keys then s.totalTimeout else default.totalTimeout
  initialRetryDelay := if "initial_retry_delay_seconds" ∈ keys then s.initialRetryDelay else default.initialRetryDelay
  retryDelayMultiplier := if "retry_delay_multiplier" ∈ keys then s.retryDelayMultiplier else default.retryDelayMultiplier
  maxRetryDelay := if "max_retry_delay_seconds" ∈ keys then s.maxRetryDelay else default.maxRetryDelay
  maxAttempts := if "max_attempts" ∈ keys then s.maxAttempts else default.maxAttempts
  jittered := if "jittered" ∈ keys then s.jittered else default.jittered
  initialRpcTimeout := if "initial_rpc_timeout_seconds" ∈ keys then s.initialRpcTimeout else default.initialRpcTimeout
  rpcTimeoutMultiplier := if "rpc_timeout_multiplier" ∈ keys then s.rpcTimeoutMultiplier else default.rpcTimeoutMultiplier
  maxRpcTimeout := if "max_rpc_timeout_seconds" ∈ keys then s.maxRpcTimeout else default.maxRpcTimeout

section
variable {s : RetrySettings} {keys : List String} {key : String}

theorem get?_part (s : RetrySettings) (keys : List String) :
    Ordered.get? (s.part keys) key = if key ∈ keys then Ordered.get? s.toMembers key else none :=
  Ordered.get?_filterMap (Ordered.get? s.toMembers) keys key

theorem names_part_nodup (hk : keys.Nodup) : (Ordered.names (s.part keys)).Nodup :=
  hk.sublist (Ordered.names_filterMap_sublist _ _)

theorem readAt_ite {α : Type} {read : Json → Except Fault α} {standard : α} {v? : Option Json} {p : Prop} [Decidable p] :
    readAt read standard (if p then v? else none) = if p then readAt read standard v? else standard := by
  split_ifs <;> rfl

theorem ofLookup_ite (get : String → Option Json) (keys : List String) :
    ofLookup (fun key => if key ∈ keys then get key else none) = (ofLookup get).only keys := by
  simp only [ofLookup, only, readAt_ite]

/-- Every member of the description is read, and together they give the settings back. -/
theorem ofLookup_toMembers (h : s.Describable) :
    (∀ m ∈ s.toMembers, Converts m.1 m.2) ∧ ofLookup (Ordered.get? s.toMembers) = s := by
  have hn : (Ordered.names s.toMembers).Nodup := by
    show List.Nodup ["total_timeout_seconds", "initial_retry_delay_seconds", "retry_delay_multiplier",
      "max_retry_delay_seconds", "max_attempts", "jittered", "initial_rpc_timeout_seconds", "rpc_timeout_multiplier",
      "max_rpc_timeout_seconds"]
    decide
  obtain ⟨hc, hs⟩ := (ofMembers_eq_ok hn).mp (ofMembers_toMembers h)
  exact ⟨hc, (eq_of_check hs).symm⟩

theorem converts_part (h : s.Describable) : ∀ m ∈ s.part keys, Converts m.1 m.2 := by
  intro m hm
  obtain ⟨key, -, he⟩ := List.mem_filterMap.mp hm
  obtain ⟨v, hv, rfl⟩ := Option.map_eq_some_iff.mp he
  exact (ofLookup_toMembers h).1 _ (Ordered.mem_of_get? hv)

/-- Any part of the description, in any order, is read with the outcome that the constructor has for the fields described
in it: the same settings, or the same refusal as an invalid value. The whole description is read as the settings. -/
theorem ofMembers_part (h : s.Describable) (hk : keys.Nodup) :
    ofMembers (s.part keys) = check (s.only keys) ∧
      (∀ fault, ofMembers (s.part keys) = .error fault → fault.kind = .invalidValue) ∧
      ofMembers s.toMembers = .ok s := by
  have hp : ofMembers (s.part keys) = check (s.only keys) := by
    rw [ofMembers_of_converts (names_part_nodup hk) (converts_part h)]
    have hl : Ordered.get? (s.part keys) = fun key => if key ∈ keys then Ordered.get? s.toMembers key else none :=
      funext fun key => get?_part s keys
    rw [hl, ofLookup_ite, (ofLookup_toMembers h).2]
  refine ⟨hp, fun fault hf => ?_, ofMembers_toMembers h⟩
  rw [hp] at hf
  exact faults_check ⟨fault, hf, rfl⟩

end

/-- Without the limit that goes with it, the initial delay is beyond the default limit. -/
theorem ofMembers_part_delays :
    let s : RetrySettings := { default with
      initialRetryDelay := ⟨8589934591999998, by decide⟩
      retryDelayMultiplier := .double (.infinite false)
      maxRetryDelay := ⟨8589934591999999, by decide⟩
      maxAttempts := 3
      jittered := false }
    let alone := ["jittered", "initial_retry_delay_seconds"]
    let delays := ["max_retry_delay_seconds", "retry_delay_multiplier", "initial_retry_delay_seconds"]
    s.Describable ∧ alone.Nodup ∧ delays.Nodup ∧
      ofMembers (s.part alone) = .error (.limitBelowInitial "max_retry_delay" "initial_retry_delay") ∧
      ofMembers (s.part delays) = .ok { s with maxAttempts := 0, jittered := true } := by
  intro s alone delays
  have hs : s.Describable := {
    valid := Option.isNone_iff_eq_none.mp (by decide +kernel)
    short := by decide
    retryDelayMultiplier := ⟨_, rfl⟩
    rpcTimeoutMultiplier := ⟨_, rfl⟩ }
  have ha : alone.Nodup := by decide
  have hd : delays.Nodup := by decide
  refine ⟨hs, ha, hd, ?_, ?_⟩
  · have ho : s.only alone = { default with initialRetryDelay := s.initialRetryDelay, jittered := false } := rfl
    have hone : belowOne (.double .one) = false := by decide +kernel
    rw [(ofMembers_part hs ha).1, ho]
    simp [check, violation?, durations, hone, s, Duration.lt_def, default, Duration.zero]
  · have hv : (s.only delays).violation? = none := Option.isNone_iff_eq_none.mp (by decide +kernel)
    rw [(ofMembers_part hs hd).1, check, hv]
    rfl

end RemoteCall.RetrySettings
