import RemoteCall.Context.Registry
import RemoteCall.Proofs.Context.Loading

/-!
# What setters keep

A setter that succeeds keeps a context well-formed and of its transport, provided the headers it appends are a map with
distinct names. An entry of a description is read as a setter, so loading is a row of setters as well. Headers whose value
is a bare text are never accepted.
-/

namespace RemoteCall

/-! ## Appended headers -/

namespace HeaderMap

section
variable {h k : HeaderMap} {members : List (String × Json)}

theorem nodup_names_appendMembers (hh : h.names.Nodup) (hm : (Ordered.names members).Nodup)
    (hk : h.appendMembers members = .ok k) : k.names.Nodup := by
  obtain ⟨-, rfl⟩ := (appendMembers_eq_append hh hm).mp hk
  apply nodup_names_append hh
  rwa [names_ofMembers]

/-! ## Bare texts -/

def HasBareText (members : List (String × Json)) : Prop := ∃ n s, (n, .string s) ∈ members

theorem not_hasBareText_of_freeze (hf : freeze members = .ok h) : ¬ HasBareText members := by
  rintro ⟨n, s, hm⟩
  exact (freeze_eq_ok.mp hf).1 _ hm

theorem not_hasBareText_of_appendMembers (hm : (Ordered.names members).Nodup) (hk : h.appendMembers members = .ok k) :
    ¬ HasBareText members := by
  obtain ⟨extra, he, -⟩ := appendMembers_eq_ok.mp hk
  rintro ⟨n, s, hb⟩
  exact not_hasBareText_of_freeze he ⟨n, s, mem_arrange hm hb⟩

end

end HeaderMap

namespace Context

/-! ## Setters -/

def Setter.Proper : Setter → Prop
  | .headers (some members) => (Ordered.names members).Nodup
  | _ => True

theorem ValidTimeouts.congr {c d : Context} (h : c.ValidTimeouts) (ht : d.transport = c.transport)
    (hd : d.timeout = c.timeout) (hw : d.streamWait = c.streamWait) (hi : d.streamIdle = c.streamIdle) :
    d.ValidTimeouts where
  timeout_pos := hd ▸ h.timeout_pos
  streamWait_nonneg := hw ▸ h.streamWait_nonneg
  streamIdle_nonneg := hi ▸ h.streamIdle_nonneg
  streamWait_unset e := hw.trans (h.streamWait_unset (ht.symm.trans e))
  streamIdle_unset e := hi.trans (h.streamIdle_unset (ht.symm.trans e))

theorem WellFormed.congr {c d : Context} (h : c.WellFormed) (ht : d.transport = c.transport)
    (hd : d.timeout = c.timeout) (hw : d.streamWait = c.streamWait) (hi : d.streamIdle = c.streamIdle)
    (hh : d.headers = c.headers) : d.WellFormed :=
  ⟨h.toValidTimeouts.congr ht hd hw hi, hh ▸ h.names_nodup⟩

section
variable {c d : Context}

theorem withTimeout_validTimeouts (h : c.ValidTimeouts) (timeout : Option Duration) :
    (c.withTimeout timeout).ValidTimeouts := by
  unfold withTimeout
  split
  · exact h
  · exact ⟨fun d hd => pos_of_mem_normalizeTimeout hd, h.streamWait_nonneg, h.streamIdle_nonneg, h.streamWait_unset,
      h.streamIdle_unset⟩

theorem headers_withTimeout (c : Context) (timeout : Option Duration) : (c.withTimeout timeout).headers = c.headers := by
  unfold withTimeout
  split <;> rfl

theorem transport_withTimeout (c : Context) (timeout : Option Duration) :
    (c.withTimeout timeout).transport = c.transport := by
  unfold withTimeout
  split <;> rfl

theorem withHeaders_eq_ok {members : Option (List (String × Json))} : c.withHeaders members = .ok d ↔
    ∃ ms k, members = some ms ∧ c.headers.appendMembers ms = .ok k ∧ d = { c with headers := k } := by
  cases members with
  | none => simp [withHeaders]
  | some ms => simp [withHeaders, bind_eq_ok, eq_comm (a := d)]

theorem withTracer_eq_ok {tracer : Option Tracer} : c.withTracer tracer = .ok d ↔
    tracer ≠ none ∧ d = { c with tracer } := by
  cases tracer <;> simp [withTracer, eq_comm]

theorem withTransportChannel_eq_ok {channel : ChannelArgument} : c.withTransportChannel channel = .ok d ↔
    ∃ h, channel = .wrapped c.transport h ∧ d = c.withChannel h := by
  cases channel with
  | unset => simp [withTransportChannel]
  | other found => simp [withTransportChannel]
  | wrapped t h =>
    by_cases e : t = c.transport
    · simp [withTransportChannel, e, eq_comm]
    · simp [withTransportChannel, e]

theorem Setter.transport_apply {s : Setter} (h : s.apply c = .ok d) : d.transport = c.transport := by
  cases s with
  | timeout timeout => cases h; exact transport_withTimeout c timeout
  | transportChannel channel => obtain ⟨_, -, rfl⟩ := withTransportChannel_eq_ok.mp h; rfl
  | tracer tracer => obtain ⟨-, rfl⟩ := withTracer_eq_ok.mp h; rfl
  | streamWait timeout => obtain ⟨-, -, rfl⟩ := setStream_eq_ok.mp h; rfl
  | streamIdle timeout => obtain ⟨-, -, rfl⟩ := setStream_eq_ok.mp h; rfl
  | headers members => obtain ⟨_, _, -, -, rfl⟩ := withHeaders_eq_ok.mp h; rfl
  | channel | credentials | deadline | retry | codes => cases h; rfl

theorem Setter.apply_validTimeouts {s : Setter} (hc : c.ValidTimeouts) (h : s.apply c = .ok d) : d.ValidTimeouts := by
  cases s with
  | timeout timeout => cases h; exact withTimeout_validTimeouts hc timeout
  | transportChannel channel =>
    obtain ⟨_, -, rfl⟩ := withTransportChannel_eq_ok.mp h
    exact hc.congr rfl rfl rfl rfl
  | tracer tracer =>
    obtain ⟨-, rfl⟩ := withTracer_eq_ok.mp h
    exact hc.congr rfl rfl rfl rfl
  | streamWait timeout =>
    obtain ⟨ht, hp, rfl⟩ := setStream_eq_ok.mp h
    exact ⟨hc.timeout_pos, hp, hc.streamIdle_nonneg, fun e => (nomatch ht.symm.trans e), hc.streamIdle_unset⟩
  | streamIdle timeout =>
    obtain ⟨ht, hp, rfl⟩ := setStream_eq_ok.mp h
    exact ⟨hc.timeout_pos, hc.streamWait_nonneg, hp, hc.streamWait_unset, fun e => (nomatch ht.symm.trans e)⟩
  | headers members =>
    obtain ⟨_, _, -, -, rfl⟩ := withHeaders_eq_ok.mp h
    exact hc.congr rfl rfl rfl rfl
  | channel | credentials | deadline | retry | codes =>
    cases h
    exact hc.congr rfl rfl rfl rfl

/-- What a setter leaves passes the constructor unchanged, so a copy that is constructed anew is the same. -/
theorem Setter.check_of_apply {s : Setter} (hc : c.ValidTimeouts) (h : s.apply c = .ok d) : check d = .ok d :=
  (apply_validTimeouts hc h).check_eq

theorem Setter.nodup_names_apply {s : Setter} (hc : c.headers.names.Nodup) (hs : s.Proper) (h : s.apply c = .ok d) :
    d.headers.names.Nodup := by
  cases s with
  | headers members =>
    obtain ⟨ms, k, rfl, hk, rfl⟩ := withHeaders_eq_ok.mp h
    exact HeaderMap.nodup_names_appendMembers hc hs hk
  | timeout timeout => cases h; exact headers_withTimeout c timeout ▸ hc
  | transportChannel channel => obtain ⟨_, -, rfl⟩ := withTransportChannel_eq_ok.mp h; exact hc
  | tracer tracer => obtain ⟨-, rfl⟩ := withTracer_eq_ok.mp h; exact hc
  | streamWait timeout => obtain ⟨-, -, rfl⟩ := setStream_eq_ok.mp h; exact hc
  | streamIdle timeout => obtain ⟨-, -, rfl⟩ := setStream_eq_ok.mp h; exact hc
  | channel | credentials | deadline | retry | codes => cases h; exact hc

theorem Setter.apply_wellFormed {s : Setter} (hc : c.WellFormed) (hs : s.Proper) (h : s.apply c = .ok d) :
    d.WellFormed :=
  ⟨apply_validTimeouts hc.toValidTimeouts h, nodup_names_apply hc.names_nodup hs h⟩

/-! ## Entries as setters -/

def Setter.ofEntry (key : String) (v : Json) : Except Fault Setter :=
  match key with
  | "timeout_seconds" => return .timeout (some (← secondsField key v))
  | "deadline" => return .deadline (some (← Timestamp.read (← textField key "an ISO 8601 string" v)))
  | "extra_headers" => return .headers (some (← objectField key v))
  | "retry_settings" => return .retry (some (← RetrySettings.ofMembers (← objectField key v)))
  | "retryable_codes" => return .codes (some (.ofList (← (← listField key v).mapM Status.ofJson)))
  | "stream_wait_timeout_seconds" => return .streamWait (some (← secondsField key v))
  | "stream_idle_timeout_seconds" => return .streamIdle (some (← secondsField key v))
  | _ => .error (.unknownField key)

theorem setEntry_eq_apply (c : Context) (key : String) (v : Json) :
    c.setEntry key v = Setter.ofEntry key v >>= fun s => s.apply c := by
  unfold setEntry Setter.ofEntry
  split <;> simp [Setter.apply, bind_assoc]

theorem Setter.proper_of_ofEntry {key : String} {v : Json} {s : Setter} (h : Setter.ofEntry key v = .ok s)
    (hv : ∀ members, key = "extra_headers" → v = .object members → (Ordered.names members).Nodup) : s.Proper := by
  unfold Setter.ofEntry at h
  split at h
  case h_1 | h_6 | h_7 =>
    obtain ⟨_, -, h⟩ := bind_eq_ok.mp h
    cases h; trivial
  case h_2 | h_4 | h_5 =>
    obtain ⟨_, -, h⟩ := bind_eq_ok.mp h
    obtain ⟨_, -, h⟩ := bind_eq_ok.mp h
    cases h; trivial
  case h_3 =>
    obtain ⟨members, hm, h⟩ := bind_eq_ok.mp h
    cases h
    exact hv members rfl (objectField_eq_ok.mp hm)
  case h_8 => cases h

end

end Context

end RemoteCall
