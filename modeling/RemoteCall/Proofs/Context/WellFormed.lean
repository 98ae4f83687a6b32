import RemoteCall.Context.Merge
import RemoteCall.Proofs.Headers

/-!
# Contexts as they are constructed

The constructor gives exactly the well-formed contexts: header names are distinct, a timeout is positive, a stream
timeout is not negative, and a transport without streams has no stream timeouts. Merging well-formed contexts of one
transport succeeds and keeps well-formedness.
-/

namespace RemoteCall

attribute [ext] Context

/-! ## Timeouts -/

namespace Context

theorem normalizeTimeout_eq_self {timeout : Option Duration} (h : ∀ d ∈ timeout, Duration.zero < d) :
    normalizeTimeout timeout = timeout := by
  cases timeout with
  | none => rfl
  | some d => simp [normalizeTimeout, Option.filter, h d rfl]

theorem pos_of_mem_normalizeTimeout {timeout : Option Duration} {d : Duration} (h : d ∈ normalizeTimeout timeout) :
    Duration.zero < d := by
  simpa using (Option.mem_filter_iff.mp h).2

theorem checkStreamTimeout_eq_ok {timeout checked : Option Duration} :
    checkStreamTimeout timeout = .ok checked ↔ checked = timeout ∧ ∀ d ∈ timeout, Duration.zero ≤ d := by
  cases timeout with
  | none => simp [checkStreamTimeout, eq_comm]
  | some d =>
    by_cases h : d < Duration.zero
    · have hn : ¬ Duration.zero ≤ d := by simpa [Duration.le_def, Duration.lt_def] using h
      simp [checkStreamTimeout, h, hn]
    · have hn : Duration.zero ≤ d := by simpa [Duration.le_def, Duration.lt_def] using h
      simp [checkStreamTimeout, h, hn, eq_comm]

/-! ## Well-formed contexts -/

structure ValidTimeouts (c : Context) : Prop where
  timeout_pos : ∀ d ∈ c.timeout, Duration.zero < d
  streamWait_nonneg : ∀ d ∈ c.streamWait, Duration.zero ≤ d
  streamIdle_nonneg : ∀ d ∈ c.streamIdle, Duration.zero ≤ d
  streamWait_unset : c.transport = .httpJson → c.streamWait = none
  streamIdle_unset : c.transport = .httpJson → c.streamIdle = none

structure WellFormed (c : Context) : Prop extends ValidTimeouts c where
  names_nodup : c.headers.names.Nodup

/-- The context is made by the constructor from some values, where the headers are a map with distinct names. -/
def Constructed (transport : Transport) (c : Context) : Prop :=
  ∃ a : Arguments, (∀ members ∈ a.headers, (Ordered.names members).Nodup) ∧ make transport a = .ok c

theorem create_validTimeouts (t : Transport) : (create t).ValidTimeouts where
  timeout_pos := by simp [create]
  streamWait_nonneg := by simp [create]
  streamIdle_nonneg := by simp [create]
  streamWait_unset _ := rfl
  streamIdle_unset _ := rfl

theorem create_wellFormed (t : Transport) : (create t).WellFormed :=
  ⟨create_validTimeouts t, List.nodup_nil⟩

theorem check_eq_ok {c d : Context} : check c = .ok d ↔
    d = { c with timeout := normalizeTimeout c.timeout } ∧ (∀ s ∈ c.streamWait, Duration.zero ≤ s) ∧
      ∀ s ∈ c.streamIdle, Duration.zero ≤ s := by
  simp only [check, bind_eq_ok, checkStreamTimeout_eq_ok, pure_eq_ok, Except.ok.injEq]
  constructor
  · rintro ⟨w, ⟨-, hw⟩, i, ⟨-, hi⟩, rfl⟩
    exact ⟨rfl, hw, hi⟩
  · rintro ⟨rfl, hw, hi⟩
    exact ⟨_, ⟨rfl, hw⟩, _, ⟨rfl, hi⟩, rfl⟩

theorem ValidTimeouts.check_eq {c : Context} (h : c.ValidTimeouts) : check c = .ok c := by
  rw [check_eq_ok, normalizeTimeout_eq_self h.timeout_pos]
  exact ⟨rfl, h.streamWait_nonneg, h.streamIdle_nonneg⟩

/-! ## The constructor -/

/-- What the constructor does with headers that are given, once the transport has no objection. -/
theorem make_eq {t : Transport} {a : Arguments} {c : Context} : make t a = .ok c ↔
    (t = .httpJson → a.streamIdle = none ∧ a.streamWait = none) ∧
      ∃ members h, a.headers = some members ∧ HeaderMap.freeze members = .ok h ∧
        check ⟨t, a.channel, a.timeout, a.deadline, a.credentials, h, a.tracer, a.retry, a.codes,
          a.streamWait.join, a.streamIdle.join⟩ = .ok c := by
  obtain ⟨channel, timeout, deadline, credentials, headers, tracer, retry, codes, wait, idle⟩ := a
  cases t <;> cases idle <;> cases wait <;> cases headers <;> simp [make, bind_eq_ok]

/-- The constructor gives exactly the well-formed contexts of its transport. -/
theorem constructed_iff {t : Transport} {c : Context} : Constructed t c ↔ c.transport = t ∧ c.WellFormed := by
  constructor
  · rintro ⟨a, hn, hm⟩
    obtain ⟨hs, members, h, ha, hf, hc⟩ := make_eq.mp hm
    obtain ⟨rfl, hw, hi⟩ := check_eq_ok.mp hc
    refine ⟨rfl, ⟨fun d => pos_of_mem_normalizeTimeout, hw, hi, ?_, ?_⟩, ?_⟩
    · intro ht
      show a.streamWait.join = none
      rw [(hs ht).2]; rfl
    · intro ht
      show a.streamIdle.join = none
      rw [(hs ht).1]; rfl
    · show h.names.Nodup
      rw [HeaderMap.names_of_freeze hf]
      exact hn members ha
  · rintro ⟨rfl, h⟩
    refine ⟨⟨c.channel, c.timeout, c.deadline, c.credentials,
      some (c.headers.entries.map fun e => (e.1, .list e.2)), c.tracer, c.retry, c.codes,
      c.streamWait.map some, c.streamIdle.map some⟩, ?_, ?_⟩
    · rintro members ⟨⟩
      rw [Ordered.names_map fun _ v => Json.list v]
      exact h.names_nodup
    · refine make_eq.mpr ⟨fun ht => ?_, _, c.headers, rfl, HeaderMap.freeze_lists _, ?_⟩
      · simp [h.streamWait_unset ht, h.streamIdle_unset ht]
      · have hj : ∀ o : Option Duration, (o.map some).join = o := by intro o; cases o <;> rfl
        simp only [hj]
        exact h.check_eq

/-! ## Merging -/

theorem mem_firstSet {α : Type} {x y : Option α} {a : α} (h : a ∈ firstSet x y) : a ∈ x ∨ a ∈ y := by
  cases x with
  | none => exact .inr h
  | some b => exact .inl h

theorem overlay_validTimeouts {c d : Context} (hc : c.ValidTimeouts) (hd : d.ValidTimeouts)
    (ht : d.transport = c.transport) : (c.overlay d).ValidTimeouts where
  timeout_pos s hs := (mem_firstSet hs).elim (hd.timeout_pos s) (hc.timeout_pos s)
  streamWait_nonneg s hs := (mem_firstSet hs).elim (hd.streamWait_nonneg s) (hc.streamWait_nonneg s)
  streamIdle_nonneg s hs := (mem_firstSet hs).elim (hd.streamIdle_nonneg s) (hc.streamIdle_nonneg s)
  streamWait_unset h := by
    simp [overlay, firstSet, hc.streamWait_unset h, hd.streamWait_unset (ht.trans h)]
  streamIdle_unset h := by
    simp [overlay, firstSet, hc.streamIdle_unset h, hd.streamIdle_unset (ht.trans h)]

theorem overlay_wellFormed {c d : Context} (hc : c.WellFormed) (hd : d.WellFormed)
    (ht : d.transport = c.transport) : (c.overlay d).WellFormed :=
  ⟨overlay_validTimeouts hc.toValidTimeouts hd.toValidTimeouts ht,
    HeaderMap.nodup_names_append hc.names_nodup hd.names_nodup⟩

theorem nullToSelf_context {c d : Context} (ht : d.transport = c.transport) :
    c.nullToSelf (.context d) = .ok d := if_pos ht

theorem merge_context {c d : Context} (ht : d.transport = c.transport) :
    c.merge (.context d) = check (c.overlay d) := by
  simp only [merge, nullToSelf_context ht, ok_bind]

theorem merge_eq {c d : Context} (hc : c.ValidTimeouts) (hd : d.ValidTimeouts) (ht : d.transport = c.transport) :
    c.merge (.context d) = .ok (c.overlay d) := by
  rw [merge_context ht]
  exact (overlay_validTimeouts hc hd ht).check_eq

end Context

end RemoteCall
