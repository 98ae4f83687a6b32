import RemoteCall.Proofs.Context.Timeouts

/-!
# Setters as overrides

Setting a field gives what merging a context gives in which only that field is set, and what the one refuses the other
refuses as well. Headers are appended on both ways, in whatever form they are handed over. A timeout is the exception, as
it is only shortened: merged is the shorter one of the new timeout and the one that is there.
-/

namespace RemoteCall.Context

/-! ## Values that are set -/

/-- The setter is given a value, and not for the timeout. A transport's channel that wraps none gives none. -/
def Setter.Overrides : Setter → Prop
  | timeout _ => False
  | channel h => h ≠ none
  | transportChannel k => k ≠ .unset ∧ ∀ t, k ≠ .wrapped t none
  | credentials k => k ≠ none
  | tracer u => u ≠ none
  | deadline u => u ≠ none
  | streamWait d => d ≠ none
  | streamIdle d => d ≠ none
  | headers members => members ≠ none
  | retry s => s ≠ none
  | codes s => s ≠ none

/-- The argument's headers appended, which may be a header map already. The context's own header map is known by
`identity`, and a new one by `fresh`. -/
def withHeaderArgument (c : Context) (identity fresh : Nat) (extra : HeaderArgument) : Except Fault Context :=
  match extra with
  | .unset => .error .headersUnset
  | extra => return { c with headers := (← SharedHeaders.append fresh ⟨c.headers, identity⟩ extra).map }

def shorter (d : Duration) : Option Duration → Duration
  | none => d
  | some old => if old ≤ d then old else d

section
variable {t : Transport} {c d : Context} {members : List (String × Json)}

/-! ## Fields other than the headers -/

theorem withTransportChannel_eq_overlay (c : Context) (channel : ChannelArgument)
    (h : ∀ t, channel ≠ .wrapped t none) : c.withTransportChannel channel =
      ((create c.transport).withTransportChannel channel).map c.overlay := by
  cases channel with
  | unset => rfl
  | other found => rfl
  | wrapped t k =>
    obtain ⟨k, rfl⟩ := Option.ne_none_iff_exists'.mp fun e : k = none => h t (by rw [e])
    by_cases ht : t = c.transport
    · simp [withTransportChannel, ht, withChannel, create, overlay, firstSet, HeaderMap.append_empty]
    · simp [withTransportChannel, ht, create]

/-- A setter that succeeds puts its value on top, and one that fails does so with the same fault on any context. -/
theorem Setter.apply_eq_overlay (c : Context) {s : Setter} (hs : s.Overrides) (hh : ∀ members, s ≠ .headers members) :
    s.apply c = (s.apply (create c.transport)).map c.overlay := by
  cases s with
  | timeout d => exact hs.elim
  | headers members => exact absurd rfl (hh members)
  | transportChannel k => exact withTransportChannel_eq_overlay c k hs.2
  | streamWait d =>
    obtain ⟨d, rfl⟩ := Option.ne_none_iff_exists'.mp hs
    exact withStreamWait_eq_overlay c d
  | streamIdle d =>
    obtain ⟨d, rfl⟩ := Option.ne_none_iff_exists'.mp hs
    exact withStreamIdle_eq_overlay c d
  | channel v | credentials v | tracer v | deadline v | retry v | codes v =>
    obtain ⟨v, rfl⟩ := Option.ne_none_iff_exists'.mp hs
    simp [Setter.apply, withChannel, withCredentials, withTracer, withDeadline, withRetry, withCodes, create, overlay,
      firstSet, HeaderMap.append_empty]

/-! ## Headers -/

theorem withHeaders_some_eq_ok (hc : c.headers.names.Nodup) (hm : (Ordered.names members).Nodup) :
    c.withHeaders (some members) = .ok d ↔ (∀ m ∈ members, HeaderMap.IsSequence m.2) ∧
      d = { c with headers := c.headers ++ HeaderMap.ofMembers members } := by
  simp only [withHeaders_eq_ok, Option.some.injEq, exists_and_left, exists_eq_left',
    HeaderMap.appendMembers_eq_append hc hm]
  exact ⟨fun ⟨_, ⟨hs, hk⟩, hd⟩ => ⟨hs, hk ▸ hd⟩, fun ⟨hs, hd⟩ => ⟨_, ⟨hs, rfl⟩, hd⟩⟩

/-- The faults may differ, as the first bad member in the order of the result need not be the same one. -/
theorem together_withHeaders_overlay (hc : c.headers.names.Nodup) (hm : (Ordered.names members).Nodup) :
    Together (fun e d => e = c.overlay d) (c.withHeaders (some members))
      ((create c.transport).withHeaders (some members)) := by
  have hn : (create c.transport).headers.names.Nodup := List.nodup_nil
  apply together_of_exists
  · simp only [withHeaders_some_eq_ok hc hm, withHeaders_some_eq_ok hn hm, exists_and_left, exists_eq, and_true]
  · intro e d he hd
    obtain ⟨-, rfl⟩ := (withHeaders_some_eq_ok hc hm).mp he
    obtain ⟨-, rfl⟩ := (withHeaders_some_eq_ok hn hm).mp hd
    simp [overlay, firstSet, create, HeaderMap.empty_append]

theorem withHeaderArgument_eq (identity fresh : Nat) {extra : HeaderArgument} (hu : extra ≠ .unset)
    (hc : c.headers.names.Nodup) (he : (Ordered.names extra.toMembers).Nodup) :
    c.withHeaderArgument identity fresh extra = c.withHeaders (some extra.toMembers) := by
  have ha : (SharedHeaders.append fresh ⟨c.headers, identity⟩ extra).map (·.map) =
      c.headers.appendMembers extra.toMembers := SharedHeaders.map_append fresh hc he
  have hw : c.withHeaderArgument identity fresh extra =
      (SharedHeaders.append fresh ⟨c.headers, identity⟩ extra).map fun h => { c with headers := h.map } := by
    cases extra with
    | unset => exact absurd rfl hu
    | members ms => simp only [withHeaderArgument]; cases SharedHeaders.append _ _ _ <;> rfl
    | shared headers => simp only [withHeaderArgument]; cases SharedHeaders.append _ _ _ <;> rfl
  rw [hw, withHeaders, ← ha]
  cases SharedHeaders.append fresh ⟨c.headers, identity⟩ extra <;> rfl

/-! ## The timeout -/

theorem shorter_pos {new : Duration} (hn : Duration.zero < new) (h : ∀ old ∈ c.timeout, Duration.zero < old) :
    Duration.zero < shorter new c.timeout := by
  cases hc : c.timeout with
  | none => exact hn
  | some old =>
    by_cases hle : old ≤ new
    · simpa only [shorter, if_pos hle] using h old hc
    · simpa only [shorter, if_neg hle] using hn

theorem withTimeout_eq_overlay {new : Duration} (hn : Duration.zero < new)
    (h : ∀ old ∈ c.timeout, Duration.zero < old) :
    c.withTimeout (some new) = c.overlay ((create c.transport).withTimeout (some (shorter new c.timeout))) := by
  have hm : normalizeTimeout (some (shorter new c.timeout)) = some (shorter new c.timeout) :=
    normalizeTimeout_eq_self (by rintro _ ⟨⟩; exact shorter_pos hn h)
  have hs : normalizeTimeout (some new) = some new := normalizeTimeout_eq_self (by rintro _ ⟨⟩; exact hn)
  have ho : c.overlay ((create c.transport).withTimeout (some (shorter new c.timeout))) =
      { c with timeout := some (shorter new c.timeout) } := by
    rw [withTimeout_of_unset rfl, hm]
    simp [overlay, firstSet, create, HeaderMap.append_empty]
  rw [ho, withTimeout, hs]
  split
  · rename_i hk
    obtain ⟨old, hold, hle⟩ := (Setter.keepsTimeout_iff c hn).mp hk
    simp only [shorter, hold, if_pos hle]
    rw [← hold]
  · rename_i hk
    cases hold : c.timeout with
    | none => rfl
    | some old =>
      have hle : ¬ old ≤ new := fun hle => hk ((Setter.keepsTimeout_iff c hn).mpr ⟨old, hold, hle⟩)
      simp only [shorter, if_neg hle]

/-! ## Setting and merging -/

theorem together_apply_overlay (hc : c.WellFormed) {s : Setter} (hs : s.Overrides) (hp : s.Proper) :
    Together (fun e d => e = c.overlay d) (s.apply c) (s.apply (create c.transport)) := by
  by_cases hh : ∃ members, s = .headers members
  · obtain ⟨members, rfl⟩ := hh
    obtain ⟨members, rfl⟩ := Option.ne_none_iff_exists'.mp hs
    exact together_withHeaders_overlay hc.names_nodup hp
  · rw [Setter.apply_eq_overlay c hs fun members e => hh ⟨members, e⟩]
    cases s.apply (create c.transport) with
    | error f => trivial
    | ok d => rfl

theorem together_apply_merge (hc : c.WellFormed) {s : Setter} (hs : s.Overrides) (hp : s.Proper) :
    Together (fun e d => c.merge (.context d) = .ok e) (s.apply c) (s.apply (create c.transport)) := by
  refine (together_apply_overlay hc hs hp).mono fun e d _ hd he => ?_
  have hv := (Setter.apply_wellFormed (create_wellFormed c.transport) hp hd).toValidTimeouts
  have ht : d.transport = (create c.transport).transport := Setter.transport_apply hd
  rw [he, merge_eq hc.toValidTimeouts hv ht]

/-- A setter does what merging the context does that it makes of the empty one: both succeed with the same context or
both fail. Headers may be members or a header map. A positive timeout is merged once it is shortened. -/
theorem set_eq_merge_override (hc : Constructed t c) :
    (∀ s : Setter, s.Overrides → s.Proper →
      Together (fun e d => c.merge (.context d) = .ok e) (s.apply c) (s.apply (create t))) ∧
    (∀ identity fresh fresh' extra, extra ≠ .unset → (Ordered.names extra.toMembers).Nodup →
      Together (fun e d => c.merge (.context d) = .ok e) (c.withHeaderArgument identity fresh extra)
        ((create t).withHeaderArgument 0 fresh' extra)) ∧
    ∀ new, Duration.zero < new →
      c.merge (.context ((create t).withTimeout (some (shorter new c.timeout)))) = .ok (c.withTimeout (some new)) := by
  obtain ⟨rfl, hw⟩ := constructed_iff.mp hc
  refine ⟨fun s hs hp => together_apply_merge hw hs hp, ?_, ?_⟩
  · intro identity fresh fresh' extra hu he
    rw [withHeaderArgument_eq identity fresh hu hw.names_nodup he,
      withHeaderArgument_eq 0 fresh' hu (create_wellFormed c.transport).names_nodup he]
    exact together_apply_merge (s := .headers (some extra.toMembers)) hw (Option.some_ne_none _) he
  · intro new hn
    rw [withTimeout_eq_overlay hn hw.timeout_pos]
    have hv := withTimeout_validTimeouts (create_validTimeouts c.transport) (some (shorter new c.timeout))
    exact merge_eq hw.toValidTimeouts hv (transport_withTimeout _ _)

end

/-- The header map of the argument comes after the headers that are there, and the timeout that is there is the shorter
one. -/
theorem set_eq_merge_override_streaming :
    let c : Context := { create .streaming with
      timeout := some ⟨5000000, by decide⟩, streamWait := some ⟨1000000, by decide⟩,
      headers := ⟨[("a", [.string "x"])]⟩ }
    let extra : HeaderArgument := .shared ⟨⟨[("b", []), ("a", [.string "y"])]⟩, 7⟩
    let new : Duration := ⟨9000000, by decide⟩
    (Constructed .streaming c ∧ Duration.zero < new ∧ extra ≠ .unset ∧ (Ordered.names extra.toMembers).Nodup ∧
      (Setter.streamWait (some .zero)).Overrides ∧ (Setter.streamWait (some .zero)).Proper) ∧
    c.merge (.context { create .streaming with streamWait := some .zero }) = .ok { c with streamWait := some .zero } ∧
    c.merge (.context { create .streaming with headers := ⟨[("b", []), ("a", [.string "y"])]⟩ }) =
      .ok { c with headers := ⟨[("a", [.string "x", .string "y"]), ("b", [])]⟩ } ∧
    c.merge (.context { create .streaming with timeout := some ⟨5000000, by decide⟩ }) = .ok c := by
  intro c extra new
  have hc : Constructed .streaming c := by
    refine ⟨{ timeout := some ⟨5000000, by decide⟩, streamWait := some (some ⟨1000000, by decide⟩),
              headers := some [("a", .list [.string "x"])] }, ?_, rfl⟩
    rintro _ ⟨⟩
    decide
  have hn : Duration.zero < new := by decide
  have he : (Ordered.names extra.toMembers).Nodup := by decide
  obtain ⟨hset, hheaders, htimeout⟩ := set_eq_merge_override hc
  refine ⟨⟨hc, hn, nofun, he, Option.some_ne_none _, trivial⟩, ?_, ?_, ?_⟩
  · exact hset (.streamWait (some .zero)) (Option.some_ne_none _) trivial
  · exact hheaders 3 4 5 extra nofun he
  · exact htimeout new hn

end RemoteCall.Context
