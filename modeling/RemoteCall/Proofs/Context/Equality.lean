import RemoteCall.Context.Hash
import RemoteCall.Proofs.HeaderEquality

/-!
# Equal contexts

Equal contexts cannot be told apart by what is done with them. Merging them with equal contexts gives equal contexts; a
setter with equal arguments fails for both or gives equal contexts; their hashes are the same. The one field for which
this takes an argument is the headers, where the names may be in any order.
-/

namespace RemoteCall

theorem sameOption_firstSet {α : Type} {same : α → α → Bool} {x x' y y' : Option α} (hx : sameOption same x x' = true)
    (hy : sameOption same y y' = true) :
    sameOption same (Context.firstSet x y) (Context.firstSet x' y') = true := by
  cases x with
  | none =>
    cases x' with
    | none => exact hy
    | some a => cases hx
  | some a =>
    cases x' with
    | none => cases hx
    | some b => exact hx

namespace Context

/-! ## Field by field -/

structure Same (c d : Context) : Prop where
  transport : c.transport = d.transport
  channel : c.channel = d.channel
  timeout : c.timeout = d.timeout
  deadline : sameOption Timestamp.same c.deadline d.deadline = true
  credentials : sameOption Credentials.same c.credentials d.credentials = true
  headers : c.headers.same d.headers = true
  tracer : sameOption Tracer.same c.tracer d.tracer = true
  retry : sameOption RetrySettings.same c.retry d.retry = true
  codes : c.codes = d.codes
  streamWait : c.streamWait = d.streamWait
  streamIdle : c.streamIdle = d.streamIdle

section
variable {c c' d d' : Context}

theorem same_iff : c.same d = true ↔ c.Same d := by
  simp only [same, sameValues, sameHandles, Bool.and_eq_true, beq_iff_eq]
  constructor
  · intro ⟨⟨⟨⟨⟨⟨⟨⟨ht, htime⟩, hdead⟩, hh⟩, hr⟩, hcode⟩, hw⟩, hi⟩, ⟨hch, hcr⟩, htr⟩
    exact ⟨ht, hch, htime, hdead, hcr, hh, htr, hr, hcode, hw, hi⟩
  · intro h
    exact ⟨⟨⟨⟨⟨⟨⟨⟨h.transport, h.timeout⟩, h.deadline⟩, h.headers⟩, h.retry⟩, h.codes⟩, h.streamWait⟩, h.streamIdle⟩,
      ⟨h.channel, h.credentials⟩, h.tracer⟩

/-! ## Merging -/

theorem Same.overlay (hc : c.WellFormed) (hc' : c'.WellFormed) (hd : d.WellFormed) (hd' : d'.WellFormed)
    (h : c.Same c') (k : d.Same d') : (c.overlay d).Same (c'.overlay d') where
  transport := h.transport
  channel := by simp only [Context.overlay, h.channel, k.channel]
  timeout := by simp only [Context.overlay, h.timeout, k.timeout]
  deadline := sameOption_firstSet k.deadline h.deadline
  credentials := sameOption_firstSet k.credentials h.credentials
  headers := HeaderMap.same_append hc.names_nodup hc'.names_nodup hd.names_nodup hd'.names_nodup h.headers k.headers
  tracer := sameOption_firstSet k.tracer h.tracer
  retry := sameOption_firstSet k.retry h.retry
  codes := by simp only [Context.overlay, h.codes, k.codes]
  streamWait := by simp only [Context.overlay, h.streamWait, k.streamWait]
  streamIdle := by simp only [Context.overlay, h.streamIdle, k.streamIdle]

end

end Context

/-! ## Setters -/

def ChannelArgument.Same : ChannelArgument → ChannelArgument → Prop
  | unset, unset => True
  | wrapped t h, wrapped u k => t = u ∧ h = k
  -- values of two types can be equal
  | other _, other _ => True
  | _, _ => False

namespace Context

inductive Setter.Same : Setter → Setter → Prop
  | channel (h : Option Handle) : Same (.channel h) (.channel h)
  | transportChannel {x y : ChannelArgument} : x.Same y → Same (.transportChannel x) (.transportChannel y)
  | credentials {k l : Option Credentials} : sameOption Credentials.same k l = true →
      Same (.credentials k) (.credentials l)
  | tracer {t u : Option Tracer} : sameOption Tracer.same t u = true → Same (.tracer t) (.tracer u)
  | timeout (d : Option Duration) : Same (.timeout d) (.timeout d)
  | deadline {t u : Option Timestamp} : sameOption Timestamp.same t u = true → Same (.deadline t) (.deadline u)
  | streamWait (d : Option Duration) : Same (.streamWait d) (.streamWait d)
  | streamIdle (d : Option Duration) : Same (.streamIdle d) (.streamIdle d)
  | headersUnset : Same (.headers none) (.headers none)
  | headers {l m : List (String × Json)} : HeaderMap.SameMembers l m → Same (.headers (some l)) (.headers (some m))
  | retry {s t : Option RetrySettings} : sameOption RetrySettings.same s t = true → Same (.retry s) (.retry t)
  | codes (s : Option StatusSet) : Same (.codes s) (.codes s)

section
variable {c d : Context}

theorem together_withTransportChannel (h : c.Same d) {x y : ChannelArgument} (hs : x.Same y) :
    Together Same (c.withTransportChannel x) (d.withTransportChannel y) := by
  match x, y, hs with
  | .unset, .unset, _ => trivial
  | .other _, .other _, _ => trivial
  | .wrapped t k, .wrapped _ _, ⟨rfl, rfl⟩ =>
    simp only [withTransportChannel, h.transport]
    by_cases ht : t = d.transport
    · simp only [ht, if_true]
      exact { h with channel := rfl }
    · simp only [ht, if_false]
      trivial

theorem together_withTracer (h : c.Same d) {x y : Option Tracer} (hs : sameOption Tracer.same x y = true) :
    Together Same (c.withTracer x) (d.withTracer y) := by
  match x, y, hs with
  | none, none, _ => trivial
  | some _, some _, hs => exact { h with tracer := hs }

theorem Same.withTimeout (h : c.Same d) (x : Option Duration) : (c.withTimeout x).Same (d.withTimeout x) := by
  have hk : c.keepsTimeout x = d.keepsTimeout x := by simp only [keepsTimeout, h.timeout]
  unfold Context.withTimeout
  by_cases hd : d.keepsTimeout x = true
  · simp only [hk, hd, if_true]
    exact h
  · simp only [hk, hd]
    exact { h with timeout := rfl }

theorem together_setStream {t u : Transport} {set set' : Option Duration → Context} (ht : t = u)
    (h : ∀ x, (set x).Same (set' x)) (x : Option Duration) :
    Together Same (setStream t set x) (setStream u set' x) := by
  subst ht
  cases t with
  | httpJson => trivial
  | streaming =>
    simp only [setStream]
    cases checkStreamTimeout x with
    | ok y => exact h y
    | error f => trivial

theorem together_withHeaders (hc : c.WellFormed) (hd : d.WellFormed) (h : c.Same d) {l m : List (String × Json)}
    (hs : HeaderMap.SameMembers l m) : Together Context.Same (c.withHeaders (some l)) (d.withHeaders (some m)) := by
  have ha := HeaderMap.same_appendMembers hc.names_nodup hd.names_nodup h.headers hs
  refine together_bind ha fun x y _ _ hxy => ?_
  exact { h with headers := hxy }

theorem Setter.together_apply (hc : c.WellFormed) (hd : d.WellFormed) (h : c.Same d) {s s' : Setter} (hs : s.Same s') :
    Together Context.Same (s.apply c) (s'.apply d) := by
  cases hs with
  | channel x => exact { h with channel := rfl }
  | transportChannel hs => exact together_withTransportChannel h hs
  | credentials hs => exact { h with credentials := hs }
  | tracer hs => exact together_withTracer h hs
  | timeout x => exact h.withTimeout x
  | deadline hs => exact { h with deadline := hs }
  | streamWait x =>
    refine together_setStream h.transport (fun y => ?_) x
    exact { h with streamWait := rfl }
  | streamIdle x =>
    refine together_setStream h.transport (fun y => ?_) x
    exact { h with streamIdle := rfl }
  | headersUnset => trivial
  | headers hs => exact together_withHeaders hc hd h hs
  | retry hs => exact { h with retry := hs }
  | codes x => exact { h with codes := rfl }

end

end Context

/-! ## Hashes of parts -/

section
variable (H : Hasher)

theorem Hasher.number_of_same {m n : Number} (h : Json.sameNumber m n = true) : H.number m = H.number n := by
  unfold Json.sameNumber at h
  split at h
  · rfl
  · exact H.number_congr h

theorem Hasher.ofOption_congr {α : Type} {same : α → α → Bool} {f : α → Int} (hf : ∀ a b, same a b = true → f a = f b)
    {x y : Option α} (h : sameOption same x y = true) : H.ofOption f x = H.ofOption f y := by
  match x, y, h with
  | none, none, _ => rfl
  | some a, some b, h => exact hf a b h

theorem RetrySettings.hash_congr {s t : RetrySettings} (h : s.same t = true) : s.hash H = t.hash H := by
  simp only [same, Bool.and_eq_true, beq_iff_eq] at h
  obtain ⟨⟨⟨⟨⟨⟨⟨⟨ht, hd⟩, hdm⟩, hdl⟩, ha⟩, hj⟩, hr⟩, hrm⟩, hrl⟩ := h
  simp only [hash, ht, hd, H.number_of_same hdm, hdl, ha, hj, hr, H.number_of_same hrm, hrl]

namespace Json

def hasHash : Json → Bool
  | .list _ | .object _ => false
  | _ => true

theorem map_eq_of_sameItems {α : Type} {f : Json → α} (hf : ∀ v w : Json, v.same w = true → f v = f w)
    {xs ys : List Json} (h : sameItems xs ys = true) : xs.map f = ys.map f := by
  rw [sameItems_iff] at h
  induction h with
  | nil => rfl
  | cons hv _ ih => rw [List.map_cons, List.map_cons, hf _ _ hv, ih]

theorem hasHash_congr (v w : Json) (h : v.same w = true) : v.hasHash = w.hasHash := by
  cases v <;> cases w <;> first | rfl | cases h

theorem hash_congr (v w : Json) (h : v.same w = true) : v.hash H = w.hash H := by
  cases v <;> cases w <;> simp [same, numeric?] at h <;>
    first | rfl | exact H.number_of_same h | simp [hash, h]

end Json

/-! ## Hashes of headers -/

namespace HeaderMap

def Texts (h : HeaderMap) : Prop := ∀ e ∈ h.entries, ∀ v ∈ e.2, ∃ s, v = .string s

section
variable {h k : HeaderMap}

theorem map_entries {α : Type} (f : String → List Json → α) (hh : h.names.Nodup) :
    (h.entries.map fun e => f e.1 e.2) = h.names.map fun n => f n (h.values n) := by
  simp only [names, Ordered.names, List.map_map]
  apply List.map_congr_left
  intro e he
  simp [values, Ordered.get?_of_mem hh he]

theorem unhashable?_eq_none : h.unhashable? = none ↔ ∀ e ∈ h.entries, ∀ v ∈ e.2, v.hasHash = true := by
  simp only [unhashable?, List.findSome?_eq_none_iff, List.mem_flatMap]
  constructor
  · intro ha e he v hv
    have hn := ha v ⟨e, he, hv⟩
    cases v <;> first | rfl | cases hn
  · rintro ha v ⟨e, he, hv⟩
    have hn := ha e he v hv
    cases v <;> first | rfl | cases hn

theorem unhashable?_of_texts (ht : h.Texts) : h.unhashable? = none := by
  rw [unhashable?_eq_none]
  intro e he v hv
  obtain ⟨s, rfl⟩ := ht e he v hv
  rfl

/-- Equal maps look the same, up to the order of names, through what does not tell equal values apart. -/
theorem perm_of_same {α : Type} {f : Json → α} (hf : ∀ v w : Json, v.same w = true → f v = f w)
    (hh : h.names.Nodup) (hk : k.names.Nodup) (hs : h.same k = true) :
    (h.entries.map fun e => (e.1, e.2.map f)).Perm (k.entries.map fun e => (e.1, e.2.map f)) := by
  obtain ⟨hn, hv⟩ := (same_iff hh hk).mp hs
  rw [map_entries (fun n xs => (n, xs.map f)) hh, map_entries (fun n xs => (n, xs.map f)) hk]
  have he : ∀ n, (h.values n).map f = (k.values n).map f := fun n => Json.map_eq_of_sameItems hf (hv n)
  simp only [he]
  exact ((List.perm_ext_iff_of_nodup hh hk).mpr hn).map _

theorem unhashable?_congr (hh : h.names.Nodup) (hk : k.names.Nodup) (hs : h.same k = true) :
    h.unhashable? = none ↔ k.unhashable? = none := by
  have hall (g : HeaderMap) : g.unhashable? = none ↔
      ∀ p ∈ g.entries.map (fun e => (e.1, e.2.map Json.hasHash)), ∀ b ∈ p.2, b = true := by
    rw [unhashable?_eq_none]
    simp only [List.forall_mem_map]
  have hp := perm_of_same Json.hasHash_congr hh hk hs
  rw [hall, hall]
  exact forall_congr' fun p => by rw [hp.mem_iff]

theorem hash_congr (hh : h.names.Nodup) (hk : k.names.Nodup) (hs : h.same k = true) :
    Together (· = ·) (h.hash H) (k.hash H) := by
  have hu := unhashable?_congr hh hk hs
  unfold hash
  cases h' : h.unhashable? with
  | none =>
    rw [hu.mp h']
    have hp := (perm_of_same (Json.hash_congr H) hh hk hs).map fun p => H.sequence [H.text p.1, H.sequence p.2]
    simp only [List.map_map] at hp
    exact H.set_congr hp
  | some kind =>
    cases k' : k.unhashable? with
    | none => rw [hu.mpr k'] at h'; cases h'
    | some kind' => trivial

end

end HeaderMap

/-! ## Hashes of contexts -/

namespace Context

theorem hash_congr {c d : Context} (hc : c.headers.names.Nodup) (hd : d.headers.names.Nodup)
    (h : c.sameValues d = true) : Together (· = ·) (c.hash H) (d.hash H) := by
  simp only [sameValues, Bool.and_eq_true, beq_iff_eq] at h
  obtain ⟨⟨⟨⟨⟨⟨⟨ht, htime⟩, hdead⟩, hh⟩, hr⟩, hcode⟩, hw⟩, hi⟩ := h
  refine together_bind (HeaderMap.hash_congr H hc hd hh) fun x y _ _ hxy => ?_
  have hdead := H.ofOption_congr (fun _ _ h => H.timestamp_congr h) hdead
  have hr := H.ofOption_congr (fun _ _ h => RetrySettings.hash_congr H h) hr
  show H.sequence (c.fieldHashes H x) = H.sequence (d.fieldHashes H y)
  simp only [fieldHashes, ht, htime, hdead, hxy, hr, hcode, hw, hi]

/-- Whatever the channel, the credentials and the tracer are, equal contexts have the same hash. -/
theorem hash_congr_of_same {c d : Context} (hc : c.WellFormed) (hd : d.WellFormed) (h : c.Same d)
    (channel : Option Handle) (credentials : Option Credentials) (tracer : Option Tracer) :
    Together (· = ·) (c.hash H) ({ d with channel, credentials, tracer }.hash H) := by
  apply hash_congr H hc.names_nodup
  · exact hd.names_nodup
  · have hs := same_iff.mpr h
    simp only [same, Bool.and_eq_true] at hs
    exact hs.1

theorem exists_hash {c : Context} : (∃ n, c.hash H = .ok n) ↔ c.headers.unhashable? = none := by
  unfold hash HeaderMap.hash
  cases c.headers.unhashable? <;> simp

theorem hash_of_sameHash {c d : Context} (hc : c.headers.names.Nodup) (hd : d.headers.names.Nodup)
    (h : c.sameHash d = .ok true) : ∃ n, c.hash H = .ok n ∧ d.hash H = .ok n := by
  unfold sameHash at h
  cases hu : c.headers.unhashable? with
  | some kind => simp [hu] at h
  | none =>
    cases ku : d.headers.unhashable? with
    | some kind => simp [hu, ku] at h
    | none =>
      simp only [hu, ku, Option.orElse_eq_orElse, Option.orElse_eq_or, Option.or_none, Except.ok.injEq] at h
      obtain ⟨n, hn⟩ := (exists_hash H).mpr hu
      obtain ⟨m, hm⟩ := (exists_hash H).mpr ku
      have ht := hash_congr H hc hd h
      rw [hn, hm] at ht
      cases ht
      exact ⟨_, hn, hm⟩

end Context

end

/-! ## All operations -/

namespace Context

variable {t : Transport}

/-- Equality is kept by merging and by every setter with equal arguments, and equal contexts have the same hash, whatever
the fields are that the hash leaves out. -/
theorem same_congr {a a' b b' : Context} (ha : Constructed t a) (ha' : Constructed t a') (hb : Constructed t b)
    (hb' : Constructed t b') (h : a.same a' = true) (k : b.same b' = true) :
    (∃ c c', a.merge (.context b) = .ok c ∧ a'.merge (.context b') = .ok c' ∧ c.same c' = true) ∧
    (∀ s s' : Setter, s.Same s' → Together (fun c c' => c.same c' = true) (s.apply a) (s'.apply a')) ∧
    (∀ (H : Hasher) (channel : Option Handle) (credentials : Option Credentials) (tracer : Option Tracer),
      Together (· = ·) (a.hash H) ({ a' with channel, credentials, tracer }.hash H)) ∧
    (a.headers.Texts → ∀ H : Hasher, ∃ n, a.hash H = .ok n) := by
  obtain ⟨rfl, wa⟩ := constructed_iff.mp ha
  obtain ⟨ta', wa'⟩ := constructed_iff.mp ha'
  obtain ⟨tb, wb⟩ := constructed_iff.mp hb
  obtain ⟨tb', wb'⟩ := constructed_iff.mp hb'
  have ra := same_iff.mp h
  have rb := same_iff.mp k
  refine ⟨⟨a.overlay b, a'.overlay b', ?_, ?_, ?_⟩, ?_, ?_, ?_⟩
  · exact merge_eq wa.toValidTimeouts wb.toValidTimeouts tb
  · exact merge_eq wa'.toValidTimeouts wb'.toValidTimeouts (tb'.trans ta'.symm)
  · exact same_iff.mpr (ra.overlay wa wa' wb wb' rb)
  · intro s s' hs
    simp only [same_iff]
    exact Setter.together_apply wa wa' ra hs
  · intro H channel credentials tracer
    exact hash_congr_of_same H wa wa' ra channel credentials tracer
  · intro ht H
    exact (exists_hash H).mpr (HeaderMap.unhashable?_of_texts ht)

end Context

/-! ## A hasher -/

namespace Hasher

def plainNumber : Number → Int
  | .integer i => i
  | .double x => x.value.num

def plainTimestamp (t : Timestamp) : Int := t.wallMicroseconds - t.offset.getD 0

theorem plainNumber_congr {m n : Number} (h : m.numEq n = true) : plainNumber m = plainNumber n := by
  match m, n with
  | .integer i, .integer j => simpa [Number.numEq, plainNumber] using h
  | .integer i, .double (.finite ..) => simp_all [Number.numEq, Binary64.eqInt, plainNumber]
  | .double (.finite ..), .integer j => simp_all [Number.numEq, Binary64.eqInt, plainNumber]
  | .double (.finite ..), .double (.finite ..) => simp_all [Number.numEq, Binary64.numEq, plainNumber]
  | .double (.infinite _), .double (.infinite _) => rfl

theorem plainTimestamp_congr {t u : Timestamp} (h : t.same u = true) : plainTimestamp t = plainTimestamp u := by
  unfold Timestamp.same at h
  split at h
  · rw [beq_iff_eq.mp h]
  · rename_i ht hu
    simpa [plainTimestamp, ht, hu] using h
  · cases h

def plain : Hasher where
  unset := 1
  text s := s.length
  number := plainNumber
  duration d := d.microseconds
  timestamp := plainTimestamp
  status s := s.httpStatus
  sequence := List.foldl (fun acc n => 31 * acc + n) 7
  set := List.foldr (· + ·) 0
  number_congr := plainNumber_congr
  timestamp_congr := plainTimestamp_congr
  set_congr h := h.foldr_eq 0

end Hasher

namespace Context

/-- Header names in another order, a deadline with another offset and credentials of another kind: merged, with headers
appended and hashed alike. -/
theorem same_congr_streaming :
    let a : Context := { create .streaming with
      deadline := some ⟨2030, 1, 1, 12, 0, 0, 0, some 0⟩, credentials := some (.plain (.int 1)),
      headers := ⟨[("x", [.string "1"]), ("y", [.string "2", .string "3"])]⟩ }
    let a' : Context := { create .streaming with
      deadline := some ⟨2030, 1, 1, 13, 0, 0, 0, some 3600000000⟩, credentials := some (.plain (.bool true)),
      headers := ⟨[("y", [.string "2", .string "3"]), ("x", [.string "1"])]⟩ }
    let b : Context := { create .streaming with
      retry := some .default, headers := ⟨[("z", []), ("y", [.string "4"])]⟩ }
    let b' : Context := { create .streaming with
      retry := some .default, headers := ⟨[("y", [.string "4"]), ("z", [])]⟩ }
    let more : List (String × Json) := [("w", .list []), ("x", .list [.string "5"])]
    let more' : List (String × Json) := [("x", .list [.string "5"]), ("w", .list [])]
    (∃ c c', a.merge (.context b) = .ok c ∧ a'.merge (.context b') = .ok c' ∧ c.same c' = true) ∧
      Together (fun c c' => c.same c' = true) (a.withHeaders (some more)) (a'.withHeaders (some more')) ∧
      Together (· = ·) (a.hash .plain) (a'.hash .plain) ∧ ∃ n, a.hash .plain = .ok n := by
  intro a a' b b' more more'
  have hv := create_validTimeouts .streaming
  have hc : ∀ c ∈ [a, a', b, b'], Constructed .streaming c := by
    intro c hc
    apply constructed_iff.mpr
    simp only [List.mem_cons, List.not_mem_nil, or_false] at hc
    rcases hc with rfl | rfl | rfl | rfl
    all_goals exact ⟨rfl, ⟨⟨hv.1, hv.2, hv.3, hv.4, hv.5⟩, by decide⟩⟩
  have hm : HeaderMap.SameMembers more more' := by
    refine ⟨by decide, by decide, fun n => ?_⟩
    by_cases hw : n = "w"
    · subst hw
      exact .inr ⟨_, _, rfl, rfl, rfl⟩
    · by_cases hx : n = "x"
      · subst hx
        exact .inr ⟨_, _, rfl, rfl, rfl⟩
      · simp [more, more', hw, hx, Ordered.get?]
  have ht : a.headers.Texts := by
    simp [HeaderMap.Texts, a]
  obtain ⟨h, hs, hh, hx⟩ := same_congr (hc a (by simp)) (hc a' (by simp)) (hc b (by simp)) (hc b' (by simp))
    (by decide +kernel) (by decide +kernel)
  exact ⟨h, hs _ _ (.headers hm), hh .plain none (some (.plain (.bool true))) none, hx ht .plain⟩

end Context

end RemoteCall
