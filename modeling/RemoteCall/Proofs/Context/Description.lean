import RemoteCall.Proofs.Context.Combining
import RemoteCall.Proofs.Duration
import RemoteCall.Proofs.Retry
import RemoteCall.Proofs.Status
import RemoteCall.Proofs.Timestamp

/-!
# Loading the view of a context

The diagnostic view of a context, without the handles and without the fields that are unset, is a description. Loading
it gives the context back: every field is written under the key that it is read from, and in a form that is read as the
same value.
-/

namespace RemoteCall

namespace Json

def isNull : Json → Bool
  | null => true
  | _ => false

end Json

namespace Context

/-! ## The description -/

def viewOnly : List String := ["transport", "channel", "credentials", "tracer"]

def description (c : Context) : List (String × Json) :=
  c.toMembers.filter fun m => !viewOnly.contains m.1 && !m.2.isNull

/-- Nothing is lost in the view: handles are unset, the durations are short, and the deadline is read as written, which
every valid timestamp is. -/
structure Describable (c : Context) : Prop where
  channel_unset : c.channel = none
  credentials_unset : c.credentials = none
  tracer_unset : c.tracer = none
  timeout_short : ∀ d ∈ c.timeout, d.Short
  deadline_read : ∀ u ∈ c.deadline, Timestamp.read u.toText = .ok u
  retry_describable : ∀ s ∈ c.retry, s.Describable
  streamWait_short : ∀ d ∈ c.streamWait, d.Short
  streamIdle_short : ∀ d ∈ c.streamIdle, d.Short

def viewKeys (t : Transport) : List String :=
  ["transport", "channel", "timeout_seconds", "deadline", "credentials", "extra_headers", "tracer", "retry_settings",
    "retryable_codes"] ++
  match t with
  | .httpJson => []
  | .streaming => ["stream_wait_timeout_seconds", "stream_idle_timeout_seconds"]

def descriptionKeys : List String :=
  ["timeout_seconds", "deadline", "extra_headers", "retry_settings", "retryable_codes", "stream_wait_timeout_seconds",
    "stream_idle_timeout_seconds"]

theorem names_toMembers (c : Context) : Ordered.names c.toMembers = viewKeys c.transport := by
  unfold toMembers
  cases c.transport <;> rfl

theorem names_toMembers_nodup (c : Context) : (Ordered.names c.toMembers).Nodup := by
  rw [names_toMembers]
  cases c.transport <;> decide

theorem names_description_nodup (c : Context) : (Ordered.names c.description).Nodup :=
  (names_toMembers_nodup c).sublist (List.filter_sublist.map Prod.fst)

/-! ## What is under each key -/

section
variable {c : Context} {key : String}

theorem get?_description (hk : viewOnly.contains key = false) :
    Ordered.get? c.description key = (Ordered.get? c.toMembers key).filter fun v => !v.isNull := by
  simp only [description, Ordered.get?_filter_entries _ (names_toMembers_nodup c), hk, Bool.not_false, Bool.true_and]

theorem get?_description_field {α : Type} {f : α → Json} {o : Option α} (hk : viewOnly.contains key = false)
    (hm : Ordered.get? c.toMembers key = some (Json.ofOption f o)) (hf : ∀ a, (f a).isNull = false) :
    Ordered.get? c.description key = o.map f := by
  rw [get?_description hk, hm]
  cases o with
  | none => rfl
  | some a => simp [Json.ofOption, hf a]

theorem timeout_description : Ordered.get? c.description "timeout_seconds" = c.timeout.map fun d => .double d.seconds :=
  get?_description_field (by decide) rfl fun _ => rfl

theorem deadline_description : Ordered.get? c.description "deadline" = c.deadline.map fun u => .string u.toText :=
  get?_description_field (by decide) rfl fun _ => rfl

theorem headers_description : Ordered.get? c.description "extra_headers" = some c.headers.toObject := by
  rw [get?_description (by decide)]
  rfl

theorem retry_description :
    Ordered.get? c.description "retry_settings" = c.retry.map fun s => .object s.toMembers :=
  get?_description_field (by decide) rfl fun _ => rfl

theorem codes_description :
    Ordered.get? c.description "retryable_codes" = c.codes.map fun s => .list (s.sortedNames.map .string) :=
  get?_description_field (by decide) rfl fun _ => rfl

theorem get?_description_stream {o : Option Duration} (hk : viewOnly.contains key = false)
    (hm : c.transport = .streaming → Ordered.get? c.toMembers key = some (secondsOf o))
    (hh : key ∉ viewKeys .httpJson) (ho : c.transport = .httpJson → o = none) :
    Ordered.get? c.description key = o.map fun d => .double d.seconds := by
  cases ht : c.transport with
  | httpJson =>
    have hn : Ordered.get? c.toMembers key = none := by rwa [Ordered.get?_eq_none, names_toMembers, ht]
    rw [get?_description hk, hn, ho ht]
    rfl
  | streaming => exact get?_description_field hk (hm ht) fun _ => rfl

theorem streamWait_description (hc : c.ValidTimeouts) :
    Ordered.get? c.description "stream_wait_timeout_seconds" = c.streamWait.map fun d => .double d.seconds := by
  apply get?_description_stream (by decide) _ (by decide) hc.streamWait_unset
  intro ht
  simp only [toMembers, ht]
  rfl

theorem streamIdle_description (hc : c.ValidTimeouts) :
    Ordered.get? c.description "stream_idle_timeout_seconds" = c.streamIdle.map fun d => .double d.seconds := by
  apply get?_description_stream (by decide) _ (by decide) hc.streamIdle_unset
  intro ht
  simp only [toMembers, ht]
  rfl

theorem mem_descriptionKeys {v : Json} (h : Ordered.get? c.description key = some v) : key ∈ descriptionKeys := by
  obtain ⟨hm, hk⟩ := List.mem_filter.mp (Ordered.mem_of_get? h)
  have hn : key ∈ viewKeys c.transport := by
    rw [← names_toMembers]
    exact List.mem_map_of_mem (f := Prod.fst) hm
  simp only [Bool.and_eq_true, Bool.not_eq_true'] at hk
  have hkeys : ∀ t, ∀ k ∈ viewKeys t, viewOnly.contains k = false → k ∈ descriptionKeys := by
    intro t
    cases t <;> decide
  exact hkeys _ key hn hk.1

/-! ## Entries that are read as written -/

variable {t : Transport} {α : Type} {field : Context → Option α} {f : α → Json} {o : Option α}

def ReadBack (t : Transport) (field : Context → Option α) (key : String) (f : α → Json) (o : Option α) : Prop :=
  ∀ a ∈ o, ∃ e, ofEntry t key (f a) = .ok e ∧ field e = some a

theorem ReadBack.fieldAt_eq (h : ReadBack t field key f o) : fieldAt t field key (o.map f) = o := by
  cases o with
  | none => rfl
  | some a =>
    obtain ⟨e, he, hf⟩ := h a rfl
    simp only [fieldAt, Option.map_some, Option.bind_some, he, Except.toOption, hf]

theorem ReadBack.exists_ofEntry (h : ReadBack t field key f o) {v : Json} (hv : o.map f = some v) :
    ∃ e, ofEntry t key v = .ok e := by
  obtain ⟨a, ha, rfl⟩ := Option.map_eq_some_iff.mp hv
  obtain ⟨e, he, -⟩ := h a ha
  exact ⟨e, he⟩

theorem timeout_readBack (hc : c.ValidTimeouts) (hd : c.Describable) :
    ReadBack t timeout "timeout_seconds" (fun d => .double d.seconds) c.timeout := by
  intro d h
  have hp := hc.timeout_pos d h
  have hs : secondsField "timeout_seconds" (.double d.seconds) = .ok d :=
    Duration.ofSeconds_of_short (Int.le_of_lt hp) (hd.timeout_short d h)
  have hn : normalizeTimeout (some d) = some d := normalizeTimeout_eq_self (by rintro _ ⟨⟩; exact hp)
  exact ⟨_, ofEntry_eq_ok.mpr (.timeout hs), hn⟩

theorem deadline_readBack (hd : c.Describable) :
    ReadBack t deadline "deadline" (fun u => .string u.toText) c.deadline :=
  fun u h => ⟨_, ofEntry_eq_ok.mpr (.deadline (hd.deadline_read u h)), rfl⟩

theorem retry_readBack (hd : c.Describable) :
    ReadBack t retry "retry_settings" (fun s => .object s.toMembers) c.retry :=
  fun s h => ⟨_, ofEntry_eq_ok.mpr (.retry (RetrySettings.ofMembers_toMembers (hd.retry_describable s h))), rfl⟩

theorem codes_readBack :
    ReadBack t codes "retryable_codes" (fun s => .list (s.sortedNames.map .string)) c.codes := by
  intro s _
  have hm : (s.sortedNames.map Json.string).mapM Status.ofJson =
      .ok (s.members.mergeSort fun a b => a.name ≤ b.name) := by
    rw [StatusSet.sortedNames_eq_map, List.map_map]
    exact Status.mapM_ofJson_names _
  refine ⟨_, ofEntry_eq_ok.mpr (.codes hm), ?_⟩
  show some (StatusSet.ofList _) = some s
  rw [StatusSet.ofList_sorted]

theorem streaming_of_mem {o : Option Duration} (ho : c.transport = .httpJson → o = none) {d : Duration} (hd : d ∈ o) :
    c.transport = .streaming := by
  cases ht : c.transport with
  | httpJson => rw [ho ht] at hd; cases hd
  | streaming => rfl

theorem streamWait_readBack (hc : c.ValidTimeouts) (hd : c.Describable) :
    ReadBack c.transport streamWait "stream_wait_timeout_seconds" (fun d => .double d.seconds) c.streamWait := by
  intro d h
  have hn := hc.streamWait_nonneg d h
  have hs : secondsField "stream_wait_timeout_seconds" (.double d.seconds) = .ok d :=
    Duration.ofSeconds_of_short hn (hd.streamWait_short d h)
  exact ⟨_, ofEntry_eq_ok.mpr (.streamWait (streaming_of_mem hc.streamWait_unset h) hs hn), rfl⟩

theorem streamIdle_readBack (hc : c.ValidTimeouts) (hd : c.Describable) :
    ReadBack c.transport streamIdle "stream_idle_timeout_seconds" (fun d => .double d.seconds) c.streamIdle := by
  intro d h
  have hn := hc.streamIdle_nonneg d h
  have hs : secondsField "stream_idle_timeout_seconds" (.double d.seconds) = .ok d :=
    Duration.ofSeconds_of_short hn (hd.streamIdle_short d h)
  exact ⟨_, ofEntry_eq_ok.mpr (.streamIdle (streaming_of_mem hc.streamIdle_unset h) hs hn), rfl⟩

end

/-! ## The whole description -/

/-- A constructed context whose view loses nothing is loaded from its description. -/
theorem load_description {t : Transport} {c : Context} (hc : Constructed t c) (hd : c.Describable) :
    load t c.description = .ok c := by
  obtain ⟨rfl, hv, -⟩ := constructed_iff.mp hc
  have hh : HeaderMap.freeze (c.headers.entries.map fun e => (e.1, .list e.2)) = .ok c.headers :=
    HeaderMap.freeze_lists _
  rw [load_eq_ok (names_description_nodup c)]
  constructor
  · intro key v h
    have hk := mem_descriptionKeys h
    simp only [descriptionKeys, List.mem_cons, List.not_mem_nil, or_false] at hk
    rcases hk with rfl | rfl | rfl | rfl | rfl | rfl | rfl
    · rw [timeout_description] at h
      exact (timeout_readBack hv hd).exists_ofEntry h
    · rw [deadline_description] at h
      exact (deadline_readBack hd).exists_ofEntry h
    · rw [headers_description] at h
      cases h
      exact ⟨_, ofEntry_eq_ok.mpr (.headers hh)⟩
    · rw [retry_description] at h
      exact (retry_readBack hd).exists_ofEntry h
    · rw [codes_description] at h
      exact codes_readBack.exists_ofEntry h
    · rw [streamWait_description hv] at h
      exact (streamWait_readBack hv hd).exists_ofEntry h
    · rw [streamIdle_description hv] at h
      exact (streamIdle_readBack hv hd).exists_ofEntry h
  · apply Context.ext
    case transport => rfl
    case channel => exact hd.channel_unset
    case timeout =>
      simp only [ofLookup, timeout_description, (timeout_readBack hv hd).fieldAt_eq]
    case deadline =>
      simp only [ofLookup, deadline_description, (deadline_readBack hd).fieldAt_eq]
    case credentials => exact hd.credentials_unset
    case headers =>
      simp only [ofLookup, headers_description]
      exact (headersAt_object hh).symm
    case tracer => exact hd.tracer_unset
    case retry =>
      simp only [ofLookup, retry_description, (retry_readBack hd).fieldAt_eq]
    case codes =>
      simp only [ofLookup, codes_description, codes_readBack.fieldAt_eq]
    case streamWait =>
      simp only [ofLookup, streamWait_description hv, (streamWait_readBack hv hd).fieldAt_eq]
    case streamIdle =>
      simp only [ofLookup, streamIdle_description hv, (streamIdle_readBack hv hd).fieldAt_eq]

/-- A duration just below the bound, stream timeouts of zero, no codes, and a header without values. -/
theorem load_description_streaming :
    let c : Context := { create .streaming with
      timeout := some ⟨8589934591999999, by decide⟩
      deadline := some ⟨2024, 2, 29, 23, 59, 58, 500000, some (-19800000000)⟩
      headers := ⟨[("x-id", [.string "1", .string "2"]), ("a", [])]⟩
      retry := some { RetrySettings.default with
        totalTimeout := ⟨1500001, by decide⟩
        retryDelayMultiplier := .double (.finite false 5629499534213120 (-51))
        maxAttempts := 7 }
      codes := some (.ofList [])
      streamWait := some .zero
      streamIdle := some ⟨1, by decide⟩ }
    Ordered.names c.description = descriptionKeys ∧
    (Constructed .streaming c ∧ c.Describable) ∧ load .streaming c.description = .ok c := by
  intro c
  have hc : Constructed .streaming c := constructed_iff.mpr ⟨rfl, {
    timeout_pos := by rintro _ ⟨⟩; decide
    streamWait_nonneg := by rintro _ ⟨⟩; decide
    streamIdle_nonneg := by rintro _ ⟨⟩; decide
    streamWait_unset := by rintro ⟨⟩
    streamIdle_unset := by rintro ⟨⟩
    names_nodup := by decide }⟩
  have hd : c.Describable := {
    channel_unset := rfl
    credentials_unset := rfl
    tracer_unset := rfl
    timeout_short := by rintro _ ⟨⟩; decide
    deadline_read := by
      rintro _ ⟨⟩
      apply Timestamp.Valid.read_toText
      constructor <;> decide
    retry_describable := by
      rintro _ ⟨⟩
      have hm : RetrySettings.belowOne (.double (.finite false 5629499534213120 (-51))) = false := by
        norm_num [RetrySettings.belowOne, Number.blt, Binary64.bltInt, Binary64.value]
      have hone : RetrySettings.belowOne (.double .one) = false := by
        norm_num [RetrySettings.belowOne, Number.blt, Binary64.bltInt, Binary64.value, Binary64.one]
      refine ⟨?_, by decide, ⟨_, rfl⟩, ⟨_, rfl⟩⟩
      simp [RetrySettings.violation?, RetrySettings.durations, RetrySettings.default, hm, hone, Duration.lt_def,
        Duration.zero]
    streamWait_short := by rintro _ ⟨⟩; decide
    streamIdle_short := by rintro _ ⟨⟩; decide }
  exact ⟨rfl, ⟨hc, hd⟩, load_description hc hd⟩

end Context

end RemoteCall
