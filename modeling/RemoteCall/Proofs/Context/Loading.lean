import Mathlib.Data.List.Induction
import RemoteCall.Context.Description
import RemoteCall.Proofs.Context.Merging
import RemoteCall.Proofs.HeaderMerging

/-!
# What a description denotes

Loading takes the entries of a description over one after the other. Each entry alone denotes a context with one field
set, and an object, whose keys are distinct, denotes these contexts laid on top of each other. So each field of a loaded
context is what the description has under the key of that field, whatever the order of the keys.
-/

namespace RemoteCall

namespace Context

/-! ## Setters -/

theorem withTimeout_of_unset {c : Context} (h : c.timeout = none) (d : Option Duration) :
    c.withTimeout d = { c with timeout := normalizeTimeout d } := by
  have hk : c.keepsTimeout d = false := by
    unfold keepsTimeout
    rw [h]
    cases normalizeTimeout d <;> rfl
  simp [withTimeout, hk]

section
variable {t : Transport} {set : Option Duration → Context} {d : Option Duration}

def setStream (t : Transport) (set : Option Duration → Context) (d : Option Duration) : Except Fault Context :=
  match t with
  | .httpJson => .error .noStreaming
  | .streaming => return set (← checkStreamTimeout d)

theorem withStreamWait_eq (c : Context) (d : Option Duration) :
    c.withStreamWait d = setStream c.transport (fun s => { c with streamWait := s }) d := rfl

theorem withStreamIdle_eq (c : Context) (d : Option Duration) :
    c.withStreamIdle d = setStream c.transport (fun s => { c with streamIdle := s }) d := rfl

theorem setStream_eq_ok {e : Context} : setStream t set d = .ok e ↔
    t = .streaming ∧ (∀ s ∈ d, Duration.zero ≤ s) ∧ e = set d := by
  cases t with
  | httpJson => simp [setStream]
  | streaming =>
    simp only [setStream, bind_eq_ok, checkStreamTimeout_eq_ok, pure_eq_ok, Except.ok.injEq, true_and]
    exact ⟨fun ⟨_, ⟨hs, hp⟩, he⟩ => ⟨hp, hs ▸ he.symm⟩, fun ⟨hp, he⟩ => ⟨d, ⟨rfl, hp⟩, he.symm⟩⟩

theorem setStream_map (g : Context → Context) :
    (setStream t set d).map g = setStream t (fun s => g (set s)) d := by
  cases t with
  | httpJson => rfl
  | streaming => simp only [setStream, map_bind, pure_eq_ok, map_ok]

/-- Only what is set to the checked value itself matters. -/
theorem setStream_congr {set' : Option Duration → Context} (h : set d = set' d) :
    setStream t set d = setStream t set' d := by
  cases t with
  | httpJson => rfl
  | streaming =>
    simp only [setStream]
    cases hd : checkStreamTimeout d with
    | error f => rfl
    | ok s =>
      obtain ⟨rfl, -⟩ := checkStreamTimeout_eq_ok.mp hd
      simp only [ok_bind, h]

end

theorem withHeaders_of_empty {c : Context} (h : c.headers = .empty) (members : List (String × Json)) :
    c.withHeaders (some members) = (HeaderMap.freeze members).map fun k => { c with headers := k } := by
  simp only [withHeaders, h, HeaderMap.appendMembers_empty]
  cases HeaderMap.freeze members <;> rfl

theorem textField_eq_ok {key wanted : String} {v : Json} {s : String} :
    textField key wanted v = .ok s ↔ v = .string s := by
  cases v <;> simp [textField]

theorem objectField_eq_ok {key : String} {v : Json} {members : List (String × Json)} :
    objectField key v = .ok members ↔ v = .object members := by
  cases v <;> simp [objectField]

theorem listField_eq_ok {key : String} {v : Json} {items : List Json} :
    listField key v = .ok items ↔ v = .list items := by
  cases v <;> simp [listField]

section
variable {t : Transport}

/-! ## Entries alone -/

/-- The context that an entry of a description alone denotes. -/
def ofEntry (t : Transport) (key : String) (v : Json) : Except Fault Context := (create t).setEntry key v

inductive Entry (t : Transport) : String → Json → Context → Prop
  | timeout {v : Json} {d : Duration} : secondsField "timeout_seconds" v = .ok d →
      Entry t "timeout_seconds" v { create t with timeout := normalizeTimeout (some d) }
  | deadline {s : String} {u : Timestamp} : Timestamp.read s = .ok u →
      Entry t "deadline" (.string s) { create t with deadline := some u }
  | headers {members : List (String × Json)} {h : HeaderMap} : HeaderMap.freeze members = .ok h →
      Entry t "extra_headers" (.object members) { create t with headers := h }
  | retry {members : List (String × Json)} {s : RetrySettings} : RetrySettings.ofMembers members = .ok s →
      Entry t "retry_settings" (.object members) { create t with retry := some s }
  | codes {items : List Json} {codes : List Status} : items.mapM Status.ofJson = .ok codes →
      Entry t "retryable_codes" (.list items) { create t with codes := some (.ofList codes) }
  | streamWait {v : Json} {d : Duration} : t = .streaming → secondsField "stream_wait_timeout_seconds" v = .ok d →
      Duration.zero ≤ d → Entry t "stream_wait_timeout_seconds" v { create t with streamWait := some d }
  | streamIdle {v : Json} {d : Duration} : t = .streaming → secondsField "stream_idle_timeout_seconds" v = .ok d →
      Duration.zero ≤ d → Entry t "stream_idle_timeout_seconds" v { create t with streamIdle := some d }

theorem ofEntry_eq_ok {key : String} {v : Json} {c : Context} : ofEntry t key v = .ok c ↔ Entry t key v c := by
  constructor
  · intro h
    unfold ofEntry setEntry at h
    split at h
    · obtain ⟨d, hd, h⟩ := bind_eq_ok.mp h
      cases h
      rw [withTimeout_of_unset rfl]
      exact .timeout hd
    · obtain ⟨s, hs, h⟩ := bind_eq_ok.mp h
      obtain ⟨u, hu, h⟩ := bind_eq_ok.mp h
      cases h; cases textField_eq_ok.mp hs
      exact .deadline hu
    · obtain ⟨members, hm, hc⟩ := bind_eq_ok.mp h
      obtain rfl := objectField_eq_ok.mp hm
      rw [withHeaders_of_empty rfl] at hc
      cases hf : HeaderMap.freeze members with
      | error f => rw [hf] at hc; cases hc
      | ok k => rw [hf] at hc; cases hc; exact .headers hf
    · obtain ⟨members, hm, h⟩ := bind_eq_ok.mp h
      obtain ⟨s, hs, h⟩ := bind_eq_ok.mp h
      cases h; cases objectField_eq_ok.mp hm
      exact .retry hs
    · obtain ⟨items, hi, h⟩ := bind_eq_ok.mp h
      obtain ⟨codes, hc, h⟩ := bind_eq_ok.mp h
      cases h; cases listField_eq_ok.mp hi
      exact .codes hc
    · obtain ⟨d, hd, h⟩ := bind_eq_ok.mp h
      obtain ⟨ht, hp, rfl⟩ := setStream_eq_ok.mp h
      exact .streamWait ht hd (hp d rfl)
    · obtain ⟨d, hd, h⟩ := bind_eq_ok.mp h
      obtain ⟨ht, hp, rfl⟩ := setStream_eq_ok.mp h
      exact .streamIdle ht hd (hp d rfl)
    · cases h
  · intro h
    cases h with
    | timeout hd => simp [ofEntry, setEntry, hd, withTimeout_of_unset (c := create t) rfl]
    | deadline hu => simp [ofEntry, setEntry, textField, hu, withDeadline]
    | headers hf => simp [ofEntry, setEntry, objectField, withHeaders_of_empty (c := create t) rfl, hf]
    | retry hs => simp [ofEntry, setEntry, objectField, hs, withRetry]
    | codes hc => simp [ofEntry, setEntry, listField, hc, withCodes]
    | streamWait ht hd hp =>
      simp only [ofEntry, setEntry, hd, ok_bind]
      exact setStream_eq_ok.mpr ⟨ht, by rintro _ ⟨⟩; exact hp, rfl⟩
    | streamIdle ht hd hp =>
      simp only [ofEntry, setEntry, hd, ok_bind]
      exact setStream_eq_ok.mpr ⟨ht, by rintro _ ⟨⟩; exact hp, rfl⟩

theorem Entry.transport_eq {key : String} {v : Json} {c : Context} (h : Entry t key v c) : c.transport = t := by
  cases h <;> rfl

theorem Entry.validTimeouts {key : String} {v : Json} {c : Context} (h : Entry t key v c) : c.ValidTimeouts := by
  have hc := create_validTimeouts t
  cases h with
  | @timeout _ d hd =>
    exact { hc with timeout_pos := fun s (hs : s ∈ normalizeTimeout (some d)) => pos_of_mem_normalizeTimeout hs }
  | streamWait ht hd hp =>
    exact { hc with streamWait_nonneg := by rintro _ ⟨⟩; exact hp,
                    streamWait_unset := fun h => by cases ht.symm.trans h }
  | streamIdle ht hd hp =>
    exact { hc with streamIdle_nonneg := by rintro _ ⟨⟩; exact hp,
                    streamIdle_unset := fun h => by cases ht.symm.trans h }
  | deadline | headers | retry | codes => exact ⟨hc.1, hc.2, hc.3, hc.4, hc.5⟩

/-! ## Entry after entry -/

theorem withStreamWait_eq_overlay (c : Context) (d : Duration) :
    c.withStreamWait (some d) = ((create c.transport).withStreamWait (some d)).map c.overlay := by
  rw [withStreamWait_eq, withStreamWait_eq, setStream_map]
  exact setStream_congr (by simp [overlay, firstSet, create, HeaderMap.append_empty])

theorem withStreamIdle_eq_overlay (c : Context) (d : Duration) :
    c.withStreamIdle (some d) = ((create c.transport).withStreamIdle (some d)).map c.overlay := by
  rw [withStreamIdle_eq, withStreamIdle_eq, setStream_map]
  exact setStream_congr (by simp [overlay, firstSet, create, HeaderMap.append_empty])

/-- On a context without timeout and headers an entry does what laying its own context on top does. -/
theorem setEntry_eq_overlay {c : Context} {key : String} (v : Json)
    (ht : key = "timeout_seconds" → c.timeout = none) (hh : key = "extra_headers" → c.headers = .empty) :
    c.setEntry key v = (ofEntry c.transport key v).map c.overlay := by
  unfold ofEntry setEntry
  split
  · have hc := ht rfl
    simp only [map_bind, pure_eq_ok, map_ok, withTimeout_of_unset hc, withTimeout_of_unset (c := create _) rfl]
    congr 1; funext d
    cases hd : normalizeTimeout (some d) <;> simp [overlay, firstSet, create, hc, HeaderMap.append_empty]
  · simp [map_bind, overlay, firstSet, create, withDeadline, HeaderMap.append_empty]
  · have hc := hh rfl
    simp only [map_bind, withHeaders_of_empty hc, withHeaders_of_empty (c := create _) rfl]
    congr 1; funext members
    cases HeaderMap.freeze members <;> simp [overlay, firstSet, create, hc, HeaderMap.empty_append]
  · simp [map_bind, overlay, firstSet, create, withRetry, HeaderMap.append_empty]
  · simp [map_bind, overlay, firstSet, create, withCodes, HeaderMap.append_empty]
  · simp only [map_bind, withStreamWait_eq_overlay c]
  · simp only [map_bind, withStreamIdle_eq_overlay c]
  · rfl

def layered (t : Transport) (cs : List Context) : Context := cs.foldl overlay (create t)

theorem layered_concat (t : Transport) (cs : List Context) (c : Context) :
    layered t (cs ++ [c]) = (layered t cs).overlay c := by
  simp [layered]

theorem transport_layered (cs : List Context) : (layered t cs).transport = t := by
  induction cs using List.reverseRecOn with
  | nil => rfl
  | append_singleton cs c ih => rw [layered_concat]; exact ih

theorem field_layered {α : Type} {field : Context → Option α} (hn : field (create t) = none)
    (ho : ∀ c d, field (overlay c d) = firstSet (field d) (field c)) (cs : List Context) :
    field (layered t cs) = lastSet field cs := by
  induction cs using List.reverseRecOn with
  | nil => exact hn
  | append_singleton cs c ih => rw [layered_concat, ho, ih, lastSet_append, lastSet_singleton]

theorem headers_layered (cs : List Context) :
    (layered t cs).headers = (cs.map headers).foldl (· ++ ·) .empty := by
  induction cs using List.reverseRecOn with
  | nil => rfl
  | append_singleton cs c ih =>
    rw [layered_concat, List.map_append, List.foldl_append, ← ih]
    rfl

/-! ## Looking fields up -/

def fieldAt {α : Type} (t : Transport) (field : Context → Option α) (key : String) (v? : Option Json) : Option α :=
  v?.bind fun v => (ofEntry t key v).toOption.bind field

def headersAt (t : Transport) (v? : Option Json) : HeaderMap :=
  match v?.bind fun v => (ofEntry t "extra_headers" v).toOption with
  | some c => c.headers
  | none => .empty

def ofLookup (t : Transport) (get : String → Option Json) : Context where
  transport := t
  channel := none
  timeout := fieldAt t timeout "timeout_seconds" (get "timeout_seconds")
  deadline := fieldAt t deadline "deadline" (get "deadline")
  credentials := none
  headers := headersAt t (get "extra_headers")
  tracer := none
  retry := fieldAt t retry "retry_settings" (get "retry_settings")
  codes := fieldAt t codes "retryable_codes" (get "retryable_codes")
  streamWait := fieldAt t streamWait "stream_wait_timeout_seconds" (get "stream_wait_timeout_seconds")
  streamIdle := fieldAt t streamIdle "stream_idle_timeout_seconds" (get "stream_idle_timeout_seconds")

theorem firstSet_none {α : Type} (x : Option α) : firstSet x none = x := by cases x <;> rfl

section
variable {d : List (String × Json)} {cs : List Context}

/-- A field that only the entries under one key set is what the entry under that key sets. -/
theorem lastSet_entries {α : Type} {field : Context → Option α} {key : String}
    (hf : ∀ {k v c}, Entry t k v c → k ≠ key → field c = none) (hd : (Ordered.names d).Nodup)
    (h : List.Forall₂ (fun e c => ofEntry t e.1 e.2 = .ok c) d cs) :
    lastSet field cs = fieldAt t field key (Ordered.get? d key) := by
  induction h with
  | nil => rfl
  | @cons e c d cs he h ih =>
    obtain ⟨k, v⟩ := e
    obtain ⟨hk, hd⟩ := List.nodup_cons.mp hd
    rw [← List.singleton_append, lastSet_append, lastSet_singleton, ih hd, Ordered.get?_cons]
    by_cases e : key = k
    · subst e
      have hn : Ordered.get? d key = none := Ordered.get?_eq_none.mpr hk
      rw [if_pos rfl, hn]
      simp only [fieldAt, Option.bind_none, Option.bind_some, he, Except.toOption]
      rfl
    · rw [if_neg e, hf (ofEntry_eq_ok.mp he) (Ne.symm e), firstSet_none]

theorem foldl_append_entries (hd : (Ordered.names d).Nodup)
    (h : List.Forall₂ (fun e c => ofEntry t e.1 e.2 = .ok c) d cs) (start : HeaderMap) :
    (cs.map headers).foldl (· ++ ·) start = start ++ headersAt t (Ordered.get? d "extra_headers") := by
  induction h generalizing start with
  | nil => exact (HeaderMap.append_empty start).symm
  | @cons e c d cs he h ih =>
    obtain ⟨k, v⟩ := e
    obtain ⟨hk, hd⟩ := List.nodup_cons.mp hd
    rw [List.map_cons, List.foldl_cons, ih hd, Ordered.get?_cons]
    by_cases e : "extra_headers" = k
    · subst e
      have hn : Ordered.get? d "extra_headers" = none := Ordered.get?_eq_none.mpr hk
      rw [if_pos rfl, hn]
      simp only [headersAt, Option.bind_none, Option.bind_some, he, Except.toOption, HeaderMap.append_empty]
    · have hc : c.headers = .empty := by
        cases ofEntry_eq_ok.mp he with
        | headers => exact absurd rfl e
        | _ => rfl
      rw [if_neg e, hc, HeaderMap.append_empty]

theorem lastSet_entries_unset {α : Type} {field : Context → Option α}
    (hf : ∀ {k v c}, Entry t k v c → field c = none)
    (h : List.Forall₂ (fun e c => ofEntry t e.1 e.2 = .ok c) d cs) : lastSet field cs = none := by
  induction h with
  | nil => rfl
  | cons he h ih =>
    rw [← List.singleton_append, lastSet_append, lastSet_singleton, ih, hf (ofEntry_eq_ok.mp he)]
    rfl

theorem layered_eq_ofLookup (hd : (Ordered.names d).Nodup)
    (h : List.Forall₂ (fun e c => ofEntry t e.1 e.2 = .ok c) d cs) :
    layered t cs = ofLookup t (Ordered.get? d) := by
  have unset {α : Type} {field : Context → Option α} (hn : field (create t) = none)
      (ho : ∀ c d, field (overlay c d) = firstSet (field d) (field c))
      (hf : ∀ {k v c}, Entry t k v c → field c = none) : field (layered t cs) = none := by
    rw [field_layered hn ho, lastSet_entries_unset hf h]
  have set {α : Type} {field : Context → Option α} {key : String} (hn : field (create t) = none)
      (ho : ∀ c d, field (overlay c d) = firstSet (field d) (field c))
      (hf : ∀ {k v c}, Entry t k v c → k ≠ key → field c = none) :
      field (layered t cs) = fieldAt t field key (Ordered.get? d key) := by
    rw [field_layered hn ho, lastSet_entries hf hd h]
  apply Context.ext
  case transport => exact transport_layered cs
  case channel | credentials | tracer => exact unset rfl (fun _ _ => rfl) fun h => by cases h <;> rfl
  case headers =>
    rw [headers_layered, foldl_append_entries hd h, HeaderMap.empty_append]
    rfl
  case timeout | deadline | retry | codes | streamWait | streamIdle =>
    refine set rfl (fun _ _ => rfl) fun h hk => ?_
    cases h <;> first | rfl | exact absurd rfl hk

end

/-! ## Whole descriptions -/

/-- An object denotes the contexts of its entries on top of each other. The induction adds the last entry, whose key is
not among those before, so that nothing has set its field yet. -/
theorem load_eq {d : List (String × Json)} (hd : (Ordered.names d).Nodup) :
    load t d = (d.mapM fun e => ofEntry t e.1 e.2).map (layered t) := by
  induction d using List.reverseRecOn with
  | nil => rfl
  | append_singleton d e ih =>
    rw [Ordered.names_append, List.nodup_append] at hd
    obtain ⟨hd, -, he⟩ := hd
    have hn : e.1 ∉ Ordered.names d := fun hm => he _ hm e.1 (List.mem_singleton.mpr rfl) rfl
    have hl : load t (d ++ [e]) = load t d >>= fun c => c.setEntry e.1 e.2 := by
      simp only [load, List.foldlM_append, List.foldlM_cons, List.foldlM_nil, bind_pure]
    rw [hl, ih hd, List.mapM_append]
    cases hm : d.mapM fun e => ofEntry t e.1 e.2 with
    | error f => rfl
    | ok cs =>
      have hcs := layered_eq_ofLookup hd (mapM_eq_ok.mp hm)
      have hset : (layered t cs).setEntry e.1 e.2 = (ofEntry t e.1 e.2).map (layered t cs).overlay := by
        rw [setEntry_eq_overlay, transport_layered]
        · intro hk
          have hg : Ordered.get? d "timeout_seconds" = none := Ordered.get?_eq_none.mpr (hk ▸ hn)
          rw [hcs]
          simp only [ofLookup, hg, fieldAt, Option.bind_none]
        · intro hk
          have hg : Ordered.get? d "extra_headers" = none := Ordered.get?_eq_none.mpr (hk ▸ hn)
          rw [hcs]
          simp only [ofLookup, hg, headersAt, Option.bind_none]
      simp only [map_ok, ok_bind, hset, List.mapM_cons, List.mapM_nil, pure_eq_ok]
      cases ofEntry t e.1 e.2 with
      | error f => rfl
      | ok c => simp only [map_ok, ok_bind, layered_concat]

/-- An object can be loaded when each of its entries can, and the context is what it has under each key. -/
theorem load_eq_ok {d : List (String × Json)} (hd : (Ordered.names d).Nodup) {c : Context} : load t d = .ok c ↔
    (∀ key v, Ordered.get? d key = some v → ∃ e, ofEntry t key v = .ok e) ∧ c = ofLookup t (Ordered.get? d) := by
  have hall : (∀ key v, Ordered.get? d key = some v → ∃ e, ofEntry t key v = .ok e) ↔
      ∃ cs, (d.mapM fun e => ofEntry t e.1 e.2) = .ok cs := by
    rw [exists_mapM_eq_ok]
    exact ⟨fun h e he => h e.1 e.2 (Ordered.get?_of_mem hd he), fun h key v hv => h (key, v) (Ordered.mem_of_get? hv)⟩
  rw [hall, load_eq hd]
  cases hm : d.mapM fun e => ofEntry t e.1 e.2 with
  | error f => simp
  | ok cs =>
    rw [map_ok, layered_eq_ofLookup hd (mapM_eq_ok.mp hm), Except.ok.injEq]
    exact ⟨fun h => ⟨⟨cs, rfl⟩, h.symm⟩, fun h => h.2.symm⟩

theorem load_validTimeouts {d : List (String × Json)} (hd : (Ordered.names d).Nodup) {c : Context}
    (h : load t d = .ok c) : c.ValidTimeouts := by
  rw [load_eq hd] at h
  cases hm : d.mapM fun e => ofEntry t e.1 e.2 with
  | error f => rw [hm] at h; cases h
  | ok cs =>
    rw [hm] at h; cases h
    have hcs : ∀ c ∈ cs, c.transport = t ∧ c.ValidTimeouts := by
      intro c hc
      obtain ⟨e, -, he⟩ := (mem_of_mapM hm).mp hc
      exact ⟨(ofEntry_eq_ok.mp he).transport_eq, (ofEntry_eq_ok.mp he).validTimeouts⟩
    clear hm
    induction cs using List.reverseRecOn with
    | nil => exact create_validTimeouts t
    | append_singleton cs c ih =>
      obtain ⟨ht, hc⟩ := hcs c (by simp)
      rw [layered_concat]
      exact overlay_validTimeouts (ih fun c hc => hcs c (List.mem_append_left _ hc)) hc
        (by rw [ht, transport_layered])

end

end Context

end RemoteCall
