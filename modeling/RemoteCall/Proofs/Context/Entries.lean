import RemoteCall.Proofs.Context.Combining
import RemoteCall.Proofs.RetryMembers
import RemoteCall.Proofs.Status

/-!
# Descriptions entry by entry

An object is loaded exactly when each of its entries alone is, and otherwise the first bad entry gives its fault. The
order of the keys shows only in which fault that is. In the same way the members of retry settings may come in any order,
and a list of codes in any order and with repetitions. The order of header names is that of the object they are in.
-/

namespace RemoteCall.Context

/-! ## The first bad entry -/

section
variable {t : Transport} {d : List (String × Json)}

theorem load_singleton (t : Transport) (e : String × Json) : load t [e] = ofEntry t e.1 e.2 := by
  simp only [load, ofEntry, List.foldlM_cons, List.foldlM_nil, bind_pure]

theorem load_eq_error (hd : (Ordered.names d).Nodup) {f : Fault} : load t d = .error f ↔
    FirstBad (fun e => ∃ c, load t [e] = .ok c) (fun e => load t [e] = .error f) d := by
  simp only [load_singleton]
  rw [load_eq hd, map_eq_error, mapM_eq_error]

theorem exists_load_eq_ok (hd : (Ordered.names d).Nodup) :
    (∃ c, load t d = .ok c) ↔ ∀ e ∈ d, ∃ c, load t [e] = .ok c := by
  simp only [load_singleton, ← exists_mapM_eq_ok, load_eq hd, map_eq_ok]
  exact ⟨fun ⟨_, cs, hcs, _⟩ => ⟨cs, hcs⟩, fun ⟨cs, hcs⟩ => ⟨_, cs, hcs, rfl⟩⟩

theorem exists_load_eq_error (hd : (Ordered.names d).Nodup) :
    (∃ f, load t d = .error f) ↔ ∃ e ∈ d, ∃ f, load t [e] = .error f := by
  constructor
  · rintro ⟨f, hf⟩
    obtain ⟨front, e, back, rfl, -, he⟩ := (load_eq_error hd).mp hf
    exact ⟨e, by simp, f, he⟩
  · rintro ⟨e, he, f, hf⟩
    cases hc : load t d with
    | error g => exact ⟨g, rfl⟩
    | ok c =>
      obtain ⟨c', hc'⟩ := (exists_load_eq_ok hd).mp ⟨c, hc⟩ e he
      cases hf.symm.trans hc'

end

/-! ## Rearranged descriptions -/

/-- Entries that differ at most in the order of the members of retry settings, or in the order and the repetitions of
codes. -/
inductive SameEntry : String × Json → String × Json → Prop
  | same (e : String × Json) : SameEntry e e
  | retry {members members' : List (String × Json)} : (Ordered.names members).Nodup → members.Perm members' →
      SameEntry ("retry_settings", .object members) ("retry_settings", .object members')
  | codes {items items' : List Json} : (∀ v, v ∈ items ↔ v ∈ items') →
      SameEntry ("retryable_codes", .list items) ("retryable_codes", .list items')

def Rearranged (d d' : List (String × Json)) : Prop := ∃ m, List.Forall₂ SameEntry d m ∧ m.Perm d'

section
variable {t : Transport} {d d' : List (String × Json)} {e e' : String × Json} {c : Context}

theorem mapM_ofJson_congr {items items' : List Json} (h : ∀ v, v ∈ items ↔ v ∈ items') {codes : List Status}
    (hc : items.mapM Status.ofJson = .ok codes) :
    ∃ codes', items'.mapM Status.ofJson = .ok codes' ∧ StatusSet.ofList codes' = StatusSet.ofList codes := by
  have hall := exists_mapM_eq_ok.mp ⟨codes, hc⟩
  obtain ⟨codes', hc'⟩ := exists_mapM_eq_ok.mpr fun v hv => hall v ((h v).mpr hv)
  refine ⟨codes', hc', StatusSet.ofList_congr fun s => ?_⟩
  simp only [mem_of_mapM hc, mem_of_mapM hc', h]

theorem SameEntry.symm (h : SameEntry e e') : SameEntry e' e := by
  cases h with
  | same => exact .same e
  | retry hn hp => exact .retry ((hp.map Prod.fst).nodup hn) hp.symm
  | codes h => exact .codes fun v => (h v).symm

theorem ofEntry_retry (members : List (String × Json)) : ofEntry t "retry_settings" (.object members) =
    (RetrySettings.ofMembers members).map fun s => (create t).withRetry (some s) := by
  simp only [ofEntry, setEntry, objectField, ok_bind]
  cases RetrySettings.ofMembers members <;> rfl

theorem ofEntry_codes (items : List Json) : ofEntry t "retryable_codes" (.list items) =
    (items.mapM Status.ofJson).map fun codes => (create t).withCodes (some (.ofList codes)) := by
  simp only [ofEntry, setEntry, listField, ok_bind]
  cases items.mapM Status.ofJson <;> rfl

theorem SameEntry.ofEntry_eq_ok (h : SameEntry e e') (hc : ofEntry t e.1 e.2 = .ok c) :
    ofEntry t e'.1 e'.2 = .ok c := by
  cases h with
  | same => exact hc
  | retry hn hp =>
    rw [ofEntry_retry, map_eq_ok] at hc ⊢
    obtain ⟨s, hs, rfl⟩ := hc
    exact ⟨s, (RetrySettings.ofMembers_perm hn hp).mp hs, rfl⟩
  | codes h =>
    rw [ofEntry_codes, map_eq_ok] at hc ⊢
    obtain ⟨codes, hc, rfl⟩ := hc
    obtain ⟨codes', hc', he⟩ := mapM_ofJson_congr h hc
    exact ⟨codes', hc', by rw [he]⟩

theorem names_of_sameEntries {m : List (String × Json)} (h : List.Forall₂ SameEntry d m) :
    Ordered.names m = Ordered.names d := by
  induction h with
  | nil => rfl
  | cons he _ ih =>
    show _ :: Ordered.names _ = _ :: Ordered.names _
    rw [ih]
    cases he <;> rfl

theorem load_of_sameEntries {m : List (String × Json)} (hd : (Ordered.names d).Nodup)
    (h : List.Forall₂ SameEntry d m) (hc : load t d = .ok c) : load t m = .ok c := by
  have hm : (Ordered.names m).Nodup := (names_of_sameEntries h).symm ▸ hd
  rw [load_eq hd, map_eq_ok] at hc
  obtain ⟨cs, hcs, rfl⟩ := hc
  rw [load_eq hm, map_eq_ok]
  exact ⟨cs, mapM_of_forall₂ (fun _ _ _ he hc => he.ofEntry_eq_ok hc) h hcs, rfl⟩

theorem load_congr_of_sameEntries {m : List (String × Json)} (hd : (Ordered.names d).Nodup)
    (h : List.Forall₂ SameEntry d m) : load t d = .ok c ↔ load t m = .ok c := by
  have hm : (Ordered.names m).Nodup := (names_of_sameEntries h).symm ▸ hd
  exact ⟨load_of_sameEntries hd h, load_of_sameEntries hm (h.flip.imp fun _ _ he => he.symm)⟩

theorem load_perm (hd : (Ordered.names d).Nodup) (hp : d.Perm d') : load t d = .ok c ↔ load t d' = .ok c := by
  have hd' : (Ordered.names d').Nodup := (hp.map Prod.fst).nodup hd
  rw [load_eq_ok hd, load_eq_ok hd', Ordered.get?_perm hd hp]

theorem load_rearranged (hd : (Ordered.names d).Nodup) (h : Rearranged d d') :
    load t d = .ok c ↔ load t d' = .ok c := by
  obtain ⟨m, hm, hp⟩ := h
  have hn : (Ordered.names m).Nodup := (names_of_sameEntries hm).symm ▸ hd
  rw [load_congr_of_sameEntries hd hm, load_perm hn hp]

theorem headers_eq_of_load (hd : (Ordered.names d).Nodup) (hc : load t d = .ok c) :
    c.headers = .ofMembers (objectMembers (Ordered.get? d "extra_headers")) := by
  obtain ⟨he, rfl⟩ := (load_eq_ok hd).mp hc
  exact (HeaderMap.freeze_eq_ok.mp (freeze_objectMembers (he "extra_headers"))).2

theorem headers_of_load (hd : (Ordered.names d).Nodup) (hc : load t d = .ok c) :
    c.headers.names = Ordered.names (objectMembers (Ordered.get? d "extra_headers")) := by
  rw [headers_eq_of_load hd hc, HeaderMap.names_ofMembers]

/-- Loading fails exactly when loading some entry alone fails, with the fault of the first such entry. Rearranged
descriptions load the same context or none at all, and the headers of a context are in the order in which they are in
their object. -/
theorem load_entry_by_entry (t : Transport) (hd : (Ordered.names d).Nodup) :
    ((∃ f, load t d = .error f) ↔ ∃ e ∈ d, ∃ f, load t [e] = .error f) ∧
    (∀ f, load t d = .error f ↔
      FirstBad (fun e => ∃ c, load t [e] = .ok c) (fun e => load t [e] = .error f) d) ∧
    (∀ d', Rearranged d d' → ∀ c, load t d = .ok c ↔ load t d' = .ok c) ∧
    ∀ c, load t d = .ok c →
      c.headers.names = Ordered.names (objectMembers (Ordered.get? d "extra_headers")) := by
  refine ⟨exists_load_eq_error hd, fun f => load_eq_error hd, fun d' h c => ?_, fun c hc => ?_⟩
  · exact load_rearranged hd h
  · exact headers_of_load hd hc

end

/-- The deadline of the wrong kind comes before the unknown key. With the keys, the members and the codes rearranged the
same context is loaded. -/
theorem load_entry_by_entry_streaming :
    let headers := Json.object [("b", .list []), ("a", .list [.string "1"])]
    let bad := [("timeout_seconds", Json.int 5), ("deadline", .int 3), ("bogus", .null)]
    let d := [("stream_wait_timeout_seconds", Json.int 0), ("extra_headers", headers),
      ("retry_settings", .object [("max_attempts", .int 3), ("jittered", .bool false)]),
      ("retryable_codes", .list [.string "OK", .string "ABORTED", .string "OK"])]
    let d' := [("retryable_codes", Json.list [.string "ABORTED", .string "OK"]),
      ("retry_settings", .object [("jittered", .bool false), ("max_attempts", .int 3)]), ("extra_headers", headers),
      ("stream_wait_timeout_seconds", .int 0)]
    (Ordered.names bad).Nodup ∧ (Ordered.names d).Nodup ∧
      load .streaming bad = .error (.fieldOfWrongKind "deadline" "an ISO 8601 string" "int") ∧
      ∃ c, load .streaming d = .ok c ∧ load .streaming d' = .ok c ∧ c.headers.names = ["b", "a"] := by
  intro headers bad d d'
  have hb : (Ordered.names bad).Nodup := by decide
  have hd : (Ordered.names d).Nodup := by decide
  have hcodes (v : Json) : v ∈ [Json.string "OK", .string "ABORTED", .string "OK"] ↔
      v ∈ [Json.string "ABORTED", .string "OK"] := by
    simp only [List.mem_cons, List.not_mem_nil, or_false]
    tauto
  have hr : Rearranged d d' :=
    ⟨d'.reverse, .cons (.same _) (.cons (.same _) (.cons (.retry (by decide) (.swap _ _ _)) (.cons (.codes hcodes) .nil))),
      List.reverse_perm d'⟩
  obtain ⟨-, hfirst, -, -⟩ := load_entry_by_entry .streaming hb
  obtain ⟨-, -, hsame, hnames⟩ := load_entry_by_entry .streaming hd
  refine ⟨hb, hd, ?_, ?_⟩
  · refine (hfirst _).mpr ⟨[("timeout_seconds", .int 5)], ("deadline", .int 3), [("bogus", .null)], rfl, ?_, rfl⟩
    intro e he
    cases List.mem_singleton.mp he
    exact ⟨_, rfl⟩
  · cases hc : load .streaming d with
    | ok c => exact ⟨c, rfl, (hsame d' hr c).mp hc, hnames c hc⟩
    | error f =>
      have hk : (load .streaming d).isOk = true := by decide +kernel
      rw [hc] at hk
      cases hk

end RemoteCall.Context
