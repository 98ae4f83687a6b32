import RemoteCall.Proofs.Context.Loading

/-!
# Combining descriptions

Two descriptions can be combined key by key, and loading the combined one gives what merging the two loaded contexts
gives. The entries of the second description win, but for a timeout that is none; headers are put together name by name.
-/

namespace RemoteCall

def Json.items : Json → List Json
  | .list items => items
  | _ => []

@[simp] theorem Json.items_list (items : List Json) : (Json.list items).items = items := rfl

namespace HeaderMap

/-! ## Headers put together -/

/-- The members of the first object with the items of the second one behind theirs, then the new members of the
second. -/
def combined (b o : List (String × Json)) : List (String × Json) :=
  b.map (fun m => (m.1, .list (m.2.items ++ ((Ordered.get? o m.1).map Json.items).getD []))) ++
    o.filter fun m => !(Ordered.names b).contains m.1

def AllLists (members : List (String × Json)) : Prop := ∀ m ∈ members, ∃ items, m.2 = .list items

theorem freeze_of_allLists {members : List (String × Json)} (h : AllLists members) :
    freeze members = .ok ⟨members.map fun m => (m.1, m.2.items)⟩ := by
  rw [← freeze_lists, List.map_map]
  congr 1
  conv_lhs => rw [← List.map_id members]
  apply List.map_congr_left
  rintro ⟨n, v⟩ hm
  obtain ⟨items, rfl⟩ := h _ hm
  rfl

theorem AllLists.combined {b o : List (String × Json)} (ho : AllLists o) : AllLists (combined b o) := by
  intro m hm
  rcases List.mem_append.mp hm with hm | hm
  · obtain ⟨k, -, rfl⟩ := List.mem_map.mp hm
    exact ⟨_, rfl⟩
  · exact ho m (List.mem_of_mem_filter hm)

theorem freeze_combined {b o : List (String × Json)} {hb ho : HeaderMap} (lb : AllLists b) (lo : AllLists o)
    (fb : freeze b = .ok hb) (fo : freeze o = .ok ho) : freeze (HeaderMap.combined b o) = .ok (hb ++ ho) := by
  rw [freeze_of_allLists lb] at fb
  rw [freeze_of_allLists lo] at fo
  cases fb; cases fo
  rw [freeze_of_allLists lo.combined, Except.ok.injEq, HeaderMap.mk.injEq, entries_append, HeaderMap.combined,
    List.map_append, List.map_map, List.map_map, List.filter_map]
  congr 1
  · apply List.map_congr_left
    rintro ⟨n, v⟩ -
    simp only [Function.comp_apply, Json.items_list, values, Ordered.get?_map fun _ v => Json.items v]
  · congr 1
    apply List.filter_congr
    intro m _
    simp only [Function.comp_apply, contains, names, Ordered.names_map fun _ v => Json.items v]

end HeaderMap

namespace Context

/-! ## Descriptions put together -/

def disables (v : Json) : Bool :=
  match secondsField "timeout_seconds" v with
  | .ok d => !decide (Duration.zero < d)
  | .error _ => false

def objectMembers : Option Json → List (String × Json)
  | some (.object members) => members
  | _ => []

def combinedEntry (b o : List (String × Json)) (key : String) : Option Json :=
  let under := Ordered.get? b key
  let upper := Ordered.get? o key
  match key with
  | "extra_headers" =>
    if under.isSome || upper.isSome then
      some (.object (HeaderMap.combined (objectMembers under) (objectMembers upper)))
    else none
  | "timeout_seconds" => (upper.filter fun v => !disables v).or under
  | _ => upper.or under

def combine (b o : List (String × Json)) : List (String × Json) :=
  (Ordered.names b ++ Ordered.names o).eraseDups.filterMap fun key => (combinedEntry b o key).map (key, ·)

structure Combinable (d : List (String × Json)) : Prop where
  names_nodup : (Ordered.names d).Nodup
  allLists : ∀ members, Ordered.get? d "extra_headers" = some (.object members) → HeaderMap.AllLists members

/-- The object has under each key what the two descriptions together have, its keys being in any order. -/
structure IsCombination (b o d : List (String × Json)) : Prop where
  names_nodup : (Ordered.names d).Nodup
  get?_eq : ∀ key, Ordered.get? d key = combinedEntry b o key

section
variable {t : Transport} {b o : List (String × Json)}

theorem combinedEntry_of_ne {key : String} (ht : key ≠ "timeout_seconds") (hh : key ≠ "extra_headers") :
    combinedEntry b o key = (Ordered.get? o key).or (Ordered.get? b key) := by
  unfold combinedEntry
  split <;> first | contradiction | rfl

theorem combinedEntry_eq_none {key : String} (hb : key ∉ Ordered.names b) (ho : key ∉ Ordered.names o) :
    combinedEntry b o key = none := by
  unfold combinedEntry
  rw [Ordered.get?_eq_none.mpr hb, Ordered.get?_eq_none.mpr ho]
  split <;> rfl

theorem combine_isCombination (b o : List (String × Json)) : IsCombination b o (combine b o) where
  names_nodup := (nodup_eraseDups _).sublist (Ordered.names_filterMap_sublist _ _)
  get?_eq key := by
    rw [combine, Ordered.get?_filterMap]
    by_cases hk : key ∈ (Ordered.names b ++ Ordered.names o).eraseDups
    · rw [if_pos hk]
    · rw [List.mem_eraseDups, List.mem_append, not_or] at hk
      rw [if_neg (by simpa using hk), combinedEntry_eq_none hk.1 hk.2]

/-! ## Fields of the combination -/

/-- A field that the entry under its key always sets is taken from the second description, or else from the first. -/
theorem fieldAt_or {α : Type} {field : Context → Option α} {key : String}
    (hf : ∀ {k v c}, Entry t k v c → k = key → (field c).isSome) {upper : Option Json}
    (hu : ∀ v, upper = some v → ∃ c, ofEntry t key v = .ok c) (under : Option Json) :
    fieldAt t field key (upper.or under) = firstSet (fieldAt t field key upper) (fieldAt t field key under) := by
  cases upper with
  | none => rfl
  | some v =>
    obtain ⟨c, hc⟩ := hu v rfl
    obtain ⟨a, ha⟩ := Option.isSome_iff_exists.mp (hf (ofEntry_eq_ok.mp hc) rfl)
    have hv : fieldAt t field key (some v) = some a := by
      simp only [fieldAt, Option.bind_some, hc, Except.toOption, ha]
    rw [Option.some_or, hv]
    rfl

theorem timeoutAt (v : Json) : fieldAt t timeout "timeout_seconds" (some v) =
    normalizeTimeout (secondsField "timeout_seconds" v).toOption := by
  simp only [fieldAt, ofEntry, setEntry, Option.bind_some]
  cases secondsField "timeout_seconds" v with
  | error f => rfl
  | ok d =>
    simp only [ok_bind, pure_eq_ok, withTimeout_of_unset (c := create t) rfl]
    rfl

theorem timeoutAt_or (upper under : Option Json)
    (hu : ∀ v, upper = some v → ∃ c, ofEntry t "timeout_seconds" v = .ok c) :
    fieldAt t timeout "timeout_seconds" ((upper.filter fun v => !disables v).or under) =
      firstSet (fieldAt t timeout "timeout_seconds" upper) (fieldAt t timeout "timeout_seconds" under) := by
  cases upper with
  | none => rfl
  | some v =>
    obtain ⟨c, hc⟩ := hu v rfl
    obtain ⟨d, hd, -⟩ := bind_eq_ok.mp hc
    by_cases hp : Duration.zero < d
    · have hv : disables v = false := by simp [disables, hd, hp]
      have hn : normalizeTimeout (some d) = some d := normalizeTimeout_eq_self (by rintro _ ⟨⟩; exact hp)
      rw [Option.filter_some, hv, timeoutAt, hd]
      simp only [Bool.not_false, if_true, Option.some_or, timeoutAt, hd, Except.toOption, hn, firstSet]
    · have hv : disables v = true := by simp [disables, hd, hp]
      have hn : normalizeTimeout (some d) = none := by simp [normalizeTimeout, hp]
      rw [Option.filter_some, hv, timeoutAt, hd]
      simp [Except.toOption, hn, firstSet]

theorem ofEntry_headers {v : Json} {c : Context} (h : ofEntry t "extra_headers" v = .ok c) :
    ∃ members, v = .object members ∧ HeaderMap.freeze members = .ok c.headers := by
  obtain ⟨members, hm, hc⟩ := bind_eq_ok.mp h
  rw [withHeaders_of_empty rfl] at hc
  cases hf : HeaderMap.freeze members with
  | error f => rw [hf] at hc; cases hc
  | ok k => rw [hf] at hc; cases hc; exact ⟨members, objectField_eq_ok.mp hm, hf⟩

theorem freeze_objectMembers {v? : Option Json} (h : ∀ v, v? = some v → ∃ c, ofEntry t "extra_headers" v = .ok c) :
    HeaderMap.freeze (objectMembers v?) = .ok (headersAt t v?) := by
  cases v? with
  | none => rfl
  | some v =>
    obtain ⟨c, hc⟩ := h v rfl
    obtain ⟨members, rfl, hf⟩ := ofEntry_headers hc
    simp only [headersAt, Option.bind_some, hc, Except.toOption]
    exact hf

theorem headersAt_object {members : List (String × Json)} {h : HeaderMap} (hf : HeaderMap.freeze members = .ok h) :
    headersAt t (some (.object members)) = h := by
  simp only [headersAt, Option.bind_some, ofEntry_eq_ok.mpr (.headers hf), Except.toOption]

theorem Combinable.objectMembers_allLists {d : List (String × Json)} (h : Combinable d) :
    HeaderMap.AllLists (objectMembers (Ordered.get? d "extra_headers")) := by
  cases hd : Ordered.get? d "extra_headers" with
  | none => exact fun _ hm => (List.not_mem_nil hm).elim
  | some v =>
    cases v with
    | object members => exact h.allLists members hd
    | _ => exact fun _ hm => (List.not_mem_nil hm).elim

section
variable (hb : Combinable b) (ho : Combinable o)
  (eb : ∀ key v, Ordered.get? b key = some v → ∃ c, ofEntry t key v = .ok c)
  (eo : ∀ key v, Ordered.get? o key = some v → ∃ c, ofEntry t key v = .ok c)
include hb ho eb eo

theorem freeze_combinedMembers : HeaderMap.freeze (HeaderMap.combined (objectMembers (Ordered.get? b "extra_headers"))
      (objectMembers (Ordered.get? o "extra_headers"))) =
    .ok (headersAt t (Ordered.get? b "extra_headers") ++ headersAt t (Ordered.get? o "extra_headers")) :=
  HeaderMap.freeze_combined hb.objectMembers_allLists ho.objectMembers_allLists (freeze_objectMembers (eb _))
    (freeze_objectMembers (eo _))

theorem headersAt_combinedEntry : headersAt t (combinedEntry b o "extra_headers") =
    headersAt t (Ordered.get? b "extra_headers") ++ headersAt t (Ordered.get? o "extra_headers") := by
  show headersAt t (if _ then _ else none) = _
  split
  · exact headersAt_object (freeze_combinedMembers hb ho eb eo)
  · rename_i h
    simp only [Bool.or_eq_true, not_or, Bool.not_eq_true, Option.isSome_eq_false_iff, Option.isNone_iff_eq_none] at h
    rw [h.1, h.2]
    exact (HeaderMap.append_empty .empty).symm

theorem exists_ofEntry_combinedEntry {key : String} {v : Json} (h : combinedEntry b o key = some v) :
    ∃ c, ofEntry t key v = .ok c := by
  have either {upper : Option Json} (hu : ∀ v, upper = some v → Ordered.get? o key = some v)
      (h : upper.or (Ordered.get? b key) = some v) : ∃ c, ofEntry t key v = .ok c := by
    rcases Option.or_eq_some_iff.mp h with h | ⟨-, h⟩
    · exact eo key v (hu v h)
    · exact eb key v h
  by_cases ht : key = "timeout_seconds"
  · subst ht
    exact either (fun v hv => (Option.filter_eq_some_iff.mp hv).1) h
  · by_cases hh : key = "extra_headers"
    · subst hh
      replace h : (if _ then _ else none) = some v := h
      split at h
      · cases h
        exact ⟨_, ofEntry_eq_ok.mpr (.headers (freeze_combinedMembers hb ho eb eo))⟩
      · cases h
    · rw [combinedEntry_of_ne ht hh] at h
      exact either (fun _ hv => hv) h

/-- Field by field the combination denotes the second context on top of the first. -/
theorem ofLookup_combinedEntry :
    ofLookup t (combinedEntry b o) = (ofLookup t (Ordered.get? b)).overlay (ofLookup t (Ordered.get? o)) := by
  have field {α : Type} {f : Context → Option α} {key : String} (ht : key ≠ "timeout_seconds")
      (hh : key ≠ "extra_headers") (hf : ∀ {k v c}, Entry t k v c → k = key → (f c).isSome) :
      fieldAt t f key (combinedEntry b o key) =
        firstSet (fieldAt t f key (Ordered.get? o key)) (fieldAt t f key (Ordered.get? b key)) := by
    rw [combinedEntry_of_ne ht hh, fieldAt_or hf (eo key)]
  apply Context.ext
  case transport | channel | credentials | tracer => rfl
  case timeout => exact timeoutAt_or _ _ (eo _)
  case headers => exact headersAt_combinedEntry hb ho eb eo
  case deadline | retry | codes | streamWait | streamIdle =>
    refine field (by decide) (by decide) fun h hk => ?_
    cases h <;> first | rfl | exact absurd hk (by decide)

end

/-- Loading two descriptions put together, with the keys in any order, gives what merging the two loaded contexts
gives. -/
theorem load_combination_eq_merge {cb co : Context} (hb : Combinable b) (ho : Combinable o) (lb : load t b = .ok cb)
    (lo : load t o = .ok co) : IsCombination b o (combine b o) ∧
      ∀ d, IsCombination b o d → ∃ c, load t d = .ok c ∧ cb.merge (.context co) = .ok c := by
  refine ⟨combine_isCombination b o, fun d hd => ⟨cb.overlay co, ?_, ?_⟩⟩
  · obtain ⟨eb, rfl⟩ := (load_eq_ok hb.names_nodup).mp lb
    obtain ⟨eo, rfl⟩ := (load_eq_ok ho.names_nodup).mp lo
    rw [load_eq_ok hd.names_nodup, ← ofLookup_combinedEntry hb ho eb eo, funext hd.get?_eq]
    exact ⟨fun key v => exists_ofEntry_combinedEntry hb ho eb eo, rfl⟩
  · have ht : co.transport = cb.transport := by
      rw [((load_eq_ok hb.names_nodup).mp lb).2, ((load_eq_ok ho.names_nodup).mp lo).2]
      rfl
    exact merge_eq (load_validTimeouts hb.names_nodup lb) (load_validTimeouts ho.names_nodup lo) ht

end

theorem load_combination_eq_merge_streaming :
    let b : List (String × Json) := [
      ("timeout_seconds", .int 30), ("stream_wait_timeout_seconds", .int 5),
      ("retryable_codes", .list [.string "ABORTED"]),
      ("extra_headers", .object [("a", .list [.string "x"]), ("b", .list [])])]
    let o : List (String × Json) := [
      ("extra_headers", .object [("c", .list [.string "y"]), ("a", .list [.string "z"])]),
      ("retryable_codes", .list []),
      ("stream_wait_timeout_seconds", .int 0), ("timeout_seconds", .int 0)]
    let cb : Context := { create .streaming with
      timeout := some ⟨30000000, by decide⟩, streamWait := some ⟨5000000, by decide⟩,
      codes := some (.ofList [.aborted]),
      headers := ⟨[("a", [.string "x"]), ("b", [])]⟩ }
    let co : Context := { create .streaming with
      streamWait := some .zero, codes := some (.ofList []), headers := ⟨[("c", [.string "y"]), ("a", [.string "z"])]⟩ }
    combine b o = [
      ("timeout_seconds", .int 30), ("stream_wait_timeout_seconds", .int 0), ("retryable_codes", .list []),
      ("extra_headers",
        .object [("a", .list [.string "x", .string "z"]), ("b", .list []), ("c", .list [.string "y"])])] ∧
    (Combinable b ∧ Combinable o ∧ load .streaming b = .ok cb ∧ load .streaming o = .ok co) ∧
      ∃ c, load .streaming (combine b o) = .ok c ∧ cb.merge (.context co) = .ok c := by
  intro b o cb co
  have hb : Combinable b := ⟨by decide, by rintro _ ⟨⟩; simp [HeaderMap.AllLists]⟩
  have ho : Combinable o := ⟨by decide, by rintro _ ⟨⟩; simp [HeaderMap.AllLists]⟩
  have lb : load .streaming b = .ok cb := rfl
  have lo : load .streaming o = .ok co := rfl
  obtain ⟨hc, h⟩ := load_combination_eq_merge hb ho lb lo
  exact ⟨rfl, ⟨hb, ho, lb, lo⟩, h _ hc⟩

end Context

end RemoteCall
