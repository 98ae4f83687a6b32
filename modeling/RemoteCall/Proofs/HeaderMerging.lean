import RemoteCall.Proofs.Headers

/-!
# Merging members into header maps

Members whose values can all be gone through are merged into a header map as the header map that they stand for: names
that are there already keep their place, new ones follow, and the values of every name are put one after the other. A
value that cannot be gone through is refused, and the first name in the order of the result decides with which fault.
None of this depends on which way is taken, the short ones for an empty map included.
-/

namespace RemoteCall

namespace HeaderMap

/-! ## Members arranged -/

section
variable {h k : HeaderMap} {members : List (String × Json)} {f : Fault}

theorem names_arrange : Ordered.names (h.arrange members) =
    Ordered.names (h.names.filterMap fun n => (Ordered.get? members n).map (n, ·)) ++
      (Ordered.names members).filter fun n => !h.contains n := by
  rw [arrange, Ordered.names_append, Ordered.names_filter fun n => !h.contains n]

theorem nodup_names_arrange (hh : h.names.Nodup) (hm : (Ordered.names members).Nodup) :
    (Ordered.names (h.arrange members)).Nodup := by
  have hs := Ordered.names_filterMap_sublist (Ordered.get? members) h.names
  rw [names_arrange, List.nodup_append]
  refine ⟨hh.sublist hs, hm.filter _, fun a ha b hb e => ?_⟩
  have hc : h.contains a = true := (contains_iff h a).mpr (hs.subset ha)
  simp [← e, hc] at hb

/-- Appending looks at every member. -/
theorem mem_arrange (hm : (Ordered.names members).Nodup) {m : String × Json} (h' : m ∈ members) :
    m ∈ h.arrange members := by
  obtain ⟨n, v⟩ := m
  by_cases hn : n ∈ h.names
  · have hg := Ordered.get?_of_mem hm h'
    exact List.mem_append_left _ (List.mem_filterMap.mpr ⟨n, hn, by rw [hg]; rfl⟩)
  · have hc : h.contains n = false := by simpa [← contains_iff] using hn
    exact List.mem_append_right _ (List.mem_filter.mpr ⟨h', by simp [hc]⟩)

theorem get?_arrange (h : HeaderMap) (members : List (String × Json)) (n : String) :
    Ordered.get? (h.arrange members) n = Ordered.get? members n := by
  rw [arrange, Ordered.get?_append, Ordered.get?_filterMap, Ordered.get?_filter fun n => !h.contains n]
  by_cases hn : n ∈ h.names
  · simp [hn, contains]
  · simp [hn, contains]

def mergedNames (h : HeaderMap) (members : List (String × Json)) : List String :=
  h.names ++ (Ordered.names members).filter fun n => !h.contains n

theorem arrange_eq (hm : (Ordered.names members).Nodup) : h.arrange members =
    (h.mergedNames members).filterMap fun n => (Ordered.get? members n).map (n, ·) := by
  rw [arrange, Ordered.filter_eq_filterMap (fun n => !h.contains n) hm, mergedNames, List.filterMap_append]

theorem mem_of_mem_arrange {m : String × Json} (hm : m ∈ h.arrange members) : m ∈ members := by
  rcases List.mem_append.mp hm with hm | hm
  · obtain ⟨n, -, he⟩ := List.mem_filterMap.mp hm
    obtain ⟨v, hv, rfl⟩ := Option.map_eq_some_iff.mp he
    exact Ordered.mem_of_get? hv
  · exact List.mem_of_mem_filter hm

theorem filter_names_arrange (h : HeaderMap) (members : List (String × Json)) :
    ((Ordered.names (h.arrange members)).filter fun n => !h.contains n) =
      (Ordered.names members).filter fun n => !h.contains n := by
  have hs := Ordered.names_filterMap_sublist (Ordered.get? members) h.names
  -- the shared names, which are arranged before the new ones, add nothing to the names of the result
  have hnone : ((Ordered.names (h.names.filterMap fun n => (Ordered.get? members n).map (n, ·))).filter
      fun n => !h.contains n) = [] := by
    rw [List.filter_eq_nil_iff]
    intro n hn
    simpa [contains_iff] using hs.subset hn
  rw [names_arrange, List.filter_append, hnone, List.filter_filter]
  simp only [Bool.and_self, List.nil_append]

/-! ## Members appended -/

theorem appendMembers_eq_ok : h.appendMembers members = .ok k ↔
    ∃ extra, freeze (h.arrange members) = .ok extra ∧ k = h ++ extra := by
  simp only [appendMembers, bind_eq_ok, pure_eq_ok, Except.ok.injEq, eq_comm (a := k)]

theorem appendMembers_empty (members : List (String × Json)) : empty.appendMembers members = freeze members := by
  have ha : empty.arrange members = members := by
    show [] ++ members.filter (fun m => !empty.contains m.1) = members
    simp [contains]
  simp only [appendMembers, ha, empty_append]
  cases freeze members <;> rfl

theorem append_ofMembers_arrange (hh : h.names.Nodup) (hm : (Ordered.names members).Nodup) :
    h ++ ofMembers (h.arrange members) = h ++ ofMembers members := by
  apply ext_values
  · apply nodup_names_append hh
    rw [names_ofMembers]
    exact nodup_names_arrange hh hm
  · rw [names_append, names_append, names_ofMembers, names_ofMembers]
    exact congrArg (h.names ++ ·) (filter_names_arrange h members)
  · intro n
    rw [values_append, values_append, values_ofMembers, values_ofMembers, get?_arrange]

theorem appendMembers_eq_append (hh : h.names.Nodup) (hm : (Ordered.names members).Nodup) :
    h.appendMembers members = .ok k ↔ (∀ m ∈ members, IsSequence m.2) ∧ k = h ++ ofMembers members := by
  have hs : (∀ m ∈ h.arrange members, IsSequence m.2) ↔ ∀ m ∈ members, IsSequence m.2 :=
    ⟨fun hs m h' => hs m (mem_arrange hm h'), fun hs m h' => hs m (mem_of_mem_arrange h')⟩
  rw [appendMembers_eq_ok, ← append_ofMembers_arrange hh hm, ← hs]
  constructor
  · rintro ⟨extra, he, rfl⟩
    obtain ⟨ha, rfl⟩ := freeze_eq_ok.mp he
    exact ⟨ha, rfl⟩
  · rintro ⟨ha, rfl⟩
    exact ⟨_, freeze_eq_ok.mpr ⟨ha, rfl⟩, rfl⟩

theorem appendMembers_eq_error (hm : (Ordered.names members).Nodup) : h.appendMembers members = .error f ↔
    FirstBad (fun n => ∀ v, Ordered.get? members n = some v → IsSequence v)
      (fun n => ∃ v, Ordered.get? members n = some v ∧ ¬ IsSequence v ∧ f = refusal n v) (h.mergedNames members) := by
  have ha : h.appendMembers members = .error f ↔ freeze (h.arrange members) = .error f := by
    rw [appendMembers]
    cases freeze (h.arrange members) <;> simp
  rw [ha, freeze_eq_error, arrange_eq hm, firstBad_filterMap]
  simp only [Option.mem_def, Option.map_eq_some_iff, forall_exists_index, and_imp, forall_apply_eq_imp_iff₂,
    exists_exists_and_eq_and]

theorem appendMembers_nil (hh : h.names.Nodup) : h.appendMembers [] = .ok h := by
  have hn : (Ordered.names ([] : List (String × Json))).Nodup := List.nodup_nil
  rw [appendMembers_eq_append hh hn]
  exact ⟨fun _ hm => (List.not_mem_nil hm).elim, (append_empty h).symm⟩

theorem nodup_mergedNames (hh : h.names.Nodup) (hm : (Ordered.names members).Nodup) :
    (h.mergedNames members).Nodup := by
  have hn := nodup_names_append hh (k := ofMembers members) (by rwa [names_ofMembers])
  rwa [names_append, names_ofMembers] at hn

theorem eq_empty_of_isEmpty (he : h.isEmpty = true) : h = empty := by
  obtain ⟨entries⟩ := h
  cases entries with
  | nil => rfl
  | cons => cases he

end

end HeaderMap

/-! ## Shared maps -/

def HeaderArgument.toMembers : HeaderArgument → List (String × Json)
  | .unset => []
  | .members ms => ms
  | .shared headers => headers.map.entries.map fun e => (e.1, .list e.2)

namespace SharedHeaders

section
variable {current : SharedHeaders} {extra : HeaderArgument}

theorem map_copy (fresh : Nat) (extra : HeaderArgument) :
    (copy fresh extra).map (·.map) = HeaderMap.freeze extra.toMembers := by
  cases extra with
  | unset => rfl
  | members ms =>
    simp only [copy, HeaderArgument.toMembers]
    cases HeaderMap.freeze ms <;> rfl
  | shared headers => exact (HeaderMap.freeze_lists _).symm

theorem map_ofArgument (fresh : Nat) (extra : HeaderArgument) :
    (ofArgument fresh extra).map (·.map) = HeaderMap.freeze extra.toMembers := by
  cases extra with
  | unset => rfl
  | members ms =>
    cases ms with
    | nil => rfl
    | cons m ms => exact map_copy fresh (.members (m :: ms))
  | shared headers => exact (HeaderMap.freeze_lists _).symm

/-- Both short ways give what appending the members one after the other gives. -/
theorem map_append (fresh : Nat) (hc : current.map.names.Nodup) (he : (Ordered.names extra.toMembers).Nodup) :
    (append fresh current extra).map (·.map) = current.map.appendMembers extra.toMembers := by
  cases extra with
  | unset => exact (HeaderMap.appendMembers_nil hc).symm
  | members ms =>
    cases ms with
    | nil => exact (HeaderMap.appendMembers_nil hc).symm
    | cons m ms =>
      by_cases hm : current.map.isEmpty = true
      · have ha : append fresh current (.members (m :: ms)) = ofArgument fresh (.members (m :: ms)) := by
          simp [append, hm]
        rw [ha, map_ofArgument, HeaderMap.eq_empty_of_isEmpty hm, HeaderMap.appendMembers_empty]
      · simp only [append, List.isEmpty_cons, hm, HeaderArgument.toMembers]
        cases current.map.appendMembers (m :: ms) <;> rfl
  | shared headers =>
    have hs : ∀ m ∈ (HeaderArgument.shared headers).toMembers, HeaderMap.IsSequence m.2 := by
      intro m hm
      obtain ⟨e, -, rfl⟩ := List.mem_map.mp hm
      trivial
    rw [(HeaderMap.appendMembers_eq_append hc he).mpr ⟨hs, rfl⟩]
    simp only [HeaderArgument.toMembers, HeaderMap.ofMembers_lists]
    by_cases hk : headers.map.isEmpty = true
    · have ha : append fresh current (.shared headers) = .ok current := by simp [append, hk]
      rw [ha, HeaderMap.eq_empty_of_isEmpty hk, HeaderMap.append_empty]
      rfl
    · by_cases hm : current.map.isEmpty = true
      · have ha : append fresh current (.shared headers) = .ok headers := by simp [append, ofArgument, hk, hm]
        rw [ha, HeaderMap.eq_empty_of_isEmpty hm, HeaderMap.empty_append]
        rfl
      · simp [append, hk, hm]

section
variable (fresh : Nat) (hc : current.map.names.Nodup) (he : (Ordered.names extra.toMembers).Nodup)
include hc he

theorem append_eq_ok {h : HeaderMap} : (∃ result, append fresh current extra = .ok result ∧ result.map = h) ↔
    (∀ m ∈ extra.toMembers, HeaderMap.IsSequence m.2) ∧ h = current.map ++ HeaderMap.ofMembers extra.toMembers := by
  rw [← HeaderMap.appendMembers_eq_append hc he, ← map_append fresh hc he, map_eq_ok]

theorem append_eq_error {fault : Fault} : append fresh current extra = .error fault ↔
    FirstBad (fun n => ∀ v, Ordered.get? extra.toMembers n = some v → HeaderMap.IsSequence v)
      (fun n => ∃ v, Ordered.get? extra.toMembers n = some v ∧ ¬ HeaderMap.IsSequence v ∧
        fault = HeaderMap.refusal n v)
      (current.map.mergedNames extra.toMembers) := by
  rw [← HeaderMap.appendMembers_eq_error he, ← map_append fresh hc he, map_eq_error]

theorem names_append {result : SharedHeaders} (hr : append fresh current extra = .ok result) :
    result.map.names = current.map.mergedNames extra.toMembers := by
  obtain ⟨-, hm⟩ := (append_eq_ok fresh hc he).mp ⟨result, hr, rfl⟩
  rw [hm, HeaderMap.names_append, HeaderMap.names_ofMembers]
  rfl

theorem values_append {result : SharedHeaders} (hr : append fresh current extra = .ok result) (n : String) :
    result.map.values n = current.map.values n ++ ((Ordered.get? extra.toMembers n).map HeaderMap.items).getD [] := by
  obtain ⟨-, hm⟩ := (append_eq_ok fresh hc he).mp ⟨result, hr, rfl⟩
  rw [hm, HeaderMap.values_append, HeaderMap.values_ofMembers]

end

/-- Merging succeeds when every value can be gone through. The names and values of the result are those of the map and then
those of the members; a fault is that of the first bad name in the order of the result. On the empty map it is the same as
freezing and as copying. -/
theorem append_eq_merged (fresh : Nat) (hc : current.map.names.Nodup) (he : (Ordered.names extra.toMembers).Nodup) :
    ((∃ result, append fresh current extra = .ok result) ↔ ∀ m ∈ extra.toMembers, HeaderMap.IsSequence m.2) ∧
    (∀ result, append fresh current extra = .ok result →
      result.map.names = current.map.mergedNames extra.toMembers ∧ result.map.names.Nodup ∧
      ∀ n, result.map.values n = current.map.values n ++
        ((Ordered.get? extra.toMembers n).map HeaderMap.items).getD []) ∧
    (∀ fault, append fresh current extra = .error fault ↔
      FirstBad (fun n => ∀ v, Ordered.get? extra.toMembers n = some v → HeaderMap.IsSequence v)
        (fun n => ∃ v, Ordered.get? extra.toMembers n = some v ∧ ¬ HeaderMap.IsSequence v ∧
          fault = HeaderMap.refusal n v)
        (current.map.mergedNames extra.toMembers)) ∧
    (∀ fault, append fresh current extra = .error fault → fault.kind = .wrongType) ∧
    (append fresh empty extra).map (·.map) = (ofArgument fresh extra).map (·.map) ∧
    (ofArgument fresh extra).map (·.map) = (copy fresh extra).map (·.map) := by
  refine ⟨⟨?_, ?_⟩, ?_, fun fault => append_eq_error fresh hc he, ?_, ?_, ?_⟩
  · rintro ⟨result, hr⟩
    exact ((append_eq_ok fresh hc he).mp ⟨result, hr, rfl⟩).1
  · intro hs
    obtain ⟨result, hr, -⟩ := (append_eq_ok fresh hc he).mpr ⟨hs, rfl⟩
    exact ⟨result, hr⟩
  · intro result hr
    have hn := names_append fresh hc he hr
    exact ⟨hn, hn ▸ HeaderMap.nodup_mergedNames hc he, values_append fresh hc he hr⟩
  · intro fault hf
    obtain ⟨_, n, _, -, -, v, -, -, rfl⟩ := (append_eq_error fresh hc he).mp hf
    exact HeaderMap.kind_refusal n v
  · have hn : SharedHeaders.empty.map.names.Nodup := List.nodup_nil
    rw [map_append fresh hn he, map_ofArgument]
    exact HeaderMap.appendMembers_empty _
  · rw [map_ofArgument, map_copy]

end

/-- The bare text under `b` is met before the number under `c`, which the members have first. -/
theorem append_eq_merged_members :
    let current : SharedHeaders := ⟨⟨[("a", [.string "1"]), ("b", [])]⟩, 1⟩
    let bad : HeaderArgument := .members [("c", .int 5), ("b", .string "x"), ("a", .list [])]
    let good : HeaderArgument := .members [("c", .list []), ("b", .object [("k", .null)]), ("a", .list [.string "2"])]
    current.map.names.Nodup ∧ (Ordered.names bad.toMembers).Nodup ∧ (Ordered.names good.toMembers).Nodup ∧
      append 2 current bad = .error (.headerNotSequence "b") ∧
      ∃ result, append 2 current good = .ok result ∧ result.map.names = ["a", "b", "c"] ∧
        result.map.values "a" = [.string "1", .string "2"] ∧ result.map.values "b" = [.string "k"] := by
  intro current bad good
  have hc : current.map.names.Nodup := by decide
  have hb : (Ordered.names bad.toMembers).Nodup := by decide
  have hg : (Ordered.names good.toMembers).Nodup := by decide
  obtain ⟨-, -, herror, -, -, -⟩ := append_eq_merged 2 hc hb
  obtain ⟨hok, hmerged, -, -, -, -⟩ := append_eq_merged 2 hc hg
  refine ⟨hc, hb, hg, ?_, ?_⟩
  · refine (herror _).mpr ⟨["a"], "b", ["c"], rfl, ?_, .string "x", rfl, id, rfl⟩
    intro n hn v hv
    cases List.mem_singleton.mp hn
    cases hv
    trivial
  · obtain ⟨result, hr⟩ := hok.mpr (by simp [good, HeaderArgument.toMembers, HeaderMap.IsSequence])
    obtain ⟨hn, -, hv⟩ := hmerged result hr
    exact ⟨result, hr, hn, hv "a", hv "b"⟩

end SharedHeaders

end RemoteCall
