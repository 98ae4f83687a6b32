import RemoteCall.Proofs.Context.Entries
import RemoteCall.Proofs.Context.Equality

/-!
# Where header values come from

A loaded context has for each header the values that its description has there, of whatever kind they are: a list stands
for its items and an object for its names. Merging loaded contexts puts these values one after the other. So all values of
a context are texts exactly when the descriptions have nothing but texts there, and the context has a hash exactly when
they have no list and no object among their values.
-/

namespace RemoteCall

namespace HeaderMap

theorem forall_entries_iff {h : HeaderMap} (hh : h.names.Nodup) (p : Json → Prop) :
    (∀ e ∈ h.entries, ∀ v ∈ e.2, p v) ↔ ∀ n, ∀ v ∈ h.values n, p v := by
  constructor
  · intro ha n v hv
    by_cases hn : n ∈ h.names
    · exact ha _ (Ordered.mem_of_get? (get?_entries_of_mem hn)) v hv
    · rw [values_of_not_mem hn] at hv
      cases hv
  · rintro ha ⟨n, vs⟩ he v hv
    refine ha n v ?_
    rwa [values, Ordered.get?_of_mem hh he]

end HeaderMap

namespace Context

/-! ## Descriptions -/

structure IsObject (d : List (String × Json)) : Prop where
  names_nodup : (Ordered.names d).Nodup
  headers_nodup : (Ordered.names (objectMembers (Ordered.get? d "extra_headers"))).Nodup

def describedValues (d : List (String × Json)) (name : String) : List Json :=
  ((Ordered.get? (objectMembers (Ordered.get? d "extra_headers")) name).map HeaderMap.items).getD []

section
variable {t : Transport} {d : List (String × Json)} {c : Context}

theorem values_of_load (hd : (Ordered.names d).Nodup) (hc : load t d = .ok c) (name : String) :
    c.headers.values name = describedValues d name := by
  rw [headers_eq_of_load hd hc, HeaderMap.values_ofMembers]
  rfl

theorem wellFormed_of_load (hd : IsObject d) (hc : load t d = .ok c) : c.transport = t ∧ c.WellFormed := by
  refine ⟨?_, load_validTimeouts hd.names_nodup hc, ?_⟩
  · rw [((load_eq_ok hd.names_nodup).mp hc).2]
    rfl
  · rw [headers_of_load hd.names_nodup hc]
    exact hd.headers_nodup

end

/-! ## Loaded contexts merged -/

section
variable {t : Transport} {ds : List (List (String × Json))} {cs : List Context}

theorem wellFormed_of_loaded (hd : ∀ d ∈ ds, IsObject d) (hl : List.Forall₂ (fun d c => load t d = .ok c) ds cs) :
    ∀ c ∈ cs, c.transport = t ∧ c.WellFormed := by
  induction hl with
  | nil => exact fun c hc => nomatch hc
  | cons hc _ ih =>
    obtain ⟨h, hd⟩ := List.forall_mem_cons.mp hd
    exact List.forall_mem_cons.mpr ⟨wellFormed_of_load h hc, ih hd⟩

theorem flatMap_values_of_loaded (hd : ∀ d ∈ ds, IsObject d)
    (hl : List.Forall₂ (fun d c => load t d = .ok c) ds cs) (name : String) :
    (cs.flatMap fun c => c.headers.values name) = ds.flatMap fun d => describedValues d name := by
  induction hl with
  | nil => rfl
  | cons hc _ ih =>
    obtain ⟨h, hd⟩ := List.forall_mem_cons.mp hd
    rw [List.flatMap_cons, List.flatMap_cons, ih hd, values_of_load h.names_nodup hc]

/-- Loaded contexts, merged in any bracketing, have for each header the values that the descriptions have there, one after
the other and of whatever kind they are. So these are texts, or have hashes and give the context one, exactly when those in
the descriptions do. -/
theorem values_of_merged_loads (hd : ∀ d ∈ ds, IsObject d)
    (hl : List.Forall₂ (fun d c => load t d = .ok c) ds cs) {tree : MergeTree} (ht : tree.contexts = cs) :
    ∃ c, tree.eval = .ok c ∧
      (∀ name, c.headers.values name = ds.flatMap fun d => describedValues d name) ∧
      (c.headers.Texts ↔ ∀ d ∈ ds, ∀ name, ∀ v ∈ describedValues d name, ∃ s, v = .string s) ∧
      ∀ H : Hasher, (∃ n, c.hash H = .ok n) ↔ ∀ d ∈ ds, ∀ name, ∀ v ∈ describedValues d name, v.hasHash = true := by
  subst ht
  have hw := wellFormed_of_loaded hd hl
  have hv (name : String) : (stack t tree.contexts).headers.values name =
      ds.flatMap fun d => describedValues d name := by
    rw [stack, HeaderMap.values_concat, List.flatMap_map, flatMap_values_of_loaded hd hl]
  -- what holds of all values of the context holds of all values in the descriptions
  have hall (p : Json → Prop) : (∀ e ∈ (stack t tree.contexts).headers.entries, ∀ v ∈ e.2, p v) ↔
      ∀ d ∈ ds, ∀ name, ∀ v ∈ describedValues d name, p v := by
    rw [HeaderMap.forall_entries_iff (stack_wellFormed hw).names_nodup]
    simp only [hv, List.mem_flatMap, forall_exists_index, and_imp]
    exact ⟨fun h d hd name v => h name v d hd, fun h name v d hd => h d hd name v⟩
  refine ⟨_, tree.eval_eq_stack hw, hv, hall _, fun H => ?_⟩
  rw [exists_hash, HeaderMap.unhashable?_eq_none, hall]

end

/-- The second description has a list among the values of a header, and the third one an object in place of the values. -/
theorem values_of_merged_loads_nested :
    let texts : List (String × Json) := [("extra_headers", .object [("a", .list [.string "1"]), ("b", .list [])])]
    let nested : List (String × Json) := [("extra_headers", .object [("b", .list [.list [.string "2"]])])]
    let names : List (String × Json) := [("extra_headers", .object [("a", .object [("3", .null)])])]
    (∀ d ∈ [texts, nested, names], IsObject d) ∧
      (∃ c, load .httpJson nested = .ok c ∧ ¬ c.headers.Texts ∧ ∀ n, c.hash .plain ≠ .ok n) ∧
      ∃ cs : List Context, List.Forall₂ (fun d c => load .httpJson d = .ok c) [texts, nested, names] cs ∧
        ∀ tree : MergeTree, tree.contexts = cs → ∃ c, tree.eval = .ok c ∧
          c.headers.values "a" = [.string "1", .string "3"] ∧ ¬ c.headers.Texts ∧ ∀ n, c.hash .plain ≠ .ok n := by
  intro texts nested names
  have ho : ∀ d ∈ [texts, nested, names], IsObject d := by
    simp only [List.forall_mem_cons, List.not_mem_nil, false_imp_iff, implies_true, and_true]
    exact ⟨⟨by decide, by decide⟩, ⟨by decide, by decide⟩, by decide, by decide⟩
  have hn : ∀ d ∈ [nested], IsObject d := fun d hd => ho d (by simp_all)
  have hv : Json.list [.string "2"] ∈ describedValues nested "b" := List.mem_singleton.mpr rfl
  have hl : List.Forall₂ (fun d c => load .httpJson d = .ok c) [texts, nested, names]
      [{ create .httpJson with headers := ⟨[("a", [.string "1"]), ("b", [])]⟩ },
        { create .httpJson with headers := ⟨[("b", [.list [.string "2"]])]⟩ },
        { create .httpJson with headers := ⟨[("a", [.string "3"])]⟩ }] :=
    .cons rfl (.cons rfl (.cons rfl .nil))
  refine ⟨ho, ?_, _, hl, fun tree ht => ?_⟩
  · have ht : (MergeTree.context { create .httpJson with headers := ⟨[("b", [.list [.string "2"]])]⟩ }).contexts =
        [{ create .httpJson with headers := ⟨[("b", [.list [.string "2"]])]⟩ }] := rfl
    obtain ⟨c, hc, -, htexts, hhash⟩ := values_of_merged_loads hn (.cons rfl .nil) ht
    cases hc
    refine ⟨_, rfl, fun h => ?_, fun n hx => ?_⟩
    · obtain ⟨s, hs⟩ := htexts.mp h nested (by simp) "b" _ hv
      cases hs
    · cases (hhash .plain).mp ⟨n, hx⟩ nested (by simp) "b" _ hv
  · obtain ⟨c, hc, hvalues, htexts, hhash⟩ := values_of_merged_loads ho hl ht
    refine ⟨c, hc, hvalues "a", fun h => ?_, fun n hx => ?_⟩
    · obtain ⟨s, hs⟩ := htexts.mp h nested (by simp) "b" _ hv
      cases hs
    · cases (hhash .plain).mp ⟨n, hx⟩ nested (by simp) "b" _ hv

end Context

end RemoteCall
