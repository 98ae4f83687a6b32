import Mathlib.Data.List.Perm.Subperm
import RemoteCall.Proofs.Context.Setters

/-!
# Equal header maps

Header maps with distinct names are equal when they have the same names, in whatever order, with equal values. Appending
keeps that: the names of the result are those of both maps, and its values are those of both, so the order in which the
names are gone through does not show. Appending members that may be refused fails for both of two equal maps or for none.
-/

namespace RemoteCall

/-! ## Lists of values -/

namespace Json

theorem sameItems_iff {xs ys : List Json} :
    sameItems xs ys = true ↔ List.Forall₂ (fun x y => x.same y = true) xs ys := by
  induction xs generalizing ys with
  | nil => cases ys <;> simp [sameItems]
  | cons x xs ih => cases ys <;> simp [sameItems, ih]

theorem sameItems_append {xs ys zs ws : List Json} (h : sameItems xs ys = true) (k : sameItems zs ws = true) :
    sameItems (xs ++ zs) (ys ++ ws) = true := by
  rw [sameItems_iff] at h k ⊢
  exact List.rel_append h k

end Json

namespace HeaderMap

/-! ## Names and values -/

section
variable {h h' k k' : HeaderMap}

theorem same_iff (hh : h.names.Nodup) (hk : k.names.Nodup) : h.same k = true ↔
    (∀ n, n ∈ h.names ↔ n ∈ k.names) ∧ ∀ n, Json.sameItems (h.values n) (k.values n) = true := by
  have length_names (g : HeaderMap) : g.names.length = g.entries.length := List.length_map _
  constructor
  · intro hs
    simp only [same, Bool.and_eq_true, beq_iff_eq, List.all_eq_true] at hs
    obtain ⟨hl, ha⟩ := hs
    have hv : ∀ n ∈ h.names, n ∈ k.names ∧ Json.sameItems (h.values n) (k.values n) = true := by
      intro n hn
      have he := ha _ (Ordered.mem_of_get? (get?_entries_of_mem hn))
      by_cases hm : n ∈ k.names
      · simp only [get?_entries_of_mem hm] at he
        exact ⟨hm, he⟩
      · simp [Ordered.get?_eq_none.mpr hm] at he
    have hp : h.names.Perm k.names := by
      apply (List.subperm_of_subset hh fun n hn => (hv n hn).1).perm_of_length_le
      rw [length_names, length_names]
      exact Nat.le_of_eq hl.symm
    refine ⟨fun n => hp.mem_iff, fun n => ?_⟩
    by_cases hn : n ∈ h.names
    · exact (hv n hn).2
    · rw [values_of_not_mem hn, values_of_not_mem fun hm => hn (hp.mem_iff.mpr hm)]
      rfl
  · rintro ⟨hn, hv⟩
    have hp : h.names.Perm k.names := (List.perm_ext_iff_of_nodup hh hk).mpr hn
    simp only [same, Bool.and_eq_true, beq_iff_eq, List.all_eq_true]
    refine ⟨?_, fun e he => ?_⟩
    · rw [← length_names, ← length_names, hp.length_eq]
    · have hm : e.1 ∈ h.names := Ordered.mem_names_of_mem he
      have hs : h.values e.1 = e.2 := by simp [values, Ordered.get?_of_mem hh he]
      rw [get?_entries_of_mem ((hn e.1).mp hm), ← hs]
      exact hv e.1

theorem mem_names_append {n : String} : n ∈ (h ++ k).names ↔ n ∈ h.names ∨ n ∈ k.names := by
  rw [names_append, List.mem_append, List.mem_filter]
  by_cases hn : n ∈ h.names <;> simp [hn]

theorem same_append (hh : h.names.Nodup) (hh' : h'.names.Nodup) (hk : k.names.Nodup) (hk' : k'.names.Nodup)
    (hs : h.same h' = true) (ks : k.same k' = true) : (h ++ k).same (h' ++ k') = true := by
  rw [same_iff hh hh'] at hs
  rw [same_iff hk hk'] at ks
  rw [same_iff (nodup_names_append hh hk) (nodup_names_append hh' hk')]
  refine ⟨fun n => ?_, fun n => ?_⟩
  · rw [mem_names_append, mem_names_append, hs.1, ks.1]
  · rw [values_append, values_append]
    exact Json.sameItems_append (hs.2 n) (ks.2 n)

end

/-! ## Members -/

/-- Maps with the same names, in any order, where what a name has is refused in both or gives equal values. -/
structure SameMembers (l m : List (String × Json)) : Prop where
  nodup_left : (Ordered.names l).Nodup
  nodup_right : (Ordered.names m).Nodup
  same : ∀ n, Ordered.get? l n = none ∧ Ordered.get? m n = none ∨
    ∃ v w, Ordered.get? l n = some v ∧ Ordered.get? m n = some w ∧
      Together (fun xs ys => Json.sameItems xs ys = true) (sequence n v) (sequence n w)

section
variable {h k : HeaderMap} {l m : List (String × Json)}

theorem sequence_of_freeze (hl : (Ordered.names l).Nodup) (hf : freeze l = .ok k) {n : String} {v : Json}
    (hm : (n, v) ∈ l) : sequence n v = .ok (k.values n) := by
  obtain ⟨hs, rfl⟩ := freeze_eq_ok.mp hf
  rw [values_ofMembers, Ordered.get?_of_mem hl hm]
  exact sequence_eq_ok.mpr ⟨hs _ hm, rfl⟩

theorem exists_freeze (hl : (Ordered.names l).Nodup) : (∃ k, freeze l = .ok k) ↔
    ∀ n v, Ordered.get? l n = some v → ∃ xs, sequence n v = .ok xs := by
  simp only [freeze_eq_ok, sequence_eq_ok, exists_and_left, exists_eq, and_true, Ordered.get?_eq_some hl]
  exact ⟨fun hs n v hm => hs _ hm, fun hs m hm => hs m.1 m.2 hm⟩

theorem SameMembers.arrange (hs : SameMembers l m) (hh : h.names.Nodup) (hk : k.names.Nodup) :
    SameMembers (h.arrange l) (k.arrange m) where
  nodup_left := nodup_names_arrange hh hs.nodup_left
  nodup_right := nodup_names_arrange hk hs.nodup_right
  same n := by
    rw [get?_arrange, get?_arrange]
    exact hs.same n

theorem SameMembers.freeze (hs : SameMembers l m) :
    Together (fun h k => h.same k = true) (freeze l) (freeze m) := by
  apply together_of_exists
  · rw [exists_freeze hs.nodup_left, exists_freeze hs.nodup_right]
    refine forall_congr' fun n => ?_
    rcases hs.same n with ⟨hl, hm⟩ | ⟨v, w, hl, hm, ht⟩
    · simp [hl, hm]
    · simp [hl, hm, exists_ok_of_together ht]
  · intro h k hh hk
    have nh : h.names = Ordered.names l := names_of_freeze hh
    have nk : k.names = Ordered.names m := names_of_freeze hk
    rw [same_iff (nh ▸ hs.nodup_left) (nk ▸ hs.nodup_right)]
    rw [← forall_and]
    intro n
    rcases hs.same n with ⟨hl, hm⟩ | ⟨v, w, hl, hm, ht⟩
    · have hn : n ∉ h.names := nh ▸ Ordered.get?_eq_none.mp hl
      have kn : n ∉ k.names := nk ▸ Ordered.get?_eq_none.mp hm
      refine ⟨iff_of_false hn kn, ?_⟩
      rw [values_of_not_mem hn, values_of_not_mem kn]
      rfl
    · have hv := Ordered.mem_of_get? hl
      have kv := Ordered.mem_of_get? hm
      rw [sequence_of_freeze hs.nodup_left hh hv, sequence_of_freeze hs.nodup_right hk kv] at ht
      refine ⟨iff_of_true ?_ ?_, ht⟩
      · rw [nh]
        exact Ordered.mem_names_of_mem hv
      · rw [nk]
        exact Ordered.mem_names_of_mem kv

theorem same_appendMembers (hh : h.names.Nodup) (hk : k.names.Nodup) (hs : h.same k = true) (hm : SameMembers l m) :
    Together (fun h k => h.same k = true) (h.appendMembers l) (k.appendMembers m) := by
  have ha := hm.arrange hh hk
  refine together_bind ha.freeze fun x y hx hy hxy => ?_
  refine same_append hh hk ?_ ?_ hs hxy
  · rw [names_of_freeze hx]
    exact ha.nodup_left
  · rw [names_of_freeze hy]
    exact ha.nodup_right

end

end HeaderMap

end RemoteCall
