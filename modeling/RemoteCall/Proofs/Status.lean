import Mathlib.Data.List.Nodup
import RemoteCall.Proofs.Results
import RemoteCall.Status

/-!
# Sets of status codes

A set of codes holds no code twice and is known by its members. Reading the names of a set, in whatever order they are
written, gives the set back.
-/

namespace RemoteCall

theorem filter_contains_of_sublist {α : Type} [BEq α] [LawfulBEq α] {l m : List α} (h : l.Sublist m) (hm : m.Nodup) :
    m.filter (l.contains ·) = l := by
  induction h with
  | slnil => rfl
  | @cons l m a h ih =>
    obtain ⟨ha, hm⟩ := List.nodup_cons.mp hm
    have hl : l.contains a = false := by simpa using fun hl => ha (h.subset hl)
    rw [List.filter_cons, hl, ih hm]
    rfl
  | @cons_cons l m a h ih =>
    obtain ⟨ha, hm⟩ := List.nodup_cons.mp hm
    have hc : m.filter ((a :: l).contains ·) = m.filter (l.contains ·) := by
      apply List.filter_congr
      intro b hb
      have hne : b ≠ a := fun e => ha (e ▸ hb)
      simp [hne]
    rw [List.filter_cons, List.contains_cons, beq_self_eq_true, Bool.true_or, if_pos rfl, hc, ih hm]

namespace Status

theorem nodup_all : all.Nodup := by decide

theorem mapM_ofJson_names (codes : List Status) :
    (codes.map fun s => Json.string s.name).mapM ofJson = .ok codes := by
  rw [mapM_eq_ok, List.forall₂_map_left_iff, List.forall₂_same]
  exact fun s _ => ofJson_name s

end Status

namespace StatusSet

theorem nodup_members (s : StatusSet) : s.members.Nodup := s.sublist.nodup Status.nodup_all

theorem ofList_congr {codes codes' : List Status} (h : ∀ s, s ∈ codes ↔ s ∈ codes') : ofList codes = ofList codes' := by
  have hc : Status.all.filter (codes.contains ·) = Status.all.filter (codes'.contains ·) := by
    apply List.filter_congr
    intro s _
    rw [Bool.eq_iff_iff]
    simp [h s]
  simp only [ofList, hc]

theorem ofList_eq {codes : List Status} {s : StatusSet} (h : codes.Perm s.members) : ofList codes = s := by
  obtain ⟨members, hs⟩ := s
  have hc : Status.all.filter (codes.contains ·) = members := by
    rw [← filter_contains_of_sublist hs Status.nodup_all]
    apply List.filter_congr
    intro c _
    rw [Bool.eq_iff_iff]
    simp [h.mem_iff]
  subst hc
  rfl

/-- The alphabetical order of the names is an order of the members. -/
theorem sortedNames_eq_map (s : StatusSet) :
    s.sortedNames = (s.members.mergeSort fun a b => a.name ≤ b.name).map Status.name := by
  symm
  apply List.map_mergeSort
  exact fun _ _ _ _ => rfl

theorem ofList_sorted (s : StatusSet) : ofList (s.members.mergeSort fun a b => a.name ≤ b.name) = s :=
  ofList_eq (List.mergeSort_perm _ _)

end StatusSet

end RemoteCall
