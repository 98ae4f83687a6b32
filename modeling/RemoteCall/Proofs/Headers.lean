import RemoteCall.Headers
import RemoteCall.Proofs.Faults
import RemoteCall.Proofs.Ordered

/-!
# Header maps

A header map with distinct names is known by its names in order and by the values of each name. Appending keeps the
names distinct, takes each new name once, and puts the values of every name one after the other. Appending many maps
therefore gives each name at its first appearance, with all its values in order, however the maps are bracketed. Members
stand for a header map when every value can be gone through; the first one that cannot is the fault.
-/

namespace RemoteCall.HeaderMap

/-! ## Names and values -/

theorem contains_iff (h : HeaderMap) (n : String) : h.contains n = true ↔ n ∈ h.names := by
  simp [contains]

theorem get?_entries_of_mem {h : HeaderMap} {n : String} (hn : n ∈ h.names) :
    Ordered.get? h.entries n = some (h.values n) := by
  cases e : Ordered.get? h.entries n with
  | none => exact absurd hn (Ordered.get?_eq_none.mp e)
  | some v => simp [values, e]

theorem values_of_not_mem {h : HeaderMap} {n : String} (hn : n ∉ h.names) : h.values n = [] := by
  simp [values, Ordered.get?_eq_none.mpr hn]

theorem ext_values {h k : HeaderMap} (hd : h.names.Nodup) (hn : h.names = k.names)
    (hv : ∀ n, h.values n = k.values n) : h = k := by
  have he : h.entries = k.entries := by
    refine Ordered.ext_get? hd hn fun n => ?_
    by_cases hm : n ∈ h.names
    · rw [get?_entries_of_mem hm, get?_entries_of_mem (hn ▸ hm), hv]
    · rw [Ordered.get?_eq_none.mpr hm, Ordered.get?_eq_none.mpr fun hm' => hm (hn ▸ hm')]
  cases h; cases k; cases he; rfl

@[simp] theorem names_empty : empty.names = [] := rfl

/-! ## Two maps -/

theorem entries_append (h k : HeaderMap) : (h ++ k).entries =
    h.entries.map (fun e => (e.1, e.2 ++ k.values e.1)) ++ k.entries.filter fun e => !h.contains e.1 := rfl

theorem names_append (h k : HeaderMap) :
    (h ++ k).names = h.names ++ k.names.filter fun n => !h.names.contains n := by
  show Ordered.names (h ++ k).entries = _
  rw [entries_append, Ordered.names_append, Ordered.names_map fun n v => v ++ k.values n,
    Ordered.names_filter fun n => !h.contains n]
  rfl

theorem values_append (h k : HeaderMap) (n : String) : (h ++ k).values n = h.values n ++ k.values n := by
  show (Ordered.get? (h ++ k).entries n).getD [] = _
  rw [entries_append, Ordered.get?_append, Ordered.get?_map fun n v => v ++ k.values n,
    Ordered.get?_filter fun n => !h.contains n]
  by_cases hn : n ∈ h.names
  · simp [get?_entries_of_mem hn]
  · have hc : h.contains n = false := by simpa [← contains_iff] using hn
    rw [Ordered.get?_eq_none.mpr hn, hc, values_of_not_mem hn]
    rfl

theorem nodup_names_append {h k : HeaderMap} (hh : h.names.Nodup) (hk : k.names.Nodup) :
    (h ++ k).names.Nodup := by
  rw [names_append, List.nodup_append]
  refine ⟨hh, hk.filter _, fun a ha b hb e => ?_⟩
  subst e
  simp [ha] at hb

theorem empty_append (h : HeaderMap) : empty ++ h = h := by
  cases h with | mk l =>
  show HeaderMap.mk ([] ++ l.filter fun e => !empty.contains e.1) = ⟨l⟩
  simp [contains]

theorem append_empty (h : HeaderMap) : h ++ empty = h := by
  cases h with | mk l =>
  show HeaderMap.mk (l.map (fun e => (e.1, e.2 ++ [])) ++ []) = ⟨l⟩
  simp

/-! ## Many maps -/

def concat (hs : List HeaderMap) : HeaderMap :=
  ⟨(hs.flatMap names).eraseDups.map fun n => (n, hs.flatMap fun h => h.values n)⟩

theorem names_concat (hs : List HeaderMap) : (concat hs).names = (hs.flatMap names).eraseDups := by
  simp [concat, names, Ordered.names, Function.comp_def]

theorem nodup_names_concat (hs : List HeaderMap) : (concat hs).names.Nodup := by
  rw [names_concat]
  exact nodup_eraseDups _

theorem values_concat (hs : List HeaderMap) (n : String) : (concat hs).values n = hs.flatMap fun h => h.values n := by
  by_cases hn : n ∈ (concat hs).names
  · have hm : (n, hs.flatMap fun h => h.values n) ∈ (concat hs).entries := by
      rw [names_concat] at hn
      exact List.mem_map.mpr ⟨n, hn, rfl⟩
    simp only [values, Ordered.get?_of_mem (nodup_names_concat hs) hm, Option.getD_some]
  · rw [values_of_not_mem hn]
    simp only [names_concat, List.mem_eraseDups, List.mem_flatMap, not_exists, not_and] at hn
    exact (List.flatMap_eq_nil_iff.mpr fun h hh => values_of_not_mem (hn h hh)).symm

theorem concat_singleton {h : HeaderMap} (hd : h.names.Nodup) : concat [h] = h := by
  apply ext_values (nodup_names_concat _)
  · rw [names_concat, List.flatMap_singleton, eraseDups_of_nodup hd]
  · intro n
    rw [values_concat, List.flatMap_singleton]

theorem concat_append (hs ks : List HeaderMap) : concat (hs ++ ks) = concat hs ++ concat ks := by
  apply ext_values (nodup_names_concat _)
  · rw [names_append, names_concat, names_concat, names_concat, List.flatMap_append, eraseDups_append_filter]
  · intro n
    rw [values_append, values_concat, values_concat, values_concat, List.flatMap_append]

/-! ## Values for a header -/

def IsSequence : Json → Prop
  | .list _ | .object _ => True
  | _ => False

/-- The values that a value for a header stands for; an object stands for its names. -/
def items : Json → List Json
  | .list items => items
  | .object members => (Ordered.names members).map .string
  | _ => []

def refusal (name : String) : Json → Fault
  | .string _ => .headerNotSequence name
  | v => .notIterable v.kindName

theorem kind_refusal (name : String) (v : Json) : (refusal name v).kind = .wrongType := by
  cases v <;> rfl

theorem sequence_eq_ok {name : String} {v : Json} {values : List Json} :
    sequence name v = .ok values ↔ IsSequence v ∧ values = items v := by
  cases v <;> simp [sequence, IsSequence, items, eq_comm]

theorem sequence_eq_error {name : String} {v : Json} {f : Fault} :
    sequence name v = .error f ↔ ¬ IsSequence v ∧ f = refusal name v := by
  cases v <;> simp [sequence, IsSequence, refusal, eq_comm]

/-! ## Members frozen -/

def ofMembers (members : List (String × Json)) : HeaderMap := ⟨members.map fun m => (m.1, items m.2)⟩

section
variable {h : HeaderMap} {members : List (String × Json)} {f : Fault}

theorem names_ofMembers (members : List (String × Json)) : (ofMembers members).names = Ordered.names members :=
  Ordered.names_map (fun _ v => items v) members

theorem values_ofMembers (members : List (String × Json)) (n : String) :
    (ofMembers members).values n = ((Ordered.get? members n).map items).getD [] := by
  show (Ordered.get? (members.map fun m => (m.1, items m.2)) n).getD [] = _
  rw [Ordered.get?_map fun _ v => items v]

theorem ofMembers_lists (h : HeaderMap) : ofMembers (h.entries.map fun e => (e.1, .list e.2)) = h := by
  simp [ofMembers, items, Function.comp_def]

theorem freeze_cons (n : String) (v : Json) (members : List (String × Json)) :
    freeze ((n, v) :: members) = do
      let values ← sequence n v
      let h ← freeze members
      return ⟨(n, values) :: h.entries⟩ := by
  simp only [freeze, List.mapM_cons, bind_assoc, pure_bind]

theorem freeze_eq_ok : freeze members = .ok h ↔ (∀ m ∈ members, IsSequence m.2) ∧ h = ofMembers members := by
  induction members generalizing h with
  | nil => simp [freeze, ofMembers, eq_comm]
  | cons m members ih =>
    obtain ⟨n, v⟩ := m
    simp only [freeze_cons, bind_eq_ok, sequence_eq_ok, ih, List.forall_mem_cons]
    constructor
    · rintro ⟨_, ⟨hv, rfl⟩, _, ⟨hs, rfl⟩, he⟩
      cases he
      exact ⟨⟨hv, hs⟩, rfl⟩
    · rintro ⟨⟨hv, hs⟩, rfl⟩
      exact ⟨_, ⟨hv, rfl⟩, _, ⟨hs, rfl⟩, rfl⟩

theorem freeze_eq_error : freeze members = .error f ↔
    FirstBad (fun m => IsSequence m.2) (fun m => ¬ IsSequence m.2 ∧ f = refusal m.1 m.2) members := by
  induction members with
  | nil => simp [freeze]
  | cons m members ih =>
    obtain ⟨n, v⟩ := m
    rw [freeze_cons, firstBad_cons, ← ih]
    by_cases hv : IsSequence v
    · rw [sequence_eq_ok.mpr ⟨hv, rfl⟩, ok_bind]
      cases freeze members <;> simp [hv]
    · rw [sequence_eq_error.mpr ⟨hv, rfl⟩, error_bind]
      simp [hv, eq_comm]

theorem names_of_freeze (hf : freeze members = .ok h) : h.names = Ordered.names members := by
  obtain ⟨-, rfl⟩ := freeze_eq_ok.mp hf
  exact names_ofMembers members

theorem freeze_lists (entries : List (String × List Json)) :
    freeze (entries.map fun e => (e.1, .list e.2)) = .ok ⟨entries⟩ := by
  refine freeze_eq_ok.mpr ⟨fun m hm => ?_, (ofMembers_lists ⟨entries⟩).symm⟩
  obtain ⟨e, -, rfl⟩ := List.mem_map.mp hm
  trivial

end

end RemoteCall.HeaderMap
