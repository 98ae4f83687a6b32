import Mathlib.Data.List.Nodup
import RemoteCall.Ordered

/-!
# Looking names up in ordered maps

A list of pairs with distinct names is determined by its names in order and by the value of each name. What is looked up
in appended, mapped and filtered lists follows from the parts.
-/

namespace RemoteCall

/-! ## First appearances in a list -/

section
variable {α : Type} [BEq α] [LawfulBEq α]

theorem filter_eraseDups (p : α → Bool) : ∀ l : List α, (l.filter p).eraseDups = l.eraseDups.filter p
  | [] => rfl
  | a :: l => by
    have ih := filter_eraseDups p (l.filter fun b => !b == a)
    rw [List.eraseDups_cons, List.filter_cons, List.filter_cons]
    cases hp : p a with
    | true =>
      simp only [if_true]
      rw [List.eraseDups_cons, ← ih, List.filter_filter, List.filter_filter]
      simp only [Bool.and_comm]
    | false =>
      -- filtering with `p` takes `a` away, so it does not matter whether the repetitions of `a` went before
      have h : (l.filter fun b => !b == a).filter p = l.filter p := by
        rw [List.filter_filter]
        apply List.filter_congr; intro b _
        by_cases hb : b = a
        · subst hb; simp [hp]
        · simp [hb]
      simpa [h] using ih
termination_by l => l.length
decreasing_by exact Nat.lt_succ_of_le (List.length_filter_le _ _)

theorem nodup_eraseDups : ∀ l : List α, l.eraseDups.Nodup
  | [] => by simp
  | a :: l => by
    rw [List.eraseDups_cons, filter_eraseDups]
    exact List.nodup_cons.mpr ⟨by simp, (nodup_eraseDups l).filter _⟩

theorem eraseDups_of_nodup {l : List α} (h : l.Nodup) : l.eraseDups = l := by
  induction l with
  | nil => rfl
  | cons a l ih =>
    obtain ⟨ha, hl⟩ := List.nodup_cons.mp h
    rw [List.eraseDups_cons, filter_eraseDups, ih hl, List.filter_eq_self.mpr]
    intro b hb
    simpa using fun e : b = a => ha (e ▸ hb)

/-- What first appears in the second list is what first appears there and is not in the first one. -/
theorem eraseDups_append_filter (l m : List α) :
    (l ++ m).eraseDups = l.eraseDups ++ m.eraseDups.filter fun a => !l.eraseDups.contains a := by
  rw [List.eraseDups_append, List.removeAll, filter_eraseDups]
  congr 1
  apply List.filter_congr; intro a _
  rw [Bool.eq_iff_iff]
  simp [List.mem_eraseDups]

end

namespace Ordered

section
variable {α β : Type}

theorem get?_cons (n m : String) (v : α) (l : List (String × α)) :
    get? ((m, v) :: l) n = if n = m then some v else get? l n := by
  by_cases h : n = m
  · subst h; simp [get?]
  · have hb : (n == m) = false := by simpa using h
    simp [get?, List.lookup_cons, h, hb]

theorem get?_append (l m : List (String × α)) (n : String) : get? (l ++ m) n = (get? l n).or (get? m n) :=
  List.lookup_append

theorem get?_eq_none {l : List (String × α)} {n : String} : get? l n = none ↔ n ∉ names l := by
  simp only [get?, List.lookup_eq_none_iff, names, List.mem_map, not_exists, not_and, bne_iff_ne, ne_eq]
  exact ⟨fun h p hp e => h p hp e.symm, fun h p hp e => h p hp e.symm⟩

theorem mem_names_of_mem {l : List (String × α)} {n : String} {v : α} (h : (n, v) ∈ l) : n ∈ names l :=
  List.mem_map_of_mem (f := Prod.fst) h

theorem mem_of_get? {l : List (String × α)} {n : String} {v : α} (h : get? l n = some v) : (n, v) ∈ l := by
  obtain ⟨l₁, l₂, rfl, -⟩ := List.lookup_eq_some_iff.mp h
  simp

theorem get?_of_mem {l : List (String × α)} (hl : (names l).Nodup) {n : String} {v : α} (h : (n, v) ∈ l) :
    get? l n = some v := by
  induction l with
  | nil => cases h
  | cons p l ih =>
    obtain ⟨m, w⟩ := p
    obtain ⟨hm, hl⟩ := List.nodup_cons.mp hl
    rw [get?_cons]
    rcases List.mem_cons.mp h with heq | hmem
    · cases heq; simp
    · have hne : n ≠ m := by
        intro e
        apply hm
        simpa only [e] using List.mem_map_of_mem (f := Prod.fst) hmem
      rw [if_neg hne]
      exact ih hl hmem

theorem get?_eq_some {l : List (String × α)} (hl : (names l).Nodup) {n : String} {v : α} :
    get? l n = some v ↔ (n, v) ∈ l :=
  ⟨mem_of_get?, get?_of_mem hl⟩

theorem get?_perm {l m : List (String × α)} (hl : (names l).Nodup) (h : l.Perm m) : get? l = get? m := by
  have hm : (names m).Nodup := (h.map Prod.fst).nodup hl
  funext n
  apply Option.ext
  intro v
  rw [get?_eq_some hl, get?_eq_some hm, h.mem_iff]

theorem get?_concat {l : List (String × α)} {n : String} (hn : n ∉ names l) (v : α) :
    get? (l ++ [(n, v)]) = fun k => if k = n then some v else get? l k := by
  funext k
  rw [get?_append, get?_cons]
  by_cases h : k = n
  · subst h
    simp [get?_eq_none.mpr hn]
  · simp [h, get?]

theorem get?_map (f : String → α → β) (l : List (String × α)) (n : String) :
    get? (l.map fun e => (e.1, f e.1 e.2)) n = (get? l n).map (f n) := by
  induction l with
  | nil => rfl
  | cons p l ih =>
    obtain ⟨m, v⟩ := p
    rw [List.map_cons, get?_cons, get?_cons, ih]
    by_cases h : n = m <;> simp [h]

theorem get?_filter (p : String → Bool) (l : List (String × α)) (n : String) :
    get? (l.filter fun e => p e.1) n = if p n then get? l n else none := by
  induction l with
  | nil => simp [get?]
  | cons q l ih =>
    obtain ⟨m, v⟩ := q
    rw [List.filter_cons, get?_cons]
    by_cases h : n = m
    · subst h
      cases hp : p n with
      | true => simp [get?_cons]
      | false => simpa [hp] using ih
    · cases hp : p m with
      | true => simp [get?_cons, h, ih]
      | false => simp [h, ih]

/-- Where the names are distinct, an entry that is filtered out leaves no other one under its name. -/
theorem get?_filter_entries (p : String × α → Bool) {l : List (String × α)} (hl : (names l).Nodup) (n : String) :
    get? (l.filter p) n = (get? l n).filter fun v => p (n, v) := by
  induction l with
  | nil => rfl
  | cons q l ih =>
    obtain ⟨m, v⟩ := q
    obtain ⟨hm, hnd⟩ := List.nodup_cons.mp hl
    rw [List.filter_cons, get?_cons]
    by_cases h : n = m
    · subst h
      rw [if_pos rfl, Option.filter_some]
      cases hp : p (n, v) with
      | true => simp [get?_cons]
      | false =>
        have hn : get? l n = none := get?_eq_none.mpr hm
        simp [ih hnd, hn]
    · cases hp : p (m, v) with
      | true => simp [get?_cons, h, ih hnd]
      | false => simp [h, ih hnd]

theorem names_map (f : String → α → β) (l : List (String × α)) :
    names (l.map fun e => (e.1, f e.1 e.2)) = names l := by
  simp [names, Function.comp_def]

theorem names_filter (p : String → Bool) (l : List (String × α)) :
    names (l.filter fun e => p e.1) = (names l).filter p := by
  simp [names, List.filter_map, Function.comp_def]

theorem names_append (l m : List (String × α)) : names (l ++ m) = names l ++ names m := List.map_append

theorem map_insert (f : α → β) (n : String) (v : α) (l : List (String × α)) :
    (insert n v l).map (fun e => (e.1, f e.2)) = insert n (f v) (l.map fun e => (e.1, f e.2)) := by
  induction l with
  | nil => rfl
  | cons p l ih =>
    obtain ⟨m, w⟩ := p
    by_cases h : m = n <;> simp [insert, h, ih]

theorem get?_filterMap (f : String → Option α) (keys : List String) (n : String) :
    get? (keys.filterMap fun k => (f k).map (k, ·)) n = if n ∈ keys then f n else none := by
  induction keys with
  | nil => rfl
  | cons k keys ih =>
    by_cases h : n = k
    · subst h
      cases hf : f n <;> simp [hf, ih, get?_cons]
    · cases hf : f k <;> simp [hf, ih, get?_cons, h]

theorem names_filterMap_sublist (f : String → Option α) (keys : List String) :
    (names (keys.filterMap fun k => (f k).map (k, ·))).Sublist keys := by
  induction keys with
  | nil => exact .slnil
  | cons k keys ih =>
    cases hf : f k with
    | none => simpa [hf] using ih.cons k
    | some v => simpa [hf, names] using ih.cons_cons k

theorem filterMap_get?_names {l : List (String × α)} (hl : (names l).Nodup) :
    ((names l).filterMap fun n => (get? l n).map (n, ·)) = l := by
  rw [names, List.filterMap_map]
  conv_rhs => rw [← List.filterMap_some (l := l)]
  apply List.filterMap_congr
  rintro ⟨n, v⟩ hm
  simp [get?_of_mem hl hm]

theorem filter_eq_filterMap (p : String → Bool) {l : List (String × α)} (hl : (names l).Nodup) :
    (l.filter fun e => p e.1) = ((names l).filter p).filterMap fun n => (get? l n).map (n, ·) := by
  have hf : (names (l.filter fun e => p e.1)).Nodup := by
    rw [names_filter]
    exact hl.filter _
  rw [← filterMap_get?_names hf, names_filter]
  apply List.filterMap_congr
  intro n hn
  rw [get?_filter, if_pos (List.mem_filter.mp hn).2]

theorem ext_get? {l m : List (String × α)} (hl : (names l).Nodup) (hn : names l = names m)
    (h : ∀ n, get? l n = get? m n) : l = m := by
  induction l generalizing m with
  | nil =>
    cases m with
    | nil => rfl
    | cons q m => cases hn
  | cons p l ih =>
    cases m with
    | nil => cases hn
    | cons q m =>
      obtain ⟨a, v⟩ := p
      obtain ⟨b, w⟩ := q
      obtain ⟨hab, hlm⟩ := List.cons.inj hn
      obtain ⟨ha, hl⟩ := List.nodup_cons.mp hl
      dsimp only at hab; subst hab
      have hv : v = w := by simpa [get?_cons] using h a
      subst hv
      rw [ih hl hlm]
      intro n
      by_cases e : n = a
      · subst e
        have ha' : n ∉ names m := fun hm => ha (hlm ▸ hm)
        rw [get?_eq_none.mpr ha, get?_eq_none.mpr ha']
      · simpa [get?_cons, e] using h n

end

end Ordered

end RemoteCall
