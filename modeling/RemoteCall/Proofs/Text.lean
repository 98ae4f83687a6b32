import Mathlib.Data.Char
import RemoteCall.Json.Reader
import RemoteCall.Proofs.Results

/-!
# Code points of texts

Every list of code points is written in a way that it can be read back from, so texts with other code points are other
texts. In particular a text in a document has the code points that the document names.
-/

namespace RemoteCall

namespace Text

section
variable {n : Nat} {c : Char} {cs : List Char}

theorem isSurrogate_iff : isSurrogate n = true ↔ 0xd800 ≤ n ∧ n ≤ 0xdfff := by
  simp only [isSurrogate, isHighSurrogate, isLowSurrogate, Bool.or_eq_true, Bool.and_eq_true, decide_eq_true_eq]
  omega

theorem toNat_lt (c : Char) : c.toNat < 0x110000 := by
  have hv : c.toNat < 0xd800 ∨ 0xdfff < c.toNat ∧ c.toNat < 0x110000 := c.valid
  omega

theorem isSurrogate_toNat (c : Char) : isSurrogate c.toNat = false := by
  have hv : c.toNat < 0xd800 ∨ 0xdfff < c.toNat ∧ c.toNat < 0x110000 := c.valid
  rw [Bool.eq_false_iff, ne_eq, isSurrogate_iff]
  omega

theorem toNat_ofNat (hn : n < 0x110000) (hs : ¬ isSurrogate n = true) : (Char.ofNat n).toNat = n := by
  rw [isSurrogate_iff] at hs
  have hv : n.isValidChar := by
    unfold Nat.isValidChar
    omega
  rw [Char.ofNat, dif_pos hv]
  rfl

theorem pointsOf_cons (h : c ≠ mark) (rest : List Char) : pointsOf (c :: rest) = c.toNat :: pointsOf rest := by
  cases rest with
  | nil => rfl
  | cons d rest => rw [pointsOf, if_pos h]

theorem pointsOf_mark (rest : List Char) :
    pointsOf (mark :: c :: rest) = (if c = mark then mark.toNat else c.toNat - 0x800) :: pointsOf rest := by
  rw [pointsOf, if_neg (not_not.mpr rfl)]

/-- The three cases are those of the way a code point is written. -/
theorem pointsOf_pointChars (hn : n < 0x110000) (rest : List Char) :
    pointsOf (pointChars n ++ rest) = n :: pointsOf rest := by
  unfold pointChars
  split
  · rename_i hs
    have hp : (Char.ofNat (n + 0x800)).toNat = n + 0x800 := by
      rw [isSurrogate_iff] at hs
      exact toNat_ofNat (by omega) (by rw [isSurrogate_iff]; omega)
    have hm : Char.ofNat (n + 0x800) ≠ mark := by
      intro h
      rw [isSurrogate_iff] at hs
      have hv : mark.toNat = 0x10ffff := by decide
      rw [h, hv] at hp
      omega
    rw [List.cons_append, List.cons_append, List.nil_append, pointsOf_mark, if_neg hm, hp, Nat.add_sub_cancel]
  · rename_i hs
    have hp := toNat_ofNat hn hs
    split
    · rename_i hm
      rw [List.cons_append, List.cons_append, List.nil_append, pointsOf_mark, if_pos rfl, ← hm, hp]
    · rename_i hm
      rw [List.cons_append, List.nil_append, pointsOf_cons hm, hp]

theorem points_ofPoints {ps : List Nat} (h : ∀ n ∈ ps, n < 0x110000) : points (ofPoints ps) = ps := by
  unfold points ofPoints
  rw [String.toList_ofList]
  induction ps with
  | nil => rfl
  | cons n ps ih =>
    obtain ⟨hn, h⟩ := List.forall_mem_cons.mp h
    rw [List.flatMap_cons, pointsOf_pointChars hn, ih h]

theorem chars_ofChars (cs : List Char) : chars (ofChars cs) = cs := by
  have hl : ∀ n ∈ cs.map Char.toNat, n < 0x110000 := List.forall_mem_map.mpr fun c _ => toNat_lt c
  rw [chars, ofChars, points_ofPoints hl, List.map_map]
  refine (List.map_congr_left fun c _ => ?_).trans (List.map_id cs)
  simp only [Function.comp_apply, isSurrogate_toNat, Bool.false_eq_true, if_false, Char.ofNat_toNat, id_eq]

theorem pointsOf_eq_map (h : mark ∉ cs) : pointsOf cs = cs.map Char.toNat := by
  induction cs with
  | nil => rfl
  | cons c cs ih =>
    obtain ⟨hc, h⟩ := not_or.mp (List.mem_cons.not.mp h)
    rw [pointsOf_cons (Ne.symm hc), ih h, List.map_cons]

end

end Text

/-! ## Texts in documents -/

namespace Json

theorem hexDigit?_lt {c : Char} {n : Nat} (h : hexDigit? c = some n) : n < 16 := by
  simp only [hexDigit?, Char.isDigit, Char.le_def, UInt32.le_iff_toNat_le, Bool.and_eq_true, decide_eq_true_eq] at h
  split at h
  · rename_i hd
    cases h
    have : c.toNat ≤ 57 := hd.2
    omega
  · split at h
    · rename_i hd
      cases h
      have : c.toNat ≤ 102 := hd.2
      omega
    · split at h
      · rename_i hd
        cases h
        have : c.toNat ≤ 70 := hd.2
        omega
      · cases h

theorem fourHex?_lt {a b c d : Char} {n : Nat} (h : fourHex? a b c d = some n) : n < 0x10000 := by
  simp only [fourHex?, Option.bind_eq_bind, Option.bind_eq_some_iff, Option.pure_def, Option.some.injEq] at h
  obtain ⟨i, hi, j, hj, k, hk, l, hl, rfl⟩ := h
  have hi := hexDigit?_lt hi
  have hj := hexDigit?_lt hj
  have hk := hexDigit?_lt hk
  have hl := hexDigit?_lt hl
  omega

theorem forall_mem_of_cons {x : Except ReadError (List Nat × List Char)} {k : Nat} {units : List Nat} {rest : List Char}
    (hk : k < 0x110000) (ih : ∀ {rest units}, x = .ok (units, rest) → ∀ n ∈ units, n < 0x110000)
    (h : (x >>= fun p => pure (k :: p.1, p.2)) = .ok (units, rest)) : ∀ n ∈ units, n < 0x110000 := by
  obtain ⟨p, hp, h⟩ := bind_eq_ok.mp h
  cases h
  exact List.forall_mem_cons.mpr ⟨hk, ih hp⟩

theorem lt_of_mem_textUnits {opening : Nat} {cs rest : List Char} {units : List Nat}
    (h : textUnits opening cs = .ok (units, rest)) : ∀ n ∈ units, n < 0x110000 := by
  fun_induction textUnits opening cs generalizing units rest with
  | case2 => cases h; exact fun _ hn => (List.not_mem_nil hn).elim
  | case5 =>
    rename_i hu ih
    exact forall_mem_of_cons (Nat.lt_trans (fourHex?_lt hu) (by decide)) ih h
  | case8 =>
    rename_i ih
    exact forall_mem_of_cons (Text.toNat_lt _) ih h
  | case10 =>
    rename_i ih
    exact forall_mem_of_cons (Text.toNat_lt _) ih h
  | _ => cases h

theorem lt_of_mem_joinSurrogates {units : List Nat} (h : ∀ n ∈ units, n < 0x110000) :
    ∀ n ∈ joinSurrogates units, n < 0x110000 := by
  fun_induction joinSurrogates units with
  | case1 | case2 => exact h
  | case3 m n rest hs ih =>
    obtain ⟨-, h⟩ := List.forall_mem_cons.mp h
    obtain ⟨-, h⟩ := List.forall_mem_cons.mp h
    refine List.forall_mem_cons.mpr ⟨?_, ih h⟩
    simp only [Text.isHighSurrogate, Text.isLowSurrogate, Bool.and_eq_true, decide_eq_true_eq] at hs
    omega
  | case4 m n rest hs ih =>
    obtain ⟨hm, h⟩ := List.forall_mem_cons.mp h
    exact List.forall_mem_cons.mpr ⟨hm, ih h⟩

/-- The text that is read has the code points of the units in the document, with surrogate pairs joined; halves that have no
other half are kept. -/
theorem points_readText {cs rest : List Char} {s : String} (h : readText cs = .ok (s, rest)) :
    ∃ units, textUnits (cs.length + 1) cs = .ok (units, rest) ∧ Text.points s = joinSurrogates units := by
  obtain ⟨⟨units, after⟩, hu, h⟩ := bind_eq_ok.mp h
  cases h
  exact ⟨units, hu, Text.points_ofPoints (lt_of_mem_joinSurrogates (lt_of_mem_textUnits hu))⟩

end Json

end RemoteCall
