import RemoteCall.Json.Reader
import RemoteCall.Proofs.Results

/-!
# Objects that are read

An object that is read has distinct names, whatever the text repeats.
-/

namespace RemoteCall.Json

section
variable {n : Nat} {cs rest : List Char} {members : List (String × Json)}

/-- Reading members keeps the names distinct, since each member is inserted among those before. -/
theorem nodup_names_readMembers {steps : Nat} {done : List (String × Json)} {v : Json}
    (hd : (Ordered.names done).Nodup) (h : readMembers steps n done cs = .ok (v, rest)) :
    ∃ members, v = .object members ∧ (Ordered.names members).Nodup := by
  induction steps generalizing done cs with
  | zero => cases h
  | succ steps ih =>
    unfold readMembers at h
    split at h
    · obtain ⟨⟨name, after⟩, -, h⟩ := bind_eq_ok.mp h
      dsimp only at h
      split at h
      · obtain ⟨⟨w, after⟩, -, h⟩ := bind_eq_ok.mp h
        have hi : (Ordered.names (Ordered.insert name w done)).Nodup := Ordered.nodup_names_insert hd
        dsimp only at h
        split at h
        · cases h; exact ⟨_, rfl, hi⟩
        · exact ih hi h
        · cases h
      · cases h
    · cases h

theorem readScalar_ne_object : readScalar n cs ≠ .ok (.object members, rest) := by
  intro h
  unfold readScalar at h
  split at h
  · rename_i word v hf
    split at h
    · cases h
    · cases h
      have hw := List.mem_of_find?_eq_some hf
      simp [words, Json.double] at hw
  · obtain ⟨x, -, h⟩ := bind_eq_ok.mp h
    cases h

theorem readItems_ne_object {steps : Nat} {done : List Json} :
    readItems steps n done cs ≠ .ok (.object members, rest) := by
  intro h
  induction steps generalizing done cs with
  | zero => cases h
  | succ steps ih =>
    unfold readItems at h
    obtain ⟨⟨v, after⟩, -, h⟩ := bind_eq_ok.mp h
    dsimp only at h
    split at h
    · cases h
    · exact ih h
    · cases h

theorem nodup_names_readValue {steps : Nat} (h : readValue steps n cs = .ok (.object members, rest)) :
    (Ordered.names members).Nodup := by
  cases steps with
  | zero => cases h
  | succ steps =>
    unfold readValue at h
    split at h
    · obtain ⟨s, -, h⟩ := bind_eq_ok.mp h
      cases h
    · split at h
      · cases h
      · split at h
        · cases h; exact List.nodup_nil
        · have hd : (Ordered.names ([] : List (String × Json))).Nodup := List.nodup_nil
          obtain ⟨_, he, hn⟩ := nodup_names_readMembers hd h
          cases he; exact hn
    · split at h
      · cases h
      · split at h
        · cases h
        · exact absurd h readItems_ne_object
    · exact absurd h readScalar_ne_object

theorem nodup_names_readChars (h : readChars n cs = .ok (.object members)) : (Ordered.names members).Nodup := by
  unfold readChars at h
  split at h
  · cases h
  · obtain ⟨⟨v, after⟩, hv, h⟩ := bind_eq_ok.mp h
    dsimp only at h
    split at h
    · cases h; exact nodup_names_readValue hv
    · cases h

end

end RemoteCall.Json
