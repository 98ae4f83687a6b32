import RemoteCall.Fault
import RemoteCall.Proofs.Results

/-!
# Kinds of faults

Of which kind the fault of a computation is, given what its steps do. A list that is gone through item by item fails at
its first bad item.
-/

namespace RemoteCall

def Faults {α : Type} (k : FaultKind) (x : Except Fault α) : Prop := ∃ f, x = .error f ∧ f.kind = k

def FirstBad {α : Type} (good bad : α → Prop) (l : List α) : Prop :=
  ∃ front a back, l = front ++ a :: back ∧ (∀ b ∈ front, good b) ∧ bad a

section
variable {α β : Type} {k : FaultKind}

@[simp] theorem faults_ok (a : α) : ¬ Faults k (.ok a : Except Fault α) := by
  rintro ⟨f, hf, -⟩; cases hf

@[simp] theorem faults_error (f : Fault) : Faults k (.error f : Except Fault α) ↔ f.kind = k :=
  ⟨fun ⟨_, he, hk⟩ => by cases he; exact hk, fun hk => ⟨f, rfl, hk⟩⟩

theorem faults_bind {x : Except Fault α} {f : α → Except Fault β} :
    Faults k (x >>= f) ↔ Faults k x ∨ ∃ a, x = .ok a ∧ Faults k (f a) := by
  cases x <;> simp

theorem faults_map {x : Except Fault α} {g : α → β} : Faults k (x.map g) ↔ Faults k x := by
  cases x <;> simp

/-! ## Lists -/

section
variable {good bad : α → Prop}

@[simp] theorem firstBad_nil : ¬ FirstBad good bad [] := by
  rintro ⟨front, a, back, h, -⟩
  cases front <;> cases h

@[simp] theorem firstBad_cons {a : α} {l : List α} :
    FirstBad good bad (a :: l) ↔ bad a ∨ good a ∧ FirstBad good bad l := by
  constructor
  · rintro ⟨front, b, back, h, hg, hb⟩
    cases front with
    | nil => cases h; exact .inl hb
    | cons c front =>
      cases h
      exact .inr ⟨hg a List.mem_cons_self, front, b, back, rfl, fun d hd => hg d (List.mem_cons_of_mem _ hd), hb⟩
  · rintro (hb | ⟨ha, front, b, back, rfl, hg, hb⟩)
    · exact ⟨[], a, l, rfl, fun _ h => (List.not_mem_nil h).elim, hb⟩
    · exact ⟨a :: front, b, back, rfl, List.forall_mem_cons.mpr ⟨ha, hg⟩, hb⟩

theorem FirstBad.imp {bad' : α → Prop} {l : List α} (h : FirstBad good bad l) (hb : ∀ a, bad a → bad' a) :
    FirstBad good bad' l :=
  let ⟨front, a, back, he, hg, ha⟩ := h
  ⟨front, a, back, he, hg, hb a ha⟩

theorem firstBad_congr {bad' : α → Prop} (hb : ∀ a, bad a ↔ bad' a) {l : List α} :
    FirstBad good bad l ↔ FirstBad good bad' l :=
  ⟨fun h => h.imp fun a => (hb a).mp, fun h => h.imp fun a => (hb a).mpr⟩

/-- Going through what the items stand for, where an item may stand for nothing, is going through the items. -/
theorem firstBad_filterMap {f : β → Option α} {l : List β} :
    FirstBad good bad (l.filterMap f) ↔ FirstBad (fun b => ∀ a ∈ f b, good a) (fun b => ∃ a ∈ f b, bad a) l := by
  induction l with
  | nil => simp
  | cons b l ih =>
    cases h : f b with
    | none => simp [List.filterMap_cons_none h, ih, h]
    | some a => simp [List.filterMap_cons_some h, ih, h]

end

theorem mapM_eq_error {ε : Type} {f : α → Except ε β} {l : List α} {e : ε} : l.mapM f = .error e ↔
    FirstBad (fun a => ∃ b, f a = .ok b) (fun a => f a = .error e) l := by
  induction l with
  | nil => simp
  | cons a l ih =>
    rw [List.mapM_cons, firstBad_cons, ← ih]
    cases f a with
    | error f => simp
    | ok b => cases l.mapM f <;> simp

theorem faults_mapM {f : α → Except Fault β} {l : List α} : Faults k (l.mapM f) ↔
    FirstBad (fun a => ∃ b, f a = .ok b) (fun a => Faults k (f a)) l := by
  simp only [Faults, mapM_eq_error]
  constructor
  · rintro ⟨e, ⟨front, a, back, hl, hg, he⟩, hk⟩
    exact ⟨front, a, back, hl, hg, e, he, hk⟩
  · rintro ⟨front, a, back, hl, hg, e, he, hk⟩
    exact ⟨e, ⟨front, a, back, hl, hg, he⟩, hk⟩

theorem faults_foldlM {σ : Type} {f : σ → α → Except Fault σ} {good bad : α → Prop}
    (hg : ∀ s a, (∃ t, f s a = .ok t) ↔ good a) (hb : ∀ s a, Faults k (f s a) ↔ bad a) (l : List α) (s : σ) :
    Faults k (l.foldlM f s) ↔ FirstBad good bad l := by
  induction l generalizing s with
  | nil => simp
  | cons a l ih =>
    simp only [List.foldlM_cons, faults_bind, hb, ih, firstBad_cons, ← hg s]
    exact or_congr_right ⟨fun ⟨t, ht, hl⟩ => ⟨⟨t, ht⟩, hl⟩, fun ⟨⟨t, ht⟩, hl⟩ => ⟨t, ht, hl⟩⟩

end

end RemoteCall
