import Mathlib.Data.List.Forall2

/-!
# Results of steps that may fail

How a sequence of steps in `Except` succeeds or fails, by its first step, and what it means that two steps do so together.
-/

namespace RemoteCall

section
variable {ε α β γ : Type}

@[simp] theorem pure_eq_ok (a : α) : (pure a : Except ε α) = .ok a := rfl

@[simp] theorem ok_bind (a : α) (f : α → Except ε β) : (Except.ok a >>= f) = f a := rfl

@[simp] theorem error_bind (e : ε) (f : α → Except ε β) : (Except.error e >>= f) = .error e := rfl

theorem bind_eq_ok {x : Except ε α} {f : α → Except ε β} {b : β} :
    x >>= f = .ok b ↔ ∃ a, x = .ok a ∧ f a = .ok b := by
  cases x <;> simp

theorem bind_eq_error {x : Except ε α} {f : α → Except ε β} {e : ε} :
    x >>= f = .error e ↔ x = .error e ∨ ∃ a, x = .ok a ∧ f a = .error e := by
  cases x <;> simp

@[simp] theorem map_ok (g : α → β) (a : α) : (Except.ok a : Except ε α).map g = .ok (g a) := rfl

@[simp] theorem map_error (g : α → β) (e : ε) : (Except.error e : Except ε α).map g = .error e := rfl

theorem map_eq_ok {x : Except ε α} {g : α → β} {b : β} : x.map g = .ok b ↔ ∃ a, x = .ok a ∧ g a = b := by
  cases x <;> simp

theorem map_eq_error {x : Except ε α} {g : α → β} {e : ε} : x.map g = .error e ↔ x = .error e := by
  cases x <;> simp

theorem mapError_eq_ok {ε' : Type} {x : Except ε α} {g : ε → ε'} {a : α} : x.mapError g = .ok a ↔ x = .ok a := by
  cases x <;> simp [Except.mapError]

theorem eq_ok_of_toOption {x : Except ε α} {a : α} (h : x.toOption = some a) : x = .ok a := by
  cases x <;> cases h
  rfl

theorem exists_ok_of_isOk {x : Except ε α} (h : x.isOk = true) : ∃ a, x = .ok a := by
  cases x with
  | error e => cases h
  | ok a => exact ⟨a, rfl⟩

theorem map_bind (x : Except ε α) (f : α → Except ε β) (g : β → γ) :
    (x >>= f).map g = x >>= fun a => (f a).map g := by
  cases x <;> rfl

/-- Two steps, of which each one gives the mapped result of the other. -/
theorem bind_eq_map {δ : Type} {x : Except ε α} {y : Except ε γ} {v : α → γ} {w : β → δ} {f : γ → Except ε δ}
    {g : α → Except ε β} (hy : y = x.map v) (hf : ∀ a, f (v a) = (g a).map w) : y >>= f = (x >>= g).map w := by
  subst hy
  cases x with
  | error e => rfl
  | ok a => exact hf a

theorem mapM_eq_ok {f : α → Except ε β} {l : List α} {bs : List β} :
    l.mapM f = .ok bs ↔ List.Forall₂ (fun a b => f a = .ok b) l bs := by
  induction l generalizing bs with
  | nil => simp [List.forall₂_nil_left_iff, eq_comm]
  | cons a l ih =>
    simp only [List.mapM_cons, bind_eq_ok, pure_eq_ok, Except.ok.injEq, List.forall₂_cons_left_iff, ih]
    exact ⟨fun ⟨b, hb, cs, hcs, e⟩ => ⟨b, cs, hb, hcs, e.symm⟩, fun ⟨b, cs, hb, hcs, e⟩ => ⟨b, hb, cs, hcs, e.symm⟩⟩

theorem mapM_of_forall₂ {f : α → Except ε β} {r : α → α → Prop} {l l' : List α} {bs : List β}
    (hr : ∀ a a' b, r a a' → f a = .ok b → f a' = .ok b) (h : List.Forall₂ r l l') (hb : l.mapM f = .ok bs) :
    l'.mapM f = .ok bs := by
  rw [mapM_eq_ok] at hb ⊢
  induction h generalizing bs with
  | nil => exact hb
  | cons ha _ ih =>
    cases hb with
    | cons hb hbs => exact .cons (hr _ _ _ ha hb) (ih hbs)

theorem mem_of_mapM {f : α → Except ε β} {l : List α} {bs : List β} (h : l.mapM f = .ok bs) {b : β} :
    b ∈ bs ↔ ∃ a ∈ l, f a = .ok b := by
  have hr := mapM_eq_ok.mp h
  clear h
  induction hr with
  | nil => simp
  | cons ha _ ih =>
    simp only [List.mem_cons, ih, exists_eq_or_imp, ha, Except.ok.injEq]
    exact or_congr_left eq_comm

theorem exists_mapM_eq_ok {f : α → Except ε β} {l : List α} :
    (∃ bs, l.mapM f = .ok bs) ↔ ∀ a ∈ l, ∃ b, f a = .ok b := by
  induction l with
  | nil => exact ⟨fun _ _ ha => (List.not_mem_nil ha).elim, fun _ => ⟨[], rfl⟩⟩
  | cons a l ih =>
    rw [List.forall_mem_cons, ← ih]
    simp only [mapM_eq_ok, List.forall₂_cons_left_iff]
    exact ⟨fun ⟨_, b, cs, hb, hcs, _⟩ => ⟨⟨b, hb⟩, cs, hcs⟩, fun ⟨⟨b, hb⟩, cs, hcs⟩ => ⟨_, b, cs, hb, hcs, rfl⟩⟩

end

/-! ## Two steps that may fail -/

def Together {ε α β : Type} (r : α → β → Prop) : Except ε α → Except ε β → Prop
  | .ok a, .ok b => r a b
  | .error _, .error _ => True
  | _, _ => False

section
variable {ε α β γ δ : Type} {r : α → β → Prop} {x : Except ε α} {y : Except ε β}

theorem together_bind {q : γ → δ → Prop} {f : α → Except ε γ} {g : β → Except ε δ} (h : Together r x y)
    (hf : ∀ a b, x = .ok a → y = .ok b → r a b → Together q (f a) (g b)) : Together q (x >>= f) (y >>= g) := by
  match x, y, h with
  | .ok a, .ok b, h => exact hf a b rfl rfl h
  | .error _, .error _, _ => trivial

/-- Steps that succeed under the same condition, with related values, go together. -/
theorem together_of_exists (h : (∃ a, x = .ok a) ↔ ∃ b, y = .ok b) (hr : ∀ a b, x = .ok a → y = .ok b → r a b) :
    Together r x y := by
  cases x with
  | ok a =>
    obtain ⟨b, rfl⟩ := h.mp ⟨a, rfl⟩
    exact hr a b rfl rfl
  | error e =>
    cases y with
    | ok b =>
      obtain ⟨a, ha⟩ := h.mpr ⟨b, rfl⟩
      cases ha
    | error f => trivial

theorem Together.mono {q : α → β → Prop} (h : Together r x y) (hq : ∀ a b, x = .ok a → y = .ok b → r a b → q a b) :
    Together q x y := by
  match x, y, h with
  | .ok a, .ok b, h => exact hq a b rfl rfl h
  | .error _, .error _, _ => trivial

theorem exists_ok_of_together (h : Together r x y) : (∃ a, x = .ok a) ↔ ∃ b, y = .ok b := by
  match x, y, h with
  | .ok a, .ok b, _ => simp
  | .error _, .error _, _ => simp

end

end RemoteCall
