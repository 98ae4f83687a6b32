import RemoteCall.Proofs.Ordered
import RemoteCall.Proofs.Results
import RemoteCall.Proofs.Text
import RemoteCall.Settings.Sources

/-!
# Levels of nesting

Where a reader runs out of levels it says so, and this is all that the number of levels decides: with more levels a
reader that did not run out gives the same, and with enough of them no reader runs out. So it is with documents, and with
settings, some of which are documents in variables.
-/

namespace RemoteCall

section
variable {ε α β : Type} {p : ε → Prop} {x y : Except ε α}

def FailsBy (p : ε → Prop) (x : Except ε α) : Prop := ∃ e, x = .error e ∧ p e

@[simp] theorem not_failsBy_ok (a : α) : ¬ FailsBy p (.ok a) := fun ⟨_, h, _⟩ => nomatch h

@[simp] theorem failsBy_error {e : ε} : FailsBy p (.error e : Except ε α) ↔ p e := by
  simp [FailsBy]

theorem not_failsBy_bind {f : α → Except ε β} (hx : ¬ FailsBy p x) (hf : ∀ a, ¬ FailsBy p (f a)) :
    ¬ FailsBy p (x >>= f) := by
  cases x with
  | error e => exact fun h => hx (failsBy_error.mpr (failsBy_error.mp h))
  | ok a => exact hf a

theorem not_failsBy_mapM {f : α → Except ε β} {l : List α} (h : ∀ a ∈ l, ¬ FailsBy p (f a)) :
    ¬ FailsBy p (l.mapM f) := by
  induction l with
  | nil => exact not_failsBy_ok _
  | cons a l ih =>
    obtain ⟨ha, hl⟩ := List.forall_mem_cons.mp h
    rw [List.mapM_cons]
    exact not_failsBy_bind ha fun _ => not_failsBy_bind (ih hl) fun _ => not_failsBy_ok _

/-- Unless the first computation fails by an error of the kind, the second one gives the same. -/
def Within (p : ε → Prop) (x y : Except ε α) : Prop := FailsBy p x ∨ y = x

theorem Within.refl (x : Except ε α) : Within p x x := .inr rfl

theorem Within.bind {f g : α → Except ε β} (h : Within p x y) (hf : ∀ a, Within p (f a) (g a)) :
    Within p (x >>= f) (y >>= g) := by
  rcases h with ⟨e, rfl, he⟩ | rfl
  · exact .inl ⟨e, rfl, he⟩
  · cases y with
    | error e => exact .inr rfl
    | ok a => exact hf a

theorem Within.mapM {f g : α → Except ε β} (h : ∀ a, Within p (f a) (g a)) (l : List α) :
    Within p (l.mapM f) (l.mapM g) := by
  induction l with
  | nil => exact .refl _
  | cons a l ih =>
    rw [List.mapM_cons, List.mapM_cons]
    exact (h a).bind fun _ => ih.bind fun _ => .refl _

end

namespace Json

def ReadError.Deep (e : ReadError) : Prop := ∃ what, e.problem = .tooDeep what

@[simp] theorem deep_failAt {α : Type} {p : ReadProblem} {cs : List Char} :
    FailsBy ReadError.Deep (failAt p cs : Except ReadError α) ↔ ∃ what, p = .tooDeep what := by
  simp [failAt, ReadError.Deep]

/-! ## More levels -/

section
variable {n m : Nat}

theorem within_readScalar (h : n ≤ m) (cs : List Char) : Within ReadError.Deep (readScalar n cs) (readScalar m cs) := by
  unfold readScalar
  split
  · split
    · exact .inl (deep_failAt.mpr ⟨_, rfl⟩)
    · right
      split
      · simp_all
      · rfl
  · exact .refl _

/-- The induction is on the steps of the three readers together, since each calls the others. -/
theorem within_steps (steps : Nat) :
    (∀ {n m : Nat} (_ : n ≤ m) cs, Within ReadError.Deep (readValue steps n cs) (readValue steps m cs)) ∧
    (∀ {n m : Nat} (_ : n ≤ m) done cs, Within ReadError.Deep (readMembers steps n done cs) (readMembers steps m done cs)) ∧
    ∀ {n m : Nat} (_ : n ≤ m) done cs, Within ReadError.Deep (readItems steps n done cs) (readItems steps m done cs) := by
  induction steps with
  | zero => exact ⟨fun _ _ => .refl _, fun _ _ _ => .refl _, fun _ _ _ => .refl _⟩
  | succ steps ih =>
    obtain ⟨hv, hm, hi⟩ := ih
    refine ⟨fun {n m} h cs => ?_, fun {n m} h done cs => ?_, fun {n m} h done cs => ?_⟩
    · unfold readValue
      split
      · exact .refl _
      · cases n with
        | zero => exact .inl (deep_failAt.mpr ⟨_, rfl⟩)
        | succ n =>
          obtain ⟨m, rfl⟩ := Nat.exists_eq_succ_of_ne_zero (show m ≠ 0 by omega)
          dsimp only
          split
          · exact .refl _
          · exact hm (Nat.le_of_succ_le_succ h) _ _
      · cases n with
        | zero => exact .inl (deep_failAt.mpr ⟨_, rfl⟩)
        | succ n =>
          obtain ⟨m, rfl⟩ := Nat.exists_eq_succ_of_ne_zero (show m ≠ 0 by omega)
          dsimp only
          split
          · exact .refl _
          · exact hi (Nat.le_of_succ_le_succ h) _ _
      · exact within_readScalar h _
    · unfold readMembers
      split
      · refine (Within.refl _).bind fun name => ?_
        dsimp only
        split
        · refine (hv h _).bind fun v => ?_
          split
          · exact .refl _
          · exact hm h _ _
          · exact .refl _
        · exact .refl _
      · exact .refl _
    · unfold readItems
      refine (hv h _).bind fun v => ?_
      dsimp only
      split
      · exact .refl _
      · exact hi h _ _
      · exact .refl _

theorem within_readChars (h : n ≤ m) (cs : List Char) : Within ReadError.Deep (readChars n cs) (readChars m cs) := by
  unfold readChars
  split
  · exact .refl _
  · refine ((within_steps _).1 h _).bind fun v => ?_
    exact .refl _

/-! ## Enough levels -/

theorem not_deep_textUnits (opening : Nat) (cs : List Char) : ¬ FailsBy ReadError.Deep (textUnits opening cs) := by
  fun_induction textUnits opening cs with
  | case5 | case8 | case10 =>
    rename_i ih
    exact not_failsBy_bind ih fun _ => not_failsBy_ok _
  | _ => simp [ReadError.Deep]

theorem not_deep_readText (cs : List Char) : ¬ FailsBy ReadError.Deep (readText cs) :=
  not_failsBy_bind (not_deep_textUnits _ cs) fun _ => not_failsBy_ok _

theorem not_deep_readNumber (cs : List Char) : ¬ FailsBy ReadError.Deep (readNumber cs) := by
  unfold readNumber
  split
  split
  · simp
  · dsimp only
    split
    · split <;> simp
    · simp

theorem not_deep_readScalar (h : 0 < n) (cs : List Char) : ¬ FailsBy ReadError.Deep (readScalar n cs) := by
  unfold readScalar
  split
  · split
    · cases h
    · simp
  · exact not_failsBy_bind (not_deep_readNumber cs) fun _ => not_failsBy_ok _

/-- Every level that is used up is a step, so as many levels as steps are enough. -/
theorem not_deep_steps (steps : Nat) :
    (∀ {n : Nat} (_ : steps ≤ n) cs, ¬ FailsBy ReadError.Deep (readValue steps n cs)) ∧
    (∀ {n : Nat} (_ : steps ≤ n) done cs, ¬ FailsBy ReadError.Deep (readMembers steps n done cs)) ∧
    ∀ {n : Nat} (_ : steps ≤ n) done cs, ¬ FailsBy ReadError.Deep (readItems steps n done cs) := by
  induction steps with
  | zero => simp [readValue, readMembers, readItems]
  | succ steps ih =>
    obtain ⟨hv, hm, hi⟩ := ih
    refine ⟨fun {n} h cs => ?_, fun {n} h done cs => ?_, fun {n} h done cs => ?_⟩
    · obtain ⟨n, rfl⟩ := Nat.exists_eq_succ_of_ne_zero (show n ≠ 0 by omega)
      have h := Nat.le_of_succ_le_succ h
      unfold readValue
      split
      · exact not_failsBy_bind (not_deep_readText _) fun _ => not_failsBy_ok _
      · dsimp only
        split
        · simp
        · exact hm h _ _
      · dsimp only
        split
        · simp
        · exact hi h _ _
      · exact not_deep_readScalar (Nat.succ_pos n) _
    · have h := Nat.le_of_succ_le h
      unfold readMembers
      split
      · refine not_failsBy_bind (not_deep_readText _) fun name => ?_
        dsimp only
        split
        · refine not_failsBy_bind (hv h _) fun v => ?_
          split
          · simp
          · exact hm h _ _
          · simp
        · simp
      · simp
    · have h := Nat.le_of_succ_le h
      unfold readItems
      refine not_failsBy_bind (hv h _) fun v => ?_
      dsimp only
      split
      · simp
      · exact hi h _ _
      · simp

theorem not_deep_readChars {cs : List Char} (h : 2 * cs.length + 2 ≤ n) : ¬ FailsBy ReadError.Deep (readChars n cs) := by
  unfold readChars
  split
  · simp
  · refine not_failsBy_bind ((not_deep_steps _).1 h _) fun v => ?_
    dsimp only
    split <;> simp

end

/-- The reader runs out of levels on exactly those texts that it reads otherwise with more levels. -/
theorem deep_readChars {n : Nat} {cs : List Char} :
    FailsBy ReadError.Deep (readChars n cs) ↔ ∃ m, n ≤ m ∧ readChars m cs ≠ readChars n cs := by
  constructor
  · intro h
    refine ⟨max n (2 * cs.length + 2), Nat.le_max_left .., fun he => ?_⟩
    exact not_deep_readChars (Nat.le_max_right n _) (he ▸ h)
  · rintro ⟨m, hm, hne⟩
    exact (within_readChars hm cs).resolve_right hne

end Json

/-! ## Settings -/

def SettingsFault.Deep (f : SettingsFault) : Prop := ∃ message, f = .tooDeep message

namespace SettingSources

section
variable {n : Nat} {p : SettingsFault → Prop}

theorem not_failsBy_ofVariables {source : String} {bindings : List (String × String)}
    (h : ∀ name, ∀ v ∈ bindings, ¬ FailsBy p (readVariable n source name v.2)) :
    ¬ FailsBy p (ofVariables n source bindings) := by
  refine not_failsBy_bind (not_failsBy_mapM fun name _ => ?_) fun _ => not_failsBy_ok _
  split
  · exact not_failsBy_ok _
  · rename_i text ht
    split
    · refine not_failsBy_bind (h name _ (Ordered.mem_of_get? ht)) fun v => ?_
      split <;> exact not_failsBy_ok _
    · exact not_failsBy_ok _

theorem not_failsBy_ofMembers (h : ∀ complaints, ¬ p (.invalid complaints)) (members : List (String × Json)) :
    ¬ FailsBy p ((Settings.ofMembers members).mapError .invalid) := by
  cases Settings.ofMembers members with
  | error complaints => exact failsBy_error.not.mpr (h complaints)
  | ok s => exact not_failsBy_ok s

end

section
variable {n m : Nat}

theorem within_readVariable (h : n ≤ m) (source name text : String) :
    Within SettingsFault.Deep (readVariable n source name text) (readVariable m source name text) := by
  unfold readVariable
  rcases Json.within_readChars h (Text.chars text) with ⟨e, he, what, hw⟩ | h
  · rw [he]
    exact .inl ⟨_, by dsimp only; rw [hw], _, rfl⟩
  · rw [h]
    exact .refl _

theorem within_ofVariables (h : n ≤ m) (source : String) (bindings : List (String × String)) :
    Within SettingsFault.Deep (ofVariables n source bindings) (ofVariables m source bindings) := by
  refine (Within.mapM (fun name => ?_) _).bind fun _ => .refl _
  split
  · exact .refl _
  · split
    · exact (within_readVariable h ..).bind fun _ => .refl _
    · exact .refl _

theorem within_settings (h : n ≤ m) (s : SettingSources) :
    Within SettingsFault.Deep (s.settingsWithin n) (s.settingsWithin m) := by
  unfold settingsWithin members
  refine Within.bind ?_ fun _ => .refl _
  refine (Within.refl _).bind fun bindings => ?_
  exact (within_ofVariables h ..).bind fun _ => (within_ofVariables h ..).bind fun _ => .refl _

theorem not_deep_readVariable {source name text : String} (h : 2 * (Text.chars text).length + 2 ≤ n) :
    ¬ FailsBy SettingsFault.Deep (readVariable n source name text) := by
  have ht : ¬ FailsBy Json.ReadError.Deep (Json.readChars n (Text.chars text)) := Json.not_deep_readChars h
  unfold readVariable
  split
  · exact not_failsBy_ok _
  · rename_i e he
    rw [he, failsBy_error] at ht
    split
    · rename_i what hw
      exact absurd ⟨what, hw⟩ ht
    · simp [SettingsFault.Deep]

theorem not_deep_ofVariables {source : String} {bindings : List (String × String)}
    (h : ∀ v ∈ bindings, 2 * (Text.chars v.2).length + 2 ≤ n) :
    ¬ FailsBy SettingsFault.Deep (ofVariables n source bindings) :=
  not_failsBy_ofVariables fun _ v hv => not_deep_readVariable (h v hv)

theorem exists_levels (bindings : List (String × String)) :
    ∃ n, ∀ m, n ≤ m → ∀ v ∈ bindings, 2 * (Text.chars v.2).length + 2 ≤ m := by
  induction bindings with
  | nil => exact ⟨0, fun _ _ _ h => (List.not_mem_nil h).elim⟩
  | cons v bindings ih =>
    obtain ⟨n, hn⟩ := ih
    refine ⟨max n (2 * (Text.chars v.2).length + 2), fun m hm => List.forall_mem_cons.mpr ⟨?_, hn m ?_⟩⟩
    · exact Nat.le_trans (Nat.le_max_right ..) hm
    · exact Nat.le_trans (Nat.le_max_left ..) hm

theorem not_deep_fileBindings (s : SettingSources) : ¬ FailsBy SettingsFault.Deep s.fileBindings := by
  unfold fileBindings
  split
  · exact not_failsBy_ok _
  · simp [SettingsFault.Deep]
  · split
    · exact not_failsBy_ok _
    · simp [SettingsFault.Deep]

theorem exists_not_deep_settings (n : Nat) (s : SettingSources) :
    ∃ m, n ≤ m ∧ ¬ FailsBy SettingsFault.Deep (s.settingsWithin m) := by
  have hb := not_deep_fileBindings s
  unfold settingsWithin members
  cases hs : s.fileBindings with
  | error f =>
    rw [hs, failsBy_error] at hb
    exact ⟨n, Nat.le_refl n, by simpa only [error_bind, failsBy_error] using hb⟩
  | ok bindings =>
    obtain ⟨e, he⟩ := exists_levels (lowerNames s.environment)
    obtain ⟨f, hf⟩ := exists_levels ((lowerNames bindings).filterMap fun v => v.2.map (v.1, ·))
    refine ⟨max n (max e f), Nat.le_max_left .., ?_⟩
    rw [ok_bind]
    refine not_failsBy_bind ?_ (not_failsBy_ofMembers (by simp [SettingsFault.Deep]))
    refine not_failsBy_bind (not_deep_ofVariables (he _ ?_)) fun _ =>
      not_failsBy_bind (not_deep_ofVariables (hf _ ?_)) fun _ => not_failsBy_ok _
    · exact Nat.le_trans (Nat.le_max_left ..) (Nat.le_max_right ..)
    · exact Nat.le_trans (Nat.le_max_right ..) (Nat.le_max_right ..)

end

/-- Settings fail for their depth if and only if they would be others with more levels. -/
theorem deep_settings {n : Nat} {s : SettingSources} : FailsBy SettingsFault.Deep (s.settingsWithin n) ↔
    ∃ m, n ≤ m ∧ s.settingsWithin m ≠ s.settingsWithin n := by
  constructor
  · intro h
    obtain ⟨m, hm, hr⟩ := exists_not_deep_settings n s
    exact ⟨m, hm, fun he => hr (he ▸ h)⟩
  · rintro ⟨m, hm, hne⟩
    exact (within_settings hm s).resolve_right hne

section
variable {n : Nat} {s : SettingSources} {e : OpenError}

theorem unopened_fileBindings (h : FailsBy (· = .unopened e) s.fileBindings) : s.file = some (.error e) := by
  unfold fileBindings at h
  split at h
  · exact absurd h (not_failsBy_ok _)
  · rename_i e' he
    cases failsBy_error.mp h
    exact he
  · split at h
    · exact absurd h (not_failsBy_ok _)
    · cases failsBy_error.mp h

theorem not_unopened_readVariable (source name text : String) :
    ¬ FailsBy (· = .unopened e) (readVariable n source name text) := by
  unfold readVariable
  split
  · exact not_failsBy_ok _
  · split <;> simp

theorem not_unopened_ofVariables (source : String) (bindings : List (String × String)) :
    ¬ FailsBy (· = .unopened e) (ofVariables n source bindings) :=
  not_failsBy_ofVariables fun _ _ _ => not_unopened_readVariable _ _ _

/-- Settings fail for a variable file that cannot be opened, whatever else is wrong, and only for such a file. -/
theorem settings_eq_unopened : s.settingsWithin n = .error (.unopened e) ↔ s.file = some (.error e) := by
  constructor
  · intro h
    by_contra hs
    have hb : ¬ FailsBy (· = .unopened e) s.fileBindings := fun h => hs (unopened_fileBindings h)
    have hm : ¬ FailsBy (· = .unopened e) (s.members n) :=
      not_failsBy_bind hb fun _ => not_failsBy_bind (not_unopened_ofVariables _ _) fun _ =>
        not_failsBy_bind (not_unopened_ofVariables _ _) fun _ => not_failsBy_ok _
    exact not_failsBy_bind hm (not_failsBy_ofMembers (by simp)) ⟨_, h, rfl⟩
  · intro h
    simp only [settingsWithin, members, fileBindings, h, error_bind]

end

end SettingSources

end RemoteCall
