import RemoteCall.Proofs.Context.Fields
import RemoteCall.Proofs.Context.Registers

/-!
# Timeouts over rows of setters

A timeout is only shortened until it is disabled. After a row of setters it is the shortest of the timeouts given since it
was last disabled, together with the one that was there before if it never was. What the other setters do, and whether
they fail, has no part in it. A timeout that does not shorten hands back the very context that it was set on.
-/

namespace RemoteCall

/-! ## The shortest duration -/

def IsShortest (ds : List Duration) : Option Duration → Prop
  | none => ds = []
  | some m => m ∈ ds ∧ ∀ d ∈ ds, m ≤ d

section
variable {ds es : List Duration} {o p : Option Duration} {d e : Duration}

theorem isShortest_self (o : Option Duration) : IsShortest (o.toList ++ []) o := by
  cases o with
  | none => rfl
  | some d => exact ⟨List.mem_cons_self, fun e he => by cases List.mem_singleton.mp he; exact Int.le_refl _⟩

theorem IsShortest.append (h : IsShortest ds o) (hp : IsShortest (o.toList ++ es) p) : IsShortest (ds ++ es) p := by
  cases o with
  | none =>
    cases h
    exact hp
  | some d =>
    obtain ⟨hd, hle⟩ := h
    cases p with
    | none => cases hp
    | some m =>
      obtain ⟨hm, hmle⟩ := hp
      refine ⟨?_, fun e he => ?_⟩
      · rcases List.mem_cons.mp hm with rfl | hm
        · exact List.mem_append_left _ hd
        · exact List.mem_append_right _ hm
      · rcases List.mem_append.mp he with he | he
        · exact Int.le_trans (hmle d List.mem_cons_self) (hle e he)
        · exact hmle e (List.mem_cons_of_mem _ he)

theorem IsShortest.exists_le (h : IsShortest ds o) (hd : d ∈ ds) : ∃ m, o = some m ∧ m ≤ d := by
  cases o with
  | none =>
    cases h
    cases hd
  | some m => exact ⟨m, rfl, h.2 d hd⟩

end

namespace Context.Setter

/-! ## One setter -/

def Disables : Setter → Prop
  | timeout d => ∀ t ∈ d, t ≤ Duration.zero
  | _ => False

def given? : Setter → Option Duration
  | timeout d => d.filter (Duration.zero < ·)
  | _ => none

def given (calls : List Setter) : List Duration := calls.filterMap given?

section
variable {c : Context} {s : Setter} {t : Duration} {calls : List Setter}

theorem eq_timeout_of_field (h : s.field = .timeout) : ∃ timeout, s = .timeout timeout := by
  cases s with
  | timeout timeout => exact ⟨timeout, rfl⟩
  | _ => cases h

theorem given_cons (s : Setter) (calls : List Setter) : given (s :: calls) = s.given?.toList ++ given calls := by
  unfold given
  cases h : s.given? with
  | none => rw [List.filterMap_cons_none h]; rfl
  | some t => rw [List.filterMap_cons_some h]; rfl

theorem normalizeTimeout_eq_none {timeout : Option Duration} (h : ∀ t ∈ timeout, t ≤ Duration.zero) :
    normalizeTimeout timeout = none := by
  cases timeout with
  | none => rfl
  | some t =>
    have ht : ¬ Duration.zero < t := Int.not_lt.mpr (h t rfl)
    simp [normalizeTimeout, Option.filter, ht]

theorem keepsTimeout_iff (c : Context) (ht : Duration.zero < t) :
    c.keepsTimeout (some t) = true ↔ ∃ u, c.timeout = some u ∧ u ≤ t := by
  have hn : normalizeTimeout (some t) = some t := normalizeTimeout_eq_self (by rintro _ ⟨⟩; exact ht)
  unfold keepsTimeout
  rw [hn]
  cases c.timeout <;> simp

theorem timeout_attempt_disables (c : Context) (h : s.Disables) : (attempt c s).timeout = none := by
  cases s with
  | timeout timeout =>
    have hn := normalizeTimeout_eq_none h
    have hk : c.keepsTimeout timeout = false := by simp [keepsTimeout, hn]
    show (c.withTimeout timeout).timeout = none
    rw [timeout_withTimeout, hk, hn]
    rfl
  | _ => exact h.elim

theorem timeout_attempt_positive (c : Context) (ht : Duration.zero < t) :
    IsShortest (c.timeout.toList ++ [t]) (attempt c (.timeout (some t))).timeout := by
  have hn : normalizeTimeout (some t) = some t := normalizeTimeout_eq_self (by rintro _ ⟨⟩; exact ht)
  show IsShortest _ (c.withTimeout (some t)).timeout
  rw [timeout_withTimeout, hn]
  by_cases hk : c.keepsTimeout (some t) = true
  · obtain ⟨u, hu, hle⟩ := (keepsTimeout_iff c ht).mp hk
    rw [if_pos hk, hu]
    refine ⟨List.mem_cons_self, ?_⟩
    simpa using ⟨Int.le_refl _, hle⟩
  · rw [if_neg hk]
    refine ⟨by simp, fun d hd => ?_⟩
    rcases List.mem_append.mp hd with hd | hd
    · have hu : c.timeout = some d := Option.mem_toList.mp hd
      have hlt : ¬ d ≤ t := fun hle => hk ((keepsTimeout_iff c ht).mpr ⟨d, hu, hle⟩)
      exact Int.le_of_lt (Int.not_le.mp hlt)
    · cases List.mem_singleton.mp hd
      exact Int.le_refl _

/-- A setter that does not disable the timeout leaves the shorter one of the timeout and what it gives. -/
theorem timeout_attempt (c : Context) (h : ¬ s.Disables) :
    IsShortest (c.timeout.toList ++ s.given?.toList) (attempt c s).timeout := by
  by_cases hf : s.field = .timeout
  · obtain ⟨timeout, rfl⟩ := eq_timeout_of_field hf
    simp only [Disables, not_forall] at h
    obtain ⟨t, rfl, ht⟩ := h
    have ht : Duration.zero < t := Int.not_le.mp ht
    have hg : given? (.timeout (some t)) = some t := by simp [given?, Option.filter, ht]
    rw [hg]
    exact timeout_attempt_positive c ht
  · have hg : s.given? = none := by
      cases s with
      | timeout => exact absurd rfl hf
      | _ => rfl
    have hc : (attempt c s).timeout = c.timeout := get_attempt_ne hf
    rw [hc, hg]
    exact isShortest_self c.timeout

/-! ## Rows of setters -/

theorem timeout_run (c : Context) (h : ∀ s ∈ calls, ¬ s.Disables) :
    IsShortest (c.timeout.toList ++ given calls) (run c calls).timeout := by
  induction calls generalizing c with
  | nil => exact isShortest_self c.timeout
  | cons s calls ih =>
    obtain ⟨hs, h⟩ := List.forall_mem_cons.mp h
    -- what the first setter leaves is the shortest so far, and the others go on from there
    rw [given_cons, ← List.append_assoc]
    exact (timeout_attempt c hs).append (ih (attempt c s) h)

theorem run_append (c : Context) (before after : List Setter) : run c (before ++ after) = run (run c before) after :=
  List.foldl_append

theorem timeout_run_disabled {before after : List Setter} (c : Context) (hs : s.Disables)
    (h : ∀ r ∈ after, ¬ r.Disables) : IsShortest (given after) (run c (before ++ s :: after)).timeout := by
  have hd : (attempt (run c before) s).timeout = none := timeout_attempt_disables _ hs
  have hr : run c (before ++ s :: after) = run (attempt (run c before) s) after := run_append c before (s :: after)
  have ha := timeout_run (attempt (run c before) s) h
  rw [hd] at ha
  rwa [hr]

theorem exists_last {α : Type} {p : α → Prop} {l : List α} (h : ∃ a ∈ l, p a) :
    ∃ before a after, l = before ++ a :: after ∧ p a ∧ ∀ b ∈ after, ¬ p b := by
  induction l with
  | nil =>
    obtain ⟨a, ha, -⟩ := h
    cases ha
  | cons b l ih =>
    by_cases hl : ∃ a ∈ l, p a
    · obtain ⟨before, a, after, rfl, ha, hn⟩ := ih hl
      exact ⟨b :: before, a, after, rfl, ha, hn⟩
    · obtain ⟨a, ha, hp⟩ := h
      have hn : ∀ a ∈ l, ¬ p a := fun a ha hp => hl ⟨a, ha, hp⟩
      rcases List.mem_cons.mp ha with rfl | ha
      · exact ⟨[], a, l, rfl, hp, hn⟩
      · exact absurd hp (hn a ha)

end

end Context.Setter

/-! ## The very same context -/

namespace Registry

def Numbered (r : Registry) : Prop := ∀ e ∈ r.held, e.2.identity < r.fresh

section
variable {r : Registry} {h : Held} {t : Duration}

theorem Numbered.find (hr : r.Numbered) {name : String} (hf : r.find name = .ok h) : h.identity < r.fresh :=
  hr _ (mem_held_of_find hf)

theorem identity_set {fresh : Nat} {h k : Held} {s : Context.Setter} (hs : h.set fresh s = .ok k) :
    k.identity = h.identity ∨ k.identity = fresh := by
  obtain ⟨c, -, hk⟩ := bind_eq_ok.mp hs
  split at hk
  · cases hk
    dsimp only
    split_ifs
    · exact .inl rfl
    · exact .inr rfl
  all_goals cases hk; exact .inr rfl

theorem identity_run {command : Command} {o : Outcome} (hr : r.Numbered) (ho : r.run command = .ok o) :
    o.held.identity < r.fresh + 2 := by
  cases command with
  | make maker =>
    obtain ⟨c, -, ho⟩ := bind_eq_ok.mp ho
    cases ho
    exact Nat.lt_add_of_pos_right Nat.two_pos
  | set on setter =>
    simp only [run, bind_eq_ok, pure_eq_ok, Except.ok.injEq] at ho
    obtain ⟨h, hf, k, hk, rfl⟩ := ho
    have hi := hr.find hf
    rcases identity_set hk with e | e <;> simp only [e] <;> omega
  | merge on other =>
    simp only [run, bind_eq_ok] at ho
    obtain ⟨h, hf, ho⟩ := ho
    have hi := hr.find hf
    cases other with
    | unset => cases ho; exact Nat.lt_add_right 2 hi
    | other found => cases ho
    | register name =>
      simp only [bind_eq_ok, pure_eq_ok, Except.ok.injEq] at ho
      obtain ⟨k, -, m, hm, rfl⟩ := ho
      obtain ⟨c, -, hm⟩ := bind_eq_ok.mp hm
      cases hm
      exact Nat.lt_add_of_pos_right Nat.two_pos
  | nullToSelf on other =>
    simp only [run, bind_eq_ok] at ho
    obtain ⟨h, hf, ho⟩ := ho
    have hi := hr.find hf
    cases other with
    | unset => cases ho; exact Nat.lt_add_right 2 hi
    | other found => cases ho
    | register name =>
      simp only [bind_eq_ok, pure_eq_ok, Except.ok.injEq] at ho
      obtain ⟨k, hk, d, -, rfl⟩ := ho
      exact Nat.lt_add_right 2 (hr.find hk)

theorem fresh_le_step (r : Registry) (register : Option String) (command : Command) :
    r.fresh ≤ (r.step register command).fresh := by
  cases ho : r.run command with
  | error f => exact Nat.le_of_eq (congrArg fresh (step_of_error ho register).symm)
  | ok o =>
    rw [step_of_ok ho]
    exact Nat.le_add_right _ 2

theorem step_numbered {register : Option String} {command : Command} (hr : r.Numbered) :
    (r.step register command).Numbered := by
  intro e he
  rcases mem_held_step he with he | ⟨o, ho, hk⟩
  · exact Nat.lt_of_lt_of_le (hr e he) (fresh_le_step r register command)
  · rw [step_of_ok ho, hk]
    exact identity_run hr ho

theorem after_numbered (steps : List (Option String × Command)) : (after steps).Numbered :=
  List.foldlRecOn steps _ (fun _ he => nomatch he) fun _ hr _ _ => step_numbered hr

theorem run_set_timeout {name : String} (hr : r.Numbered) (hf : r.find name = .ok h) (ht : Duration.zero < t) :
    ∃ o, r.run (.set name (.timeout (some t))) = .ok o ∧
      (o.held.identity = h.identity ↔ ∃ u, h.context.timeout = some u ∧ u ≤ t) ∧
      (o.held.identity = h.identity → o.held = h) := by
  have hi := hr.find hf
  have ho : r.run (.set name (.timeout (some t))) = .ok ⟨⟨h.context.withTimeout (some t),
      if h.context.keepsTimeout (some t) then h.identity else r.fresh, h.headers⟩, []⟩ := by
    simp only [run, hf, ok_bind, Held.set, Context.Setter.apply, pure_eq_ok]
  refine ⟨_, ho, ?_⟩
  by_cases hk : h.context.keepsTimeout (some t) = true
  · have hc : h.context.withTimeout (some t) = h.context := if_pos hk
    simp only [if_pos hk, hc]
    exact ⟨iff_of_true trivial ((Context.Setter.keepsTimeout_iff _ ht).mp hk), fun _ => trivial⟩
  · -- the number of a context made anew is above that of every context that is held
    have hne : r.fresh ≠ h.identity := Nat.ne_of_gt hi
    simp only [if_neg hk]
    exact ⟨iff_of_false hne fun hu => hk ((Context.Setter.keepsTimeout_iff _ ht).mpr hu), fun e => absurd e hne⟩

end

end Registry

/-! ## Whole rows -/

namespace Context.Setter

/-- After a row of setters the timeout is the shortest one given since it was last disabled, or the shortest one of all and
the one before if it never was. So it does not grow until it is disabled. In any registry, setting a positive timeout hands
back the very context exactly when one is set that is not longer. -/
theorem timeout_of_run (c : Context) (calls : List Setter) :
    ((∃ s ∈ calls, s.Disables) → ∃ before s after, calls = before ++ s :: after ∧ s.Disables ∧
      (∀ r ∈ after, ¬ r.Disables) ∧ IsShortest (given after) (run c calls).timeout) ∧
    ((∀ s ∈ calls, ¬ s.Disables) → IsShortest (c.timeout.toList ++ given calls) (run c calls).timeout) ∧
    (∀ before after t, calls = before ++ after → (∀ s ∈ after, ¬ s.Disables) → (run c before).timeout = some t →
      ∃ u, (run c calls).timeout = some u ∧ u ≤ t) ∧
    ∀ (steps : List (Option String × Command)) (name : String) (h : Held) (t : Duration),
      (Registry.after steps).find name = .ok h → Duration.zero < t →
      ∃ o, (Registry.after steps).run (.set name (.timeout (some t))) = .ok o ∧
        (o.held.identity = h.identity ↔ ∃ u, h.context.timeout = some u ∧ u ≤ t) ∧
        (o.held.identity = h.identity → o.held = h) := by
  refine ⟨fun hd => ?_, timeout_run c, ?_, ?_⟩
  · obtain ⟨before, s, after, rfl, hs, ha⟩ := exists_last hd
    exact ⟨before, s, after, rfl, hs, ha, timeout_run_disabled c hs ha⟩
  · rintro before after t rfl ha ht
    have hr := timeout_run (run c before) ha
    rw [← run_append] at hr
    exact hr.exists_le (by simp [ht])
  · intro steps name h t hf ht
    exact Registry.run_set_timeout (Registry.after_numbered steps) hf ht

example :
    run { create .streaming with timeout := some ⟨2, by decide⟩ }
      [timeout (some ⟨5, by decide⟩), timeout (some ⟨-1, by decide⟩), headers (some [("a", .string "x")]),
        timeout (some ⟨9, by decide⟩), streamWait (some ⟨-1, by decide⟩), timeout (some ⟨7, by decide⟩),
        timeout (some ⟨8, by decide⟩)] = { create .streaming with timeout := some ⟨7, by decide⟩ } := by
  rfl

end Context.Setter

end RemoteCall
