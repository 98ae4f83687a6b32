import RemoteCall.Proofs.Failure.Runs

/-!
# Cancellations among failures

A wait takes what is raised for a cancellation by its class. A future that was cancelled raises one, but so does a
computation that failed with a cancellation of its own, for instance because it waited on something that was cancelled.
Every other failure comes in an envelope, and a translated wait marks it if it is ordinary. Which of this happens is
settled once the future has its outcome: no call changes the class of a failure.
-/

namespace RemoteCall

namespace Future

/-! ## Outcomes -/

/-- The future has its outcome. A computation may have failed with any failure that is there. -/
def Finished (s : FailureStore) (f : Future) : Prop :=
  f.waitFailure = none ∧
  match f.state with
  | .result _ | .cancelled => True
  | .failed id => id < s.size
  | .pending => False

def FailedCancelled (s : FailureStore) (f : Future) : Prop :=
  ∃ id e, f.state = .failed id ∧ s.get? id = some e ∧ e.cls = .cancelled

def RaisesCancellation (r : FailureStore × Waited) : Prop :=
  ∃ n e, r.2 = .raised n ∧ r.1.get? n = some e ∧ e.cls = .cancelled

def RaisesEnvelope (r : FailureStore × Waited) (id : FailureId) : Prop :=
  ∃ n e, r.2 = .raised n ∧ r.1.get? n = some e ∧ e.cls = .envelope ∧ e.wrapped = some id ∧ e.cause = some id

def Marked (s s' : FailureStore) (id : FailureId) : Prop :=
  ∃ e m, s.get? id = some e ∧ s.get? m = none ∧ s'.get? m = some .marker ∧
    s'.get? id = some (e.extended [m] [waitedNote])

section
variable {s s' : FailureStore} {f : Future} {id : FailureId} {e : Failure}

theorem Finished.eq_failed (h : f.Finished s) (hf : f.state = .failed id) : f = ⟨.failed id, none⟩ := by
  obtain ⟨state, w⟩ := f
  obtain ⟨rfl, -⟩ := h
  cases hf
  rfl

theorem failedCancelled_iff (hf : f.state = .failed id) (he : s.get? id = some e) :
    f.FailedCancelled s ↔ e.cls = .cancelled := by
  constructor
  · rintro ⟨id', e', hf', he', hc⟩
    cases hf.symm.trans hf'
    cases he.symm.trans he'
    exact hc
  · exact fun hc => ⟨id, e, hf, he, hc⟩

/-- A failure that keeps its lists has got no mark. -/
theorem not_marked (he : s.get? id = some e) (he' : s'.get? id = some e) : ¬ Marked s s' id := by
  rintro ⟨d, m, hd, -, -, hm⟩
  cases he.symm.trans hd
  have hl := congrArg (·.suppressed.length) (Option.some.inj (he'.symm.trans hm))
  simp [Failure.extended] at hl

/-! ## One wait -/

theorem getUnchecked_of_cancelled (he : s.get? id = some e) (hc : e.cls = .cancelled) :
    getUnchecked s ⟨.failed id, none⟩ = (s, .raised id) := by
  simp only [getUnchecked, he, wrapRaised, if_pos hc]

theorem translate_of_cancelled (he : s.get? id = some e) (hc : e.cls = .cancelled) :
    translate s ⟨.failed id, none⟩ = (s, .raised id, []) := by
  simp [translate, getUnchecked_of_cancelled he hc, he, hc]

theorem raisesCancellation_iff (h : f.Finished s) :
    RaisesCancellation (f.getUnchecked s) ↔ f.state = .cancelled ∨ f.FailedCancelled s := by
  obtain ⟨state, w⟩ := f
  obtain ⟨rfl, h⟩ := h
  cases state with
  | result v => simp [RaisesCancellation, FailedCancelled, getUnchecked]
  | pending => exact h.elim
  | cancelled =>
    refine iff_of_true ⟨s.size, Failure.cancellation, rfl, ?_, rfl⟩ (.inl rfl)
    exact FailureStore.get?_add_size
  | failed id =>
    obtain ⟨e, he⟩ := FailureStore.exists_get? h
    rw [failedCancelled_iff rfl he, or_iff_right (by simp)]
    by_cases hc : e.cls = .cancelled
    · rw [getUnchecked_of_cancelled he hc]
      exact iff_of_true ⟨id, e, rfl, he, hc⟩ hc
    · rw [getUnchecked_failed he hc]
      refine iff_of_false ?_ hc
      rintro ⟨n, d, hn, hd, hcls⟩
      cases hn
      cases FailureStore.get?_add_size.symm.trans hd
      cases hcls

theorem raisesEnvelope_iff (he : s.get? id = some e) :
    RaisesEnvelope (getUnchecked s ⟨.failed id, none⟩) id ↔ e.cls ≠ .cancelled := by
  by_cases hc : e.cls = .cancelled
  · rw [getUnchecked_of_cancelled he hc]
    refine iff_of_false ?_ fun h => h hc
    rintro ⟨n, d, hn, hd, hcls, -⟩
    cases hn
    cases he.symm.trans hd
    rw [hc] at hcls
    cases hcls
  · rw [getUnchecked_failed he hc]
    exact iff_of_true ⟨s.size, wrapped id e, rfl, FailureStore.get?_add_size, rfl, rfl, rfl⟩ hc

theorem marked_iff (he : s.get? id = some e) :
    Marked s (translate s ⟨.failed id, none⟩).1 id ↔ e.cls.isOrdinary = true ∧ e.cls ≠ .cancelled := by
  by_cases hc : e.cls = .cancelled
  · rw [translate_of_cancelled he hc]
    exact iff_of_false (not_marked he he) fun h => h.2 hc
  · cases ho : e.cls.isOrdinary with
    | false =>
      rw [translate_other he hc ho]
      exact iff_of_false (not_marked he (FailureStore.get?_add he)) fun h => nomatch h.1
    | true =>
      rw [translate_ordinary he hc ho]
      -- the envelope has the first new place and the marker the second one
      have hi : (s.add (wrapped id e)).get? id = some e := FailureStore.get?_add he
      refine iff_of_true ⟨e, s.size + 1, he, ?_, ?_, ?_⟩ ⟨rfl, hc⟩
      · exact FailureStore.get?_eq_none.mpr (Nat.le_succ _)
      · rw [← FailureStore.size_add (e := wrapped id e)]
        exact get?_mark_size hi
      · rw [← FailureStore.size_add (e := wrapped id e)]
        exact get?_mark_self hi

end

end Future

namespace FailureCall

/-! ## Runs -/

def Possible (s : FailureStore) : FailureCall → Prop
  | getUnchecked f | translate f => f.Finished s
  | addSuppressed id x => id < s.size ∧ x < s.size

section
variable {s : FailureStore} {c : FailureCall} {calls : List FailureCall} {k : FailureId} {e : Failure}

theorem resolved_or_failedCancelled {f : Future} (h : f.Finished s) : f.Resolved s ∨ f.FailedCancelled s := by
  obtain ⟨state, w⟩ := f
  obtain ⟨rfl, h⟩ := h
  cases state with
  | result | cancelled => exact .inl ⟨rfl, trivial⟩
  | pending => exact h.elim
  | failed id =>
    obtain ⟨e, he⟩ := FailureStore.exists_get? h
    by_cases hc : e.cls = .cancelled
    · exact .inr ⟨id, e, rfl, he, hc⟩
    · exact .inl ⟨rfl, e, he, hc⟩

/-- A call that is not ready waits on a computation that failed with a cancellation, which changes nothing. -/
theorem ready_or_unchanged (h : c.Possible s) : c.Ready s ∨ (c.perform s).1 = s := by
  cases c with
  | addSuppressed id x => exact .inl h
  | getUnchecked f =>
    refine (resolved_or_failedCancelled h).imp_right ?_
    rintro ⟨id, e, hf, he, hc⟩
    rw [h.eq_failed hf]
    exact congrArg Prod.fst (Future.getUnchecked_of_cancelled he hc)
  | translate f =>
    refine (resolved_or_failedCancelled h).imp_right ?_
    rintro ⟨id, e, hf, he, hc⟩
    rw [h.eq_failed hf]
    exact congrArg Prod.fst (Future.translate_of_cancelled he hc)

theorem cls_perform (h : c.Possible s) (he : s.get? k = some e) :
    ∃ d, (c.perform s).1.get? k = some d ∧ d.cls = e.cls := by
  rcases ready_or_unchanged h with hr | hs
  · exact ⟨_, get?_perform hr he, rfl⟩
  · exact ⟨e, hs.symm ▸ he, rfl⟩

theorem size_le_perform (h : c.Possible s) : s.size ≤ (c.perform s).1.size := by
  refine Nat.le_of_not_lt fun hlt => ?_
  obtain ⟨e, he⟩ := FailureStore.exists_get? hlt
  obtain ⟨d, hd, -⟩ := cls_perform h he
  exact Nat.lt_irrefl _ (FailureStore.lt_size_of_get? hd)

theorem finished_of_size_le {s' : FailureStore} {f : Future} (hs : s.size ≤ s'.size) (h : f.Finished s) :
    f.Finished s' := by
  obtain ⟨state, w⟩ := f
  obtain ⟨hw, h⟩ := h
  refine ⟨hw, ?_⟩
  cases state with
  | failed id => exact Nat.lt_of_lt_of_le h hs
  | result | cancelled | pending => exact h

theorem possible_of_size_le {s' : FailureStore} (hs : s.size ≤ s'.size) (h : c.Possible s) : c.Possible s' := by
  cases c with
  | getUnchecked f => exact finished_of_size_le hs h
  | translate f => exact finished_of_size_le hs h
  | addSuppressed id x => exact ⟨Nat.lt_of_lt_of_le h.1 hs, Nat.lt_of_lt_of_le h.2 hs⟩

theorem size_le_after (h : ∀ c ∈ calls, c.Possible s) : s.size ≤ (after s calls).size := by
  induction calls generalizing s with
  | nil => exact Nat.le_refl _
  | cons c calls ih =>
    obtain ⟨hc, h⟩ := List.forall_mem_cons.mp h
    have hle := size_le_perform hc
    exact Nat.le_trans hle (ih fun d hd => possible_of_size_le hle (h d hd))

theorem cls_after (h : ∀ c ∈ calls, c.Possible s) (he : s.get? k = some e) :
    ∃ d, (after s calls).get? k = some d ∧ d.cls = e.cls := by
  induction calls generalizing s e with
  | nil => exact ⟨e, he, rfl⟩
  | cons c calls ih =>
    obtain ⟨hc, h⟩ := List.forall_mem_cons.mp h
    obtain ⟨d, hd, hcls⟩ := cls_perform hc he
    have hle := size_le_perform hc
    obtain ⟨d', hd', hcls'⟩ := ih (fun b hb => possible_of_size_le hle (h b hb)) hd
    exact ⟨d', hd', hcls'.trans hcls⟩

/-- The class that a failure has at the start settles it for the whole run. -/
theorem failedCancelled_after {f : Future} (h : ∀ c ∈ calls, c.Possible s) (hf : f.Finished s) :
    f.FailedCancelled (after s calls) ↔ f.FailedCancelled s := by
  obtain ⟨state, w⟩ := f
  obtain ⟨rfl, hf⟩ := hf
  cases state with
  | result | cancelled => simp [Future.FailedCancelled]
  | pending => exact hf.elim
  | failed id =>
    obtain ⟨e, he⟩ := FailureStore.exists_get? hf
    obtain ⟨d, hd, hcls⟩ := cls_after h he
    rw [Future.failedCancelled_iff rfl hd, Future.failedCancelled_iff rfl he, hcls]

/-- After any run a wait raises a bare cancellation exactly when its future was cancelled or its computation failed with a
cancellation. Any other failure of a computation comes in an envelope, of which it is the cause, and a translated wait marks
it exactly when it is ordinary and no cancellation; a cancellation that a computation failed with is raised as it is. -/
theorem waits_told_by_class {f : Future} (h : ∀ c ∈ calls, c.Possible s) (hf : f.Finished s) :
    (Future.RaisesCancellation (f.getUnchecked (after s calls)) ↔ f.state = .cancelled ∨ f.FailedCancelled s) ∧
    ∀ id e, f.state = .failed id → s.get? id = some e →
      (Future.RaisesEnvelope (f.getUnchecked (after s calls)) id ↔ e.cls ≠ .cancelled) ∧
      (Future.Marked (after s calls) (f.translate (after s calls)).1 id ↔
        e.cls.isOrdinary = true ∧ e.cls ≠ .cancelled) ∧
      (e.cls = .cancelled → f.getUnchecked (after s calls) = (after s calls, .raised id) ∧
        f.translate (after s calls) = (after s calls, .raised id, [])) := by
  constructor
  · rw [Future.raisesCancellation_iff (finished_of_size_le (size_le_after h) hf), failedCancelled_after h hf]
  · intro id e hstate he
    obtain ⟨d, hd, hcls⟩ := cls_after h he
    rw [hf.eq_failed hstate, ← hcls]
    refine ⟨Future.raisesEnvelope_iff hd, Future.marked_iff hd, fun hc => ⟨?_, ?_⟩⟩
    · exact Future.getUnchecked_of_cancelled hd hc
    · exact Future.translate_of_cancelled hd hc

end

/-- One computation failed with a cancellation, another one with an ordinary failure around it. After waits on both, the
first one still raises its failure bare and unmarked, as if its future had been cancelled. -/
theorem waits_told_by_class_cancelled :
    let own := Failure.plain .cancelled "boom"
    let s : FailureStore := ⟨[own, Failure.envelope 0 own]⟩
    let f : Future := ⟨.failed 0, none⟩
    let g : Future := ⟨.failed 1, none⟩
    let calls := [translate f, translate g, getUnchecked ⟨.cancelled, none⟩]
    (∀ c ∈ calls, c.Possible s) ∧ f.Finished s ∧ g.Finished s ∧ f.state ≠ .cancelled ∧
      Future.RaisesCancellation (f.getUnchecked (after s calls)) ∧
      ¬ Future.RaisesEnvelope (f.getUnchecked (after s calls)) 0 ∧
      ¬ Future.Marked (after s calls) (f.translate (after s calls)).1 0 ∧
      Future.RaisesEnvelope (g.getUnchecked (after s calls)) 1 ∧
      Future.Marked (after s calls) (g.translate (after s calls)).1 1 := by
  intro own s f g calls
  have h : ∀ c ∈ calls, c.Possible s := by
    simp only [calls, List.forall_mem_cons]
    exact ⟨⟨rfl, Nat.two_pos⟩, ⟨rfl, Nat.one_lt_two⟩, ⟨rfl, trivial⟩, fun _ hc => nomatch hc⟩
  have hf : f.Finished s := ⟨rfl, Nat.two_pos⟩
  have hg : g.Finished s := ⟨rfl, Nat.one_lt_two⟩
  obtain ⟨hcancelled, hfailed⟩ := waits_told_by_class h hf
  obtain ⟨henvelope, hmark, -⟩ := hfailed 0 own rfl rfl
  obtain ⟨-, hother⟩ := waits_told_by_class h hg
  obtain ⟨genvelope, gmark, -⟩ := hother 1 _ rfl rfl
  refine ⟨h, hf, hg, by simp [f], hcancelled.mpr (.inr ⟨0, own, rfl, rfl, rfl⟩), ?_, ?_, ?_, ?_⟩
  · exact fun hr => henvelope.mp hr rfl
  · exact fun hm => (hmark.mp hm).2 rfl
  · exact genvelope.mpr (by decide)
  · exact gmark.mpr (by decide)

end FailureCall

end RemoteCall
