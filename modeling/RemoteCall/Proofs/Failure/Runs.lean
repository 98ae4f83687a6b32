import RemoteCall.Proofs.Failure.Waiting

/-!
# Runs of calls over shared failures

Calls that wait on futures or attach failures follow one another over one store. The futures may share failures, and the
failures may be linked in any way. Each call does what it says to the store it finds, and over a whole run a failure that
is there keeps everything but its secondary failures and its notes, which only grow at their ends.
-/

namespace RemoteCall

/-! ## Calls -/

inductive FailureCall where
  | getUnchecked (f : Future)
  | translate (f : Future)
  | addSuppressed (id suppressed : FailureId)

inductive FailureAnswer where
  | waited (w : Waited)
  | attached
  | refused (f : Fault)

def Future.Resolved (s : FailureStore) (f : Future) : Prop :=
  f.waitFailure = none ∧
  match f.state with
  | .result _ | .cancelled => True
  | .failed id => ∃ e, s.get? id = some e ∧ e.cls ≠ .cancelled
  | .pending => False

/-- The failure that a translated wait marks. -/
def Future.marked? (s : FailureStore) (f : Future) : Option FailureId :=
  match f.state with
  | .failed id => if (s.get? id).any (·.cls.isOrdinary) then some id else none
  | _ => none

namespace FailureCall

def perform (s : FailureStore) : FailureCall → FailureStore × FailureAnswer
  | getUnchecked f => ((f.getUnchecked s).1, .waited (f.getUnchecked s).2)
  | translate f => ((f.translate s).1, .waited (f.translate s).2.1)
  | addSuppressed id x =>
    match s.addSuppressed id x with
    | .ok s' => (s', .attached)
    | .error f => (s, .refused f)

def after (s : FailureStore) (calls : List FailureCall) : FailureStore :=
  calls.foldl (fun s c => (c.perform s).1) s

def Ready (s : FailureStore) : FailureCall → Prop
  | getUnchecked f | translate f => f.Resolved s
  | addSuppressed id x => id < s.size ∧ x < s.size

def ReadyRun : FailureStore → List FailureCall → Prop
  | _, [] => True
  | s, c :: calls => c.Ready s ∧ ReadyRun (c.perform s).1 calls

/-! ## What a call does -/

def RaisesNew (s s' : FailureStore) (a : FailureAnswer) (e : Failure) : Prop :=
  ∃ n, s.get? n = none ∧ s'.get? n = some e ∧ a = .waited (.raised n) ∧ s.Keeps s'

/-- What a call does to the store it finds and what it answers. A translated wait on a failed computation raises an
ordinary failure itself, with one new marker and one note at the ends of its lists; the other waits change no failure. -/
def Law (s s' : FailureStore) (a : FailureAnswer) : FailureCall → Prop
  | getUnchecked f =>
    match f.state with
    | .result v => a = .waited (.value v) ∧ s' = s
    | .cancelled => RaisesNew s s' a Failure.cancellation
    | .failed id => ∃ e, s.get? id = some e ∧ RaisesNew s s' a (Future.wrapped id e)
    | .pending => False
  | translate f =>
    match f.state with
    | .result v => a = .waited (.value v) ∧ s' = s
    | .cancelled => RaisesNew s s' a Failure.cancellation
    | .failed id => ∃ e, s.get? id = some e ∧
      if e.cls.isOrdinary then
        a = .waited (.raised id) ∧ s.KeepsBut s' id ∧ ∃ m, s.get? m = none ∧ s'.get? m = some .marker ∧
          s'.get? id = some (e.extended [m] [Future.waitedNote])
      else RaisesNew s s' a (Future.wrapped id e)
    | .pending => False
  | addSuppressed id x =>
    if id = x then a = .refused .selfSuppression ∧ s' = s
    else a = .attached ∧ s.KeepsBut s' id ∧ ∃ e, s.get? id = some e ∧ s'.get? id = some (e.extended [x] [])

section
variable {s : FailureStore} {c : FailureCall}

theorem raisesNew_add (s : FailureStore) (e : Failure) : RaisesNew s (s.add e) (.waited (.raised s.size)) e :=
  ⟨s.size, FailureStore.get?_eq_none.mpr (Nat.le_refl _), FailureStore.get?_add_size, rfl, FailureStore.keeps_add⟩

theorem law_getUnchecked {f : Future} (h : f.Resolved s) :
    Law s (f.getUnchecked s).1 (.waited (f.getUnchecked s).2) (getUnchecked f) := by
  obtain ⟨state, w⟩ := f
  obtain ⟨rfl, h⟩ := h
  cases state with
  | result v => exact ⟨rfl, rfl⟩
  | cancelled => exact raisesNew_add s _
  | failed id =>
    obtain ⟨e, he, hc⟩ := h
    rw [Future.getUnchecked_failed he hc]
    exact ⟨e, he, raisesNew_add s _⟩
  | pending => exact h

theorem law_translate {f : Future} (h : f.Resolved s) :
    Law s (f.translate s).1 (.waited (f.translate s).2.1) (translate f) := by
  obtain ⟨state, w⟩ := f
  obtain ⟨rfl, h⟩ := h
  cases state with
  | result v => exact ⟨rfl, rfl⟩
  | cancelled =>
    rw [Future.translate_cancelled]
    exact raisesNew_add s _
  | failed id =>
    obtain ⟨e, he, hc⟩ := h
    refine ⟨e, he, ?_⟩
    split
    · rename_i ho
      -- the envelope takes the next place, the marker the one after it
      have hi : (s.add (Future.wrapped id e)).get? id = some e := FailureStore.get?_add he
      have hm : s.get? (s.size + 1) = none := FailureStore.get?_eq_none.mpr (Nat.le_succ _)
      rw [Future.translate_ordinary he hc ho]
      refine ⟨rfl, ?_, s.size + 1, hm, ?_, ?_⟩
      · intro k d hk hd
        exact Future.keepsBut_mark k d hk (FailureStore.get?_add hd)
      · simpa using Future.get?_mark_size hi
      · simpa using Future.get?_mark_self hi
    · rename_i ho
      rw [Future.translate_other he hc (Bool.not_eq_true _ ▸ ho)]
      exact raisesNew_add s _
  | pending => exact h

theorem law_addSuppressed {id x : FailureId} (h : id < s.size) :
    Law s ((addSuppressed id x).perform s).1 ((addSuppressed id x).perform s).2 (addSuppressed id x) := by
  by_cases hx : id = x
  · simp [Law, perform, FailureStore.addSuppressed, hx]
  · obtain ⟨e, he⟩ := FailureStore.exists_get? h
    simp only [Law, perform, FailureStore.addSuppressed, if_neg hx, true_and]
    refine ⟨?_, e, he, FailureStore.get?_attach_self he⟩
    intro k d hk hd
    rwa [FailureStore.get?_attach_ne hk]

theorem law_perform (h : c.Ready s) : Law s (c.perform s).1 (c.perform s).2 c := by
  cases c with
  | getUnchecked f => exact law_getUnchecked h
  | translate f => exact law_translate h
  | addSuppressed id x => exact law_addSuppressed h.1

end

/-! ## What a run adds -/

/-- The secondary failures that a call attaches to a failure. The marker of a wait comes after the envelope that the wait
opens again. -/
def attaches (s : FailureStore) (k : FailureId) : FailureCall → List FailureId
  | getUnchecked _ => []
  | translate f => if f.marked? s = some k then [s.size + 1] else []
  | addSuppressed id x => if id = k ∧ id ≠ x then [x] else []

def notes (s : FailureStore) (k : FailureId) : FailureCall → List String
  | translate f => if f.marked? s = some k then [Future.waitedNote] else []
  | _ => []

def runAttaches (k : FailureId) : FailureStore → List FailureCall → List FailureId
  | _, [] => []
  | s, c :: calls => c.attaches s k ++ runAttaches k (c.perform s).1 calls

def runNotes (k : FailureId) : FailureStore → List FailureCall → List String
  | _, [] => []
  | s, c :: calls => c.notes s k ++ runNotes k (c.perform s).1 calls

section
variable {s : FailureStore} {c : FailureCall} {calls : List FailureCall} {k : FailureId} {e : Failure}

theorem marked?_failed {id : FailureId} {d : Failure} (h : s.get? id = some d) (w : Option FailureId) :
    Future.marked? s ⟨.failed id, w⟩ = if d.cls.isOrdinary then some id else none := by
  simp [Future.marked?, h]

theorem keeps_getUnchecked {f : Future} (h : f.Resolved s) : s.Keeps (f.getUnchecked s).1 := by
  obtain ⟨state, w⟩ := f
  obtain ⟨rfl, h⟩ := h
  cases state with
  | result v => exact fun _ _ h => h
  | cancelled => exact FailureStore.keeps_add
  | failed id =>
    obtain ⟨d, hd, hc⟩ := h
    rw [Future.getUnchecked_failed hd hc]
    exact FailureStore.keeps_add
  | pending => exact h.elim

theorem get?_translate {f : Future} (h : f.Resolved s) (he : s.get? k = some e) :
    (f.translate s).1.get? k = some (e.extended ((translate f).attaches s k) ((translate f).notes s k)) := by
  obtain ⟨state, w⟩ := f
  obtain ⟨rfl, h⟩ := h
  cases state with
  | result v => rw [Future.translate_result, he]; exact congrArg some e.extended_nil.symm
  | cancelled =>
    rw [Future.translate_cancelled, FailureStore.get?_add he]
    exact congrArg some e.extended_nil.symm
  | failed id =>
    obtain ⟨d, hd, hc⟩ := h
    simp only [attaches, notes, marked?_failed hd]
    cases ho : d.cls.isOrdinary with
    | false =>
      rw [Future.translate_other hd hc ho, FailureStore.get?_add he]
      exact congrArg some e.extended_nil.symm
    | true =>
      rw [Future.translate_ordinary hd hc ho]
      by_cases hk : id = k
      · subst hk
        rw [Future.get?_mark_self (FailureStore.get?_add he), FailureStore.size_add]
        simp
      · have hs : (s.add (Future.wrapped id d)).get? k = some e := FailureStore.get?_add he
        rw [Future.get?_mark_ne (Ne.symm hk), FailureStore.get?_add hs]
        simp [hk, Failure.extended_nil]
  | pending => exact h.elim

theorem get?_perform_addSuppressed {id x : FailureId} (he : s.get? k = some e) :
    ((addSuppressed id x).perform s).1.get? k = some (e.extended ((addSuppressed id x).attaches s k) []) := by
  by_cases hx : id = x
  · simp [perform, FailureStore.addSuppressed, attaches, hx, he, Failure.extended_nil]
  · by_cases hk : id = k
    · subst hk
      simp only [perform, FailureStore.addSuppressed, attaches, if_neg hx, FailureStore.get?_attach_self he]
      simp [hx]
    · simp only [perform, FailureStore.addSuppressed, attaches, if_neg hx, FailureStore.get?_attach_ne (Ne.symm hk), he]
      simp [hk, Failure.extended_nil]

theorem get?_perform (h : c.Ready s) (he : s.get? k = some e) :
    (c.perform s).1.get? k = some (e.extended (c.attaches s k) (c.notes s k)) := by
  cases c with
  | getUnchecked f =>
    show _ = some (e.extended [] [])
    rw [Failure.extended_nil]
    exact keeps_getUnchecked h k e he
  | translate f => exact get?_translate h he
  | addSuppressed id x => exact get?_perform_addSuppressed he

/-! ## Runs -/

theorem lt_size_perform (h : c.Ready s) (hk : k < s.size) : k < (c.perform s).1.size := by
  obtain ⟨e, he⟩ := FailureStore.exists_get? hk
  exact FailureStore.lt_size_of_get? (get?_perform h he)

theorem resolved_perform (h : c.Ready s) {f : Future} (hf : f.Resolved s) : f.Resolved (c.perform s).1 := by
  obtain ⟨state, w⟩ := f
  obtain ⟨hw, hf⟩ := hf
  refine ⟨hw, ?_⟩
  cases state with
  | failed id =>
    obtain ⟨e, he, hc⟩ := hf
    exact ⟨_, get?_perform h he, hc⟩
  | result | cancelled | pending => exact hf

/-- A call that is ready stays ready, so a run of calls about what is there at the start is a run of ready calls. -/
theorem readyRun_of_ready (h : ∀ c ∈ calls, c.Ready s) : ReadyRun s calls := by
  induction calls generalizing s with
  | nil => trivial
  | cons c calls ih =>
    obtain ⟨hc, h⟩ := List.forall_mem_cons.mp h
    refine ⟨hc, ih fun d hd => ?_⟩
    have hr := h d hd
    cases d with
    | getUnchecked f => exact resolved_perform hc hr
    | translate f => exact resolved_perform hc hr
    | addSuppressed id x => exact ⟨lt_size_perform hc hr.1, lt_size_perform hc hr.2⟩

theorem ReadyRun.right {pre post : List FailureCall} (h : ReadyRun s (pre ++ post)) : ReadyRun (after s pre) post := by
  induction pre generalizing s with
  | nil => exact h
  | cons c pre ih => exact ih h.2

theorem ReadyRun.left {pre post : List FailureCall} (h : ReadyRun s (pre ++ post)) : ReadyRun s pre := by
  induction pre generalizing s with
  | nil => trivial
  | cons c pre ih => exact ⟨h.1, ih h.2⟩

theorem get?_after (h : ReadyRun s calls) (he : s.get? k = some e) :
    (after s calls).get? k = some (e.extended (runAttaches k s calls) (runNotes k s calls)) := by
  -- after the first call the failure is there with what that call added, so the failure is generalized with the store
  induction calls generalizing s e with
  | nil => exact he.trans (congrArg some e.extended_nil.symm)
  | cons c calls ih =>
    have hc := get?_perform h.1 he
    have hrest := ih h.2 hc
    rw [Failure.extended_extended] at hrest
    exact hrest

/-- Every call of a run does what it says to the store that it finds, and a failure that is there at some point of the run
has later on still its class, message, cause, context and wrapped failure, and its two lists with what the calls between
added at their ends. -/
theorem run_lawful (h : ReadyRun s calls) :
    (∀ pre c post, calls = pre ++ c :: post →
      Law (after s pre) (c.perform (after s pre)).1 (c.perform (after s pre)).2 c) ∧
    ∀ pre mid post, calls = pre ++ mid ++ post → ∀ k e, (after s pre).get? k = some e →
      (after s (pre ++ mid)).get? k =
        some (e.extended (runAttaches k (after s pre) mid) (runNotes k (after s pre) mid)) := by
  constructor
  · rintro pre c post rfl
    exact law_perform h.right.1
  · rintro pre mid post rfl k e he
    have hmid : ReadyRun (after s pre) mid := h.left.right
    have ha : after s (pre ++ mid) = after (after s pre) mid := List.foldl_append
    rw [ha]
    exact get?_after hmid he

end

/-- Two futures share a failure, a third one failed with an envelope around it, and a fourth one with what ends the
program. -/
theorem run_lawful_shared :
    let shared := Failure.plain .api "unavailable"
    let s : FailureStore := ⟨[shared, { Failure.plain .keyboardInterrupt "" with cause := some 0 },
      Failure.envelope 0 shared, .marker]⟩
    let calls := [translate ⟨.failed 0, none⟩, translate ⟨.failed 0, none⟩, translate ⟨.failed 2, none⟩,
      translate ⟨.failed 1, none⟩, getUnchecked ⟨.failed 0, none⟩, addSuppressed 0 1, addSuppressed 0 0,
      translate ⟨.cancelled, none⟩, translate ⟨.result .null, none⟩]
    ReadyRun s calls ∧
      (after s calls).get? 0 = some (shared.extended [5, 7, 1] [Future.waitedNote, Future.waitedNote]) ∧
      Law (after s calls.dropLast) (after s calls) (.waited (.value .null)) (translate ⟨.result .null, none⟩) := by
  intro shared s calls
  have h : ReadyRun s calls := by
    apply readyRun_of_ready
    simp only [calls, List.forall_mem_cons]
    exact ⟨⟨rfl, _, rfl, by decide⟩, ⟨rfl, _, rfl, by decide⟩, ⟨rfl, _, rfl, by decide⟩, ⟨rfl, _, rfl, by decide⟩,
      ⟨rfl, _, rfl, by decide⟩, ⟨by decide, by decide⟩, ⟨by decide, by decide⟩, ⟨rfl, trivial⟩, ⟨rfl, trivial⟩,
      fun _ hc => nomatch hc⟩
  have ha : runAttaches 0 s calls = [5, 7, 1] := by decide +kernel
  have hn : runNotes 0 s calls = [Future.waitedNote, Future.waitedNote] := by decide +kernel
  obtain ⟨hlaw, hkept⟩ := run_lawful h
  refine ⟨h, ?_, hlaw calls.dropLast _ [] rfl⟩
  rw [← ha, ← hn]
  exact hkept [] calls [] rfl 0 shared rfl

end FailureCall

end RemoteCall
