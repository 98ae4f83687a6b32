import RemoteCall.Failure.Waiting

/-!
# One wait

What a single wait on a future does to the failures. A wait may make new failures, which get new places; of the failures
that are there it changes at most one, and of that one only the secondary failures and the notes, at their ends.
-/

namespace RemoteCall

/-! ## Looking failures up -/

namespace FailureStore

variable {s : FailureStore} {id k : FailureId} {d e : Failure}

theorem get?_eq_none : s.get? id = none ↔ s.size ≤ id := List.getElem?_eq_none_iff

theorem lt_size_of_get? (h : s.get? id = some e) : id < s.size := (List.getElem?_eq_some_iff.mp h).1

theorem exists_get? (h : id < s.size) : ∃ e, s.get? id = some e := ⟨_, List.getElem?_eq_getElem h⟩

@[simp] theorem size_add : (s.add e).size = s.size + 1 := List.length_append

theorem get?_add_size : (s.add e).get? s.size = some e := List.getElem?_concat_length

theorem get?_add (h : s.get? k = some d) : (s.add e).get? k = some d := by
  rw [← h]
  exact List.getElem?_append_left (lt_size_of_get? h)

theorem get?_modify_self {f : Failure → Failure} (h : s.get? id = some e) : (s.modify id f).get? id = some (f e) := by
  show (s.failures.modify id f)[id]? = _
  rw [List.getElem?_modify_eq]
  exact congrArg (Option.map f) h

theorem get?_modify_ne {f : Failure → Failure} (hk : k ≠ id) : (s.modify id f).get? k = s.get? k :=
  List.getElem?_modify_ne f s.failures (Ne.symm hk)

def Keeps (s s' : FailureStore) : Prop := ∀ k e, s.get? k = some e → s'.get? k = some e

def KeepsBut (s s' : FailureStore) (id : FailureId) : Prop := ∀ k e, k ≠ id → s.get? k = some e → s'.get? k = some e

theorem keeps_add : s.Keeps (s.add e) := fun _ _ h => get?_add h

end FailureStore

/-! ## Marks -/

def Failure.extended (e : Failure) (suppressed : List FailureId) (notes : List String) : Failure :=
  { e with suppressed := e.suppressed ++ suppressed, notes := e.notes ++ notes }

theorem Failure.extended_nil (e : Failure) : e.extended [] [] = e := by
  simp [extended]

theorem Failure.extended_extended (e : Failure) (xs ys : List FailureId) (ns ms : List String) :
    (e.extended xs ns).extended ys ms = e.extended (xs ++ ys) (ns ++ ms) := by
  simp [extended]

namespace FailureStore

variable {s : FailureStore} {id k x : FailureId} {e : Failure}

theorem get?_attach_self (h : s.get? id = some e) : (s.attach id x).get? id = some (e.extended [x] []) := by
  rw [attach, get?_modify_self h]
  simp [Failure.extended]

theorem get?_attach_ne (hk : k ≠ id) : (s.attach id x).get? k = s.get? k := get?_modify_ne hk

end FailureStore

namespace Future

variable {s : FailureStore} {id k : FailureId} {e : Failure}

theorem get?_mark_self (h : s.get? id = some e) :
    (mark s id).get? id = some (e.extended [s.size] [waitedNote]) := by
  have ha : ((s.add .marker).attach id s.size).get? id = some (e.extended [s.size] []) :=
    FailureStore.get?_attach_self (FailureStore.get?_add h)
  rw [mark, FailureStore.addNote, FailureStore.get?_modify_self ha]
  simp [Failure.extended]

theorem get?_mark_ne (hk : k ≠ id) : (mark s id).get? k = (s.add .marker).get? k := by
  rw [mark, FailureStore.addNote, FailureStore.get?_modify_ne hk, FailureStore.get?_attach_ne hk]

theorem get?_mark_size (h : s.get? id = some e) : (mark s id).get? s.size = some .marker := by
  rw [get?_mark_ne (Nat.ne_of_gt (FailureStore.lt_size_of_get? h)), FailureStore.get?_add_size]

theorem keepsBut_mark : s.KeepsBut (mark s id) id := by
  intro k e hk h
  rw [get?_mark_ne hk]
  exact FailureStore.get?_add h

/-! ## What a wait gives -/

def wrapped (id : FailureId) (e : Failure) : Failure := { Failure.envelope id e with context := some id }

theorem getUnchecked_cancelled : getUnchecked s ⟨.cancelled, none⟩ = raiseNew s Failure.cancellation := rfl

theorem getUnchecked_failed (h : s.get? id = some e) (hc : e.cls ≠ .cancelled) :
    getUnchecked s ⟨.failed id, none⟩ = raiseNew s (wrapped id e) := by
  simp only [getUnchecked, h, wrapRaised, if_neg hc, if_pos, wrapped]

theorem translate_result (v : Json) : translate s ⟨.result v, none⟩ = (s, .value v, []) := rfl

theorem translate_cancelled :
    translate s ⟨.cancelled, none⟩ = (s.add Failure.cancellation, .raised s.size, []) := by
  have hg : (s.add Failure.cancellation).get? s.size = some Failure.cancellation := FailureStore.get?_add_size
  simp only [translate, getUnchecked_cancelled, raiseNew, hg]
  rfl

theorem translate_ordinary (h : s.get? id = some e) (hc : e.cls ≠ .cancelled) (ho : e.cls.isOrdinary = true) :
    translate s ⟨.failed id, none⟩ = (mark (s.add (wrapped id e)) id, .raised id, [failedEvent e]) := by
  have hg : (s.add (wrapped id e)).get? s.size = some (wrapped id e) := FailureStore.get?_add_size
  have hi : (s.add (wrapped id e)).get? id = some e := FailureStore.get?_add h
  have hw : (wrapped id e).wrapped = some id := rfl
  have hcls : (wrapped id e).cls = .envelope := rfl
  simp [translate, getUnchecked_failed h hc, raiseNew, hg, hw, hcls, hi, ho]

theorem translate_other (h : s.get? id = some e) (hc : e.cls ≠ .cancelled) (ho : e.cls.isOrdinary = false) :
    translate s ⟨.failed id, none⟩ = (s.add (wrapped id e), .raised s.size, []) := by
  have hg : (s.add (wrapped id e)).get? s.size = some (wrapped id e) := FailureStore.get?_add_size
  have hi : (s.add (wrapped id e)).get? id = some e := FailureStore.get?_add h
  have hw : (wrapped id e).wrapped = some id := rfl
  have hcls : (wrapped id e).cls = .envelope := rfl
  simp [translate, getUnchecked_failed h hc, raiseNew, hg, hw, hcls, hi, ho]

end Future

end RemoteCall
