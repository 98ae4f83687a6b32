import Mathlib.Data.List.Induction
import RemoteCall.Batch
import RemoteCall.Proofs.Results

/-!
# Runs of a batch builder

A builder is used by a row of calls that set a counter or build a snapshot. What it holds is known from the calls alone:
each counter has the last value that was fit for it, whatever else was called before or after. So a build succeeds as soon
as every counter was once given a value that is fit, and it answers the last ones.
-/

namespace RemoteCall.Batch

/-! ## Single calls -/

def Snapshot.get (s : Snapshot) : Counter → Json
  | .elementCount => s.elementCount
  | .byteCount => s.byteCount
  | .totalThrottledTime => s.totalThrottledTime

namespace Builder

/-- A number or a truth value that is not below zero. A NaN is not below zero. -/
def countable (v : Json) : Bool := v.numeric?.any fun n => !n.isNegative

def write (b : Builder) (counter : Counter) (v : Json) : Builder :=
  match counter with
  | .elementCount => { b with elementCount := some v }
  | .byteCount => { b with byteCount := some v }
  | .totalThrottledTime => { b with totalThrottledTime := some v }

section
variable (b : Builder) (counter : Counter) (v : Json)

theorem get_write (c : Counter) : (b.write counter v).get c = if c = counter then some v else b.get c := by
  cases counter <;> cases c <;> rfl

theorem set_eq : b.set counter v = (checkCount counter v).map (b.write counter) := by
  unfold set
  cases checkCount counter v with
  | error f => rfl
  | ok w => cases counter <;> rfl

variable {v}

theorem set_of_countable (h : countable v = true) : b.set counter v = .ok (b.write counter v) := by
  rw [set_eq]
  unfold countable at h
  unfold checkCount
  cases hn : v.numeric? with
  | none => simp [hn] at h
  | some n =>
    have hz : n.isNegative = false := by simpa [hn] using h
    simp [hz]

theorem set_of_negative {n : Number} (hn : v.numeric? = some n) (hz : n.isNegative = true) :
    b.set counter v = .error (.negativeCount counter.name n) := by
  simp [set_eq, checkCount, hn, hz]

theorem set_of_notNumeric (hn : v.numeric? = none) : b.set counter v = .error (.notComparable v.kindName) := by
  simp [set_eq, checkCount, hn]

theorem exists_set_error (h : ¬ countable v = true) : ∃ f, b.set counter v = .error f := by
  cases hn : v.numeric? with
  | none => exact ⟨_, set_of_notNumeric b counter hn⟩
  | some n =>
    have hz : n.isNegative = true := by simpa [countable, hn] using h
    exact ⟨_, set_of_negative b counter hn hz⟩

variable {b}

theorem build_eq_ok {s : Snapshot} : b.build = .ok s ↔ ∀ c, b.get c = some (s.get c) := by
  obtain ⟨elements, bytes, throttled⟩ := b
  obtain ⟨e, y, t⟩ := s
  constructor
  · intro h c
    unfold build at h
    split at h
    · cases h
      rename_i he hy ht
      cases c with
      | elementCount => exact he
      | byteCount => exact hy
      | totalThrottledTime => exact ht
    · cases h
  · intro h
    have he : elements = some e := h .elementCount
    have hy : bytes = some y := h .byteCount
    have ht : throttled = some t := h .totalThrottledTime
    simp [build, he, hy, ht]

theorem missing_of_build {f : Fault} (h : b.build = .error f) :
    (∃ c, b.get c = none) ∧ f = .missingCounters (b.missing.map Counter.name) := by
  obtain ⟨elements, bytes, throttled⟩ := b
  cases elements with
  | none => exact ⟨⟨.elementCount, rfl⟩, by cases h; rfl⟩
  | some e =>
    cases bytes with
    | none => exact ⟨⟨.byteCount, rfl⟩, by cases h; rfl⟩
    | some y =>
      cases throttled with
      | none => exact ⟨⟨.totalThrottledTime, rfl⟩, by cases h; rfl⟩
      | some t => cases h

end

end Builder

/-! ## Rows of calls -/

inductive Call where
  | set (counter : Counter) (v : Json)
  | build

inductive Answer where
  | stored
  | built (s : Snapshot)
  | refused (f : Fault)

structure Session where
  builder : Builder
  snapshots : List Snapshot

namespace Session

def perform (s : Session) : Call → Session × Answer
  | .set counter v =>
    match s.builder.set counter v with
    | .ok builder => ({ s with builder }, .stored)
    | .error f => (s, .refused f)
  | .build =>
    match s.builder.build with
    | .ok snapshot => ({ s with snapshots := s.snapshots ++ [snapshot] }, .built snapshot)
    | .error f => (s, .refused f)

def after (calls : List Call) : Session := calls.foldl (fun s c => (s.perform c).1) ⟨.empty, []⟩

theorem after_concat (calls : List Call) (c : Call) : after (calls ++ [c]) = ((after calls).perform c).1 := by
  simp [after]

section
variable {s : Session} {counter : Counter} {v : Json}

theorem perform_set_ok {b : Builder} (h : s.builder.set counter v = .ok b) :
    s.perform (.set counter v) = (⟨b, s.snapshots⟩, .stored) := by
  simp only [perform, h]

theorem perform_set_error {f : Fault} (h : s.builder.set counter v = .error f) :
    s.perform (.set counter v) = (s, .refused f) := by
  simp only [perform, h]

theorem perform_build_ok {snapshot : Snapshot} (h : s.builder.build = .ok snapshot) :
    s.perform .build = (⟨s.builder, s.snapshots ++ [snapshot]⟩, .built snapshot) := by
  simp only [perform, h]

theorem perform_build_error {f : Fault} (h : s.builder.build = .error f) : s.perform .build = (s, .refused f) := by
  simp only [perform, h]

end

end Session

/-! ## What the calls say -/

def Call.gives (counter : Counter) : Call → Option Json
  | .set c v => if c = counter && Builder.countable v then some v else none
  | .build => none

def latest (counter : Counter) (calls : List Call) : Option Json := (calls.filterMap (Call.gives counter)).getLast?

/-- What a call leaves and answers after other calls. The conditions exclude one another, and one of them always holds. -/
inductive Law (before : List Call) : Call → Session → Answer → Prop
  | stored {counter : Counter} {v : Json} {b : Builder} : Builder.countable v = true → b.get counter = some v →
      (∀ c ≠ counter, b.get c = (Session.after before).builder.get c) →
      Law before (.set counter v) ⟨b, (Session.after before).snapshots⟩ .stored
  | negative {counter : Counter} {v : Json} {n : Number} {f : Fault} : v.numeric? = some n → n.isNegative = true →
      f = .negativeCount counter.name n → f.kind = .invalidValue →
      Law before (.set counter v) (Session.after before) (.refused f)
  | notNumber {counter : Counter} {v : Json} {f : Fault} : v.numeric? = none →
      f = .notComparable v.kindName → f.kind = .wrongType →
      Law before (.set counter v) (Session.after before) (.refused f)
  | built {snapshot : Snapshot} : (∀ c, latest c before = some (snapshot.get c)) →
      (∀ c, Builder.countable (snapshot.get c) = true) →
      Law before .build ⟨(Session.after before).builder, (Session.after before).snapshots ++ [snapshot]⟩ (.built snapshot)
  | missing {f : Fault} : (∃ c, latest c before = none) →
      f = .missingCounters ((Counter.all.filter fun c => (latest c before).isNone).map Counter.name) →
      f.kind = .missingFields → Law before .build (Session.after before) (.refused f)

section
variable {calls : List Call} {counter : Counter} {v : Json}

theorem latest_concat (calls : List Call) (c : Call) :
    latest counter (calls ++ [c]) = (c.gives counter).or (latest counter calls) := by
  cases h : c.gives counter <;> simp [latest, List.filterMap_append, h]

theorem countable_of_latest (h : latest counter calls = some v) : Builder.countable v = true := by
  obtain ⟨c, -, hc⟩ := List.mem_filterMap.mp (List.mem_of_getLast? h)
  cases c with
  | build => cases hc
  | set k w =>
    by_cases hw : Builder.countable w = true
    · by_cases hk : k = counter <;> simp_all [Call.gives]
    · simp [Call.gives, hw] at hc

namespace Session

theorem get_perform (s : Session) (c : Call) :
    (s.perform c).1.builder.get counter = (c.gives counter).or (s.builder.get counter) := by
  cases c with
  | build =>
    cases h : s.builder.build with
    | error f => simp [perform_build_error h, Call.gives]
    | ok snapshot => simp [perform_build_ok h, Call.gives]
  | set k v =>
    by_cases hv : Builder.countable v = true
    · rw [perform_set_ok (Builder.set_of_countable _ _ hv), Builder.get_write]
      by_cases hk : k = counter
      · simp [Call.gives, hk, hv]
      · simp [Call.gives, hk, Ne.symm hk]
    · obtain ⟨f, hf⟩ := Builder.exists_set_error s.builder k hv
      simp [perform_set_error hf, Call.gives, hv]

/-- The builder holds what the calls give last. The induction is on the calls, the last one split off. -/
theorem get_after (calls : List Call) (counter : Counter) :
    (after calls).builder.get counter = latest counter calls := by
  induction calls using List.reverseRecOn with
  | nil => cases counter <;> rfl
  | append_singleton calls c ih => rw [after_concat, get_perform, latest_concat, ih]

theorem law_set (before : List Call) (counter : Counter) (v : Json) :
    Law before (.set counter v) ((after before).perform (.set counter v)).1
      ((after before).perform (.set counter v)).2 := by
  cases hn : v.numeric? with
  | none =>
    rw [perform_set_error (Builder.set_of_notNumeric _ _ hn)]
    exact .notNumber hn rfl rfl
  | some n =>
    by_cases hz : n.isNegative = true
    · rw [perform_set_error (Builder.set_of_negative _ _ hn hz)]
      exact .negative hn hz rfl rfl
    · have hv : Builder.countable v = true := by simp [Builder.countable, hn, hz]
      rw [perform_set_ok (Builder.set_of_countable _ _ hv)]
      refine .stored hv ?_ ?_
      · simp [Builder.get_write]
      · intro c hc
        simp [Builder.get_write, hc]

theorem law_build (before : List Call) :
    Law before .build ((after before).perform .build).1 ((after before).perform .build).2 := by
  have hg := get_after before
  cases hb : (after before).builder.build with
  | ok snapshot =>
    have hl : ∀ c, latest c before = some (snapshot.get c) := by
      intro c
      rw [← hg, Builder.build_eq_ok.mp hb]
    rw [perform_build_ok hb]
    exact .built hl fun c => countable_of_latest (hl c)
  | error f =>
    obtain ⟨⟨c, hc⟩, hf⟩ := Builder.missing_of_build hb
    have hm : (after before).builder.missing = Counter.all.filter fun c => (latest c before).isNone := by
      simp only [Builder.missing, hg]
    rw [hm] at hf
    rw [perform_build_error hb]
    exact .missing ⟨c, by rw [← hg, hc]⟩ hf (by rw [hf]; rfl)

theorem snapshots_perform (s : Session) (c : Call) : s.snapshots <+: (s.perform c).1.snapshots := by
  cases c with
  | set counter v =>
    cases h : s.builder.set counter v with
    | error f => simp [perform_set_error h]
    | ok b => simp [perform_set_ok h]
  | build =>
    cases h : s.builder.build with
    | error f => simp [perform_build_error h]
    | ok snapshot => simp [perform_build_ok h]

theorem snapshots_after (before later : List Call) :
    (after before).snapshots <+: (after (before ++ later)).snapshots := by
  induction later using List.reverseRecOn with
  | nil => simp
  | append_singleton later c ih =>
    rw [← List.append_assoc, after_concat]
    exact ih.trans (snapshots_perform _ c)

/-- After any calls, a setter stores a value that is fit and is refused otherwise, and a build answers the last values that
were stored, provided there is one for each counter. A snapshot that was built stays where it is. -/
theorem perform_lawful (before later : List Call) (c : Call) :
    Law before c ((after before).perform c).1 ((after before).perform c).2 ∧
      (after before).snapshots <+: (after (before ++ later)).snapshots := by
  refine ⟨?_, snapshots_after before later⟩
  cases c with
  | set counter v => exact law_set before counter v
  | build => exact law_build before

end Session

end

/-- Refused values leave a zero and a truth value in place. -/
example : (Session.after [.set .byteCount (.bool false), .set .elementCount (.int 0), .set .byteCount (.int (-1)), .build,
    .set .totalThrottledTime (.int 7), .set .elementCount .null, .build]).snapshots.map Snapshot.toMembers =
    [[("element_count", .int 0), ("byte_count", .bool false), ("total_throttled_time_ms", .int 7)]] := rfl

end RemoteCall.Batch
