import Mathlib.Data.List.Count
import Mathlib.Data.List.Perm.Basic
import RemoteCall.Proofs.Context.Setters

/-!
# Fields and the setters that touch them

Every setter touches one field: what it leaves there, and whether it fails, depends on what was there and on nothing else of
the context. So a row of setters does to each field what the setters of that field do alone, and rows that have these in
the same order for every field end in the same context.
-/

namespace RemoteCall.Context

/-! ## Fields -/

inductive Field where
  | channel
  | timeout
  | deadline
  | credentials
  | headers
  | tracer
  | retry
  | codes
  | streamWait
  | streamIdle
deriving DecidableEq

namespace Field

def Value : Field → Type
  | channel => Option Handle
  | timeout | streamWait | streamIdle => Option Duration
  | deadline => Option Timestamp
  | credentials => Option Credentials
  | headers => HeaderMap
  | tracer => Option Tracer
  | retry => Option RetrySettings
  | codes => Option StatusSet

def get (c : Context) : (f : Field) → f.Value
  | channel => c.channel
  | timeout => c.timeout
  | deadline => c.deadline
  | credentials => c.credentials
  | headers => c.headers
  | tracer => c.tracer
  | retry => c.retry
  | codes => c.codes
  | streamWait => c.streamWait
  | streamIdle => c.streamIdle

def put (c : Context) : (f : Field) → f.Value → Context
  | channel, v => { c with channel := v }
  | timeout, v => { c with timeout := v }
  | deadline, v => { c with deadline := v }
  | credentials, v => { c with credentials := v }
  | headers, v => { c with headers := v }
  | tracer, v => { c with tracer := v }
  | retry, v => { c with retry := v }
  | codes, v => { c with codes := v }
  | streamWait, v => { c with streamWait := v }
  | streamIdle, v => { c with streamIdle := v }

section
variable {c d : Context} {f g : Field}

theorem get_put_ne (h : f ≠ g) (v : f.Value) : g.get (f.put c v) = g.get c := by
  cases f <;> cases g <;> first | rfl | exact absurd rfl h

theorem ext_get (ht : c.transport = d.transport) (h : ∀ f : Field, f.get c = f.get d) : c = d := by
  apply Context.ext
  case transport => exact ht
  case channel => exact h .channel
  case timeout => exact h .timeout
  case deadline => exact h .deadline
  case credentials => exact h .credentials
  case headers => exact h .headers
  case tracer => exact h .tracer
  case retry => exact h .retry
  case codes => exact h .codes
  case streamWait => exact h .streamWait
  case streamIdle => exact h .streamIdle

end

end Field

/-! ## One setter -/

namespace Setter

def field : Setter → Field
  | channel _ | transportChannel _ => .channel
  | credentials _ => .credentials
  | tracer _ => .tracer
  | timeout _ => .timeout
  | deadline _ => .deadline
  | streamWait _ => .streamWait
  | streamIdle _ => .streamIdle
  | headers _ => .headers
  | retry _ => .retry
  | codes _ => .codes

theorem timeout_withTimeout (c : Context) (timeout : Option Duration) : (c.withTimeout timeout).timeout =
    if c.keepsTimeout timeout then c.timeout else normalizeTimeout timeout := by
  unfold withTimeout
  split <;> rfl

section
variable {s : Setter} {c d : Context}

/-- Nothing but the field of the setter is written. -/
theorem eq_put_of_apply (h : s.apply c = .ok d) : d = s.field.put c (s.field.get d) := by
  cases s with
  | timeout timeout =>
    cases h
    by_cases hk : c.keepsTimeout timeout = true
    · simp [field, Field.put, Field.get, withTimeout, hk]
    · simp [field, Field.put, Field.get, withTimeout, hk]
  | transportChannel channel => obtain ⟨_, -, rfl⟩ := withTransportChannel_eq_ok.mp h; rfl
  | tracer tracer => obtain ⟨-, rfl⟩ := withTracer_eq_ok.mp h; rfl
  | streamWait timeout => obtain ⟨-, -, rfl⟩ := setStream_eq_ok.mp h; rfl
  | streamIdle timeout => obtain ⟨-, -, rfl⟩ := setStream_eq_ok.mp h; rfl
  | headers members => obtain ⟨_, _, -, -, rfl⟩ := withHeaders_eq_ok.mp h; rfl
  | channel | credentials | deadline | retry | codes => cases h; rfl

theorem get_of_apply_ne (h : s.apply c = .ok d) {f : Field} (hf : s.field ≠ f) : f.get d = f.get c := by
  rw [eq_put_of_apply h, Field.get_put_ne hf]

/-- Nothing but the field of the setter is read, the transport apart. -/
theorem apply_congr (ht : c.transport = d.transport) (h : s.field.get c = s.field.get d) :
    (s.apply c).map s.field.get = (s.apply d).map s.field.get := by
  cases s with
  | timeout timeout =>
    have hc : c.timeout = d.timeout := h
    have hk : c.keepsTimeout timeout = d.keepsTimeout timeout := by simp [keepsTimeout, hc]
    have ht : (c.withTimeout timeout).timeout = (d.withTimeout timeout).timeout := by
      simp only [timeout_withTimeout, hk, hc]
    exact congrArg Except.ok ht
  | headers members =>
    have hh : c.headers = d.headers := h
    cases members with
    | none => rfl
    | some members =>
      simp only [apply, withHeaders, hh]
      cases d.headers.appendMembers members <;> rfl
  | transportChannel channel =>
    cases channel with
    | unset => rfl
    | other found => simp only [apply, withTransportChannel, ht]
    | wrapped t k =>
      simp only [apply, withTransportChannel, ht]
      split <;> rfl
  | streamWait timeout =>
    simp only [apply, withStreamWait, ht]
    cases d.transport with
    | httpJson => rfl
    | streaming => cases checkStreamTimeout timeout <;> rfl
  | streamIdle timeout =>
    simp only [apply, withStreamIdle, ht]
    cases d.transport with
    | httpJson => rfl
    | streaming => cases checkStreamTimeout timeout <;> rfl
  | tracer tracer => cases tracer <;> rfl
  | channel | credentials | deadline | retry | codes => rfl

end

/-! ## Rows of setters -/

def attempt (c : Context) (s : Setter) : Context :=
  match s.apply c with
  | .ok d => d
  | .error _ => c

def fault? (c : Context) (s : Setter) : Option Fault :=
  match s.apply c with
  | .ok _ => none
  | .error f => some f

def run (c : Context) (calls : List Setter) : Context := calls.foldl attempt c

def outcomes : Context → List Setter → List (Setter × Option Fault)
  | _, [] => []
  | c, s :: calls => (s, s.fault? c) :: outcomes (attempt c s) calls

section
variable {s : Setter} {c d : Context} {f : Field} {calls : List Setter}

theorem transport_attempt (c : Context) (s : Setter) : (attempt c s).transport = c.transport := by
  unfold attempt
  cases h : s.apply c with
  | ok d => exact transport_apply h
  | error e => rfl

theorem get_attempt_ne (hf : s.field ≠ f) : f.get (attempt c s) = f.get c := by
  unfold attempt
  cases h : s.apply c with
  | ok d => exact get_of_apply_ne h hf
  | error e => rfl

theorem get_attempt_congr (ht : c.transport = d.transport) (h : s.field.get c = s.field.get d) :
    s.field.get (attempt c s) = s.field.get (attempt d s) := by
  have ha := apply_congr ht h
  unfold attempt
  cases hc : s.apply c <;> cases hd : s.apply d <;> simp_all

theorem fault?_congr (ht : c.transport = d.transport) (h : s.field.get c = s.field.get d) :
    s.fault? c = s.fault? d := by
  have ha := apply_congr ht h
  unfold fault?
  cases hc : s.apply c <;> cases hd : s.apply d <;> simp_all

theorem transport_run (c : Context) (calls : List Setter) : (run c calls).transport = c.transport := by
  induction calls generalizing c with
  | nil => rfl
  | cons s calls ih => exact (ih _).trans (transport_attempt c s)

/-- A row does to a field what its setters of that field do. The context is generalized to any that agrees in the field, since
the setters left out change other fields. -/
theorem get_run (ht : c.transport = d.transport) (h : f.get c = f.get d) (calls : List Setter) :
    f.get (run c calls) = f.get (run d (calls.filter fun s => s.field = f)) := by
  induction calls generalizing c d with
  | nil => exact h
  | cons s calls ih =>
    have hc := transport_attempt c s
    by_cases hf : s.field = f
    · subst hf
      rw [List.filter_cons_of_pos (by simp)]
      exact ih (hc.trans (ht.trans (transport_attempt d s).symm)) (get_attempt_congr ht h)
    · rw [List.filter_cons_of_neg (by simp [hf])]
      exact ih (hc.trans ht) ((get_attempt_ne hf).trans h)

theorem filter_outcomes (ht : c.transport = d.transport) (h : f.get c = f.get d) (calls : List Setter) :
    (outcomes c calls).filter (fun o => o.1.field = f) = outcomes d (calls.filter fun s => s.field = f) := by
  induction calls generalizing c d with
  | nil => rfl
  | cons s calls ih =>
    have hc := transport_attempt c s
    by_cases hf : s.field = f
    · subst hf
      rw [outcomes, List.filter_cons_of_pos (by simp), List.filter_cons_of_pos (by simp), outcomes, fault?_congr ht h]
      exact congrArg _ (ih (hc.trans (ht.trans (transport_attempt d s).symm)) (get_attempt_congr ht h))
    · rw [outcomes, List.filter_cons_of_neg (by simp [hf]), List.filter_cons_of_neg (by simp [hf])]
      exact ih (hc.trans ht) ((get_attempt_ne hf).trans h)

end

/-! ## Reordering -/

theorem perm_of_filter_eq {α β : Type} [DecidableEq β] {kind : α → β} {l m : List α}
    (h : ∀ b, (l.filter fun a => kind a = b) = m.filter fun a => kind a = b) : l.Perm m := by
  classical
  rw [List.perm_iff_count]
  intro a
  have hl : (l.filter fun x => kind x = kind a).count a = l.count a := List.count_filter (by simp)
  have hm : (m.filter fun x => kind x = kind a).count a = m.count a := List.count_filter (by simp)
  rw [← hl, ← hm, h]

/-- The second row is the first one with the setters of each field in the same order. -/
structure Reordered (calls calls' : List Setter) : Prop where
  perm : calls.Perm calls'
  keepsOrder : ∀ f : Field, (calls.filter fun s => s.field = f) = calls'.filter fun s => s.field = f

/-- Setters of different fields can be called in any order. The context at the end is the same, and the calls of each field
have the same outcomes one after the other. -/
theorem run_reordered {calls calls' : List Setter} (h : Reordered calls calls') (c : Context) :
    run c calls = run c calls' ∧ (outcomes c calls).Perm (outcomes c calls') ∧
      ∀ f : Field, ((outcomes c calls).filter fun o => o.1.field = f) =
        (outcomes c calls').filter fun o => o.1.field = f := by
  have ho : ∀ f : Field, ((outcomes c calls).filter fun o => o.1.field = f) =
      (outcomes c calls').filter fun o => o.1.field = f := by
    intro f
    rw [filter_outcomes rfl rfl, filter_outcomes rfl rfl, h.keepsOrder]
  refine ⟨?_, perm_of_filter_eq ho, ho⟩
  apply Field.ext_get
  · rw [transport_run, transport_run]
  · intro f
    rw [get_run rfl rfl, get_run rfl rfl calls', h.keepsOrder]

/-- Two timeouts, of which the second is shorter, stay in order, and so do the headers; a bare text, a negative timeout of a
stream and an unset tracer are refused wherever they come. -/
theorem run_reordered_streaming :
    let c : Context := { create .streaming with
      timeout := some ⟨5000000, by decide⟩, headers := ⟨[("a", [.string "x"])]⟩ }
    let long : Setter := .timeout (some ⟨9000000, by decide⟩)
    let short : Setter := .timeout (some ⟨3000000, by decide⟩)
    let more : Setter := .headers (some [("b", .list [.string "y"]), ("a", .list [.string "z"])])
    let bare : Setter := .headers (some [("c", .string "y")])
    let wait : Setter := .streamWait (some ⟨-1, by decide⟩)
    let calls := [long, more, wait, tracer none, short, bare, channel none, transportChannel .unset]
    let calls' := [tracer none, channel none, more, transportChannel .unset, long, bare, wait, short]
    Reordered calls calls' ∧ run c calls = run c calls' ∧
      (run c calls').timeout = some ⟨3000000, by decide⟩ ∧ (run c calls').headers.names = ["a", "b"] ∧
      (run c calls').headers.same ⟨[("a", [.string "x", .string "z"]), ("b", [.string "y"])]⟩ = true ∧
      ((outcomes c calls).map fun o => o.2.isSome) = [false, false, true, true, false, true, false, true] ∧
      ((outcomes c calls').map fun o => o.2.isSome) = [true, false, false, true, false, true, true, false] := by
  intro c long short more bare wait calls calls'
  have h : ∀ f : Field, (calls.filter fun s => s.field = f) = calls'.filter fun s => s.field = f := by
    intro f
    cases f <;> rfl
  have hr : Reordered calls calls' := ⟨perm_of_filter_eq h, h⟩
  refine ⟨hr, (run_reordered hr c).1, ?_, ?_, ?_, ?_, ?_⟩
  all_goals decide +kernel

end Setter

end RemoteCall.Context
