import RemoteCall.Proofs.Context.Setters
import RemoteCall.Proofs.Status

/-!
# What registers hold

Whatever is run, every context in a register is as the constructor leaves it and of the transport of the context it was
made from. The induction is on the steps run so far; a step that fails holds nothing. It follows that merging two held
contexts of one transport never fails, while a context of the other transport, or a value that is no context, always
does.
-/

namespace RemoteCall

theorem HeaderMap.not_hasBareText_toObject {h : HeaderMap} {members : List (String × Json)}
    (hm : h.toObject = .object members) : ¬ HasBareText members := by
  cases hm
  rintro ⟨n, s, hs⟩
  obtain ⟨e, -, he⟩ := List.mem_map.mp hs
  cases he

theorem Ordered.mem_insert {α : Type} {name : String} {v : α} {m : List (String × α)} {e : String × α}
    (h : e ∈ insert name v m) : e = (name, v) ∨ e ∈ m := by
  induction m with
  | nil => exact .inl (List.mem_singleton.mp h)
  | cons p m ih =>
    unfold insert at h
    split at h
    · rename_i hp
      rcases List.mem_cons.mp h with rfl | h
      · exact .inl (by rw [← hp])
      · exact .inr (List.mem_cons_of_mem _ h)
    · rcases List.mem_cons.mp h with rfl | h
      · exact .inr List.mem_cons_self
      · exact (ih h).imp_right (List.mem_cons_of_mem _)

/-! ## Single contexts -/

namespace Context

/-- What holds of every context: it is well-formed, no code is repeated, and no header has a bare text for its values. -/
structure Valid (c : Context) : Prop extends WellFormed c where
  codes_nodup : ∀ set ∈ c.codes, set.members.Nodup
  noBareText : ∀ members, c.headers.toObject = .object members → ¬ HeaderMap.HasBareText members

theorem WellFormed.valid {c : Context} (h : c.WellFormed) : c.Valid :=
  ⟨h, fun set _ => set.nodup_members, fun _ => HeaderMap.not_hasBareText_toObject⟩

def Maker.transport : Maker → Transport
  | create t | load t _ | make t _ | ofSettings t _ | ofChannel t _ => t

def Maker.Proper : Maker → Prop
  | load _ d => ∀ members, ("extra_headers", Json.object members) ∈ d → (Ordered.names members).Nodup
  | make _ a => ∀ members ∈ a.headers, (Ordered.names members).Nodup
  | ofSettings _ s => (Ordered.names s.defaultHeaders).Nodup
  | _ => True

section
variable {t : Transport} {c : Context}

theorem setEntry_wellFormed {key : String} {v : Json} {d : Context} (hc : c.WellFormed)
    (hv : ∀ members, key = "extra_headers" → v = .object members → (Ordered.names members).Nodup)
    (h : c.setEntry key v = .ok d) : d.transport = c.transport ∧ d.WellFormed := by
  rw [setEntry_eq_apply] at h
  obtain ⟨s, hs, h⟩ := bind_eq_ok.mp h
  exact ⟨Setter.transport_apply h, Setter.apply_wellFormed hc (Setter.proper_of_ofEntry hs hv) h⟩

theorem foldlM_setEntry_wellFormed {d : List (String × Json)} {start : Context} (hs : start.WellFormed)
    (hd : ∀ members, ("extra_headers", Json.object members) ∈ d → (Ordered.names members).Nodup)
    (h : d.foldlM (fun c e => c.setEntry e.1 e.2) start = .ok c) : c.transport = start.transport ∧ c.WellFormed := by
  induction d generalizing start with
  | nil => cases h; exact ⟨rfl, hs⟩
  | cons e d ih =>
    obtain ⟨key, v⟩ := e
    rw [List.foldlM_cons] at h
    obtain ⟨next, hn, h⟩ := bind_eq_ok.mp h
    obtain ⟨ht, hw⟩ := setEntry_wellFormed hs (by rintro members rfl rfl; exact hd members List.mem_cons_self) hn
    obtain ⟨ht', hc⟩ := ih hw (fun members hm => hd members (List.mem_cons_of_mem _ hm)) h
    exact ⟨ht'.trans ht, hc⟩

theorem ofSettings_wellFormed {s : Settings} (hs : (Ordered.names s.defaultHeaders).Nodup)
    (h : ofSettings t s = .ok c) : c.transport = t ∧ c.WellFormed := by
  obtain ⟨timeout, -, h⟩ := bind_eq_ok.mp h
  obtain ⟨d, hd, h⟩ := bind_eq_ok.mp h
  obtain ⟨retry, -, h⟩ := bind_eq_ok.mp h
  cases h
  have hp : (Setter.headers (some s.headerMembers)).Proper := by
    show (Ordered.names (s.defaultHeaders.map fun h => (h.1, Json.list (h.2.map .string)))).Nodup
    rw [Ordered.names_map fun _ (values : List String) => Json.list (values.map .string)]
    exact hs
  have hw := Setter.apply_wellFormed (Setter.apply_wellFormed (s := .timeout timeout) (create_wellFormed t) trivial rfl) hp hd
  have ht : d.transport = t :=
    (Setter.transport_apply (s := .headers (some s.headerMembers)) hd).trans (transport_withTimeout _ timeout)
  exact ⟨ht, hw.congr rfl rfl rfl rfl rfl⟩

theorem Maker.run_wellFormed {m : Maker} (hm : m.Proper) (h : m.run = .ok c) :
    c.transport = m.transport ∧ c.WellFormed := by
  cases m with
  | create t => cases h; exact ⟨rfl, create_wellFormed t⟩
  | load t d => exact foldlM_setEntry_wellFormed (create_wellFormed t) hm h
  | make t a => exact constructed_iff.mp ⟨a, hm, h⟩
  | ofSettings t s => exact ofSettings_wellFormed hm h
  | ofChannel t channel => cases h; exact ⟨rfl, (create_wellFormed t).congr rfl rfl rfl rfl rfl⟩

theorem transport_of_nullToSelf {c d e : Context} (h : c.nullToSelf (.context d) = .ok e) :
    d.transport = c.transport := by
  by_contra ht
  simp only [nullToSelf, if_neg ht] at h
  cases h

/-! ## Bare texts -/

def Maker.HasBareText : Maker → Prop
  | load _ d => ∃ members, ("extra_headers", Json.object members) ∈ d ∧ HeaderMap.HasBareText members
  | make _ a => ∃ members ∈ a.headers, HeaderMap.HasBareText members
  | _ => False

def Setter.HasBareText : Setter → Prop
  | headers (some members) => HeaderMap.HasBareText members
  | _ => False

theorem Setter.apply_hasBareText {s : Setter} {d : Context} (hs : s.Proper) (h : s.apply c = .ok d) :
    ¬ s.HasBareText := by
  cases s with
  | headers members =>
    obtain ⟨ms, k, rfl, hk, -⟩ := withHeaders_eq_ok.mp h
    exact HeaderMap.not_hasBareText_of_appendMembers hs hk
  | _ => exact id

theorem foldlM_setEntry_hasBareText {d : List (String × Json)} {start : Context}
    (h : d.foldlM (fun c e => c.setEntry e.1 e.2) start = .ok c) {members : List (String × Json)}
    (hm : ("extra_headers", Json.object members) ∈ d) (hn : (Ordered.names members).Nodup) :
    ¬ HeaderMap.HasBareText members := by
  induction d generalizing start with
  | nil => cases hm
  | cons e d ih =>
    rw [List.foldlM_cons] at h
    obtain ⟨next, hs, h⟩ := bind_eq_ok.mp h
    rcases List.mem_cons.mp hm with rfl | hm
    · exact Setter.apply_hasBareText (s := .headers (some members)) hn hs
    · exact ih h hm

theorem Maker.run_hasBareText {m : Maker} (hm : m.Proper) (h : m.run = .ok c) : ¬ m.HasBareText := by
  cases m with
  | load t d =>
    rintro ⟨members, hd, hb⟩
    exact foldlM_setEntry_hasBareText h hd (hm members hd) hb
  | make t a =>
    rintro ⟨members, ha, hb⟩
    obtain ⟨-, ms, k, he, hk, -⟩ := make_eq.mp h
    cases he.symm.trans ha
    exact HeaderMap.not_hasBareText_of_freeze hk hb
  | create | ofSettings | ofChannel => exact id

end

end Context

/-! ## Commands -/

namespace Command

def Proper : Command → Prop
  | make m => m.Proper
  | set _ s => s.Proper
  | _ => True

def HasBareText : Command → Prop
  | make m => m.HasBareText
  | set _ s => s.HasBareText
  | _ => False

end Command

namespace Registry

def after (steps : List (Option String × Command)) : Registry := steps.foldl (fun r s => r.step s.1 s.2) .empty

def MadeOver (r : Registry) (t : Transport) : Command → Prop
  | .make m => m.transport = t
  | .set on _ | .merge on _ | .nullToSelf on _ => ∃ h, r.find on = .ok h ∧ h.context.transport = t

/-- What is handed over as a context is a context of another transport or no context, of the type found. -/
inductive Foreign (r : Registry) (t : Transport) : OtherContext → String → Prop
  | context {name : String} {k : Held} : r.find name = .ok k → k.context.transport ≠ t →
      Foreign r t (.register name) k.context.transport.qualifiedContextType
  | other (found : String) : Foreign r t (.other found) found

def AllWellFormed (r : Registry) : Prop := ∀ e ∈ r.held, e.2.context.WellFormed

section
variable {r : Registry} {h k : Held} {on name : String}

theorem mem_held_of_find (hf : r.find name = .ok h) : (name, h) ∈ r.held := by
  unfold Registry.find at hf
  split at hf
  · rename_i hg
    cases hf
    exact Ordered.mem_of_get? hg
  · cases hf

theorem AllWellFormed.find (hr : r.AllWellFormed) (hf : r.find name = .ok h) : h.context.WellFormed :=
  hr _ (mem_held_of_find hf)

/-- Merging two well-formed contexts of one transport succeeds: what is checked at the end is in order already. -/
theorem run_merge_register (hf : r.find on = .ok h) (hk : r.find name = .ok k) (wh : h.context.WellFormed)
    (wk : k.context.WellFormed) (ht : k.context.transport = h.context.transport) :
    ∃ o, r.run (.merge on (.register name)) = .ok o ∧ o.held.context = h.context.overlay k.context := by
  simp only [run, hf, hk, ok_bind, Held.merge, Context.merge_eq wh.toValidTimeouts wk.toValidTimeouts ht, pure_eq_ok]
  exact ⟨_, rfl, rfl⟩

theorem run_merge_foreign {other : OtherContext} {found : String} (hf : r.find on = .ok h)
    (ho : r.Foreign h.context.transport other found) : r.run (.merge on other) =
      .error (.foreign "context" h.context.transport.contextType found) := by
  cases ho with
  | context hk ht =>
    simp only [run, hf, hk, ok_bind, Held.merge, Context.merge, Context.nullToSelf, if_neg ht, error_bind]
  | other found => simp only [run, hf, ok_bind, Context.merge, Context.nullToSelf, error_bind]

theorem run_nullToSelf_foreign {other : OtherContext} {found : String} (hf : r.find on = .ok h)
    (ho : r.Foreign h.context.transport other found) : r.run (.nullToSelf on other) =
      .error (.foreign "context" h.context.transport.contextType found) := by
  cases ho with
  | context hk ht => simp only [run, hf, hk, ok_bind, Context.nullToSelf, if_neg ht, error_bind]
  | other found => simp only [run, hf, ok_bind, Context.nullToSelf, error_bind]

theorem step_of_ok {command : Command} {o : Outcome} (h : r.run command = .ok o) (register : Option String) :
    r.step register command = r.store register o.held := by
  simp only [step, h]

theorem step_of_error {command : Command} {f : Fault} (h : r.run command = .error f) (register : Option String) :
    r.step register command = r := by
  simp only [step, h]

theorem mem_held_step {register : Option String} {command : Command} {e : String × Held}
    (he : e ∈ (r.step register command).held) : e ∈ r.held ∨ ∃ o, r.run command = .ok o ∧ e.2 = o.held := by
  cases ho : r.run command with
  | error f =>
    rw [step_of_error ho] at he
    exact .inl he
  | ok o =>
    rw [step_of_ok ho] at he
    cases register with
    | none => exact .inl he
    | some name =>
      rcases Ordered.mem_insert he with rfl | he
      · exact .inr ⟨o, rfl, rfl⟩
      · exact .inl he

end

/-! ## Steps -/

section
variable {r : Registry}

theorem context_set {fresh : Nat} {h k : Held} {s : Context.Setter} (hs : h.set fresh s = .ok k) :
    s.apply h.context = .ok k.context := by
  obtain ⟨c, hc, hk⟩ := bind_eq_ok.mp hs
  split at hk <;> cases hk <;> exact hc

theorem context_merge {fresh : Nat} {h k m : Held} (wh : h.context.WellFormed) (wk : k.context.WellFormed)
    (hm : h.merge fresh k = .ok m) :
    k.context.transport = h.context.transport ∧ m.context = h.context.overlay k.context := by
  obtain ⟨c, hc, hm⟩ := bind_eq_ok.mp hm
  cases hm
  obtain ⟨d, hd, -⟩ := bind_eq_ok.mp hc
  have ht := Context.transport_of_nullToSelf hd
  rw [Context.merge_eq wh.toValidTimeouts wk.toValidTimeouts ht] at hc
  cases hc
  exact ⟨ht, rfl⟩

theorem run_wellFormed {command : Command} {o : Outcome} (hr : r.AllWellFormed) (hc : command.Proper)
    (h : r.run command = .ok o) : o.held.context.WellFormed ∧ r.MadeOver o.held.context.transport command := by
  cases command with
  | make m =>
    obtain ⟨c, hm, h⟩ := bind_eq_ok.mp h
    cases h
    obtain ⟨ht, hw⟩ := Context.Maker.run_wellFormed hc hm
    exact ⟨hw, ht.symm⟩
  | set on s =>
    simp only [run, bind_eq_ok, pure_eq_ok, Except.ok.injEq] at h
    obtain ⟨k', hf, k, hs, rfl⟩ := h
    have ha := context_set hs
    exact ⟨Context.Setter.apply_wellFormed (hr.find hf) hc ha, k', hf, (Context.Setter.transport_apply ha).symm⟩
  | merge on other =>
    simp only [run, bind_eq_ok] at h
    obtain ⟨k, hf, h⟩ := h
    cases other with
    | unset => cases h; exact ⟨hr.find hf, k, hf, rfl⟩
    | other found => cases h
    | register name =>
      simp only [bind_eq_ok, pure_eq_ok, Except.ok.injEq] at h
      obtain ⟨k', hk, m, hm, rfl⟩ := h
      obtain ⟨ht, he⟩ := context_merge (hr.find hf) (hr.find hk) hm
      rw [he]
      exact ⟨Context.overlay_wellFormed (hr.find hf) (hr.find hk) ht, k, hf, rfl⟩
  | nullToSelf on other =>
    simp only [run, bind_eq_ok] at h
    obtain ⟨k, hf, h⟩ := h
    cases other with
    | unset => cases h; exact ⟨hr.find hf, k, hf, rfl⟩
    | other found => cases h
    | register name =>
      simp only [bind_eq_ok, pure_eq_ok, Except.ok.injEq] at h
      obtain ⟨k', hk, d, hd, rfl⟩ := h
      exact ⟨hr.find hk, k, hf, (Context.transport_of_nullToSelf hd).symm⟩

theorem run_hasBareText {command : Command} {o : Outcome} (hc : command.Proper) (h : r.run command = .ok o) :
    ¬ command.HasBareText := by
  cases command with
  | make m =>
    obtain ⟨c, hm, -⟩ := bind_eq_ok.mp h
    exact Context.Maker.run_hasBareText hc hm
  | set on s =>
    simp only [run, bind_eq_ok, pure_eq_ok, Except.ok.injEq] at h
    obtain ⟨k', -, k, hs, -⟩ := h
    exact Context.Setter.apply_hasBareText hc (context_set hs)
  | merge | nullToSelf => exact id

theorem step_allWellFormed {register : Option String} {command : Command} (hr : r.AllWellFormed)
    (hc : command.Proper) : (r.step register command).AllWellFormed := by
  intro e he
  rcases mem_held_step he with he | ⟨o, ho, hk⟩
  · exact hr e he
  · rw [hk]
    exact (run_wellFormed hr hc ho).1

theorem after_allWellFormed {steps : List (Option String × Command)} (hs : ∀ s ∈ steps, s.2.Proper) :
    (after steps).AllWellFormed :=
  List.foldlRecOn steps _ (fun _ he => nomatch he) fun _ hr s h => step_allWellFormed hr (hs s h)

end

/-! ## Whole runs -/

/-- After any steps every held context is valid, and so is the result of any next step, which is of the transport of the
context it is made from. Contexts of one transport always merge; anything foreign is refused by its type, and nothing is
held. -/
theorem after_holds_valid {steps : List (Option String × Command)} (hs : ∀ s ∈ steps, s.2.Proper) :
    (∀ name h, (after steps).find name = .ok h → h.context.Valid) ∧
    (∀ command o, command.Proper → (after steps).run command = .ok o →
      o.held.context.Valid ∧ (after steps).MadeOver o.held.context.transport command ∧ ¬ command.HasBareText) ∧
    (∀ on name h k, (after steps).find on = .ok h → (after steps).find name = .ok k →
      k.context.transport = h.context.transport →
      Context.check (h.context.overlay k.context) = .ok (h.context.overlay k.context) ∧
      ∃ o, (after steps).run (.merge on (.register name)) = .ok o ∧ o.held.context = h.context.overlay k.context) ∧
    ∀ on h other found, (after steps).find on = .ok h → (after steps).Foreign h.context.transport other found →
      ∀ command ∈ [Command.merge on other, .nullToSelf on other],
        (after steps).run command = .error (.foreign "context" h.context.transport.contextType found) ∧
        ∀ register, (after steps).step register command = after steps := by
  have hw := after_allWellFormed hs
  refine ⟨fun name h hf => (hw.find hf).valid, fun command o hc ho => ?_, fun on name h k hf hk ht => ?_,
    fun on h other found hf ho command hm => ?_⟩
  · obtain ⟨hv, hm⟩ := run_wellFormed hw hc ho
    exact ⟨hv.valid, hm, run_hasBareText hc ho⟩
  · have ho := Context.overlay_validTimeouts (hw.find hf).toValidTimeouts (hw.find hk).toValidTimeouts ht
    exact ⟨ho.check_eq, run_merge_register hf hk (hw.find hf) (hw.find hk) ht⟩
  · have he : (after steps).run command = .error (.foreign "context" h.context.transport.contextType found) := by
      simp only [List.mem_cons, List.not_mem_nil, or_false] at hm
      rcases hm with rfl | rfl
      · exact run_merge_foreign hf ho
      · exact run_nullToSelf_foreign hf ho
    exact ⟨he, step_of_error he⟩

theorem after_holds_valid_mixed :
    let steps : List (Option String × Command) := [
      (some "a", .make (.make .streaming { timeout := some ⟨-5, by decide⟩, streamWait := some (some .zero),
                                           headers := some [("x", .list [.string "1"]), ("y", .list [])] })),
      (some "b", .set "a" (.headers (some [("z", .list []), ("x", .list [.string "2"])]))),
      (some "b", .set "a" (.streamIdle (some ⟨-1, by decide⟩))),
      (some "c", .merge "a" (.register "b")),
      (some "d", .make (.load .httpJson [("extra_headers", .object [("x", .list [])])])),
      (some "c", .merge "c" (.register "d"))]
    let merged : Context := { Context.create .streaming with
      streamWait := some .zero,
      headers := ⟨[("x", [.string "1", .string "1", .string "2"]), ("y", []), ("z", [])]⟩ }
    (∀ s ∈ steps, s.2.Proper) ∧ (∃ h, (after steps).find "c" = .ok h ∧ h.context = merged) ∧ merged.Valid ∧
      (after steps).run (.merge "c" (.register "d")) = .error (.foreign "context" "StreamingCallContext"
        Transport.httpJson.qualifiedContextType) := by
  intro steps merged
  have hs : ∀ s ∈ steps, s.2.Proper := by
    simp only [steps, List.forall_mem_cons, List.not_mem_nil, false_imp_iff, implies_true, and_true]
    refine ⟨?_, ?_, trivial, trivial, ?_, trivial⟩
    · rintro members ⟨⟩; decide
    · show List.Nodup _; decide
    · rintro members hm; cases List.mem_singleton.mp hm; decide
  have hc : (after steps).find "c" = .ok ⟨merged, 5, 6⟩ := rfl
  have hd : (after steps).find "d" = .ok ⟨{ Context.create .httpJson with headers := ⟨[("x", [])]⟩ }, 7, 8⟩ := rfl
  obtain ⟨hv, -, -, hf⟩ := after_holds_valid hs
  exact ⟨hs, ⟨_, hc, rfl⟩, hv "c" _ hc, (hf "c" _ _ _ hc (.context hd (by decide)) _ List.mem_cons_self).1⟩

end Registry

end RemoteCall
