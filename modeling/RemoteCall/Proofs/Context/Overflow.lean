import RemoteCall.Context.Configured
import RemoteCall.Proofs.Context.Loading
import RemoteCall.Proofs.Overflow

/-!
# Descriptions and settings with numbers that are too large

Loading a description, and taking over settings, fail for the size of a number exactly when the first bad entry or the
first bad number of seconds is too large. Merging never fails for that reason.
-/

namespace RemoteCall

section
variable {k : FaultKind}

/-! ## What numbers have no part in -/

theorem HeaderMap.faults_freeze {members : List (String × Json)} (h : Faults k (freeze members)) : k = .wrongType := by
  obtain ⟨f, hf, rfl⟩ := h
  obtain ⟨_, m, _, -, -, -, rfl⟩ := freeze_eq_error.mp hf
  exact kind_refusal m.1 m.2

theorem Timestamp.faults_read {s : String} (h : Faults k (Timestamp.read s)) : k = .invalidValue := by
  unfold Timestamp.read at h
  split at h
  · unfold Timestamp.check at h
    split_ifs at h <;> simp [Fault.kind] at h <;> exact h.symm
  · exact ((faults_error _).mp h).symm

theorem Status.faults_ofJson {v : Json} (h : Faults k (Status.ofJson v)) : k = .invalidValue := by
  unfold Status.ofJson at h
  split at h
  · split at h
    · exact absurd h (faults_ok _)
    · exact ((faults_error _).mp h).symm
  · exact ((faults_error _).mp h).symm

namespace Context

theorem faults_checkStreamTimeout {d : Option Duration} (h : Faults k (checkStreamTimeout d)) : k = .invalidValue := by
  unfold checkStreamTimeout at h
  split at h
  · split_ifs at h
    · exact ((faults_error _).mp h).symm
    · exact absurd h (faults_ok _)
  · exact absurd h (faults_ok _)

theorem faults_merge {c d : Context} (h : Faults k (c.merge (.context d))) :
    k = .invalidValue ∨ k = .foreignTransport := by
  simp only [merge, faults_bind] at h
  rcases h with h | ⟨e, -, h⟩
  · unfold nullToSelf at h
    dsimp only at h
    split_ifs at h
    · exact absurd h (faults_ok _)
    · exact .inr ((faults_error _).mp h).symm
  · simp only [check, faults_bind, pure_eq_ok, faults_ok, and_false, exists_false, or_false] at h
    rcases h with h | ⟨-, -, h⟩ <;> exact .inl (faults_checkStreamTimeout h)

section
variable {t : Transport}

/-! ## Entries -/

def secondsKeys : List String := ["timeout_seconds", "stream_wait_timeout_seconds", "stream_idle_timeout_seconds"]

inductive TooLarge : String → Json → Prop
  | seconds {key : String} {n : Number} : key ∈ secondsKeys → n.BeyondDurations → TooLarge key (.number n)
  | retry {members : List (String × Json)} :
      FirstBad (fun m => RetrySettings.Converts m.1 m.2) (fun m => RetrySettings.TooLarge m.1 m.2) members →
      TooLarge "retry_settings" (.object members)

/-- A description that fails for the size of a number: the first entry that cannot be loaded has one that is too
large. -/
def TooLargeIn (t : Transport) (d : List (String × Json)) : Prop :=
  FirstBad (fun e => ∃ c, ofEntry t e.1 e.2 = .ok c) (fun e => TooLarge e.1 e.2) d

theorem overflows_secondsField {key : String} {v : Json} :
    Faults .outOfRange (secondsField key v) ↔ ∃ n, v = .number n ∧ n.BeyondDurations := by
  cases v <;> simp [secondsField, Duration.faults_ofSeconds, Fault.kind]

theorem named_secondsField (key : String) (v : Json) : ¬ Faults .missingName (secondsField key v) := by
  cases v <;> simp [secondsField, Duration.faults_ofSeconds, Fault.kind]

theorem faults_textField {key wanted : String} {v : Json} (h : Faults k (textField key wanted v)) :
    k = .invalidValue := by
  cases v with
  | string => exact absurd h (faults_ok _)
  | _ => exact ((faults_error _).mp h).symm

theorem faults_objectField {key : String} {v : Json} (h : Faults k (objectField key v)) : k = .invalidValue := by
  cases v with
  | object => exact absurd h (faults_ok _)
  | _ => exact ((faults_error _).mp h).symm

theorem faults_listField {key : String} {v : Json} (h : Faults k (listField key v)) : k = .invalidValue := by
  cases v with
  | list => exact absurd h (faults_ok _)
  | _ => exact ((faults_error _).mp h).symm

theorem faults_setStream {set : Option Duration → Context} {d : Option Duration} (h : Faults k (setStream t set d)) :
    k = .invalidValue ∨ k = .unsupportedCapability := by
  unfold setStream at h
  split at h
  · exact .inr ((faults_error _).mp h).symm
  · simp only [faults_bind, pure_eq_ok, faults_ok, and_false, exists_false, or_false] at h
    exact .inl (faults_checkStreamTimeout h)

theorem faults_withHeaders {c : Context} {members : List (String × Json)}
    (h : Faults k (c.withHeaders (some members))) : k = .wrongType := by
  simp only [withHeaders, HeaderMap.appendMembers, faults_bind, pure_eq_ok, faults_ok, and_false, exists_false,
    or_false] at h
  exact HeaderMap.faults_freeze h

theorem faults_setEntry {c : Context} {key : String} {v : Json} (h : Faults k (c.setEntry key v)) :
    Faults k (secondsField key v) ∧ key ∈ secondsKeys ∨
    (∃ members, key = "retry_settings" ∧ v = .object members ∧ Faults k (RetrySettings.ofMembers members)) ∨
    k = .invalidValue ∨ k = .wrongType ∨ k = .unsupportedCapability := by
  unfold setEntry at h
  split at h <;> simp only [faults_bind, pure_eq_ok, faults_ok, faults_error, and_false, exists_false, or_false] at h
  · exact .inl ⟨h, by decide⟩
  · rcases h with h | ⟨s, -, h⟩
    · exact .inr (.inr (.inl (faults_textField h)))
    · exact .inr (.inr (.inl (Timestamp.faults_read h)))
  · rcases h with h | ⟨members, -, h⟩
    · exact .inr (.inr (.inl (faults_objectField h)))
    · exact .inr (.inr (.inr (.inl (faults_withHeaders h))))
  · rcases h with h | ⟨members, hm, h⟩
    · exact .inr (.inr (.inl (faults_objectField h)))
    · exact .inr (.inl ⟨members, rfl, objectField_eq_ok.mp hm, h⟩)
  · rcases h with h | ⟨items, -, h⟩
    · exact .inr (.inr (.inl (faults_listField h)))
    · obtain ⟨-, v, -, -, -, hv⟩ := faults_mapM.mp h
      exact .inr (.inr (.inl (Status.faults_ofJson hv)))
  · rcases h with h | ⟨d, -, h⟩
    · exact .inl ⟨h, by decide⟩
    · exact .inr (.inr ((faults_setStream h).imp_right .inr))
  · rcases h with h | ⟨d, -, h⟩
    · exact .inl ⟨h, by decide⟩
    · exact .inr (.inr ((faults_setStream h).imp_right .inr))
  · exact .inr (.inr (.inl h.symm))

theorem overflows_ofEntry {key : String} {v : Json} : Faults .outOfRange (ofEntry t key v) ↔ TooLarge key v := by
  constructor
  · intro h
    rcases faults_setEntry h with ⟨h, hk⟩ | ⟨members, rfl, rfl, hm⟩ | h | h | h
    · obtain ⟨n, rfl, hn⟩ := overflows_secondsField.mp h
      exact .seconds hk hn
    · exact .retry ((RetrySettings.overflows_ofMembers members).mp hm)
    all_goals cases h
  · intro h
    cases h with
    | @seconds key n hk hn =>
      have hs (key : String) : Faults .outOfRange (secondsField key (.number n)) :=
        overflows_secondsField.mpr ⟨n, rfl, hn⟩
      simp only [secondsKeys, List.mem_cons, List.not_mem_nil, or_false] at hk
      rcases hk with rfl | rfl | rfl <;> exact faults_bind.mpr (.inl (hs _))
    | @retry members hm =>
      have hs := (RetrySettings.overflows_ofMembers members).mpr hm
      exact faults_bind.mpr (.inr ⟨members, rfl, faults_bind.mpr (.inl hs)⟩)

theorem named_ofEntry (t : Transport) (key : String) (v : Json) : ¬ Faults .missingName (ofEntry t key v) := by
  intro h
  rcases faults_setEntry h with ⟨h, -⟩ | ⟨members, -, -, h⟩ | h | h | h
  · exact named_secondsField key v h
  · exact RetrySettings.named_ofMembers members h
  all_goals cases h

/-! ## Descriptions -/

theorem faults_load {d : List (String × Json)} (hd : (Ordered.names d).Nodup) : Faults k (load t d) ↔
    FirstBad (fun e => ∃ c, ofEntry t e.1 e.2 = .ok c) (fun e => Faults k (ofEntry t e.1 e.2)) d := by
  rw [load_eq hd, faults_map, faults_mapM]

theorem overflows_load {d : List (String × Json)} (hd : (Ordered.names d).Nodup) :
    Faults .outOfRange (load t d) ↔ TooLargeIn t d := by
  rw [faults_load hd]
  exact firstBad_congr fun e => overflows_ofEntry

theorem named_load {d : List (String × Json)} (hd : (Ordered.names d).Nodup) : ¬ Faults .missingName (load t d) := by
  rw [faults_load hd]
  exact fun ⟨_, e, _, _, _, he⟩ => named_ofEntry t e.1 e.2 he

end

/-! ## Settings -/

/-- The numbers of seconds that a context takes over from settings, in the order in which they are converted. A zero
timeout is not converted. -/
def settingsSeconds (s : Settings) : List Binary64 :=
  (s.defaultTimeoutSeconds.filter fun x => !x.isZero).toList ++ s.retrySeconds

theorem faults_defaultTimeout {s : Settings} {xs : List Binary64} {bad : Binary64 → Prop}
    (hb : ∀ x, Faults k (Duration.ofSeconds (.double x)) ↔ bad x) :
    Faults k s.defaultTimeout ∨ (∃ d, s.defaultTimeout = .ok d) ∧
        FirstBad (fun x => ∃ d, Duration.ofSeconds (.double x) = .ok d) bad xs ↔
      FirstBad (fun x => ∃ d, Duration.ofSeconds (.double x) = .ok d) bad
        ((s.defaultTimeoutSeconds.filter fun x => !x.isZero).toList ++ xs) := by
  unfold Settings.defaultTimeout
  cases s.defaultTimeoutSeconds with
  | none => simp
  | some x =>
    by_cases hx : x.isZero
    · simp [hx, Option.filter]
    · simp [hx, faults_bind, bind_eq_ok, hb, Option.filter]

theorem exists_withHeaders_settings {c : Context} (hc : c.headers = .empty) (s : Settings) :
    ∃ d, c.withHeaders (some s.headerMembers) = .ok d := by
  have hf : HeaderMap.freeze s.headerMembers = .ok ⟨s.defaultHeaders.map fun h => (h.1, h.2.map .string)⟩ := by
    rw [← HeaderMap.freeze_lists, List.map_map]
    rfl
  rw [withHeaders_of_empty hc, hf]
  exact ⟨_, rfl⟩

theorem ofSettings_eq_error {t : Transport} {s : Settings} {f : Fault} : ofSettings t s = .error f ↔
    s.defaultTimeout = .error f ∨ (∃ d, s.defaultTimeout = .ok d) ∧ s.retrySettings = .error f := by
  have taken (d : Option Duration) : ∃ e, ((create t).withTimeout d).withHeaders (some s.headerMembers) = .ok e := by
    rw [withTimeout_of_unset rfl]
    exact exists_withHeaders_settings rfl s
  simp only [ofSettings, bind_eq_error, pure_eq_ok, reduceCtorEq, and_false, exists_false, or_false]
  refine or_congr_right ⟨?_, ?_⟩
  · rintro ⟨d, hd, h | ⟨c, -, h⟩⟩
    · obtain ⟨e, he⟩ := taken d
      rw [he] at h
      cases h
    · exact ⟨⟨d, hd⟩, h⟩
  · rintro ⟨⟨d, hd⟩, h⟩
    obtain ⟨e, he⟩ := taken d
    exact ⟨d, hd, .inr ⟨e, he, h⟩⟩

theorem faults_ofSettings {t : Transport} {s : Settings} : Faults k (ofSettings t s) ↔
    Faults k s.defaultTimeout ∨ (∃ d, s.defaultTimeout = .ok d) ∧ Faults k s.retrySettings := by
  simp only [Faults, ofSettings_eq_error, or_and_right, exists_or, and_assoc, exists_and_left]

theorem overflows_ofSettings {t : Transport} {s : Settings} :
    Faults .outOfRange (ofSettings t s) ↔ TooLargeSeconds (settingsSeconds s) := by
  rw [faults_ofSettings, Settings.overflows_retrySettings]
  exact faults_defaultTimeout fun x => by simp [Duration.faults_ofSeconds]

theorem named_ofSettings (t : Transport) (s : Settings) : ¬ Faults .missingName (ofSettings t s) := by
  rw [faults_ofSettings]
  rintro (h | ⟨-, h⟩)
  · have hx (x : Binary64) : Faults .missingName (Duration.ofSeconds (.double x)) ↔ False := by
      simp [Duration.faults_ofSeconds]
    obtain ⟨_, _, _, _, _, hf⟩ := (faults_defaultTimeout hx).mp (.inl h : _ ∨ _ ∧ FirstBad _ _ [])
    exact hf
  · exact Settings.named_retrySettings s h

end Context

end

end RemoteCall
