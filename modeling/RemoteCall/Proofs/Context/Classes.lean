import RemoteCall.HttpJson.Context
import RemoteCall.Proofs.Context.Setters
import RemoteCall.Streaming.Context

/-!
# Both classes as one record

A context of either class can be seen as a `Context` of its transport, and then each method does what the function on
contexts does. The methods construct their results anew, which changes nothing on a context whose timeouts are valid.
-/

namespace RemoteCall

/-! ## Methods and functions -/

namespace CallContext

def set {α : Type} [CallContext α] (c : α) : Context.Setter → Except Fault α
  | .channel h => withChannel c h
  | .transportChannel k => withTransportChannel c k
  | .credentials k => withCredentials c k
  | .tracer t => withTracer c t
  | .timeout d => withTimeout c d
  | .deadline t => withDeadline c t
  | .streamWait d => withStreamWait c d
  | .streamIdle d => withStreamIdle c d
  | .headers members => withHeaders c members
  | .retry s => withRetry c s
  | .codes s => withCodes c s

end CallContext

def Operand.argument {α : Type} (view : α → Context) : Option (Operand α) → Context.Argument
  | none => .unset
  | some (.own d) => .context (view d)
  | some (.foreign found) => .other found

/-- Every method of the class does what the function does on the contexts of a transport. -/
structure CallContext.SeenAs (α : Type) [CallContext α] (t : Transport) (view : α → Context) : Prop where
  createDefault : (createDefault : Except Fault α).map view = .ok (Context.create t)
  make (a : Context.Arguments) : (make a : Except Fault α).map view = Context.make t a
  ofSettings (s : Settings) : (ofSettings s : Except Fault α).map view = Context.ofSettings t s
  ofChannel (h : Option Handle) : (ofChannel h : Except Fault α).map view = .ok (Context.ofChannel t h)
  load (d : List (String × Json)) : (load d : Except Fault α).map view = Context.load t d
  set (c : α) (s : Context.Setter) : (view c).ValidTimeouts → (set c s).map view = s.apply (view c)
  streamWait (c : α) : streamWait c = (view c).streamWait?
  streamIdle (c : α) : streamIdle c = (view c).streamIdle?
  nullToSelf (c : α) (other : Option (Operand α)) :
    (nullToSelf c other).map view = (view c).nullToSelf (Operand.argument view other)
  merge (c : α) (other : Option (Operand α)) :
    (merge c other).map view = (view c).merge (Operand.argument view other)
  mergedEvent (c : α) : mergedEvent c = (view c).mergedEvent
  toMembers (c : α) : toMembers c = (view c).toMembers

/-- The first result seen as the second one, whose timeouts are valid. -/
def Tracks {α : Type} (view : α → Context) (x : Except Fault α) (y : Except Fault Context) : Prop :=
  x.map view = y ∧ ∀ d, y = .ok d → d.ValidTimeouts

section
variable {α β : Type} {view : α → Context}

theorem Tracks.bind {x : Except Fault α} {y : Except Fault Context} {f : α → Except Fault α}
    {g : Context → Except Fault Context} (h : Tracks view x y)
    (hf : ∀ c, (view c).ValidTimeouts → Tracks view (f c) (g (view c))) : Tracks view (x >>= f) (y >>= g) := by
  obtain ⟨rfl, hv⟩ := h
  cases x with
  | error e => exact ⟨rfl, fun d hd => nomatch hd⟩
  | ok c => exact hf c (hv _ rfl)

theorem tracks_bind_left (x : Except Fault β) {f : β → Except Fault α} {g : β → Except Fault Context}
    (h : ∀ b, Tracks view (f b) (g b)) : Tracks view (x >>= f) (x >>= g) := by
  cases x with
  | error e => exact ⟨rfl, fun d hd => nomatch hd⟩
  | ok b => exact h b

end

namespace CallContext

section
variable {α : Type} [CallContext α] {t : Transport} {view : α → Context}

theorem tracks_set (h : ∀ (c : α) (s : Context.Setter), (view c).ValidTimeouts → (set c s).map view = s.apply (view c))
    {c : α} (hc : (view c).ValidTimeouts) (s : Context.Setter) : Tracks view (set c s) (s.apply (view c)) :=
  ⟨h c s hc, fun _ hd => Context.Setter.apply_validTimeouts hc hd⟩

theorem tracks_create (h : (createDefault : Except Fault α).map view = .ok (Context.create t)) :
    Tracks view createDefault (.ok (Context.create t)) :=
  ⟨h, fun _ hd => by cases hd; exact Context.create_validTimeouts t⟩

theorem setEntry_eq_set (c : α) (key : String) (v : Json) :
    setEntry c key v = Context.Setter.ofEntry key v >>= set c := by
  unfold setEntry Context.Setter.ofEntry
  split
  case h_8 => simp
  all_goals
    simp only [bind_assoc, pure_bind]
    rfl

/-- Loading is a row of setters over either class, so it goes along with loading a context. -/
theorem tracks_load (hc : (createDefault : Except Fault α).map view = .ok (Context.create t))
    (hs : ∀ (c : α) (s : Context.Setter), (view c).ValidTimeouts → (set c s).map view = s.apply (view c))
    (d : List (String × Json)) : Tracks view (load d) (Context.load t d) := by
  have hfold : ∀ c : α, (view c).ValidTimeouts →
      Tracks view (d.foldlM (fun c e => setEntry c e.1 e.2) c) (d.foldlM (fun c e => c.setEntry e.1 e.2) (view c)) := by
    induction d with
    | nil => exact fun c hv => ⟨rfl, fun _ hd => by cases hd; exact hv⟩
    | cons e d ih =>
      intro c hv
      rw [List.foldlM_cons, List.foldlM_cons, setEntry_eq_set, Context.setEntry_eq_apply]
      refine Tracks.bind (tracks_bind_left _ fun s => ?_) ih
      exact tracks_set hs hv s
  exact (tracks_create hc).bind (g := fun c => d.foldlM (fun c e => c.setEntry e.1 e.2) c) hfold

theorem tracks_settings (hc : (createDefault : Except Fault α).map view = .ok (Context.create t))
    (hs : ∀ (c : α) (s : Context.Setter), (view c).ValidTimeouts → (set c s).map view = s.apply (view c)) (s : Settings) :
    Tracks view (do
      let c ← withTimeout (← (createDefault : Except Fault α)) (← s.defaultTimeout)
      let c ← withHeaders c (some s.headerMembers)
      let c ← withRetry c (some (← s.retrySettings))
      withCodes c (some (.ofList s.retryableCodes))) (Context.ofSettings t s) := by
  have hr : Context.ofSettings t s = Except.ok (Context.create t) >>= fun c => s.defaultTimeout >>= fun d =>
      (Context.Setter.timeout d).apply c >>= fun c => (Context.Setter.headers (some s.headerMembers)).apply c >>= fun c =>
      s.retrySettings >>= fun r => (Context.Setter.retry (some r)).apply c >>= fun c =>
      (Context.Setter.codes (some (.ofList s.retryableCodes))).apply c := rfl
  rw [hr]
  refine (tracks_create hc).bind fun c hv => tracks_bind_left s.defaultTimeout fun d => ?_
  refine (tracks_set hs hv (.timeout d)).bind fun c hv => ?_
  refine (tracks_set hs hv (.headers _)).bind fun c hv => tracks_bind_left s.retrySettings fun r => ?_
  exact (tracks_set hs hv (.retry _)).bind fun c hv => tracks_set hs hv (.codes _)

end

end CallContext

namespace Context

theorem Setter.apply_bind_check {c : Context} (hc : c.ValidTimeouts) (s : Setter) : s.apply c >>= check = s.apply c := by
  cases h : s.apply c with
  | error f => rfl
  | ok d => exact check_of_apply hc h

end Context

/-! ## HTTP/JSON -/

namespace HttpJsonContext

def toContext (c : HttpJsonContext) : Context :=
  ⟨.httpJson, c.channel, c.timeout, c.deadline, c.credentials, c.headers, c.tracer, c.retry, c.codes, none, none⟩

section
variable {c : HttpJsonContext}

theorem withTimeout_eq (c : HttpJsonContext) (timeout : Option Duration) : c.withTimeout timeout =
    if c.toContext.keepsTimeout timeout then .ok c
    else construct { c.given with timeout := Context.normalizeTimeout timeout } := by
  unfold withTimeout Context.keepsTimeout
  rw [show c.toContext.timeout = c.timeout from rfl]
  cases Context.normalizeTimeout timeout <;> cases c.timeout <;> simp

theorem set_toContext (c : HttpJsonContext) (s : Context.Setter) (hc : c.toContext.ValidTimeouts) :
    (CallContext.set c s).map toContext = s.apply c.toContext := by
  rw [← Context.Setter.apply_bind_check hc s]
  cases s with
  | timeout timeout =>
    show (c.withTimeout timeout).map toContext = Context.check (c.toContext.withTimeout timeout)
    rw [withTimeout_eq, Context.withTimeout]
    split
    · exact hc.check_eq.symm
    · rfl
  | headers members =>
    cases members with
    | none => rfl
    | some members =>
      show (c.withHeaders (some members)).map toContext = c.toContext.withHeaders (some members) >>= Context.check
      simp only [withHeaders, Context.withHeaders, map_bind]
      rw [show c.toContext.headers = c.headers from rfl]
      cases c.headers.appendMembers members <;> rfl
  | transportChannel channel =>
    cases channel with
    | wrapped t h => cases t <;> rfl
    | unset | other => rfl
  | tracer tracer => cases tracer <;> rfl
  | channel | credentials | deadline | retry | codes | streamWait | streamIdle => rfl

theorem make_toContext (a : Context.Arguments) : (make a).map toContext = Context.make .httpJson a := by
  obtain ⟨channel, timeout, deadline, credentials, headers, tracer, retry, codes, wait, idle⟩ := a
  cases idle <;> cases wait <;> try rfl
  cases headers with
  | none => rfl
  | some members =>
    simp only [make, Context.make, construct, Option.map_some, Option.getD_some, map_bind]
    cases HeaderMap.freeze members <;> rfl

theorem merge_toContext (c : HttpJsonContext) (other : Option (Operand HttpJsonContext)) :
    (c.merge other).map toContext = c.toContext.merge (Operand.argument toContext other) := by
  rcases other with _ | _ | _ <;> rfl

theorem toMembers_toContext (c : HttpJsonContext) : c.toMembers = c.toContext.toMembers := by
  obtain ⟨channel, timeout, deadline, credentials, headers, tracer, retry, codes⟩ := c
  cases tracer <;> rfl

theorem seenAs : CallContext.SeenAs HttpJsonContext .httpJson toContext where
  createDefault := rfl
  make := make_toContext
  ofSettings s := (CallContext.tracks_settings rfl set_toContext s).1
  ofChannel _ := rfl
  load d := (CallContext.tracks_load rfl set_toContext d).1
  set := set_toContext
  streamWait _ := rfl
  streamIdle _ := rfl
  nullToSelf _ other := by rcases other with _ | _ | _ <;> rfl
  merge := merge_toContext
  mergedEvent _ := rfl
  toMembers := toMembers_toContext

end

end HttpJsonContext

/-! ## Streaming -/

namespace StreamingContext

def toContext (c : StreamingContext) : Context :=
  ⟨.streaming, c.channel, c.timeout, c.deadline, c.credentials, c.headers, c.tracer, c.retry, c.codes, c.streamWait,
    c.streamIdle⟩

section
variable {c : StreamingContext}

/-- Constructing a copy anew is checking it. -/
theorem construct_given (c : StreamingContext) : (construct c.given).map toContext = Context.check c.toContext := by
  simp only [construct, given, Context.check, map_bind, ok_bind]
  rfl

theorem withTimeout_eq (c : StreamingContext) (timeout : Option Duration) : c.withTimeout timeout =
    if c.toContext.keepsTimeout timeout then .ok c
    else construct { c.given with timeout := Context.normalizeTimeout timeout } := by
  unfold withTimeout Context.keepsTimeout
  rw [show c.toContext.timeout = c.timeout from rfl]
  cases Context.normalizeTimeout timeout <;> cases c.timeout <;> simp

theorem set_toContext (c : StreamingContext) (s : Context.Setter) (hc : c.toContext.ValidTimeouts) :
    (CallContext.set c s).map toContext = s.apply c.toContext := by
  rw [← Context.Setter.apply_bind_check hc s]
  cases s with
  | timeout timeout =>
    show (c.withTimeout timeout).map toContext = Context.check (c.toContext.withTimeout timeout)
    rw [withTimeout_eq, Context.withTimeout]
    split
    · exact hc.check_eq.symm
    · exact construct_given { c with timeout := Context.normalizeTimeout timeout }
  | headers members =>
    cases members with
    | none => rfl
    | some members =>
      show (c.withHeaders (some members)).map toContext = c.toContext.withHeaders (some members) >>= Context.check
      simp only [withHeaders, Context.withHeaders, map_bind, bind_assoc]
      exact bind_congr fun headers => construct_given { c with headers }
  | transportChannel channel =>
    cases channel with
    | wrapped t h =>
      cases t with
      | httpJson => rfl
      | streaming => exact construct_given { c with channel := h }
    | unset | other => rfl
  | tracer tracer =>
    cases tracer with
    | none => rfl
    | some t => exact construct_given { c with tracer := some t }
  | streamWait timeout =>
    show (c.withStreamWait timeout).map toContext = c.toContext.withStreamWait timeout >>= Context.check
    simp only [withStreamWait, Context.withStreamWait, map_bind]
    rw [show c.toContext.transport = .streaming from rfl]
    simp only [bind_assoc]
    exact bind_congr fun streamWait => construct_given { c with streamWait }
  | streamIdle timeout =>
    show (c.withStreamIdle timeout).map toContext = c.toContext.withStreamIdle timeout >>= Context.check
    simp only [withStreamIdle, Context.withStreamIdle, map_bind]
    rw [show c.toContext.transport = .streaming from rfl]
    simp only [bind_assoc]
    exact bind_congr fun streamIdle => construct_given { c with streamIdle }
  | channel channel => exact construct_given { c with channel }
  | credentials credentials => exact construct_given { c with credentials }
  | deadline deadline => exact construct_given { c with deadline }
  | retry retry => exact construct_given { c with retry }
  | codes codes => exact construct_given { c with codes }

theorem make_toContext (a : Context.Arguments) : (make a).map toContext = Context.make .streaming a := by
  obtain ⟨channel, timeout, deadline, credentials, headers, tracer, retry, codes, wait, idle⟩ := a
  cases headers with
  | none => rfl
  | some members =>
    simp only [make, Context.make, construct, Option.map_some, Option.getD_some]
    cases HeaderMap.freeze members with
    | error f => rfl
    | ok headers =>
      exact construct_given
        ⟨channel, timeout, deadline, credentials, headers, tracer, retry, codes, wait.join, idle.join⟩

theorem merge_toContext (c : StreamingContext) (other : Option (Operand StreamingContext)) :
    (c.merge other).map toContext = c.toContext.merge (Operand.argument toContext other) := by
  cases other with
  | none => rfl
  | some other =>
    cases other with
    | foreign found => rfl
    | own d =>
      exact construct_given ⟨Context.firstSet d.channel c.channel, Context.firstSet d.timeout c.timeout,
        Context.firstSet d.deadline c.deadline, Context.firstSet d.credentials c.credentials, c.headers ++ d.headers,
        Context.firstSet d.tracer c.tracer, Context.firstSet d.retry c.retry, Context.firstSet d.codes c.codes,
        Context.firstSet d.streamWait c.streamWait, Context.firstSet d.streamIdle c.streamIdle⟩

theorem toMembers_toContext (c : StreamingContext) : c.toMembers = c.toContext.toMembers := by
  obtain ⟨channel, timeout, deadline, credentials, headers, tracer, retry, codes, wait, idle⟩ := c
  cases tracer <;> rfl

theorem seenAs : CallContext.SeenAs StreamingContext .streaming toContext where
  createDefault := rfl
  make := make_toContext
  ofSettings s := (CallContext.tracks_settings rfl set_toContext s).1
  ofChannel _ := rfl
  load d := (CallContext.tracks_load rfl set_toContext d).1
  set := set_toContext
  streamWait _ := rfl
  streamIdle _ := rfl
  nullToSelf _ other := by rcases other with _ | _ | _ <;> rfl
  merge := merge_toContext
  mergedEvent _ := rfl
  toMembers := toMembers_toContext

end

end StreamingContext

end RemoteCall
