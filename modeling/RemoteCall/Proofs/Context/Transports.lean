import RemoteCall.Proofs.Context.Classes
import RemoteCall.Proofs.Ordered

/-!
# One program over both classes

Commands that both classes of contexts have can be run with the one or the other. Each context of the transport without
streams has its counterpart among the contexts with streams, the one with the same fields and no stream timeouts. Every
method takes counterparts to counterparts, and so does every program of such steps.
-/

namespace RemoteCall

/-! ## Programs -/

def streamKeys : List String := ["stream_wait_timeout_seconds", "stream_idle_timeout_seconds"]

inductive CommonMaker where
  | create
  | make (a : Context.Arguments) (noStreams : a.streamWait = none ∧ a.streamIdle = none)
  | load (description : List (String × Json)) (noStreams : ∀ key ∈ Ordered.names description, key ∉ streamKeys)
  | ofSettings (settings : Settings)
  | ofChannel (channel : Option Handle)

/-- A channel of a transport is one of the transport that the program runs over. -/
inductive CommonSetter where
  | channel (h : Option Handle)
  | transportChannel (h : Option Handle)
  | credentials (k : Option Credentials)
  | tracer (t : Option Tracer)
  | timeout (d : Option Duration)
  | deadline (t : Option Timestamp)
  | headers (members : Option (List (String × Json)))
  | retry (s : Option RetrySettings)
  | codes (s : Option StatusSet)

/-- The other context of a merge is in a register, or there is none. -/
inductive CommonCommand where
  | make (maker : CommonMaker)
  | set (on : String) (setter : CommonSetter)
  | merge (on : String) (other : Option String)
  | nullToSelf (on : String) (other : Option String)

abbrev Program := List (Option String × CommonCommand)

abbrev Registers (α : Type) := List (String × α)

section
variable {α : Type} [CallContext α]

open CallContext in
def CommonMaker.run : CommonMaker → Except Fault α
  | create => createDefault
  | make a _ => CallContext.make a
  | load d _ => CallContext.load d
  | ofSettings s => CallContext.ofSettings s
  | ofChannel h => CallContext.ofChannel h

open CallContext in
def CommonSetter.apply (c : α) : CommonSetter → Except Fault α
  | channel h => withChannel c h
  | transportChannel h => withTransportChannel c (wrap α h)
  | credentials k => withCredentials c k
  | tracer t => withTracer c t
  | timeout d => withTimeout c d
  | deadline t => withDeadline c t
  | headers members => withHeaders c members
  | retry s => withRetry c s
  | codes s => withCodes c s

def Registers.find (r : Registers α) (name : String) : Except Fault α :=
  match Ordered.get? r name with
  | some c => .ok c
  | none => .error (.unknownRegister name)

def Registers.operand (r : Registers α) : Option String → Except Fault (Option (Operand α))
  | none => .ok none
  | some name => return some (.own (← r.find name))

def CommonCommand.run (r : Registers α) : CommonCommand → Except Fault α
  | make maker => maker.run
  | set on setter => do setter.apply (← r.find on)
  | merge on other => do CallContext.merge (← r.find on) (← r.operand other)
  | nullToSelf on other => do CallContext.nullToSelf (← r.find on) (← r.operand other)

def Registers.step (r : Registers α) (register : Option String) (command : CommonCommand) : Registers α :=
  match command.run r, register with
  | .ok c, some name => Ordered.insert name c r
  | _, _ => r

end

def Program.run (α : Type) [CallContext α] (p : Program) : Registers α := p.foldl (fun r s => r.step s.1 s.2) []

/-! ## Counterparts -/

namespace HttpJsonContext

def toStreaming (c : HttpJsonContext) : StreamingContext :=
  ⟨c.channel, c.timeout, c.deadline, c.credentials, c.headers, c.tracer, c.retry, c.codes, none, none⟩

def Given.toStreaming (g : Given) : StreamingContext.Given :=
  ⟨g.channel, g.timeout, g.deadline, g.credentials, g.headers, g.tracer, g.retry, g.codes, none, none⟩

/-- Both constructors refuse the same values and normalize the others in the same way. -/
theorem construct_toStreaming (g : Given) :
    StreamingContext.construct g.toStreaming = (construct g).map toStreaming := by
  obtain ⟨channel, timeout, deadline, credentials, headers, tracer, retry, codes⟩ := g
  cases headers with
  | unset | frozen => rfl
  | members members =>
    simp only [construct, StreamingContext.construct, Given.toStreaming, map_bind]
    cases HeaderMap.freeze members <;> rfl

theorem withTimeout_toStreaming (c : HttpJsonContext) (timeout : Option Duration) :
    c.toStreaming.withTimeout timeout = (c.withTimeout timeout).map toStreaming := by
  have hc : StreamingContext.construct { c.toStreaming.given with timeout := Context.normalizeTimeout timeout } =
      (construct { c.given with timeout := Context.normalizeTimeout timeout }).map toStreaming :=
    construct_toStreaming { c.given with timeout := Context.normalizeTimeout timeout }
  rw [withTimeout_eq, StreamingContext.withTimeout_eq, hc]
  rw [show c.toStreaming.toContext.keepsTimeout timeout = c.toContext.keepsTimeout timeout from rfl]
  split <;> rfl

theorem withHeaders_toStreaming (c : HttpJsonContext) (members : Option (List (String × Json))) :
    c.toStreaming.withHeaders members = (c.withHeaders members).map toStreaming := by
  cases members with
  | none => rfl
  | some members =>
    simp only [withHeaders, StreamingContext.withHeaders, map_bind]
    exact bind_congr fun headers => construct_toStreaming { c.given with headers := .frozen headers }

theorem apply_toStreaming (c : HttpJsonContext) (s : CommonSetter) :
    s.apply c.toStreaming = (s.apply c).map toStreaming := by
  cases s with
  | timeout d => exact withTimeout_toStreaming c d
  | headers members => exact withHeaders_toStreaming c members
  | tracer t =>
    cases t with
    | none => rfl
    | some t => exact construct_toStreaming { c.given with tracer := some t }
  | channel channel | transportChannel channel => exact construct_toStreaming { c.given with channel }
  | credentials credentials => exact construct_toStreaming { c.given with credentials }
  | deadline deadline => exact construct_toStreaming { c.given with deadline }
  | retry retry => exact construct_toStreaming { c.given with retry }
  | codes codes => exact construct_toStreaming { c.given with codes }

theorem setEntry_toStreaming (c : HttpJsonContext) {key : String} (v : Json) (hk : key ∉ streamKeys) :
    CallContext.setEntry c.toStreaming key v = (CallContext.setEntry c key v).map toStreaming := by
  simp only [streamKeys, List.mem_cons, List.not_mem_nil, or_false, not_or] at hk
  unfold CallContext.setEntry
  split
  · simp only [map_bind]
    exact bind_congr fun d => apply_toStreaming c (.timeout (some d))
  · simp only [map_bind]
    exact bind_congr fun _ => bind_congr fun t => apply_toStreaming c (.deadline (some t))
  · simp only [map_bind]
    exact bind_congr fun members => apply_toStreaming c (.headers (some members))
  · simp only [map_bind]
    exact bind_congr fun _ => bind_congr fun r => apply_toStreaming c (.retry (some r))
  · simp only [map_bind]
    exact bind_congr fun _ => bind_congr fun s => apply_toStreaming c (.codes (some (.ofList s)))
  · exact absurd rfl hk.1
  · exact absurd rfl hk.2
  · rfl

theorem createDefault_toStreaming : StreamingContext.createDefault = createDefault.map toStreaming :=
  construct_toStreaming {}

theorem load_toStreaming {d : List (String × Json)} (hd : ∀ key ∈ Ordered.names d, key ∉ streamKeys) :
    (CallContext.load d : Except Fault StreamingContext) =
      (CallContext.load d : Except Fault HttpJsonContext).map toStreaming := by
  have hfold : ∀ c : HttpJsonContext, d.foldlM (fun c e => CallContext.setEntry c e.1 e.2) c.toStreaming =
      (d.foldlM (fun c e => CallContext.setEntry c e.1 e.2) c).map toStreaming := by
    induction d with
    | nil => intro c; rfl
    | cons e d ih =>
      intro c
      have hk : e.1 ∉ streamKeys := hd e.1 List.mem_cons_self
      rw [List.foldlM_cons, List.foldlM_cons]
      exact bind_eq_map (setEntry_toStreaming c e.2 hk) (ih fun key h => hd key (List.mem_cons_of_mem _ h))
  exact bind_eq_map createDefault_toStreaming hfold

theorem ofSettings_toStreaming (s : Settings) : StreamingContext.ofSettings s = (ofSettings s).map toStreaming := by
  refine bind_eq_map createDefault_toStreaming fun c => ?_
  rw [map_bind]
  refine bind_congr fun d => bind_eq_map (withTimeout_toStreaming c d) fun c => ?_
  refine bind_eq_map (withHeaders_toStreaming c _) fun c => ?_
  rw [map_bind]
  refine bind_congr fun retry => bind_eq_map (apply_toStreaming c (.retry (some retry))) fun c => ?_
  exact apply_toStreaming c (.codes _)

theorem make_toStreaming {a : Context.Arguments} (ha : a.streamWait = none ∧ a.streamIdle = none) :
    StreamingContext.make a = (make a).map toStreaming := by
  obtain ⟨channel, timeout, deadline, credentials, headers, tracer, retry, codes, wait, idle⟩ := a
  obtain ⟨rfl, rfl⟩ : wait = none ∧ idle = none := ha
  exact construct_toStreaming
    ⟨channel, timeout, deadline, credentials, (headers.map .members).getD .unset, tracer, retry, codes⟩

theorem ofChannel_toStreaming (h : Option Handle) : StreamingContext.ofChannel h = (ofChannel h).map toStreaming :=
  bind_eq_map createDefault_toStreaming fun c => apply_toStreaming c (.channel h)

theorem maker_toStreaming (m : CommonMaker) : m.run = (m.run : Except Fault HttpJsonContext).map toStreaming := by
  cases m with
  | create => exact createDefault_toStreaming
  | make a ha => exact make_toStreaming ha
  | load d hd => exact load_toStreaming hd
  | ofSettings s => exact ofSettings_toStreaming s
  | ofChannel h => exact ofChannel_toStreaming h

theorem merge_toStreaming (c d : HttpJsonContext) :
    c.toStreaming.merge (some (.own d.toStreaming)) = (c.merge (some (.own d))).map toStreaming :=
  construct_toStreaming ⟨Context.firstSet d.channel c.channel, Context.firstSet d.timeout c.timeout,
    Context.firstSet d.deadline c.deadline, Context.firstSet d.credentials c.credentials,
    .frozen (c.headers ++ d.headers), Context.firstSet d.tracer c.tracer, Context.firstSet d.retry c.retry,
    Context.firstSet d.codes c.codes⟩

end HttpJsonContext

/-! ## Registers -/

def Registers.toStreaming (r : Registers HttpJsonContext) : Registers StreamingContext :=
  r.map fun e => (e.1, e.2.toStreaming)

section
variable (r : Registers HttpJsonContext)

theorem Registers.find_toStreaming (name : String) :
    r.toStreaming.find name = (r.find name).map HttpJsonContext.toStreaming := by
  unfold find toStreaming
  rw [Ordered.get?_map fun _ c => HttpJsonContext.toStreaming c]
  cases Ordered.get? r name <;> rfl

/-- A step gives the counterpart of what it gives with the other class. -/
theorem CommonCommand.run_toStreaming (command : CommonCommand) :
    command.run r.toStreaming = (command.run r).map HttpJsonContext.toStreaming := by
  cases command with
  | make maker => exact HttpJsonContext.maker_toStreaming maker
  | set on setter => exact bind_eq_map (r.find_toStreaming on) fun c => HttpJsonContext.apply_toStreaming c setter
  | merge on other =>
    refine bind_eq_map (r.find_toStreaming on) fun c => ?_
    cases other with
    | none => rfl
    | some name =>
      show (r.toStreaming.find name >>= _) >>= _ = ((r.find name >>= _) >>= _).map _
      rw [bind_assoc, bind_assoc]
      exact bind_eq_map (r.find_toStreaming name) fun d => HttpJsonContext.merge_toStreaming c d
  | nullToSelf on other =>
    refine bind_eq_map (r.find_toStreaming on) fun c => ?_
    cases other with
    | none => rfl
    | some name =>
      show (r.toStreaming.find name >>= _) >>= _ = ((r.find name >>= _) >>= _).map _
      rw [bind_assoc, bind_assoc]
      exact bind_eq_map (r.find_toStreaming name) fun d => rfl

theorem Registers.step_toStreaming (register : Option String) (command : CommonCommand) :
    r.toStreaming.step register command = (r.step register command).toStreaming := by
  unfold step
  rw [CommonCommand.run_toStreaming]
  cases command.run r with
  | error f => cases register <;> rfl
  | ok c =>
    cases register with
    | none => rfl
    | some name => exact (Ordered.map_insert HttpJsonContext.toStreaming name c r).symm

end

theorem Program.run_toStreaming (p : Program) : p.run StreamingContext = (p.run HttpJsonContext).toStreaming := by
  suffices h : ∀ r : Registers HttpJsonContext, p.foldl (fun r s => r.step s.1 s.2) r.toStreaming =
      (p.foldl (fun r s => r.step s.1 s.2) r).toStreaming from h []
  induction p with
  | nil => intro r; rfl
  | cons step p ih =>
    intro r
    rw [List.foldl_cons, List.foldl_cons, Registers.step_toStreaming]
    exact ih _

/-! ## Agreement -/

/-- The view of a context starts with its transport and, for streams, ends with the stream timeouts. -/
structure HttpJsonContext.Agrees (c : HttpJsonContext) (d : StreamingContext) : Prop where
  channel : c.channel = d.channel
  timeout : c.timeout = d.timeout
  deadline : c.deadline = d.deadline
  credentials : c.credentials = d.credentials
  headers : c.headers = d.headers
  tracer : c.tracer = d.tracer
  retry : c.retry = d.retry
  codes : c.codes = d.codes
  streamWait : d.streamWait = none
  streamIdle : d.streamIdle = none
  views : ∃ shared, c.toMembers = ("transport", .string "httpjson") :: shared ∧
    d.toMembers = ("transport", .string "streaming") :: shared ++
      [("stream_wait_timeout_seconds", .null), ("stream_idle_timeout_seconds", .null)]

def SameResult {α β : Type} (related : α → β → Prop) : Except Fault α → Except Fault β → Prop
  | .ok a, .ok b => related a b
  | .error f, .error g => f = g
  | _, _ => False

theorem HttpJsonContext.agrees_toStreaming (c : HttpJsonContext) : c.Agrees c.toStreaming :=
  ⟨rfl, rfl, rfl, rfl, rfl, rfl, rfl, rfl, rfl, rfl, _, rfl, rfl⟩

theorem HttpJsonContext.sameResult_toStreaming (x : Except Fault HttpJsonContext) :
    SameResult Agrees x (x.map toStreaming) := by
  cases x with
  | error f => rfl
  | ok c => exact c.agrees_toStreaming

/-- After any program the registers of both classes agree, and so do the results of any next step. -/
theorem Program.transports_agree (p : Program) :
    (∀ name, SameResult HttpJsonContext.Agrees ((p.run HttpJsonContext).find name) ((p.run StreamingContext).find name)) ∧
    ∀ command : CommonCommand, SameResult HttpJsonContext.Agrees
      (command.run (p.run HttpJsonContext)) (command.run (p.run StreamingContext)) := by
  rw [run_toStreaming]
  constructor
  · intro name
    rw [Registers.find_toStreaming]
    exact HttpJsonContext.sameResult_toStreaming _
  · intro command
    rw [CommonCommand.run_toStreaming]
    exact HttpJsonContext.sameResult_toStreaming _

end RemoteCall
