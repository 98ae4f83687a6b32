import RemoteCall.Context.Configured
import RemoteCall.Context.Description
import RemoteCall.Context.Equality
import RemoteCall.Context.Merge

/-!
# Contexts in registers

A program makes contexts and changes them step by step, holding them in named registers. A step that fails holds
nothing. Each context and each header map is known by a number as well, so that it shows when a step hands on the very
same one; all empty header maps are the one numbered zero.
-/

namespace RemoteCall

/-! ## Single steps -/

namespace Context

/-- Ways to make a context out of nothing. -/
inductive Maker where
  | create (transport : Transport)
  | load (transport : Transport) (description : List (String × Json))
  | make (transport : Transport) (arguments : Arguments)
  | ofSettings (transport : Transport) (settings : Settings)
  | ofChannel (transport : Transport) (channel : Option Handle)

def Maker.run : Maker → Except Fault Context
  | create t => .ok (.create t)
  | load t d => Context.load t d
  | make t a => Context.make t a
  | ofSettings t s => Context.ofSettings t s
  | ofChannel t h => .ok (.ofChannel t h)

inductive Setter where
  | channel (h : Option Handle)
  | transportChannel (channel : ChannelArgument)
  | credentials (k : Option Credentials)
  | tracer (t : Option Tracer)
  | timeout (d : Option Duration)
  | deadline (t : Option Timestamp)
  | streamWait (d : Option Duration)
  | streamIdle (d : Option Duration)
  | headers (members : Option (List (String × Json)))
  | retry (s : Option RetrySettings)
  | codes (s : Option StatusSet)

def Setter.apply (c : Context) : Setter → Except Fault Context
  | channel h => .ok (c.withChannel h)
  | transportChannel k => c.withTransportChannel k
  | credentials k => .ok (c.withCredentials k)
  | tracer t => c.withTracer t
  | timeout d => .ok (c.withTimeout d)
  | deadline t => .ok (c.withDeadline t)
  | streamWait d => c.withStreamWait d
  | streamIdle d => c.withStreamIdle d
  | headers members => c.withHeaders members
  | retry s => .ok (c.withRetry s)
  | codes s => .ok (c.withCodes s)

end Context

/-! ## Registers -/

/-- A context with its number and the number of its header map. -/
structure Held where
  context : Context
  identity : Nat
  headers : Nat

structure Registry where
  held : List (String × Held)
  /-- A number above all those in use. -/
  fresh : Nat

inductive OtherContext where
  | unset
  | register (name : String)
  /-- Anything but a context, by the name of its type. -/
  | other (typeName : String)

inductive Command where
  | make (maker : Context.Maker)
  | set (on : String) (setter : Context.Setter)
  | merge (on : String) (other : OtherContext)
  | nullToSelf (on : String) (other : OtherContext)

/-- What a step gives, with the events it reports. -/
structure Outcome where
  held : Held
  events : List Event

namespace Held

def ofMade (fresh : Nat) (c : Context) : Held := ⟨c, fresh, if c.headers.isEmpty then 0 else fresh + 1⟩

/-- The context after a change. Only a timeout that is kept leaves the very same context, and only headers that have
members make a new header map. -/
def set (fresh : Nat) (h : Held) (setter : Context.Setter) : Except Fault Held := do
  let c ← setter.apply h.context
  match setter with
  | .timeout d => return ⟨c, if h.context.keepsTimeout d then h.identity else fresh, h.headers⟩
  | .headers (some (_ :: _)) => return ⟨c, fresh, fresh + 1⟩
  | _ => return ⟨c, fresh, h.headers⟩

/-- The second context on top of the first. The header map is new only when both have headers. -/
def merge (fresh : Nat) (h k : Held) : Except Fault Held := do
  let c ← h.context.merge (.context k.context)
  let headers :=
    if k.context.headers.isEmpty then h.headers
    else if h.context.headers.isEmpty then k.headers
    else fresh + 1
  return ⟨c, fresh, headers⟩

end Held

namespace Registry

def empty : Registry := ⟨[], 1⟩

def find (r : Registry) (name : String) : Except Fault Held :=
  match Ordered.get? r.held name with
  | some h => .ok h
  | none => .error (.unknownRegister name)

def run (r : Registry) : Command → Except Fault Outcome
  | .make maker => return ⟨.ofMade r.fresh (← maker.run), []⟩
  | .set on setter => return ⟨← (← r.find on).set r.fresh setter, []⟩
  | .merge on other => do
    let h ← r.find on
    match other with
    | .unset => return ⟨h, []⟩
    | .register name =>
      let merged ← h.merge r.fresh (← r.find name)
      return ⟨merged, [merged.context.mergedEvent]⟩
    | .other found => do
      let _ ← h.context.merge (.other found)
      return ⟨h, []⟩
  | .nullToSelf on other => do
    let h ← r.find on
    match other with
    | .unset => return ⟨h, []⟩
    | .register name =>
      let k ← r.find name
      let _ ← h.context.nullToSelf (.context k.context)
      return ⟨k, []⟩
    | .other found => do
      let _ ← h.context.nullToSelf (.other found)
      return ⟨h, []⟩

/-- The registry with a context held in a register, if one is named; the numbers of the step are used up. -/
def store (r : Registry) (register : Option String) (h : Held) : Registry :=
  ⟨match register with
    | some name => Ordered.insert name h r.held
    | none => r.held, r.fresh + 2⟩

/-- The registry after a step; a step that fails leaves it as it is. -/
def step (r : Registry) (register : Option String) (command : Command) : Registry :=
  match r.run command with
  | .ok outcome => r.store register outcome.held
  | .error _ => r

/-- The names of the registers that hold a context with a property, in alphabetical order. -/
def namesWhere (r : Registry) (p : Held → Bool) : List String :=
  ((r.held.filter fun h => p h.2).map Prod.fst).mergeSort (· ≤ ·)

/-- The registers that hold this very context. -/
def sameContext (r : Registry) (h : Held) : List String := r.namesWhere fun k => k.identity == h.identity

/-- The registers whose context has this very header map, with a name for the shared empty map. -/
def sameHeaders (r : Registry) (h : Held) (emptyName : String) : List String :=
  let names := r.namesWhere fun k => k.headers == h.headers
  if h.headers = 0 then (emptyName :: names).mergeSort (· ≤ ·) else names

end Registry

end RemoteCall
