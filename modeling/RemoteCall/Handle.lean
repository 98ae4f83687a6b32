import RemoteCall.Json.Equality

/-!
# Transports and handles

A call goes over one of two transports. What a context only passes on is held as a handle: the name of its type and a
name that tells it from other handles of that type.
-/

namespace RemoteCall

inductive Transport where
  | httpJson
  | streaming
deriving DecidableEq, Repr

namespace Transport

def name : Transport → String
  | httpJson => "httpjson"
  | streaming => "streaming"

/-- The transports in the order of their names. -/
def all : List Transport := [httpJson, streaming]

def ofName? (name : String) : Option Transport := all.find? fun t => t.name == name

def contextType : Transport → String
  | httpJson => "HttpJsonCallContext"
  | streaming => "StreamingCallContext"

def contextModule (t : Transport) : String := s!"rpccontext.{t.name}.context"

def qualifiedContextType (t : Transport) : String := t.contextModule ++ "." ++ t.contextType

def channelType : Transport → String
  | httpJson => "HttpJsonTransportChannel"
  | streaming => "StreamingTransportChannel"

def qualifiedChannelType (t : Transport) : String := s!"rpccontext.{t.name}.channel." ++ t.channelType

end Transport

structure Handle where
  typeName : String
  id : String
deriving DecidableEq, Repr

/-- What authenticates a call: a handle or a plain value. -/
inductive Credentials where
  | handle (h : Handle)
  | plain (v : Json)
deriving Repr

namespace Credentials

def typeName : Credentials → String
  | handle h => h.typeName
  | plain v => v.typeName

/-- Handles are equal when they are the same one, plain values by value. -/
def same : Credentials → Credentials → Bool
  | handle h, handle k => h == k
  | plain v, plain w => v.same w
  | _, _ => false

end Credentials

inductive Tracer where
  /-- The one tracer that reports nothing, under any name. -/
  | noOp (id : String)
  /-- Any other tracer, by its class. -/
  | handle (h : Handle)
deriving DecidableEq, Repr

namespace Tracer

/-- What calls without a tracer of their own report to. -/
def shared : Tracer := noOp ""

def className : Tracer → String
  | noOp _ => "BaseApiTracer"
  | handle h => h.typeName

def id : Tracer → String
  | noOp id => id
  | handle h => h.id

def same : Tracer → Tracer → Bool
  | noOp _, noOp _ => true
  | t, u => t == u

end Tracer

/-- What a caller hands over as the channel of a transport. -/
inductive ChannelArgument where
  | unset
  | wrapped (transport : Transport) (channel : Option Handle)
  /-- Anything else, by the name of its type. -/
  | other (typeName : String)
deriving Repr

/-- Two optional values are equal when both are missing or both are there and related. -/
def sameOption {α : Type} (same : α → α → Bool) : Option α → Option α → Bool
  | none, none => true
  | some a, some b => same a b
  | _, _ => false

end RemoteCall
