import RemoteCall.Context.Equality

/-!
# Hashes of contexts

A hash is put together from the hashes of the plain values in it. How those are computed is left open, up to what holds
of any hash: numbers that are equal and timestamps that are the same have the same hash, and the hash of a set does not
depend on the order of its members.
-/

namespace RemoteCall

structure Hasher where
  unset : Int
  text : String → Int
  number : Number → Int
  duration : Duration → Int
  timestamp : Timestamp → Int
  status : Status → Int
  sequence : List Int → Int
  set : List Int → Int
  number_congr : ∀ {m n : Number}, m.numEq n = true → number m = number n
  timestamp_congr : ∀ {t u : Timestamp}, t.same u = true → timestamp t = timestamp u
  set_congr : ∀ {l m : List Int}, l.Perm m → set l = set m

variable (H : Hasher)

namespace Hasher

def ofBool (b : Bool) : Int := H.number (.integer (if b then 1 else 0))

def ofOption {α : Type} (hash : α → Int) : Option α → Int
  | none => H.unset
  | some a => hash a

end Hasher

/-- The hash of a value in a header; a list or an object has none, and what stands for it is not used. -/
def Json.hash : Json → Int
  | .bool b => H.ofBool b
  | .number n => H.number n
  | .string s => H.text s
  | _ => H.unset

/-- The hash of the pairs of a name and its values as a set. -/
def HeaderMap.hash (h : HeaderMap) : Except Fault Int :=
  match h.unhashable? with
  | some kind => .error (.unhashable kind)
  | none => .ok (H.set (h.entries.map fun e => H.sequence [H.text e.1, H.sequence (e.2.map (Json.hash H))]))

def RetrySettings.hash (s : RetrySettings) : Int :=
  H.sequence [H.duration s.totalTimeout, H.duration s.initialRetryDelay, H.number s.retryDelayMultiplier,
    H.duration s.maxRetryDelay, H.number (.integer s.maxAttempts), H.ofBool s.jittered,
    H.duration s.initialRpcTimeout, H.number s.rpcTimeoutMultiplier, H.duration s.maxRpcTimeout]

def StatusSet.hash (s : StatusSet) : Int := H.set (s.members.map H.status)

namespace Context

/-- The hashes of the fields that count, in order. Channel, credentials and tracer do not count. -/
def fieldHashes (c : Context) (headers : Int) : List Int :=
  [H.ofOption H.duration c.timeout, H.ofOption H.timestamp c.deadline, headers,
    H.ofOption (RetrySettings.hash H) c.retry, H.ofOption (StatusSet.hash H) c.codes] ++
  match c.transport with
  | .httpJson => []
  | .streaming => [H.ofOption H.duration c.streamWait, H.ofOption H.duration c.streamIdle]

def hash (c : Context) : Except Fault Int :=
  return H.sequence (c.fieldHashes H (← c.headers.hash H))

end Context

end RemoteCall
