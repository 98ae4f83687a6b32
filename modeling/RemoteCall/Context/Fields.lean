import RemoteCall.Handle
import RemoteCall.Headers
import RemoteCall.Retry.Description
import RemoteCall.Status
import RemoteCall.Timestamp.Basic

/-!
# Fields of contexts

What contexts of every transport do with their fields: a timeout is normalized, a stream timeout is checked, and of two
values the one that is set wins.
-/

namespace RemoteCall.Context

/-- A timeout that is zero or negative is no timeout. -/
def normalizeTimeout (timeout : Option Duration) : Option Duration := timeout.filter (Duration.zero < ·)

/-- A stream timeout may be zero but not negative. -/
def checkStreamTimeout (timeout : Option Duration) : Except Fault (Option Duration) :=
  match timeout with
  | some d => if d < Duration.zero then .error (.negativeStreamTimeout d.seconds) else .ok timeout
  | none => .ok none

/-- The value that is set, the first one if both are. -/
def firstSet {α : Type} (preferred fallback : Option α) : Option α :=
  match preferred with
  | some _ => preferred
  | none => fallback

def secondsOf (d : Option Duration) : Json := Json.ofOption (fun d => .double d.seconds) d

structure Arguments where
  channel : Option Handle := none
  timeout : Option Duration := none
  deadline : Option Timestamp := none
  credentials : Option Credentials := none
  /-- The members of the headers, or nothing at all. -/
  headers : Option (List (String × Json)) := some []
  tracer : Option Tracer := none
  retry : Option RetrySettings := none
  codes : Option StatusSet := none
  /-- The stream timeouts, if they are given at all. -/
  streamWait : Option (Option Duration) := none
  streamIdle : Option (Option Duration) := none

end RemoteCall.Context
