import RemoteCall.Event
import RemoteCall.Text.Quoted

/-!
# Tracing

A logging tracer reports what happens to one operation as log events. It keeps the number of the attempt that was
started last and names it in every event about an attempt.
-/

namespace RemoteCall

/-- What happens to an operation; failures are given by their message. -/
inductive TraceCall where
  | operationSucceeded
  | operationCancelled
  | operationFailed (error : String)
  | attemptStarted (number : Json)
  | attemptSucceeded
  /-- Another attempt follows after the delay. -/
  | attemptFailed (error : String) (delay : Json)
  | retriesExhausted (error : String)
  | requestSent
  | responseReceived
  | batchRequestSent (elements size : Json)

structure LoggingTracer where
  operation : String
  attempt : Json

namespace LoggingTracer

def create (operation : String) : LoggingTracer := ⟨operation, .int 0⟩

def display (t : LoggingTracer) : String := s!"LoggingApiTracer(operation={Text.quoted t.operation})"

/-- The level, the name and the own values of the event for a call. -/
def describe (attempt : Json) : TraceCall → LogLevel × String × List (String × Json)
  | .operationSucceeded => (.info, "operation_succeeded", [("attempts", attempt)])
  | .operationCancelled => (.info, "operation_cancelled", [("attempts", attempt)])
  | .operationFailed error => (.warning, "operation_failed", [("attempts", attempt), ("error", .string error)])
  | .attemptStarted number => (.debug, "attempt_started", [("attempt", number)])
  | .attemptSucceeded => (.debug, "attempt_succeeded", [("attempt", attempt)])
  | .attemptFailed error delay =>
    (.info, "attempt_failed", [("attempt", attempt), ("error", .string error), ("delay_seconds", delay)])
  | .retriesExhausted error =>
    (.warning, "attempt_failed_retries_exhausted", [("attempt", attempt), ("error", .string error)])
  | .requestSent => (.debug, "request_sent", [("attempt", attempt)])
  | .responseReceived => (.debug, "response_received", [("attempt", attempt)])
  | .batchRequestSent elements size =>
    (.debug, "batch_request_sent", [("element_count", elements), ("request_size", size)])

/-- The event for a call, and the tracer after it. -/
def report (t : LoggingTracer) (call : TraceCall) : LoggingTracer × Event :=
  let (level, name, values) := describe t.attempt call
  let event : Event := ⟨"rpccontext.rpc.tracing", level, name, ("operation", .string t.operation) :: values⟩
  match call with
  | .attemptStarted number => ({ t with attempt := number }, event)
  | _ => (t, event)

end LoggingTracer

end RemoteCall
