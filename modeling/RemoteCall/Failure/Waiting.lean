import RemoteCall.Event
import RemoteCall.Failure.Basic

/-!
# Waiting for a result

A future holds the outcome of a computation. Waiting for it gives its value or raises a failure: the failure of the
computation inside an envelope, or, translated, that failure itself with a marker for the place that waited. A
cancellation is raised bare, and so is a failure of the waiting thread.
-/

namespace RemoteCall

inductive FutureState where
  | result (v : Json)
  | failed (id : FailureId)
  | cancelled
  | pending
deriving Repr

structure Future where
  state : FutureState
  /-- A failure that hits the waiting thread instead of the outcome. -/
  waitFailure : Option FailureId
deriving Repr

inductive Waited where
  | value (v : Json)
  | raised (id : FailureId)
  /-- The outcome never comes. -/
  | blocked
deriving Repr

namespace Future

def raiseNew (s : FailureStore) (e : Failure) : FailureStore × Waited := (s.add e, .raised s.size)

/-- A failure that was raised while waiting: it is put into an envelope if it is the computation's own. Asking a
cancelled future for its failure is itself a cancellation. -/
def wrapRaised (s : FailureStore) (f : Future) (id : FailureId) (e : Failure) : FailureStore × Waited :=
  if e.cls = .cancelled then (s, .raised id)
  else
    match f.state with
    | .failed own =>
      if own = id then raiseNew s { Failure.envelope id e with context := some id } else (s, .raised id)
    | .cancelled => raiseNew s { Failure.cancellation with context := some id }
    | _ => (s, .raised id)

/-- The result of the future, a failure of its computation inside an envelope. -/
def getUnchecked (s : FailureStore) (f : Future) : FailureStore × Waited :=
  let raised? := match f.waitFailure, f.state with
    | some id, _ => some id
    | none, .failed id => some id
    | none, _ => none
  match raised? with
  | some id =>
    match s.get? id with
    | some e => wrapRaised s f id e
    | none => (s, .raised id)
  | none =>
    match f.state with
    | .result v => (s, .value v)
    | .cancelled => raiseNew s Failure.cancellation
    | _ => (s, .blocked)

/-- The first line of the note about a waiting call site. -/
def waitedNote : String := "Waited on at:"

def failedEvent (e : Failure) : Event :=
  ⟨"rpccontext.rpc.exceptions", .debug, "async_call_failed",
    [("error_type", .string e.cls.name), ("error", .string e.message)]⟩

/-- The failure marked with the call site that waited for it. -/
def mark (s : FailureStore) (id : FailureId) : FailureStore :=
  ((s.add .marker).attach id s.size).addNote id waitedNote

/-- The result of the future; an ordinary failure is taken out of its envelope, marked and raised itself. -/
def translate (s : FailureStore) (f : Future) : FailureStore × Waited × List Event :=
  let (s', waited) := f.getUnchecked s
  let unwrapped? : Option (FailureId × Failure) := do
    let .raised id := waited | none
    let e ← s'.get? id
    if e.cls ≠ .envelope then none
    let inner ← e.wrapped
    let cause ← s'.get? inner
    if cause.cls.isOrdinary then some (inner, cause) else none
  match unwrapped? with
  | some (id, cause) => (mark s' id, .raised id, [failedEvent cause])
  | none => (s', waited, [])

end Future

end RemoteCall
