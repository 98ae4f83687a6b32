import RemoteCall.Json.Equality
import RemoteCall.Fault

/-!
# Status codes

The canonical codes of a remote call and the HTTP status each stands for. Several codes share one HTTP status, so the
way back picks one of them. A set of codes is kept in the order of declaration, which makes equal sets equal as
values.
-/

namespace RemoteCall

inductive Status where
  | ok
  | cancelled
  | unknown
  | invalidArgument
  | deadlineExceeded
  | notFound
  | alreadyExists
  | permissionDenied
  | resourceExhausted
  | failedPrecondition
  | aborted
  | outOfRange
  | unimplemented
  | internal
  | unavailable
  | dataLoss
  | unauthenticated
deriving DecidableEq, Repr

namespace Status

/-- All codes in the order of declaration. -/
def all : List Status := [
  ok, cancelled, unknown, invalidArgument, deadlineExceeded, notFound, alreadyExists, permissionDenied,
  resourceExhausted, failedPrecondition, aborted, outOfRange, unimplemented, internal, unavailable, dataLoss,
  unauthenticated]

theorem mem_all (s : Status) : s ∈ all := by cases s <;> decide

def name : Status → String
  | ok => "OK"
  | cancelled => "CANCELLED"
  | unknown => "UNKNOWN"
  | invalidArgument => "INVALID_ARGUMENT"
  | deadlineExceeded => "DEADLINE_EXCEEDED"
  | notFound => "NOT_FOUND"
  | alreadyExists => "ALREADY_EXISTS"
  | permissionDenied => "PERMISSION_DENIED"
  | resourceExhausted => "RESOURCE_EXHAUSTED"
  | failedPrecondition => "FAILED_PRECONDITION"
  | aborted => "ABORTED"
  | outOfRange => "OUT_OF_RANGE"
  | unimplemented => "UNIMPLEMENTED"
  | internal => "INTERNAL"
  | unavailable => "UNAVAILABLE"
  | dataLoss => "DATA_LOSS"
  | unauthenticated => "UNAUTHENTICATED"

def ofName? (name : String) : Option Status := all.find? fun s => s.name == name

def ofJson (v : Json) : Except Fault Status :=
  match v with
  | .string name =>
    match ofName? name with
    | some s => .ok s
    | none => .error (.unknownStatus v)
  | _ => .error (.unknownStatus v)

theorem ofJson_name (s : Status) : ofJson (.string s.name) = .ok s := by cases s <;> rfl

/-! ## HTTP -/

def httpStatus : Status → Nat
  | ok => 200
  | cancelled => 499
  | unknown => 500
  | invalidArgument => 400
  | deadlineExceeded => 504
  | notFound => 404
  | alreadyExists => 409
  | permissionDenied => 403
  | resourceExhausted => 429
  | failedPrecondition => 400
  | aborted => 409
  | outOfRange => 400
  | unimplemented => 501
  | internal => 500
  | unavailable => 503
  | dataLoss => 500
  | unauthenticated => 401

/-- The HTTP statuses that name a code. -/
def httpCodes : List (Nat × Status) := [
  (200, ok), (400, invalidArgument), (401, unauthenticated), (403, permissionDenied), (404, notFound),
  (409, aborted), (429, resourceExhausted), (499, cancelled), (500, internal), (501, unimplemented),
  (503, unavailable), (504, deadlineExceeded)]

/-- The code for an HTTP status; any other value is an unknown failure. -/
def ofHttp (status : Json) : Status :=
  match httpCodes.find? fun p => status.same (.int p.1) with
  | some (_, s) => s
  | none => unknown

end Status

/-- A set of status codes, in the order of declaration. -/
structure StatusSet where
  members : List Status
  sublist : members.Sublist Status.all
deriving DecidableEq

namespace StatusSet

instance : Repr StatusSet := ⟨fun s p => reprPrec s.members p⟩

def ofList (codes : List Status) : StatusSet := ⟨Status.all.filter (codes.contains ·), List.filter_sublist⟩

instance : Membership Status StatusSet := ⟨fun set s => s ∈ set.members⟩

theorem mem_ofList {codes : List Status} {s : Status} : s ∈ ofList codes ↔ s ∈ codes := by
  show s ∈ Status.all.filter (codes.contains ·) ↔ s ∈ codes
  simp [List.mem_filter, Status.mem_all]

def sortedNames (set : StatusSet) : List String := (set.members.map Status.name).mergeSort (· ≤ ·)

end StatusSet

end RemoteCall
