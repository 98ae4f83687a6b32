import RemoteCall.Json.Equality
import RemoteCall.Fault

/-!
# Batches

A builder collects three counters of the batch being assembled. A counter is any number that is not negative, or a truth
value; setting it again replaces it. The snapshot can be built once all three are set.
-/

namespace RemoteCall.Batch

inductive Counter where
  | elementCount
  | byteCount
  | totalThrottledTime
deriving DecidableEq, Repr

namespace Counter

/-- The counters in the order of declaration. -/
def all : List Counter := [elementCount, byteCount, totalThrottledTime]

def name : Counter → String
  | elementCount => "element_count"
  | byteCount => "byte_count"
  | totalThrottledTime => "total_throttled_time_ms"

def ofSetter? (setter : String) : Option Counter := all.find? fun c => "set_" ++ c.name == setter

end Counter

/-- The counters set so far. -/
structure Builder where
  elementCount : Option Json
  byteCount : Option Json
  totalThrottledTime : Option Json
deriving Repr

structure Snapshot where
  elementCount : Json
  byteCount : Json
  totalThrottledTime : Json
deriving Repr

namespace Builder

def empty : Builder := ⟨none, none, none⟩

instance : Inhabited Builder := ⟨empty⟩

def get (b : Builder) : Counter → Option Json
  | .elementCount => b.elementCount
  | .byteCount => b.byteCount
  | .totalThrottledTime => b.totalThrottledTime

/-- The value, if it is fit for a counter. -/
def checkCount (counter : Counter) (v : Json) : Except Fault Json :=
  match v.numeric? with
  | some n => if n.isNegative then .error (.negativeCount counter.name n) else .ok v
  | none => .error (.notComparable v.kindName)

def set (b : Builder) (counter : Counter) (v : Json) : Except Fault Builder := do
  let v ← checkCount counter v
  match counter with
  | .elementCount => return { b with elementCount := some v }
  | .byteCount => return { b with byteCount := some v }
  | .totalThrottledTime => return { b with totalThrottledTime := some v }

def missing (b : Builder) : List Counter := Counter.all.filter fun c => (b.get c).isNone

def build (b : Builder) : Except Fault Snapshot :=
  match b.elementCount, b.byteCount, b.totalThrottledTime with
  | some elements, some bytes, some throttled => .ok ⟨elements, bytes, throttled⟩
  | _, _, _ => .error (.missingCounters (b.missing.map Counter.name))

end Builder

namespace Snapshot

def toMembers (s : Snapshot) : List (String × Json) := [
  (Counter.elementCount.name, s.elementCount), (Counter.byteCount.name, s.byteCount),
  (Counter.totalThrottledTime.name, s.totalThrottledTime)]

/-- Whether two snapshots have equal counters, and so equal hashes. -/
def same (s t : Snapshot) : Bool :=
  s.elementCount.same t.elementCount && s.byteCount.same t.byteCount &&
    s.totalThrottledTime.same t.totalThrottledTime

end Snapshot

end RemoteCall.Batch
