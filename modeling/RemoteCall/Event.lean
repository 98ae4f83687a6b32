import RemoteCall.Json.Basic

/-!
# Log events

An event is reported by a logger at a level, with a name and named values. A threshold lets through the events whose
level is at least as severe.
-/

namespace RemoteCall

inductive LogLevel where
  | debug
  | info
  | warning
  | error
  | critical
deriving DecidableEq, Repr

namespace LogLevel

def all : List LogLevel := [debug, info, warning, error, critical]

def name : LogLevel → String
  | debug => "DEBUG"
  | info => "INFO"
  | warning => "WARNING"
  | error => "ERROR"
  | critical => "CRITICAL"

def eventName : LogLevel → String
  | debug => "debug"
  | info => "info"
  | warning => "warning"
  | error => "error"
  | critical => "critical"

def severity : LogLevel → Nat
  | debug => 10
  | info => 20
  | warning => 30
  | error => 40
  | critical => 50

def ofName? (name : String) : Option LogLevel := all.find? fun l => l.name == name

end LogLevel

structure Event where
  logger : String
  level : LogLevel
  name : String
  fields : List (String × Json)
deriving Repr

namespace Event

def passing (threshold : LogLevel) (events : List Event) : List Event :=
  events.filter fun e => threshold.severity ≤ e.level.severity

/-- The event as an object, with its level under the given key. -/
def toJson (levelKey : String) (e : Event) : Json :=
  .object (("event", .string e.name) :: (levelKey, .string e.level.eventName) :: e.fields)

end Event

end RemoteCall
