import SubscriptionRegistry.Text.Upper

/-!
# Severities and levels

An event has a severity, and a log shows the events from its level on. A level is named in any
case; two severities have a second name, and the level `notset` shows everything.
-/

namespace SubscriptionRegistry

/-- The severity of an event. -/
inductive Severity where
  | debug
  | info
  | warning
  | error
  | critical
deriving DecidableEq, Repr

namespace Severity

/-- The name of a severity. -/
def name : Severity → String
  | debug => "debug"
  | info => "info"
  | warning => "warning"
  | error => "error"
  | critical => "critical"

/-- The weight of a severity. -/
def weight : Severity → Nat
  | debug => 10
  | info => 20
  | warning => 30
  | error => 40
  | critical => 50

/-- The severity with a name. -/
def ofName? (s : String) : Option Severity :=
  if s = "debug" then some debug
  else if s = "info" then some info
  else if s = "warning" ∨ s = "warn" then some warning
  else if s = "error" then some error
  else if s = "critical" ∨ s = "fatal" then some critical
  else none

end Severity

/-- The level of a log: the least weight of the events that it shows. -/
structure Level where
  weight : Nat
deriving DecidableEq, Repr

/-- A name that is no level's. -/
structure Level.Unknown where
  name : String
deriving DecidableEq, Repr

/-- The wording of the error. -/
def Level.Unknown.message (u : Level.Unknown) : String :=
  "module 'logging' has no attribute '" ++ u.name ++ "'"

namespace Level

/-- The levels by their names. -/
def named : List (String × Level) :=
  [("CRITICAL", ⟨50⟩), ("FATAL", ⟨50⟩), ("ERROR", ⟨40⟩), ("WARNING", ⟨30⟩), ("WARN", ⟨30⟩),
    ("INFO", ⟨20⟩), ("DEBUG", ⟨10⟩), ("NOTSET", ⟨0⟩)]

/-- The level with a name, in any case. -/
def read (s : String) : Except Unknown Level :=
  match named.lookup (Text.upper s) with
  | some l => .ok l
  | none => .error ⟨Text.upper s⟩

/-- Whether a log of this level shows events of a severity. -/
def shows (l : Level) (s : Severity) : Bool :=
  l.weight ≤ s.weight

end Level

end SubscriptionRegistry
