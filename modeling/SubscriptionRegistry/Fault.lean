import SubscriptionRegistry.Text.Pieces
import SubscriptionRegistry.Text.Quoted
import SubscriptionRegistry.Time.Instant
import SubscriptionRegistry.Value

/-!
# Faults and registry errors

A `Fault` is anything that can end an operation or a caller's block. The callers of the registry
see four kinds of `RegistryError` in place of the faults that come from the store:

* `notFound`: a lookup or an update matched no row,
* `conflict`: a unique key, a reference or a required column is violated,
* `transient`: the connection is in trouble, and the caller may try again,
* `fatal`: anything else that the store refused.

`Fault.registryError?` is that mapping. Faults that do not come from the store have none.
-/

namespace SubscriptionRegistry

/-! ## Registry errors -/

/-- The kinds of registry errors. `general` is the kind of an error that says no more. -/
inductive RegistryError.Kind where
  | general
  | notFound
  | conflict
  | transient
  | fatal
deriving DecidableEq, Repr

/-- The code under which a kind is reported. -/
def RegistryError.Kind.code : RegistryError.Kind → String
  | general => "REGISTRY_ERROR"
  | notFound => "NOT_FOUND"
  | conflict => "CONFLICT"
  | transient => "TRANSIENT_STORE_ERROR"
  | fatal => "FATAL_STORE_ERROR"

/-- An error in the registry's own terms. -/
structure RegistryError where
  kind : RegistryError.Kind
  message : String
deriving DecidableEq, Repr

/-! ## Faults of the store -/

/-- The kinds of faults that a database driver reports. -/
inductive DriverFault.Kind where
  | general
  | interface
  | database
  | data
  | operational
  | integrity
  | internal
  | programming
  | unsupported
deriving DecidableEq, Repr

/-- The driver's own words, and the class of objects in which it uttered them. -/
structure DriverFault.Origin where
  source : String
  text : String
deriving DecidableEq, Repr

/-- A fault that the database driver reports. After an `invalidated` one the connection is
unusable. -/
structure DriverFault where
  kind : DriverFault.Kind
  origin : Option DriverFault.Origin
  invalidated : Bool
deriving DecidableEq, Repr

/-- A fault together with its source. -/
def DriverFault.text (f : DriverFault) : String :=
  match f.origin with
  | none => "(builtins.NoneType) None"
  | some o => "(" ++ o.source ++ ") " ++ o.text

/-- A fault of the layer between the registry and the database. -/
inductive StoreFault where
  | noRow (message : String)
  | driver (f : DriverFault)
  | poolTimeout (message : String)
  | disconnected (message : String)
  | unbindable (e : TimeError)
  | alreadyBegun
  | other (kind : String) (message : String)
deriving DecidableEq, Repr

/-- The wording of a fault of the store. -/
def StoreFault.text : StoreFault → String
  | noRow message => message
  | driver f => f.text
  | poolTimeout message => message
  | disconnected message => message
  | unbindable e => "(builtins.OverflowError) " ++ e.message
  | alreadyBegun => "A transaction is already begun on this Session."
  | other _ message => message

/-! ## Faults -/

/-- A call that the registry turns down by itself. -/
inductive Rejection where
  | keyLength
  | time (e : TimeError)
  | scopeOutsideTransaction
  | invalid (issues : Issues)
deriving DecidableEq, Repr

/-- The number of bytes of a notify key. -/
def notifyKeyLength : Nat := 32

/-- The wording of a rejection. The issues of an invalid record are reported apart. -/
def Rejection.text : Rejection → String
  | keyLength => "Notify key must be " ++ toString notifyKeyLength ++ " bytes"
  | time e => e.message
  | scopeOutsideTransaction => "Scope replacement must run inside the subscriber transaction"
  | invalid _ => ""

/-- Anything that ends an operation or a caller's block. The last two are what callers throw: faults
of classes that the registry does not know, and interrupts, which are no errors. -/
inductive Fault where
  | registry (e : RegistryError)
  | store (f : StoreFault)
  | system (number : Option Int) (message : String)
  | rejected (r : Rejection)
  | missingKey (key : String)
  | other (kind : String) (message : String)
  | interrupt (kind : String) (message : String)
deriving DecidableEq, Repr

namespace Fault

/-- The wording of a fault. -/
def text : Fault → String
  | registry e => e.message
  | store f => f.text
  | system none message => message
  | system (some n) message => "[Errno " ++ toString n ++ "] " ++ message
  | rejected r => r.text
  | missingKey key => Text.quote key
  | other _ message => message
  | interrupt _ message => message

/-! ## What callers see -/

/-- The registry error for a fault of the driver. A violated constraint is a conflict even on a
lost connection. -/
def ofDriver (f : DriverFault) : RegistryError :=
  if f.kind = .integrity then
    ⟨.conflict, match f.origin with
      | some o => o.text
      | none => f.text⟩
  else if f.invalidated ∨ f.kind = .operational ∨ f.kind = .interface then ⟨.transient, f.text⟩
  else ⟨.fatal, f.text⟩

/-- The registry error for a fault of the store. -/
def ofStore : StoreFault → RegistryError
  | .noRow _ => ⟨.notFound, "No matching row"⟩
  | .driver f => ofDriver f
  | .poolTimeout message => ⟨.transient, message⟩
  | .disconnected message => ⟨.transient, message⟩
  | f => ⟨.fatal, f.text⟩

/-- The registry error for a fault, if it comes from the store, from the system under it, or is a
registry error already. -/
def registryError? : Fault → Option RegistryError
  | registry e => some e
  | store f => some (ofStore f)
  | f@(system ..) => some ⟨.transient, f.text⟩
  | _ => none

/-- What a caller sees of a fault: the registry error for it, or the fault itself if there is
none. -/
def surface (f : Fault) : Fault :=
  match f.registryError? with
  | some e => .registry e
  | none => f

@[simp] theorem surface_surface (f : Fault) : f.surface.surface = f.surface := by
  cases f <;> rfl

/-! ## The faults of the registry's own operations -/

/-- Another session is writing. -/
def locked : Fault :=
  .store (.driver ⟨.operational, some ⟨"sqlite3.OperationalError", "database is locked"⟩, false⟩)

/-- A table is not there. -/
def noTable (name : String) : Fault :=
  .store (.driver ⟨.operational, some ⟨"sqlite3.OperationalError", "no such table: " ++ name⟩, false⟩)

/-- A row that has to be there is not. -/
def noRow : Fault :=
  .store (.noRow "No row was found when one was required")

/-- A lookup or an update of a thing that is not stored. -/
def notFound (what : String) : Fault :=
  .registry ⟨.notFound, what ++ " not found"⟩

end Fault

end SubscriptionRegistry
