import SubscriptionRegistry.Fault

/-!
# Guards

A guard surrounds a block of work on the store and turns the faults that leave it into registry
errors. An `Incident` is a fault that has been thrown, with the identity of the thrown object and
of the object that caused it. A guard makes a new object only for a fault that has a registry
error; anything else, registry errors included, passes through it as the same object.

* `Incident.registryError?`: the registry error for a thrown fault as an object.
* `Incident.guard`: what leaves one guard.
* `Incident.guards`: what leaves `k` guards around one block.
-/

namespace SubscriptionRegistry

/-- A thrown fault. Thrown objects are numbered in the order in which they are made. -/
structure Incident where
  id : Nat
  fault : Fault
  cause : Option Nat
deriving DecidableEq, Repr

namespace Incident

/-- The fault that a block throws as object `id`, with no cause. -/
def thrown (id : Nat) (f : Fault) : Incident := ⟨id, f, none⟩

/-- The registry error for a thrown fault, and the number of the next object. A registry error is
the one for itself; the one for another fault is a new object. -/
def registryError? (next : Nat) (x : Incident) : Option Incident × Nat :=
  match x.fault, x.fault.registryError? with
  | .registry _, _ => (some x, next)
  | _, some e => (some ⟨next, .registry e, none⟩, next + 1)
  | _, none => (none, next)

/-- What leaves a guard when `x` is thrown inside it, and the number of the next object. -/
def guard (next : Nat) (x : Incident) : Incident × Nat :=
  match x.registryError? next with
  | (none, next') => (x, next')
  | (some y, next') => if y.id = x.id then (x, next') else ({ y with cause := some x.id }, next')

/-- What leaves `k` guards, one around the other, when `x` is thrown in the innermost. -/
def guards : (k : Nat) → (next : Nat) → Incident → Incident × Nat
  | 0, next, x => (x, next)
  | k + 1, next, x => guards k (x.guard next).2 (x.guard next).1

end Incident

end SubscriptionRegistry
