import SubscriptionRegistry.Scope
import SubscriptionRegistry.Store.Basic

/-!
# Subscribers in the store

* `Store.writeSubscriber`: creates the row of a subscription of an account to a project, or resets
  it.
* `Store.extendSubscription`: extends a subscription; key and topic stay.
* `Store.deleteSubscriber`: removes a subscription, and its scope entries with it.
* `Store.clearScope`, `Store.addScopeText`: delete the scope entries of a subscriber, and add one.
* `Store.replaceScope`: makes the scope texts of a subscriber those of a given scope.
-/

namespace SubscriptionRegistry

/-- The length of a subscription, 30 days, in microseconds. -/
def subscriptionTerm : Nat := 30 * microsPerDay

/-- The text under which a notify key is stored. -/
def notifyKeyText (bytes : List UInt8) : String :=
  String.ofList (bytes.flatMap fun b => Text.hexDigits 2 b.toNat)

/-- The columns that a request for a subscription writes. -/
structure Subscriber.Entry where
  newId : Uuid
  project : Option Uuid
  account : Option String
  symKey : String
  topic : Option String
  now : Instant
  expiry : Instant
deriving DecidableEq, Repr

/-- Whether a row is the subscription of `account` to `project`. -/
def Subscriber.isOf (project : Uuid) (account : String) (x : Subscriber) : Bool :=
  x.project = project ∧ x.account = account

namespace Store

/-- The scope entries of a subscriber. -/
def scopeEntries (id : Uuid) (scope : Scope) : List ScopeEntry :=
  scope.texts.map fun name => ⟨id, name⟩

/-- The store with exactly `scope` as the scope of subscriber `id`. -/
def setScope (s : Store) (id : Uuid) (scope : Scope) : Store :=
  { s with scopes := s.scopes.filter (·.subscriber ≠ id) ++ scopeEntries id scope }

/-- The store without the scope entries of a subscriber. -/
def clearScope (s : Store) (id : Option Uuid) : Store :=
  { s with scopes := s.scopes.filter (some ·.subscriber ≠ id) }

/-- Replaces the scope of a subscriber: its entries are deleted, then those of the scope are
inserted, which needs the subscriber unless there are none. -/
def replaceScope (s : Store) (id : Option Uuid) (scope : Scope) : Except Violation Store :=
  if scope.ids = [] then .ok (s.clearScope id)
  else do
    let id ← required .subscriberScope "subscriber" id
    if s.subscribers.any (·.id = id) then .ok (s.setScope id scope) else .error .foreignKey

/-- Writes the row of a subscription: inserts it, or overwrites key, topic and expiry of the stored
one. -/
def writeSubscriber (s : Store) (e : Subscriber.Entry) : Except Violation (Store × Uuid) := do
  let project ← required .subscriber "project" e.project
  let account ← required .subscriber "account" e.account
  let topic ← required .subscriber "topic" e.topic
  match s.subscribers.find? (·.isOf project account) with
  | some x =>
    .ok ({ s with
      subscribers := s.subscribers.map fun y =>
        if y.isOf project account then
          { y with updatedAt := e.now, symKey := e.symKey, topic, expiry := e.expiry }
        else y }, x.id)
  | none =>
    if s.subscribers.any (·.id = e.newId) then .error (.unique .subscriber "id")
    else if s.projects.any (·.id = project) then
      .ok ({ s with
        subscribers := s.subscribers ++
          [{ id := e.newId, createdAt := e.now, updatedAt := e.now, project, account,
             symKey := e.symKey, topic, expiry := e.expiry }] }, e.newId)
    else .error .foreignKey

/-- Extends the subscription of `account` to `project`, if it is stored, and gives its id. -/
def extendSubscription (s : Store) (project : Option Uuid) (account : Option String)
    (now expiry : Instant) : Option (Store × Uuid) := do
  let project ← project
  let account ← account
  let x ← s.subscribers.find? (·.isOf project account)
  some ({ s with
    subscribers := s.subscribers.map fun y =>
      if y.isOf project account then { y with updatedAt := now, expiry } else y }, x.id)

/-- The subscriber with an id. -/
def subscriber? (s : Store) (id : Uuid) : Option Subscriber :=
  s.subscribers.find? (·.id = id)

/-- Removes a subscriber, with which its scope entries go, and tells whether there was one. -/
def deleteSubscriber (s : Store) (id : Option Uuid) : Store × Bool :=
  ({ s with
    subscribers := s.subscribers.filter (some ·.id ≠ id)
    scopes := s.scopes.filter (some ·.subscriber ≠ id) },
   s.subscribers.any (some ·.id = id))

/-- Adds one scope text as another program would. -/
def addScopeText (s : Store) (subscriber : Option Uuid) (name : Option String) :
    Except Violation Store := do
  let subscriber ← required .subscriberScope "subscriber" subscriber
  let name ← required .subscriberScope "name" name
  if s.subscribers.any (·.id = subscriber) then
    .ok { s with scopes := s.scopes ++ [⟨subscriber, name⟩] }
  else .error .foreignKey

/-- The topics of the subscribers. -/
def subscriberTopics (s : Store) : List String :=
  s.subscribers.map (·.topic)

end Store

end SubscriptionRegistry
