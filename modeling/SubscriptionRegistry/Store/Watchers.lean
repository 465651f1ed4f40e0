import SubscriptionRegistry.Store.Basic

/-!
# Watchers in the store

A watcher is visible while its expiry lies in the future, and hidden from then on until a sweep
removes it.

* `Store.upsertWatcher`: starts a session, or overwrites the one with the same did key.
* `Store.sweepWatchers`: removes the watchers that have expired.
-/

namespace SubscriptionRegistry

/-- The columns that a request for a watcher writes. -/
structure Watcher.Entry where
  newId : Uuid
  account : Option String
  project : Option Uuid
  didKey : Option String
  symKey : Option String
  expiry : Option Instant
  now : Instant
deriving DecidableEq, Repr

/-- Whether a watcher is alive at `now`: its expiry is strictly later. -/
def Watcher.isActive (w : Watcher) (now : Instant) : Bool :=
  now < w.expiry

namespace Store

/-- Whether a reference of a watcher leads to a project; a global watcher has none. -/
def knowsProject (s : Store) : Option Uuid → Bool
  | none => true
  | some id => s.projects.any (·.id = id)

/-- Stores a watcher, or overwrites the one with its did key. -/
def upsertWatcher (s : Store) (e : Watcher.Entry) : Except Violation Store := do
  let account ← required .watcher "account" e.account
  let didKey ← required .watcher "did_key" e.didKey
  let symKey ← required .watcher "sym_key" e.symKey
  let expiry ← required .watcher "expiry" e.expiry
  if s.watchers.any (·.didKey = didKey) then
    if s.knowsProject e.project then
      .ok { s with
        watchers := s.watchers.map fun w =>
          if w.didKey = didKey then
            { w with updatedAt := e.now, account, project := e.project, symKey, expiry }
          else w }
    else .error .foreignKey
  else if s.watchers.any (·.id = e.newId) then .error (.unique .watcher "id")
  else if s.knowsProject e.project then
    .ok { s with
      watchers := s.watchers ++
        [{ id := e.newId, createdAt := e.now, updatedAt := e.now, account, project := e.project,
           didKey, symKey, expiry }] }
  else .error .foreignKey

/-- Removes the watchers that are not alive at `now`, and counts them. -/
def sweepWatchers (s : Store) (now : Instant) : Store × Nat :=
  ({ s with watchers := s.watchers.filter (·.isActive now) },
   s.watchers.countP (!·.isActive now))

end Store

end SubscriptionRegistry
