import SubscriptionRegistry.Scope
import SubscriptionRegistry.Store.Watchers
import SubscriptionRegistry.View.Rows

/-!
# Views

A view of subscriptions joins subscribers with their scope entries, and with their projects where it
shows a column of these, then gathers the joined rows by subscriber. A subscriber without scope
entries is in the view with an empty scope. The texts of a scope that spell no identifier are left
out of it; a view hands them over beside its records.

* `Store.subscriberByTopic`, `Store.subscribersIn`: subscribers with their scopes.
* `Store.subscriptionsOf`, `Store.subscriptionsAt`: subscriptions of an account with the app
  domains of their projects.
* `Store.accountsOf`, `Store.accountScopesOf`: the accounts that are subscribed to a project.
* `Store.watchersFor`: the watchers of an account that are alive at an instant and cover an app,
  those of the project with the app's domain and those of no project.
* `Store.dump`: all that a store holds, and nothing of how it holds it.
-/

namespace SubscriptionRegistry

/-! ## Subscriptions -/

/-- A subscriber with its scope. -/
structure SubscriberRecord where
  id : Uuid
  project : Uuid
  account : String
  symKey : String
  topic : String
  scope : Scope
  expiry : Instant
deriving DecidableEq, Repr

/-- A subscription with the app domain and the public key of its project. -/
structure SubscriptionRecord where
  appDomain : String
  authenticationKey : String
  account : String
  symKey : String
  scope : Scope
  expiry : Instant
deriving DecidableEq, Repr

/-- A subscribed account with its scope. -/
structure AccountScope where
  account : String
  scope : Scope
deriving DecidableEq, Repr

/-- Records, and the scope texts that were refused in reading them. -/
structure Listing (α : Type) where
  records : List α
  refused : List Value

/-- The name of a scope entry, or null where there is no entry. -/
def scopeName (e : Option ScopeEntry) : Value :=
  .ofText? (e.map (·.name))

/-- The listing of groups of names, with one record a group. -/
def Listing.ofGroups (record : α → Scope → β) (groups : List (α × List Value)) : Listing β where
  records := groups.map fun g => record g.1 (Scope.decode g.2).1
  refused := groups.flatMap fun g => (Scope.decode g.2).2

/-- The listing with its records rearranged. -/
def Listing.arrange (f : List α → List α) (l : Listing α) : Listing α :=
  { l with records := f l.records }

namespace Store

/-- The rows of `xs` with the names of their scope entries; `subscriber` is the subscriber of a
row. -/
def withScopeNames (s : Store) (subscriber : α → Subscriber) (xs : List α) : List (α × Value) :=
  (outerJoin (fun x e => e.subscriber = (subscriber x).id) xs s.scopes).map
    fun r => (r.1, scopeName r.2)

/-- The subscribers with their projects. -/
def subscriptions (s : Store) : List (Subscriber × Project) :=
  innerJoin (fun x p => p.id = x.project) s.subscribers s.projects

/-- The record of a subscriber. -/
def subscriberRecord (x : Subscriber) (scope : Scope) : SubscriberRecord :=
  ⟨x.id, x.project, x.account, x.symKey, x.topic, scope, x.expiry⟩

/-- The record of a subscription. -/
def subscriptionRecord (x : Subscriber × Project) (scope : Scope) : SubscriptionRecord :=
  ⟨x.2.appDomain, x.2.authentication.publicKey, x.1.account, x.1.symKey, scope, x.1.expiry⟩

/-- The subscriber with a topic, if there is one; of several, the one with the lowest id. -/
def subscriberByTopic (s : Store) (topic : Option String) : Option (SubscriberRecord × List Value) :=
  let rows := sortById (fun r => r.1.id)
    (s.withScopeNames id (s.subscribers.filter fun x => some x.topic == topic))
  match groupRows Subscriber.id rows with
  | [] => none
  | g :: _ => some (subscriberRecord g.1 (Scope.decode g.2).1, (Scope.decode g.2).2)

/-- The subscribers of a project among the given accounts, by id. -/
def subscribersIn (s : Store) (project : Option Uuid) (accounts : List (Option String)) :
    Listing SubscriberRecord :=
  let rows := s.withScopeNames id
    (s.subscribers.filter fun x => some x.project == project && accounts.contains (some x.account))
  (Listing.ofGroups subscriberRecord (groupRows Subscriber.id rows)).arrange (sortById (·.id))

/-- The records of the subscriptions that satisfy `p`, by app domain and account. -/
def subscriptionsWhere (s : Store) (p : Subscriber × Project → Bool) : Listing SubscriptionRecord :=
  let rows := s.withScopeNames Prod.fst (s.subscriptions.filter p)
  (Listing.ofGroups subscriptionRecord (groupRows (fun x => x.1.id) rows)).arrange
    (List.mergeSort · fun a b => textPairLe (a.appDomain, a.account) (b.appDomain, b.account))

/-- The subscriptions of an account. -/
def subscriptionsOf (s : Store) (account : Option String) : Listing SubscriptionRecord :=
  s.subscriptionsWhere fun x => some x.1.account == account

/-- The subscriptions of an account to the project with the given app domain. -/
def subscriptionsAt (s : Store) (account appDomain : Option String) : Listing SubscriptionRecord :=
  s.subscriptionsWhere fun x => some x.1.account == account && some x.2.appDomain == appDomain

/-- The accounts that are subscribed to the project with the given external id. -/
def accountsOf (s : Store) (projectId : Option String) : List String :=
  sortTexts ((s.subscriptions.filter fun x => some x.2.projectId == projectId).map (·.1.account))

/-- The same accounts with their scopes. -/
def accountScopesOf (s : Store) (projectId : Option String) : Listing AccountScope :=
  let rows := s.withScopeNames Prod.fst
    (s.subscriptions.filter fun x => some x.2.projectId == projectId)
  (Listing.ofGroups (fun x scope => ⟨x.1.account, scope⟩) (groupRows (fun x => x.1.id) rows)).arrange
    (sortByText (·.account))

end Store

/-! ## Watchers -/

/-- A watcher as its lookup shows it. -/
structure WatcherRecord where
  project : Option Uuid
  didKey : String
  symKey : String
deriving DecidableEq, Repr

namespace Store

/-- The record of a watcher. -/
def watcherRecord (w : Watcher) : WatcherRecord :=
  ⟨w.project, w.didKey, w.symKey⟩

/-- The watchers of `account` that are alive at `now` and cover `appDomain`, by did key. -/
def watchersFor (s : Store) (account appDomain : Option String) (now : Instant) :
    List WatcherRecord :=
  let rows := (outerJoin (fun w p => w.project = some p.id) s.watchers s.projects).filter fun r =>
    r.1.isActive now && some r.1.account == account &&
      (r.1.project.isNone || (r.2.any fun p => some p.appDomain == appDomain))
  sortByText (·.didKey) (rows.map fun r => watcherRecord r.1)

end Store

/-! ## Dumps -/

/-- The contents of a store. -/
structure Dump where
  projects : List Project
  subscribers : List Subscriber
  watchers : List Watcher
  scopes : List (Uuid × List String)
deriving DecidableEq, Repr

namespace Store

/-- The scope texts that are stored for a subscriber. -/
def scopeTexts (s : Store) (id : Uuid) : List String :=
  (s.scopes.filter (·.subscriber = id)).map (·.name)

/-- The subscribers that have scope entries, each once. -/
def scopeOwners (s : Store) : List Uuid :=
  (s.scopes.map (·.subscriber)).eraseDups

/-- The contents of the store. -/
def dump (s : Store) : Dump where
  projects := sortById (·.id) s.projects
  subscribers := sortById (·.id) s.subscribers
  watchers := sortById (·.id) s.watchers
  scopes := (sortById id s.scopeOwners).map fun id => (id, sortTexts (s.scopeTexts id))

end Store

end SubscriptionRegistry
