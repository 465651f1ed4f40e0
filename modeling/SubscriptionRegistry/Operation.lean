import SubscriptionRegistry.Log.Event
import SubscriptionRegistry.Store.Projects
import SubscriptionRegistry.Store.Subscribers
import SubscriptionRegistry.Store.Watchers
import SubscriptionRegistry.Time.Stamp
import SubscriptionRegistry.View.Records

/-!
# Operations

An `Operation` is a call of the registry with its inputs. `Operation.prepare` checks what can be
checked without the store and gives the `Statement` that is to be run: a read of a store, or a
`Routine` of writes. It answers with a `Reply`, the answer and the events to be logged.

A routine is run write after write. If one of them fails, those before it have been done: it is for
whoever runs the routine to take them back.

An operation that depends on the time takes it from the caller, or from the clock if the caller
gives none.
-/

namespace SubscriptionRegistry

/-- A request for a subscription. -/
structure Subscriber.Upsert where
  newId : Uuid
  project : Option Uuid
  account : Option String
  scope : Scope
  notifyKey : List UInt8
  topic : Option String
  now : Option Stamp

/-- A request to extend a subscription. -/
structure Subscriber.Renewal where
  project : Option Uuid
  account : Option String
  scope : Scope
  now : Option Stamp

/-- A request for a project, with its key pairs as the caller supplies them. -/
structure Project.Request where
  newId : Uuid
  projectId : Option String
  appDomain : Option String
  topic : Option String
  authentication : KeyPair.Draft
  subscription : KeyPair.Draft

/-- A request for a watcher. -/
structure Watcher.Upsert where
  newId : Uuid
  account : Option String
  project : Option Uuid
  didKey : Option String
  symKey : Option String
  expiry : Option Stamp

/-- A call of the registry. The last two stand for other programs that write to its tables. -/
inductive Operation where
  | upsertProject (r : Project.Request)
  | findProject (key : Project.Key)
  | projectTopics
  | upsertSubscriber (r : Subscriber.Upsert)
  | renewSubscriber (r : Subscriber.Renewal)
  | deleteSubscriber (id : Option Uuid)
  | subscriberByTopic (topic : Option String)
  | subscribersIn (project : Option Uuid) (accounts : List (Option String))
  | subscriptionsOf (account : Option String)
  | subscriptionsAt (account appDomain : Option String)
  | accountsOf (projectId : Option String)
  | accountScopesOf (projectId : Option String)
  | subscriberTopics
  | upsertWatcher (r : Watcher.Upsert)
  | watchersFor (account appDomain : Option String) (now : Option Stamp)
  | sweepWatchers (now : Option Stamp)
  | addScopeText (subscriber : Option Uuid) (name : Option String)
  | deleteProject (id : Option Uuid)

/-- What an operation answers. -/
inductive Answer where
  | done
  | flag (b : Bool)
  | count (n : Nat)
  | id (id : Uuid)
  | keys (k : PublicKeys)
  | project (p : Project)
  | subscriber (x : Subscriber)
  | texts (texts : List String)
  | subscriberRecord (r : SubscriberRecord)
  | subscriberRecords (rs : List SubscriberRecord)
  | subscriptions (rs : List SubscriptionRecord)
  | accountScopes (rs : List AccountScope)
  | watchers (rs : List WatcherRecord)
  | dump (d : Dump)

/-- An answer and the events to be logged with it. -/
structure Reply where
  answer : Answer
  events : List Event

/-- Writes that are run one after the other. What comes next may depend on the answer of the write
before it; the reply is that of the last. -/
inductive Routine where
  | one (write : Store → Except Fault (Store × Reply))
  | next (write : Store → Except Fault (Store × Reply)) (rest : Answer → Routine)

instance : Coe (Store → Except Fault (Store × Reply)) Routine := ⟨.one⟩

/-- What is run on the store. -/
inductive Statement where
  | read (run : Store → Except Fault Reply)
  | write (run : Routine)

/-- The routine that runs the writes of a list before `last`. -/
def Routine.after (writes : List (Store → Except Fault (Store × Reply))) (last : Routine) : Routine :=
  writes.foldr (fun write rest => .next write fun _ => rest) last

namespace Operation

/-- The effective time of a call: that of the caller in universal time, or the clock. -/
def effectiveTime (clock : Instant) : Option Stamp → Except Fault Instant
  | none => .ok clock
  | some s => (s.toUtc).mapError fun e => .rejected (.time e)

/-- The end of a subscription that is made or extended at `now`. -/
def termEnd (now : Instant) : Except Fault Instant :=
  (now.add subscriptionTerm).mapError fun e => .rejected (.time e)

/-- The expiry of a watcher as a parameter of its statement. -/
def boundTime : Option Stamp → Except Fault (Option Instant)
  | none => .ok none
  | some s => (s.toUtc.map some).mapError fun e => .store (.unbindable e)

/-- The key pair of a draft. -/
def validKeyPair (d : KeyPair.Draft) : Except Fault KeyPair :=
  d.validate.mapError fun issues => .rejected (.invalid issues)

/-- The fault for a violated constraint. -/
def constrained (r : Except Violation α) : Except Fault α :=
  r.mapError Violation.fault

/-- The reply of a view with records. -/
def listingReply (answer : List α → Answer) (l : Listing α) : Reply :=
  ⟨answer l.records, Event.dropped l.refused⟩

/-! ## Statements -/

/-- The write that stores a project. -/
def projectWrite (clock : Instant) (r : Project.Upsert) (s : Store) :
    Except Fault (Store × Reply) := do
  let (s, keys) ← constrained (s.upsertProject clock r)
  .ok (s, ⟨.keys keys,
    [.projectUpserted (r.projectId.getD "") (r.appDomain.getD "")]⟩)

/-- The read of a project. -/
def projectRead (key : Project.Key) (s : Store) : Except Fault Reply :=
  match s.findProject key with
  | some p => .ok ⟨.project p, []⟩
  | none => .error (.notFound "Project")

/-- The read of a subscriber by its topic. -/
def topicRead (topic : Option String) (s : Store) : Except Fault Reply :=
  match s.subscriberByTopic topic with
  | some (r, refused) => .ok ⟨.subscriberRecord r, Event.dropped refused⟩
  | none => .error (.notFound "Subscriber")

/-- The write that stores a watcher, whose did key and expiry its event shows. -/
def watcherWrite (e : Watcher.Entry) (s : Store) : Except Fault (Store × Reply) := do
  let s ← constrained (s.upsertWatcher e)
  .ok (s, ⟨.done,
    [.watcherUpserted (e.didKey.getD "") e.project (e.expiry.getD e.now)]⟩)

/-- The write that removes expired watchers. A sweep that removes none is not logged. -/
def sweepWrite (now : Instant) (s : Store) : Except Fault (Store × Reply) :=
  let (s, count) := s.sweepWatchers now
  .ok (s, ⟨.count count, if count = 0 then [] else [.watchersSwept count]⟩)

/-- The write that removes a project. -/
def projectDeletion (id : Option Uuid) (s : Store) : Except Fault (Store × Reply) :=
  .ok (s.deleteProject id, ⟨.done, []⟩)

/-- A read that always answers. -/
def total (reply : Store → Reply) : Statement :=
  .read fun s => .ok (reply s)

/-! ## Scopes -/

/-- The write of one scope text. -/
def scopeTextWrite (subscriber : Option Uuid) (name : Option String) (s : Store) :
    Except Fault (Store × Reply) := do
  let s ← constrained (s.addScopeText subscriber name)
  .ok (s, ⟨.done, []⟩)

/-- The write that deletes the scope entries of a subscriber. -/
def scopeDeletion (subscriber : Option Uuid) (s : Store) : Except Fault (Store × Reply) :=
  .ok (s.clearScope subscriber, ⟨.done, []⟩)

/-- The writes that replace the scope of a subscriber: the old entries are deleted, and an entry is
inserted for each member of the new scope. -/
def scopeWrites (subscriber : Option Uuid) (scope : Scope) :
    List (Store → Except Fault (Store × Reply)) :=
  scopeDeletion subscriber :: scope.texts.map fun name => scopeTextWrite subscriber (some name)

/-- The replacement of a scope as one write. It belongs to the transaction of a caller, and is no
operation by itself. -/
def scopeReplacement (subscriber : Option Uuid) (scope : Scope) (s : Store) :
    Except Fault (Store × Reply) := do
  let s ← constrained (s.replaceScope subscriber scope)
  .ok (s, ⟨.done, []⟩)

/-! ## Subscriptions -/

/-- The write of the row of a subscription, which answers with its id. -/
def rowWrite (e : Subscriber.Entry) (s : Store) : Except Fault (Store × Reply) := do
  let (s, id) ← constrained (s.writeSubscriber e)
  .ok (s, ⟨.id id, []⟩)

/-- The write that extends the row of a subscription, which answers with its id if it is stored. -/
def rowRenewal (r : Subscriber.Renewal) (now expiry : Instant) (s : Store) :
    Except Fault (Store × Reply) :=
  match s.extendSubscription r.project r.account now expiry with
  | some (s, id) => .ok (s, ⟨.id id, []⟩)
  | none => .ok (s, ⟨.done, []⟩)

/-- The read of a row that has been extended, with a scope of `size` members. -/
def renewedRead (id : Uuid) (size : Nat) (s : Store) : Except Fault (Store × Reply) :=
  match s.subscriber? id with
  | some x => .ok (s, ⟨.subscriber x, [.subscriberUpdated id size]⟩)
  | none => .error .noRow

/-- The deletion of the row of a subscription. -/
def rowDeletion (id : Option Uuid) (s : Store) : Except Fault (Store × Reply) :=
  let (s, existed) := s.deleteSubscriber id
  .ok (s, ⟨.flag existed, [.subscriberDeleted id existed]⟩)

/-- The routine that creates or resets a subscription: first its row, then its scope. -/
def subscriberWrite (e : Subscriber.Entry) (scope : Scope) : Routine :=
  .next (rowWrite e) fun
    | .id id => .after (scopeWrites (some id) scope) (.one fun s =>
        .ok (s, ⟨.id id, [.subscriberUpserted id (e.project.getD default) scope.size]⟩))
    | _ => .one fun _ => .error .noRow

/-- The routine that extends a subscription: first its row, then its scope. -/
def renewalWrite (r : Subscriber.Renewal) (now expiry : Instant) : Routine :=
  .next (rowRenewal r now expiry) fun
    | .id id => .after (scopeWrites (some id) r.scope) (.one (renewedRead id r.scope.size))
    | _ => .one fun _ => .error (.notFound "Subscriber")

/-- The routine that removes a subscription: first its scope, then its row. -/
def subscriberDeletion (id : Option Uuid) : Routine :=
  .after [scopeDeletion id] (.one (rowDeletion id))

/-! ## Preparation -/

/-- Checks the inputs of a call and gives the statement to be run. -/
def prepare (clock : Instant) : Operation → Except Fault Statement
  | upsertProject r => do
    let authentication ← validKeyPair r.authentication
    let subscription ← validKeyPair r.subscription
    .ok (.write (projectWrite clock
      ⟨r.newId, r.projectId, r.appDomain, r.topic, authentication, subscription⟩))
  | findProject key => .ok (.read (projectRead key))
  | projectTopics => .ok (total fun s => ⟨.texts (sortTexts s.projectTopics), []⟩)
  | upsertSubscriber r => do
    if r.notifyKey.length ≠ notifyKeyLength then .error (.rejected .keyLength)
    else do
      let now ← effectiveTime clock r.now
      let expiry ← termEnd now
      .ok (.write (subscriberWrite
        ⟨r.newId, r.project, r.account, notifyKeyText r.notifyKey, r.topic, now, expiry⟩ r.scope))
  | renewSubscriber r => do
    let now ← effectiveTime clock r.now
    let expiry ← termEnd now
    .ok (.write (renewalWrite r now expiry))
  | deleteSubscriber id => .ok (.write (subscriberDeletion id))
  | subscriberByTopic topic => .ok (.read (topicRead topic))
  | subscribersIn project accounts =>
    .ok (total fun s => listingReply .subscriberRecords (s.subscribersIn project accounts))
  | subscriptionsOf account =>
    .ok (total fun s => listingReply .subscriptions (s.subscriptionsOf account))
  | subscriptionsAt account appDomain =>
    .ok (total fun s => listingReply .subscriptions (s.subscriptionsAt account appDomain))
  | accountsOf projectId => .ok (total fun s => ⟨.texts (s.accountsOf projectId), []⟩)
  | accountScopesOf projectId =>
    .ok (total fun s => listingReply .accountScopes (s.accountScopesOf projectId))
  | subscriberTopics => .ok (total fun s => ⟨.texts (sortTexts s.subscriberTopics), []⟩)
  | upsertWatcher r => do
    let expiry ← boundTime r.expiry
    .ok (.write (watcherWrite
      ⟨r.newId, r.account, r.project, r.didKey, r.symKey, expiry, clock⟩))
  | watchersFor account appDomain now => do
    let now ← effectiveTime clock now
    .ok (total fun s => ⟨.watchers (s.watchersFor account appDomain now), []⟩)
  | sweepWatchers now => do
    let now ← effectiveTime clock now
    .ok (.write (sweepWrite now))
  | addScopeText subscriber name => .ok (.write (scopeTextWrite subscriber name))
  | deleteProject id => .ok (.write (projectDeletion id))

end Operation

end SubscriptionRegistry
