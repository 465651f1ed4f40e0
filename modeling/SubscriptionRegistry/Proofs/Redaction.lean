import SubscriptionRegistry.Proofs.Listings
import SubscriptionRegistry.Proofs.Routines

/-!
# Redaction

Private keys of projects, notify keys of subscribers and symmetric keys of watchers are secret. To
redact a store, a request or an answer is to put the same blank in the place of every secret in it.
The tables and the views do not look at the secrets: they do to a redacted store what they do to the
store, redacted.

* `KeyPair.redact`, `Subscriber.Upsert.redact`, `Watcher.Upsert.redact`, `Operation.redact`: what a
  caller supplies, without the secrets.
* `Store.redact`, `Answer.redact`, `Reply.redact`: what is stored and what is answered, without
  them. Events and faults have none.
* `Store.upsertProject_redact` and its like: each write, and each view, of a redacted store.
* `Statement.Redacts`: a statement does to a redacted store what another does to the store,
  redacted.
* `Operation.prepare_redact`: the statements of a call and of the redacted call are such a pair.
-/

namespace SubscriptionRegistry

/-! ## Requests -/

/-- The pair without its private key. -/
def KeyPair.redact (k : KeyPair) : KeyPair := { k with privateKey := "" }

/-- What stands in the place of a part of a draft: a text for a text. A value that is no text is no
key, and stays. -/
def KeyPair.Draft.blank : Option Value → Option Value
  | some (.text _) => some (.text "")
  | part => part

/-- The draft without its private key. -/
def KeyPair.Draft.redact (d : Draft) : Draft := { d with privateKey := blank d.privateKey }

/-- The request without the private keys. -/
def Project.Request.redact (r : Project.Request) : Project.Request :=
  { r with authentication := r.authentication.redact, subscription := r.subscription.redact }

/-- What stands in the place of a notify key: as many bytes, all zero. -/
def blankKey (bytes : List UInt8) : List UInt8 := List.replicate bytes.length 0

/-- The request without the notify key. -/
def Subscriber.Upsert.redact (r : Subscriber.Upsert) : Subscriber.Upsert :=
  { r with notifyKey := blankKey r.notifyKey }

/-- The request without the symmetric key, which stays null if it is. -/
def Watcher.Upsert.redact (r : Watcher.Upsert) : Watcher.Upsert :=
  { r with symKey := r.symKey.map fun _ => "" }

/-- The call without secrets. -/
def Operation.redact : Operation → Operation
  | upsertProject r => upsertProject r.redact
  | upsertSubscriber r => upsertSubscriber r.redact
  | upsertWatcher r => upsertWatcher r.redact
  | op => op

/-! ## Rows and answers -/

/-- The text of the blank notify key. -/
@[irreducible]
def blankKeyText : String := notifyKeyText (List.replicate notifyKeyLength 0)

/-- The row without the private keys. -/
def Project.redact (p : Project) : Project :=
  { p with authentication := p.authentication.redact, subscription := p.subscription.redact }

/-- The row without the text of the notify key. -/
def Subscriber.redact (x : Subscriber) : Subscriber := { x with symKey := blankKeyText }

/-- The row without the symmetric key. -/
def Watcher.redact (w : Watcher) : Watcher := { w with symKey := "" }

/-- The store without secrets. -/
def Store.redact (s : Store) : Store :=
  { s with
    projects := s.projects.map Project.redact
    subscribers := s.subscribers.map Subscriber.redact
    watchers := s.watchers.map Watcher.redact }

/-- The record without the text of the notify key. -/
def SubscriberRecord.redact (r : SubscriberRecord) : SubscriberRecord :=
  { r with symKey := blankKeyText }

/-- The record without the text of the notify key. -/
def SubscriptionRecord.redact (r : SubscriptionRecord) : SubscriptionRecord :=
  { r with symKey := blankKeyText }

/-- The record without the symmetric key. -/
def WatcherRecord.redact (r : WatcherRecord) : WatcherRecord := { r with symKey := "" }

/-- The contents of a store without secrets. -/
def Dump.redact (d : Dump) : Dump :=
  { d with
    projects := d.projects.map Project.redact
    subscribers := d.subscribers.map Subscriber.redact
    watchers := d.watchers.map Watcher.redact }

/-- The answer without secrets. -/
def Answer.redact : Answer → Answer
  | project p => project p.redact
  | subscriber x => subscriber x.redact
  | subscriberRecord r => subscriberRecord r.redact
  | subscriberRecords rs => subscriberRecords (rs.map SubscriberRecord.redact)
  | subscriptions rs => subscriptions (rs.map SubscriptionRecord.redact)
  | watchers rs => watchers (rs.map WatcherRecord.redact)
  | dump d => dump d.redact
  | answer => answer

/-- The reply without secrets, and with its events. -/
def Reply.redact (r : Reply) : Reply := { r with answer := r.answer.redact }

/-- What a write makes, without secrets. -/
def redactWritten (p : Store × Reply) : Store × Reply := (p.1.redact, p.2.redact)

/-! ## Writes -/

theorem map_bind (f : β → γ) (x : Except ε α) (g : α → Except ε β) :
    (x >>= g).map f = x >>= fun a => (g a).map f := by
  cases x <;> rfl

theorem map_ite (f : α → β) (c : Prop) [Decidable c] (x y : Except ε α) :
    (if c then x else y).map f = if c then x.map f else y.map f :=
  apply_ite _ c x y

namespace Store

variable (s : Store)

section Keys

variable (id : Uuid)

theorem any_domain_redact (projectId appDomain : String) :
    (s.redact.projects.any fun p => p.projectId ≠ projectId ∧ p.appDomain = appDomain) =
      s.projects.any fun p => p.projectId ≠ projectId ∧ p.appDomain = appDomain :=
  List.any_map

theorem any_projects_redact : s.redact.projects.any (·.id = id) = s.projects.any (·.id = id) :=
  List.any_map

theorem any_subscribers_redact :
    s.redact.subscribers.any (·.id = id) = s.subscribers.any (·.id = id) :=
  List.any_map

theorem any_watchers_redact : s.redact.watchers.any (·.id = id) = s.watchers.any (·.id = id) :=
  List.any_map

theorem any_didKey_redact (didKey : String) :
    s.redact.watchers.any (·.didKey = didKey) = s.watchers.any (·.didKey = didKey) :=
  List.any_map

theorem find_projectId_redact (projectId : String) :
    s.redact.projects.find? (·.projectId = projectId) =
      (s.projects.find? (·.projectId = projectId)).map Project.redact :=
  List.find?_map

theorem find_subscription_redact (project : Uuid) (account : String) :
    s.redact.subscribers.find? (·.isOf project account) =
      (s.subscribers.find? (·.isOf project account)).map Subscriber.redact :=
  List.find?_map

end Keys

/-- Rows that are rewritten, if they satisfy `p`, may be redacted before that or after it. -/
theorem map_rewrite_redact {α : Type} {redact f g : α → α} (p : α → Prop) [DecidablePred p]
    (hp : ∀ a, p (redact a) ↔ p a) (hfg : ∀ a, f (redact a) = redact (g a)) (rows : List α) :
    (rows.map redact).map (fun a => if p a then f a else a) =
      (rows.map fun a => if p a then g a else a).map redact := by
  rw [List.map_map, List.map_map]
  refine List.map_congr_left fun a _ => ?_
  by_cases ha : p a
  · rw [Function.comp_apply, Function.comp_apply, if_pos ha, if_pos ((hp a).2 ha), hfg]
  · rw [Function.comp_apply, Function.comp_apply, if_neg ha, if_neg (ha ∘ (hp a).1)]

theorem append_redact {α : Type} {redact : α → α} (a : α) {b : α} (h : b = redact a)
    (rows : List α) : rows.map redact ++ [b] = (rows ++ [a]).map redact := by
  rw [List.map_append, h]
  rfl

theorem moveProject_redact (now : Instant) (projectId appDomain : String) (ps : List Project) :
    moveProject now projectId appDomain (ps.map Project.redact) =
      (moveProject now projectId appDomain ps).map Project.redact := by
  refine map_rewrite_redact (·.projectId = projectId) ?_ ?_ ps
  · exact fun _ => Iff.rfl
  · exact fun _ => rfl

theorem upsertProject_redact (now : Instant) (r : Project.Upsert) :
    s.redact.upsertProject now { r with
        authentication := r.authentication.redact, subscription := r.subscription.redact } =
      (s.upsertProject now r).map fun p => (p.1.redact, p.2) := by
  unfold upsertProject
  simp only [map_bind, map_ite]
  refine bind_congr fun projectId => bind_congr fun appDomain => bind_congr fun topic => ?_
  rw [any_domain_redact, find_projectId_redact, any_projects_redact]
  refine ite_congr rfl (fun _ => rfl) fun _ => ?_
  have hmoved := moveProject_redact now projectId appDomain s.projects
  cases s.projects.find? (·.projectId = projectId) with
  | some p => exact congrArg (fun ps => Except.ok ({ s.redact with projects := ps }, _)) hmoved
  | none =>
    simp only [Option.map_none, map_ite]
    refine ite_congr rfl (fun _ => rfl) fun _ => ?_
    have hadded : s.redact.projects ++ [newProject now { r with
        authentication := r.authentication.redact, subscription := r.subscription.redact }
          projectId appDomain topic] =
        (s.projects ++ [newProject now r projectId appDomain topic]).map Project.redact :=
      append_redact (newProject now r projectId appDomain topic) rfl s.projects
    exact congrArg (fun ps => Except.ok ({ s.redact with projects := ps }, _)) hadded

theorem findProject_redact (key : Project.Key) :
    s.redact.findProject key = (s.findProject key).map Project.redact := by
  have hkey : ∀ p : Project, p.redact.hasKey key = p.hasKey key := by
    intro p
    cases key <;> rfl
  unfold findProject redact
  rw [List.find?_map]
  exact congrArg (fun q => (s.projects.find? q).map Project.redact) (funext hkey)

theorem writeSubscriber_redact (e : Subscriber.Entry) :
    s.redact.writeSubscriber { e with symKey := blankKeyText } =
      (s.writeSubscriber e).map fun p => (p.1.redact, p.2) := by
  unfold writeSubscriber
  simp only [map_bind]
  refine bind_congr fun project => bind_congr fun account => bind_congr fun topic => ?_
  rw [find_subscription_redact, any_subscribers_redact, any_projects_redact]
  cases s.subscribers.find? (·.isOf project account) with
  | some x =>
    refine congrArg (fun rows => Except.ok ({ s.redact with subscribers := rows }, x.id)) ?_
    refine map_rewrite_redact (fun y => y.isOf project account = true) ?_ ?_ s.subscribers
    · exact fun _ => Iff.rfl
    · exact fun _ => rfl
  | none =>
    simp only [Option.map_none, map_ite]
    refine ite_congr rfl (fun _ => rfl) fun _ => ite_congr rfl (fun _ => ?_) fun _ => rfl
    refine congrArg (fun rows => Except.ok ({ s.redact with subscribers := rows }, e.newId)) ?_
    exact append_redact ⟨e.newId, e.now, e.now, project, account, e.symKey, topic, e.expiry⟩ rfl
      s.subscribers

theorem upsertSubscriber_redact (e : Subscriber.Entry) (scope : Scope) :
    s.redact.upsertSubscriber { e with symKey := blankKeyText } scope =
      (s.upsertSubscriber e scope).map fun p => (p.1.redact, p.2) := by
  unfold upsertSubscriber
  rw [writeSubscriber_redact]
  cases s.writeSubscriber e <;> rfl

theorem extendSubscription_redact (project : Option Uuid) (account : Option String)
    (now expiry : Instant) :
    s.redact.extendSubscription project account now expiry =
      (s.extendSubscription project account now expiry).map fun p => (p.1.redact, p.2) := by
  cases project with
  | none => rfl
  | some project =>
    cases account with
    | none => rfl
    | some account =>
      unfold extendSubscription
      simp only [Option.bind_eq_bind, Option.bind_some]
      rw [find_subscription_redact]
      cases s.subscribers.find? (·.isOf project account) with
      | none => rfl
      | some x =>
        refine congrArg (fun rows => some ({ s.redact with subscribers := rows }, x.id)) ?_
        refine map_rewrite_redact (fun y => y.isOf project account = true) ?_ ?_ s.subscribers
        · exact fun _ => Iff.rfl
        · exact fun _ => rfl

theorem subscriber?_redact (id : Uuid) :
    s.redact.subscriber? id = (s.subscriber? id).map Subscriber.redact :=
  List.find?_map

theorem renewSubscriber_redact (project : Option Uuid) (account : Option String) (scope : Scope)
    (now expiry : Instant) :
    s.redact.renewSubscriber project account scope now expiry =
      (s.renewSubscriber project account scope now expiry).map fun p => (p.1.redact, p.2.redact) := by
  unfold renewSubscriber
  rw [extendSubscription_redact]
  cases s.extendSubscription project account now expiry with
  | none => rfl
  | some p =>
    simp only [Option.map_some, Option.bind_eq_bind, Option.bind_some, subscriber?_redact]
    cases p.1.subscriber? p.2 <;> rfl

theorem deleteSubscriber_redact (id : Option Uuid) :
    s.redact.deleteSubscriber id = ((s.deleteSubscriber id).1.redact, (s.deleteSubscriber id).2) := by
  have hfilter : s.redact.subscribers.filter (some ·.id ≠ id) =
      (s.subscribers.filter (some ·.id ≠ id)).map Subscriber.redact := List.filter_map
  have hany : s.redact.subscribers.any (some ·.id = id) = s.subscribers.any (some ·.id = id) :=
    List.any_map
  unfold deleteSubscriber
  rw [hfilter, hany]
  rfl

theorem replaceScope_redact (id : Option Uuid) (scope : Scope) :
    s.redact.replaceScope id scope = (s.replaceScope id scope).map redact := by
  unfold replaceScope
  simp only [map_ite, map_bind]
  refine ite_congr rfl (fun _ => rfl) fun _ => bind_congr fun id => ?_
  rw [any_subscribers_redact]
  exact ite_congr rfl (fun _ => rfl) fun _ => rfl

theorem addScopeText_redact (id : Option Uuid) (name : Option String) :
    s.redact.addScopeText id name = (s.addScopeText id name).map redact := by
  unfold addScopeText
  simp only [map_bind, map_ite]
  refine bind_congr fun id => bind_congr fun name => ?_
  rw [any_subscribers_redact]
  exact ite_congr rfl (fun _ => rfl) fun _ => rfl

theorem knowsProject_redact (id : Option Uuid) :
    s.redact.knowsProject id = s.knowsProject id := by
  cases id with
  | none => rfl
  | some id => exact s.any_projects_redact id

theorem upsertWatcher_redact (e : Watcher.Entry) :
    s.redact.upsertWatcher { e with symKey := e.symKey.map fun _ => "" } =
      (s.upsertWatcher e).map redact := by
  unfold upsertWatcher
  simp only [map_bind]
  refine bind_congr fun account => bind_congr fun didKey => ?_
  cases e.symKey with
  | none => rfl
  | some symKey =>
    change (required .watcher "expiry" e.expiry >>= _) = (required .watcher "expiry" e.expiry >>= _)
    refine bind_congr fun expiry => ?_
    rw [any_didKey_redact, any_watchers_redact, knowsProject_redact, map_ite, map_ite, map_ite,
      map_ite]
    refine ite_congr rfl (fun _ => ite_congr rfl (fun _ => ?_) fun _ => rfl) fun _ =>
      ite_congr rfl (fun _ => rfl) fun _ => ite_congr rfl (fun _ => ?_) fun _ => rfl
    · refine congrArg (fun rows => Except.ok { s.redact with watchers := rows }) ?_
      refine map_rewrite_redact (·.didKey = didKey) ?_ ?_ s.watchers
      · exact fun _ => Iff.rfl
      · exact fun _ => rfl
    · refine congrArg (fun rows => Except.ok { s.redact with watchers := rows }) ?_
      exact append_redact ⟨e.newId, e.now, e.now, account, e.project, didKey, symKey, expiry⟩ rfl
        s.watchers

theorem sweepWatchers_redact (now : Instant) :
    s.redact.sweepWatchers now = ((s.sweepWatchers now).1.redact, (s.sweepWatchers now).2) := by
  have hfilter : s.redact.watchers.filter (·.isActive now) =
      (s.watchers.filter (·.isActive now)).map Watcher.redact := List.filter_map
  have hcount : s.redact.watchers.countP (!·.isActive now) = s.watchers.countP (!·.isActive now) :=
    List.countP_map
  unfold sweepWatchers
  rw [hfilter, hcount]
  rfl

theorem deleteProject_redact (id : Option Uuid) :
    s.redact.deleteProject id = (s.deleteProject id).redact := by
  have hprojects : s.redact.projects.filter (some ·.id != id) =
      (s.projects.filter (some ·.id != id)).map Project.redact := List.filter_map
  have hgone : s.redact.subscribers.filter (some ·.project == id) =
      (s.subscribers.filter (some ·.project == id)).map Subscriber.redact := List.filter_map
  have hstay : s.redact.subscribers.filter (some ·.project != id) =
      (s.subscribers.filter (some ·.project != id)).map Subscriber.redact := List.filter_map
  have hwatchers : s.redact.watchers.filter (fun w => w.project.isNone || w.project != id) =
      (s.watchers.filter fun w => w.project.isNone || w.project != id).map Watcher.redact :=
    List.filter_map
  unfold deleteProject
  rw [hprojects, hgone, hstay, hwatchers]
  simp only [List.any_map]
  rfl

end Store

/-! ## Views -/

namespace Store

variable (s : Store)

/-- The records of a view, gathered by subscriber. -/
theorem gathered_redact {α β : Type} {f : α → α} {g : β → β} {subscriber : α → Subscriber}
    {record : α → Scope → β} (hid : ∀ a, (subscriber (f a)).id = (subscriber a).id)
    (hrecord : ∀ a scope, record (f a) scope = g (record a scope)) (xs : List α) :
    s.redact.gathered subscriber record (xs.map f) =
      (s.gathered subscriber record xs).arrange (List.map g) :=
  s.gathered_map hid hrecord xs

theorem subscriptions_redact :
    s.redact.subscriptions = s.subscriptions.map fun r => (r.1.redact, r.2.redact) :=
  innerJoin_map fun _ _ => rfl

theorem filter_subscriptions_redact {p : Subscriber × Project → Bool}
    (h : ∀ r, p (r.1.redact, r.2.redact) = p r) :
    s.redact.subscriptions.filter p =
      (s.subscriptions.filter p).map fun r => (r.1.redact, r.2.redact) := by
  rw [subscriptions_redact, filter_map_of_agree h]

theorem subscriberByTopic_redact (topic : Option String) :
    s.redact.subscriberByTopic topic =
      (s.subscriberByTopic topic).map fun p => (p.1.redact, p.2) := by
  have hfilter : s.redact.subscribers.filter (fun x => some x.topic == topic) =
      (s.subscribers.filter fun x => some x.topic == topic).map Subscriber.redact := List.filter_map
  have hgroups : groupRows Subscriber.id (sortById (fun r => r.1.id)
        (s.redact.withScopeNames id (s.redact.subscribers.filter fun x => some x.topic == topic))) =
      (groupRows Subscriber.id (sortById (fun r => r.1.id)
        (s.withScopeNames id (s.subscribers.filter fun x => some x.topic == topic)))).map
        fun g => (g.1.redact, g.2) := by
    have hnames : s.redact.withScopeNames id
          ((s.subscribers.filter fun x => some x.topic == topic).map Subscriber.redact) =
        (s.withScopeNames id (s.subscribers.filter fun x => some x.topic == topic)).map
          fun r => (r.1.redact, r.2) := s.withScopeNames_map (f := Subscriber.redact) (fun _ => rfl) _
    rw [hfilter, hnames, sortById_map]
    exact groupRows_map (fun _ => rfl) _
  unfold subscriberByTopic
  dsimp only
  rw [hgroups]
  cases groupRows Subscriber.id (sortById (fun r => r.1.id)
      (s.withScopeNames id (s.subscribers.filter fun x => some x.topic == topic))) with
  | nil => rfl
  | cons g gs => rfl

theorem subscribersIn_redact (project : Option Uuid) (accounts : List (Option String)) :
    s.redact.subscribersIn project accounts =
      (s.subscribersIn project accounts).arrange (List.map SubscriberRecord.redact) := by
  have hfilter : s.redact.subscribers.filter
        (fun x => some x.project == project && accounts.contains (some x.account)) =
      (s.subscribers.filter fun x =>
        some x.project == project && accounts.contains (some x.account)).map Subscriber.redact :=
    List.filter_map
  rw [subscribersIn_eq, hfilter]
  refine (congrArg (Listing.arrange _) (s.gathered_redact (f := Subscriber.redact)
    (g := SubscriberRecord.redact) ?_ ?_ _)).trans (Listing.arrange_map ?_)
  · exact fun _ => rfl
  · exact fun _ _ => rfl
  · exact sortById_map _ _

theorem subscriptionsWhere_redact {p : Subscriber × Project → Bool}
    (h : ∀ r, p (r.1.redact, r.2.redact) = p r) :
    s.redact.subscriptionsWhere p =
      (s.subscriptionsWhere p).arrange (List.map SubscriptionRecord.redact) := by
  rw [subscriptionsWhere_eq, filter_subscriptions_redact s h]
  refine (congrArg (Listing.arrange _) (s.gathered_redact
    (f := fun r : Subscriber × Project => (r.1.redact, r.2.redact))
    (g := SubscriptionRecord.redact) ?_ ?_ _)).trans (Listing.arrange_map ?_)
  · exact fun _ => rfl
  · exact fun _ _ => rfl
  · exact (List.map_mergeSort (f := SubscriptionRecord.redact) fun _ _ _ _ => rfl).symm

theorem accountsOf_redact (projectId : Option String) :
    s.redact.accountsOf projectId = s.accountsOf projectId := by
  unfold accountsOf
  rw [filter_subscriptions_redact s fun _ => rfl, List.map_map]
  rfl

theorem accountScopesOf_redact (projectId : Option String) :
    s.redact.accountScopesOf projectId = s.accountScopesOf projectId := by
  rw [accountScopesOf_eq, filter_subscriptions_redact s fun _ => rfl]
  refine congrArg (Listing.arrange _) ((s.gathered_redact
    (f := fun r : Subscriber × Project => (r.1.redact, r.2.redact)) (g := id) ?_ ?_ _).trans ?_)
  · exact fun _ => rfl
  · exact fun _ _ => rfl
  · exact congrArg (Listing.mk · _) (List.map_id _)

theorem projectTopics_redact : s.redact.projectTopics = s.projectTopics := List.map_map

theorem subscriberTopics_redact : s.redact.subscriberTopics = s.subscriberTopics := List.map_map

theorem watchersFor_redact (account appDomain : Option String) (now : Instant) :
    s.redact.watchersFor account appDomain now =
      (s.watchersFor account appDomain now).map WatcherRecord.redact := by
  have hjoin : outerJoin (fun w p => w.project = some p.id) s.redact.watchers s.redact.projects =
      (outerJoin (fun w p => w.project = some p.id) s.watchers s.projects).map
        fun r => (r.1.redact, r.2.map Project.redact) := outerJoin_map fun _ _ => rfl
  have hcovers : ∀ r : Watcher × Option Project,
      (r.2.map Project.redact).any (fun p => some p.appDomain == appDomain) =
        r.2.any fun p => some p.appDomain == appDomain := by
    intro r
    cases r.2 <;> rfl
  unfold watchersFor
  dsimp only
  rw [hjoin, filter_map_of_agree fun r => congrArg (fun b => r.1.isActive now &&
    some r.1.account == account && (r.1.project.isNone || b)) (hcovers r), List.map_map]
  refine Eq.trans ?_ (sortByText_map WatcherRecord.didKey _)
  rw [List.map_map]
  rfl

theorem dump_redact : s.redact.dump = s.dump.redact := by
  have hprojects : sortById (·.id) s.redact.projects =
      (sortById (·.id) s.projects).map Project.redact := sortById_map _ _
  have hsubscribers : sortById (·.id) s.redact.subscribers =
      (sortById (·.id) s.subscribers).map Subscriber.redact := sortById_map _ _
  have hwatchers : sortById (·.id) s.redact.watchers =
      (sortById (·.id) s.watchers).map Watcher.redact := sortById_map _ _
  unfold dump
  rw [hprojects, hsubscribers, hwatchers]
  rfl

end Store

/-! ## Statements -/

/-- What the second statement does to a redacted store is what the first does to the store,
redacted. -/
def Statement.Redacts : Statement → Statement → Prop
  | .read run, .read run' => ∀ s, run' s.redact = (run s).map Reply.redact
  | .write run, .write run' => ∀ s, run' s.redact = (run s).map redactWritten
  | _, _ => False

theorem KeyPair.Draft.part_blank (p : Option Value) : part (blank p) = (part p).map fun _ => "" := by
  cases p with
  | none => rfl
  | some v => cases v <;> rfl

theorem KeyPair.Draft.validate_redact (d : Draft) : d.redact.validate = d.validate.map KeyPair.redact := by
  unfold validate redact
  dsimp only
  rw [part_blank]
  cases part d.privateKey <;> cases part d.publicKey <;> rfl

/-- The blank key is a key, and has the text that stands in the place of every key. -/
theorem notifyKeyText_blankKey {bytes : List UInt8} (h : bytes.length = notifyKeyLength) :
    notifyKeyText (blankKey bytes) = blankKeyText := by
  unfold blankKey blankKeyText
  rw [h]

theorem length_blankKey (bytes : List UInt8) : (blankKey bytes).length = bytes.length :=
  List.length_replicate

namespace Operation

theorem validKeyPair_redact (d : KeyPair.Draft) :
    validKeyPair d.redact = (validKeyPair d).map KeyPair.redact := by
  unfold validKeyPair
  rw [KeyPair.Draft.validate_redact]
  cases d.validate <;> rfl

theorem projectWrite_redact (clock : Instant) (r : Project.Upsert) (s : Store) :
    projectWrite clock { r with
        authentication := r.authentication.redact, subscription := r.subscription.redact } s.redact =
      (projectWrite clock r s).map redactWritten := by
  unfold projectWrite
  rw [Store.upsertProject_redact]
  cases s.upsertProject clock r <;> rfl

theorem projectRead_redact (key : Project.Key) (s : Store) :
    projectRead key s.redact = (projectRead key s).map Reply.redact := by
  unfold projectRead
  rw [Store.findProject_redact]
  cases s.findProject key <;> rfl

theorem subscriberWrite_redact (e : Subscriber.Entry) (scope : Scope) (s : Store) :
    subscriberWrite { e with symKey := blankKeyText } scope s.redact =
      (subscriberWrite e scope s).map redactWritten := by
  rw [subscriberWrite_whole, subscriberWrite_whole, Store.upsertSubscriber_redact]
  cases s.upsertSubscriber e scope <;> rfl

theorem renewalWrite_redact (r : Subscriber.Renewal) (now expiry : Instant) (s : Store) :
    renewalWrite r now expiry s.redact = (renewalWrite r now expiry s).map redactWritten := by
  rw [renewalWrite_whole, renewalWrite_whole, Store.renewSubscriber_redact]
  cases s.renewSubscriber r.project r.account r.scope now expiry <;> rfl

theorem subscriberDeletion_redact (id : Option Uuid) (s : Store) :
    subscriberDeletion id s.redact = (subscriberDeletion id s).map redactWritten := by
  rw [subscriberDeletion_whole, subscriberDeletion_whole, Store.deleteSubscriber_redact]
  rfl

theorem topicRead_redact (topic : Option String) (s : Store) :
    topicRead topic s.redact = (topicRead topic s).map Reply.redact := by
  unfold topicRead
  rw [Store.subscriberByTopic_redact]
  cases s.subscriberByTopic topic <;> rfl

theorem watcherWrite_redact (e : Watcher.Entry) (s : Store) :
    watcherWrite { e with symKey := e.symKey.map fun _ => "" } s.redact =
      (watcherWrite e s).map redactWritten := by
  unfold watcherWrite
  rw [Store.upsertWatcher_redact]
  cases s.upsertWatcher e <;> rfl

theorem sweepWrite_redact (now : Instant) (s : Store) :
    sweepWrite now s.redact = (sweepWrite now s).map redactWritten := by
  unfold sweepWrite
  rw [Store.sweepWatchers_redact]
  rfl

theorem scopeTextWrite_redact (subscriber : Option Uuid) (name : Option String) (s : Store) :
    scopeTextWrite subscriber name s.redact = (scopeTextWrite subscriber name s).map redactWritten := by
  unfold scopeTextWrite
  rw [Store.addScopeText_redact]
  cases s.addScopeText subscriber name <;> rfl

theorem projectDeletion_redact (id : Option Uuid) (s : Store) :
    projectDeletion id s.redact = (projectDeletion id s).map redactWritten := by
  unfold projectDeletion
  rw [Store.deleteProject_redact]
  rfl

theorem scopeReplacement_redact (subscriber : Option Uuid) (scope : Scope) (s : Store) :
    scopeReplacement subscriber scope s.redact =
      (scopeReplacement subscriber scope s).map redactWritten := by
  unfold scopeReplacement
  rw [Store.replaceScope_redact]
  cases s.replaceScope subscriber scope <;> rfl

/-- Checks give two calls the same fault, or a statement each. -/
inductive Prepared : Except Fault Statement → Except Fault Statement → Prop
  | fault (f : Fault) : Prepared (.error f) (.error f)
  | statement {st st' : Statement} (h : st.Redacts st') : Prepared (.ok st) (.ok st')

theorem Prepared.bind {α : Type} {x : Except Fault α} {g g' : α → Except Fault Statement}
    (h : ∀ a, Prepared (g a) (g' a)) : Prepared (x >>= g) (x >>= g') := by
  cases x with
  | error f => exact .fault f
  | ok a => exact h a

theorem Prepared.bind_map {α : Type} {redact : α → α} {x : Except Fault α}
    {g g' : α → Except Fault Statement} (h : ∀ a, Prepared (g a) (g' (redact a))) :
    Prepared (x >>= g) (x.map redact >>= g') := by
  cases x with
  | error f => exact .fault f
  | ok a => exact h a

theorem Prepared.total {reply reply' : Store → Reply} (h : ∀ s, reply' s.redact = (reply s).redact) :
    Prepared (.ok (total reply)) (.ok (total reply')) :=
  .statement fun s => congrArg Except.ok (h s)

/-- A call and the redacted call are turned down alike, or their statements do alike. -/
theorem prepare_redact (clock : Instant) (op : Operation) :
    Prepared (op.prepare clock) (op.redact.prepare clock) := by
  cases op with
  | upsertProject r =>
    unfold redact prepare Project.Request.redact
    dsimp only
    rw [validKeyPair_redact, validKeyPair_redact]
    refine .bind_map fun a => .bind_map fun b => .statement fun s => ?_
    exact projectWrite_redact clock ⟨r.newId, r.projectId, r.appDomain, r.topic, a, b⟩ s
  | findProject key => exact .statement (projectRead_redact key)
  | projectTopics =>
    refine .total fun s => ?_
    rw [Store.projectTopics_redact]
    rfl
  | upsertSubscriber r =>
    unfold redact prepare Subscriber.Upsert.redact
    dsimp only
    rw [length_blankKey]
    split
    · exact .fault _
    · rename_i hlength
      rw [notifyKeyText_blankKey (Decidable.not_not.1 hlength)]
      refine .bind fun now => .bind fun expiry => .statement fun s => ?_
      exact subscriberWrite_redact ⟨r.newId, r.project, r.account, notifyKeyText r.notifyKey, r.topic,
        now, expiry⟩ r.scope s
  | renewSubscriber r =>
    exact .bind fun now => .bind fun expiry => .statement (renewalWrite_redact r now expiry)
  | deleteSubscriber id => exact .statement (subscriberDeletion_redact id)
  | subscriberByTopic topic => exact .statement (topicRead_redact topic)
  | subscribersIn project accounts =>
    refine .total fun s => ?_
    exact congrArg (listingReply .subscriberRecords) (s.subscribersIn_redact project accounts)
  | subscriptionsOf account =>
    refine .total fun s => ?_
    exact congrArg (listingReply .subscriptions) (s.subscriptionsWhere_redact fun _ => rfl)
  | subscriptionsAt account appDomain =>
    refine .total fun s => ?_
    exact congrArg (listingReply .subscriptions) (s.subscriptionsWhere_redact fun _ => rfl)
  | accountsOf projectId =>
    refine .total fun s => ?_
    rw [Store.accountsOf_redact]
    rfl
  | accountScopesOf projectId =>
    refine .total fun s => ?_
    exact congrArg (listingReply .accountScopes) (s.accountScopesOf_redact projectId)
  | subscriberTopics =>
    refine .total fun s => ?_
    rw [Store.subscriberTopics_redact]
    rfl
  | upsertWatcher r =>
    refine .bind fun expiry => .statement fun s => ?_
    exact watcherWrite_redact ⟨r.newId, r.account, r.project, r.didKey, r.symKey, expiry, clock⟩ s
  | watchersFor account appDomain now =>
    refine .bind fun now => .total fun s => ?_
    rw [Store.watchersFor_redact]
    rfl
  | sweepWatchers now => exact .bind fun now => .statement (sweepWrite_redact now)
  | addScopeText subscriber name => exact .statement (scopeTextWrite_redact subscriber name)
  | deleteProject id => exact .statement (projectDeletion_redact id)

end Operation

end SubscriptionRegistry
