import SubscriptionRegistry.Proofs.Integrity
import SubscriptionRegistry.Proofs.Joins

/-!
# What the read views answer

The views of subscriptions join tables and gather the joined rows. What comes of this is one record
for each subscriber that a call asks for, with the columns of its own row, its own project and its
own scope, in whatever order the rows of the join come.

* `Scope.mem_decode`, `Scope.ext_mem`: the members of a decoded scope, which are all there is to it.
* `Store.scopeOf`: the scope that the stored texts of a subscriber spell.
* `Store.Reads`: gathering the rows of a join gives the expected records. `Store.reads`: it does so
  for rows with ids of their own.
* `Store.first_groupRows`: the first group of rows that are sorted by id.
* `Registry.Lists`: a session is answered the expected records. `Store.topicRead_cases`: what the
  lookup by topic answers.
* `Script.views_exact`: the views at every point of a run.
-/

namespace SubscriptionRegistry

namespace Uuid

variable {a b c : Uuid}

theorem le_trans (hab : a.le b = true) (hbc : b.le c = true) : a.le c = true :=
  decide_eq_true (Fin.le_trans (of_decide_eq_true hab) (of_decide_eq_true hbc))

theorem le_total (a b : Uuid) : (a.le b || b.le a) = true := by
  rw [Bool.or_eq_true]
  exact (Fin.le_total a.value b.value).imp decide_eq_true decide_eq_true

theorem le_antisymm (hab : a.le b = true) (hba : b.le a = true) : a = b :=
  ext (Fin.le_antisymm (of_decide_eq_true hab) (of_decide_eq_true hba))

end Uuid

theorem pairwise_sortById (f : α → Uuid) (rows : List α) :
    (sortById f rows).Pairwise fun a b => (f a).le (f b) := by
  have htrans : ∀ a b c, (f a).le (f b) = true → (f b).le (f c) = true → (f a).le (f c) = true :=
    fun _ _ _ => Uuid.le_trans
  exact List.pairwise_mergeSort htrans (fun a b => Uuid.le_total (f a) (f b)) rows

namespace Scope

theorem mem_decode {items : List Value} {u : Uuid} :
    u ∈ (decode items).1 ↔ ∃ item ∈ items, readItem? item = some u := by
  induction items with
  | nil => simp [decode]
  | cons item items ih =>
    have hhead : u ∈ (decode (item :: items)).1 ↔
        readItem? item = some u ∨ u ∈ (decode items).1 := by
      rw [decode]
      cases hr : readItem? item with
      | some v => simp [eq_comm]
      | none => cases item <;> simp
    simp only [hhead, ih, List.mem_cons, exists_eq_or_imp]

/-- Scopes with the same members are the same. -/
theorem ext_mem {a b : Scope} (h : ∀ u, u ∈ a ↔ u ∈ b) : a = b := by
  have hnodup : ∀ s : Scope, s.ids.Nodup := fun s =>
    s.ascending.imp fun {u v} hlt (heq : u = v) => Fin.lt_irrefl v.value (heq ▸ hlt)
  have hperm : a.ids.Perm b.ids := (List.perm_ext_iff_of_nodup (hnodup a) (hnodup b)).2 h
  have hids : a.ids = b.ids := hperm.eq_of_pairwise
    (fun u v _ _ huv hvu => absurd hvu (Fin.not_lt.2 (Fin.le_of_lt huv))) a.ascending b.ascending
  cases a
  cases b
  cases hids
  rfl

end Scope

/-! ## Gathered rows -/

namespace Store

variable {s : Store}

/-- The scope that the stored texts of a subscriber spell. A text that spells no identifier adds
nothing to it. -/
def scopeOf (s : Store) (id : Uuid) : Scope :=
  .ofList ((s.scopeTexts id).filterMap Uuid.read?)

theorem mem_scopeOf {id u : Uuid} :
    u ∈ s.scopeOf id ↔ ∃ e ∈ s.scopes, e.subscriber = id ∧ Uuid.read? e.name = some u := by
  simp only [scopeOf, Scope.mem_ofList, List.mem_filterMap, scopeTexts, List.mem_map,
    List.mem_filter, decide_eq_true_eq]
  constructor
  · rintro ⟨_, ⟨e, ⟨he, hid⟩, rfl⟩, hr⟩
    exact ⟨e, he, hid, hr⟩
  · rintro ⟨e, he, hid, hr⟩
    exact ⟨e.name, ⟨e, ⟨he, hid⟩, rfl⟩, hr⟩

section Rows

variable {α β : Type} {subscriber : α → Subscriber} {xs : List α} {rows : List (α × Value)}

/-- The joined rows of a row: one for each scope entry of its subscriber, or one with null. -/
theorem mem_withScopeNames {x : α} {v : Value} :
    (x, v) ∈ s.withScopeNames subscriber xs ↔ x ∈ xs ∧
      ((∃ e ∈ s.scopes, e.subscriber = (subscriber x).id ∧ v = .text e.name) ∨
        (v = .null ∧ ∀ e ∈ s.scopes, e.subscriber ≠ (subscriber x).id)) := by
  simp only [withScopeNames, List.mem_map, Prod.mk.injEq, Prod.exists, mem_outerJoin, mem_partners,
    decide_eq_true_eq, decide_eq_false_iff_not]
  constructor
  · rintro ⟨_, o, ⟨hx, ⟨e, he, hid, rfl⟩ | ⟨rfl, hno⟩⟩, rfl, rfl⟩
    · exact ⟨hx, .inl ⟨e, he, hid, rfl⟩⟩
    · exact ⟨hx, .inr ⟨rfl, hno⟩⟩
  · rintro ⟨hx, ⟨e, he, hid, rfl⟩ | ⟨rfl, hno⟩⟩
    · exact ⟨x, some e, ⟨hx, .inl ⟨e, he, hid, rfl⟩⟩, rfl, rfl⟩
    · exact ⟨x, none, ⟨hx, .inr ⟨rfl, hno⟩⟩, rfl, rfl⟩

/-- Every row is joined to something. -/
theorem exists_withScopeNames (s : Store) (subscriber : α → Subscriber) {x : α} (hx : x ∈ xs) :
    ∃ v, (x, v) ∈ s.withScopeNames subscriber xs := by
  by_cases h : ∃ e ∈ s.scopes, e.subscriber = (subscriber x).id
  · obtain ⟨e, he, hid⟩ := h
    exact ⟨_, mem_withScopeNames.2 ⟨hx, .inl ⟨e, he, hid, rfl⟩⟩⟩
  · exact ⟨_, mem_withScopeNames.2 ⟨hx, .inr ⟨rfl, fun e he hid => h ⟨e, he, hid⟩⟩⟩⟩

/-- The names that are joined to a row spell the scope of its subscriber. -/
theorem decode_withScopeNames (h : rows.Perm (s.withScopeNames subscriber xs)) {x : α}
    (hx : x ∈ xs) :
    (Scope.decode ((rows.filter fun r => (subscriber r.1).id = (subscriber x).id).map Prod.snd)).1 =
      s.scopeOf (subscriber x).id := by
  refine Scope.ext_mem fun u => ?_
  simp only [Scope.mem_decode, mem_scopeOf, List.mem_map, List.mem_filter, decide_eq_true_eq]
  constructor
  · rintro ⟨_, ⟨⟨y, v⟩, ⟨hrow, hid⟩, rfl⟩, hr⟩
    obtain ⟨-, ⟨e, he, hye, rfl⟩ | ⟨rfl, -⟩⟩ := mem_withScopeNames.1 (h.mem_iff.1 hrow)
    · exact ⟨e, he, hye.trans hid, hr⟩
    · cases hr
  · rintro ⟨e, he, hid, hr⟩
    have hrow : (x, Value.text e.name) ∈ rows :=
      h.mem_iff.2 (mem_withScopeNames.2 ⟨hx, .inl ⟨e, he, hid, rfl⟩⟩)
    exact ⟨.text e.name, ⟨(x, .text e.name), ⟨hrow, rfl⟩, rfl⟩, hr⟩

/-- The rows that `xs` are joined to give the expected records when they are gathered by subscriber,
in whatever order they come. -/
def Reads (s : Store) (subscriber : α → Subscriber) (xs : List α) (record : α → Scope → β)
    (expected : List β) : Prop :=
  ∀ rows, rows.Perm (s.withScopeNames subscriber xs) →
    (Listing.ofGroups record (groupRows (fun x => (subscriber x).id) rows)).records.Perm expected

/-- A gathered group shows a row of `xs` with the scope of its subscriber. -/
theorem shown_groupRows (h : rows.Perm (s.withScopeNames subscriber xs)) {g : α × List Value}
    (hg : g ∈ groupRows (fun x => (subscriber x).id) rows) :
    g.1 ∈ xs ∧ (Scope.decode g.2).1 = s.scopeOf (subscriber g.1).id := by
  have hgs := grouped_groupRows (fun x => (subscriber x).id) rows
  obtain ⟨⟨x, v⟩, hrow, hxg⟩ := List.mem_map.1 (hgs.shown g hg)
  have hx : g.1 ∈ xs := hxg ▸ (mem_withScopeNames.1 (h.mem_iff.1 hrow)).1
  refine ⟨hx, ?_⟩
  rw [hgs.members g hg]
  exact decode_withScopeNames h hx

/-- Rows with ids of their own are shown once each, with the scopes of their subscribers. -/
theorem reads (s : Store) (subscriber : α → Subscriber) (record : α → Scope → β)
    (hk : Keyed (fun x => (subscriber x).id) xs) :
    s.Reads subscriber xs record (xs.map fun x => record x (s.scopeOf (subscriber x).id)) := by
  intro rows h
  have hgs := grouped_groupRows (fun x => (subscriber x).id) rows
  have hrecords : (Listing.ofGroups record (groupRows (fun x => (subscriber x).id) rows)).records =
      ((groupRows (fun x => (subscriber x).id) rows).map Prod.fst).map
        fun x => record x (s.scopeOf (subscriber x).id) := by
    rw [List.map_map]
    refine List.map_congr_left fun g hg => ?_
    rw [(shown_groupRows h hg).2]
    rfl
  have hkeyed : Keyed (fun x => (subscriber x).id)
      ((groupRows (fun x => (subscriber x).id) rows).map Prod.fst) := by
    rw [Keyed, List.map_map]
    exact hgs.nodup
  have hperm : ((groupRows (fun x => (subscriber x).id) rows).map Prod.fst).Perm xs := by
    refine (List.perm_ext_iff_of_nodup hkeyed.nodup hk.nodup).2 fun x => ?_
    rw [List.mem_map]
    constructor
    · rintro ⟨g, hg, rfl⟩
      exact (shown_groupRows h hg).1
    · intro hx
      obtain ⟨v, hrow⟩ := s.exists_withScopeNames subscriber hx
      obtain ⟨g, hg, hid⟩ := hgs.complete (x, v) (h.mem_iff.2 hrow)
      exact ⟨g, hg, hk.eq (shown_groupRows h hg).1 hx hid⟩
  rw [hrecords]
  exact hperm.map _

/-- If the rows come sorted by id, the first group is that of the lowest id. -/
theorem first_groupRows (h : rows.Perm (s.withScopeNames subscriber xs))
    (hsorted : rows.Pairwise fun a b => (subscriber a.1).id.le (subscriber b.1).id) :
    (∃ x ∈ xs, (∀ y ∈ xs, (subscriber x).id.le (subscriber y).id) ∧
        ∃ names gs, groupRows (fun x => (subscriber x).id) rows = (x, names) :: gs ∧
          (Scope.decode names).1 = s.scopeOf (subscriber x).id) ∨
      (xs = [] ∧ groupRows (fun x => (subscriber x).id) rows = []) := by
  cases rows with
  | nil =>
    refine .inr ⟨List.eq_nil_iff_forall_not_mem.2 fun x hx => ?_, rfl⟩
    obtain ⟨v, hrow⟩ := s.exists_withScopeNames subscriber hx
    exact absurd (h.mem_iff.2 hrow) List.not_mem_nil
  | cons r rest =>
    obtain ⟨names, gs, hgroups⟩ := head_groupRows (fun x => (subscriber x).id) r rest
    have hfirst := shown_groupRows h (g := (r.1, names)) (hgroups ▸ List.mem_cons_self)
    refine .inl ⟨r.1, hfirst.1, fun y hy => ?_, names, gs, hgroups, hfirst.2⟩
    obtain ⟨v, hrow⟩ := s.exists_withScopeNames subscriber hy
    rcases List.mem_cons.1 (h.mem_iff.2 hrow) with rfl | hrest
    · exact decide_eq_true (Fin.le_refl _)
    · exact (List.pairwise_cons.1 hsorted).1 _ hrest

end Rows

/-! ## Subscribers and their projects -/

/-- Each stored subscriber is joined to its own project. -/
theorem Intact.exists_home (h : s.Intact) : ∃ home : Subscriber → Project,
    (∀ x ∈ s.subscribers, home x ∈ s.projects ∧ (home x).id = x.project) ∧
      s.subscriptions = s.subscribers.map fun x => (x, home x) := by
  have hpartner : ∀ x : Subscriber, ∃ p : Project, x ∈ s.subscribers → p ∈ s.projects ∧
      p.id = x.project ∧ s.projects.filter (fun p => p.id = x.project) = [p] := fun x => by
    by_cases hx : x ∈ s.subscribers
    · obtain ⟨p, hp, hpx⟩ := h.subscribers_project x hx
      refine ⟨p, fun _ => ⟨hp, hpx, ?_⟩⟩
      rw [← hpx]
      exact h.projects_id.filter_eq hp
    · -- Of a row that is not stored nothing is asked.
      exact ⟨⟨x.project, x.createdAt, x.updatedAt, "", "", "", ⟨"", ""⟩, ⟨"", ""⟩⟩,
        fun hxs => absurd hxs hx⟩
  obtain ⟨home, hhome⟩ := Classical.axiomOfChoice hpartner
  exact ⟨home, fun x hx => ⟨(hhome x hx).1, (hhome x hx).2.1⟩,
    innerJoin_eq_map fun x hx => (hhome x hx).2.2⟩

/-! ## Records -/

/-- The record of a stored subscriber. -/
def shown (s : Store) (x : Subscriber) : SubscriberRecord where
  id := x.id
  project := x.project
  account := x.account
  symKey := x.symKey
  topic := x.topic
  scope := s.scopeOf x.id
  expiry := x.expiry

/-- The record of a stored subscriber with its project. -/
def shownAt (s : Store) (home : Subscriber → Project) (x : Subscriber) : SubscriptionRecord where
  appDomain := (home x).appDomain
  authenticationKey := (home x).authentication.publicKey
  account := x.account
  symKey := x.symKey
  scope := s.scopeOf x.id
  expiry := x.expiry

/-! ## Listings -/

/-- A column that is compared with the argument of a call. -/
theorem some_beq_iff {α : Type} [DecidableEq α] {column : α} {argument : Option α} :
    (some column == argument) = true ↔ argument = some column := by
  rw [beq_iff_eq, eq_comm]

/-- The subscribers of a project among the given accounts. -/
theorem filter_subscribersIn (project : Option Uuid) (accounts : List (Option String)) :
    (s.subscribers.filter fun x =>
        some x.project == project && accounts.contains (some x.account)) =
      s.subscribers.filter fun x => project = some x.project ∧ some x.account ∈ accounts :=
  List.filter_congr fun x _ => by
    rw [Bool.eq_iff_iff, decide_eq_true_eq, Bool.and_eq_true, some_beq_iff, List.contains_iff_mem]

/-- The subscribers that satisfy the criteria of a call, joined to their projects. -/
theorem filter_subscriptions {home : Subscriber → Project}
    (hhome : s.subscriptions = s.subscribers.map fun x => (x, home x))
    (p : Subscriber × Project → Bool) (criteria : Subscriber → Prop) [DecidablePred criteria]
    (hp : ∀ x, p (x, home x) = true ↔ criteria x) :
    s.subscriptions.filter p = (s.subscribers.filter fun x => criteria x).map fun x => (x, home x) := by
  have hcriteria : (s.subscribers.filter fun x => criteria x) =
      s.subscribers.filter fun x => p (x, home x) :=
    List.filter_congr fun x _ => by rw [Bool.eq_iff_iff, decide_eq_true_eq, hp]
  rw [hhome, List.filter_map, hcriteria]
  rfl

section Listings

variable (h : s.Intact)
include h

theorem Intact.reads_subscribersIn (project : Option Uuid) (accounts : List (Option String)) :
    s.Reads id (s.subscribers.filter fun x =>
        some x.project == project && accounts.contains (some x.account)) subscriberRecord
      ((s.subscribers.filter fun x =>
        project = some x.project ∧ some x.account ∈ accounts).map s.shown) := by
  rw [← filter_subscribersIn]
  exact s.reads id subscriberRecord (h.subscribers_id.filter _)

/-- Subscribers that are joined to their projects are shown once each. -/
theorem Intact.reads_subscriptions {β : Type} {home : Subscriber → Project}
    (hhome : s.subscriptions = s.subscribers.map fun x => (x, home x))
    (p : Subscriber × Project → Bool) (criteria : Subscriber → Prop) [DecidablePred criteria]
    (hp : ∀ x, p (x, home x) = true ↔ criteria x)
    (record : Subscriber × Project → Scope → β) :
    s.Reads Prod.fst (s.subscriptions.filter p) record
      ((s.subscribers.filter fun x => criteria x).map fun x =>
        record (x, home x) (s.scopeOf x.id)) := by
  have hk : Keyed (fun x : Subscriber × Project => x.1.id) s.subscriptions := by
    rw [hhome, Keyed, List.map_map]
    exact h.subscribers_id
  have hreads := s.reads Prod.fst record (hk.filter p)
  rw [filter_subscriptions hhome p criteria hp, List.map_map] at hreads
  rw [filter_subscriptions hhome p criteria hp]
  exact hreads

end Listings

/-! ## The subscriber with a topic -/

/-- Of the subscribers with the topic the row has the lowest id. -/
structure IsFirstOn (s : Store) (topic : Option String) (x : Subscriber) : Prop where
  mem : x ∈ s.subscribers
  has_topic : topic = some x.topic
  least : ∀ y ∈ s.subscribers, topic = some y.topic → x.id.le y.id

theorem IsFirstOn.unique {topic : Option String} {x y : Subscriber} (h : s.Intact)
    (hx : s.IsFirstOn topic x) (hy : s.IsFirstOn topic y) : x = y :=
  have hxy := hx.least y hy.mem hy.has_topic
  have hyx := hy.least x hx.mem hx.has_topic
  h.subscribers_id.eq hx.mem hy.mem (Uuid.le_antisymm hxy hyx)

/-- The rows of the subscribers with a topic. -/
def topicRows (s : Store) (topic : Option String) : List (Subscriber × Value) :=
  s.withScopeNames id (s.subscribers.filter fun x => some x.topic == topic)

/-- Sorted rows show the first subscriber with the topic first, if there is one. -/
theorem firstOn_groupRows {topic : Option String} {rows : List (Subscriber × Value)}
    (h : rows.Perm (s.topicRows topic)) (hsorted : rows.Pairwise fun a b => a.1.id.le b.1.id) :
    (∃ x names gs, s.IsFirstOn topic x ∧ groupRows Subscriber.id rows = (x, names) :: gs ∧
        (Scope.decode names).1 = s.scopeOf x.id) ∨
      ((∀ x ∈ s.subscribers, topic ≠ some x.topic) ∧ groupRows Subscriber.id rows = []) := by
  have hmem : ∀ {x}, x ∈ s.subscribers.filter (fun x => some x.topic == topic) ↔
      x ∈ s.subscribers ∧ topic = some x.topic := fun {x} => by
    rw [List.mem_filter, beq_iff_eq, eq_comm (a := topic)]
  rcases first_groupRows h hsorted with ⟨x, hx, hleast, names, gs, hgroups, hscope⟩ | ⟨hnil, hgroups⟩
  · obtain ⟨hxs, htopic⟩ := hmem.1 hx
    exact .inl ⟨x, names, gs, ⟨hxs, htopic, fun y hy hyt => hleast y (hmem.2 ⟨hy, hyt⟩)⟩, hgroups,
      hscope⟩
  · exact .inr ⟨fun x hx htopic => List.ne_nil_of_mem (hmem.2 ⟨hx, htopic⟩) hnil, hgroups⟩

end Store

/-! ## Answers -/

/-- Session `i` is answered the expected records, in some order. -/
def Registry.Lists (r : Registry) (i : SessionId) (op : Operation) (answer : List β → Answer)
    (expected : List β) : Prop :=
  ∃ records events, ((Step.act i (.call op)).run r).1 = .leaf (.ok (answer records)) events ∧
    records.Perm expected

/-- What session `i` is answered by the views, and what the rows that they join give in whatever
order they come. Each stored subscriber `x` has its own project `home x`. -/
structure Registry.ViewsExact (r : Registry) (i : SessionId) (s : Store)
    (home : Subscriber → Project) : Prop where
  home_stored : ∀ x ∈ s.subscribers, home x ∈ s.projects ∧ (home x).id = x.project
  subscribersIn : ∀ project accounts,
    let expected := (s.subscribers.filter fun x =>
      project = some x.project ∧ some x.account ∈ accounts).map s.shown
    s.Reads id (s.subscribers.filter fun x =>
        some x.project == project && accounts.contains (some x.account))
      Store.subscriberRecord expected ∧
    r.Lists i (.subscribersIn project accounts) .subscriberRecords expected
  subscriptionsOf : ∀ account,
    let expected := (s.subscribers.filter fun x => account = some x.account).map (s.shownAt home)
    s.Reads Prod.fst (s.subscriptions.filter fun x => some x.1.account == account)
      Store.subscriptionRecord expected ∧
    r.Lists i (.subscriptionsOf account) .subscriptions expected
  subscriptionsAt : ∀ account appDomain,
    let expected := (s.subscribers.filter fun x =>
      account = some x.account ∧ appDomain = some (home x).appDomain).map (s.shownAt home)
    s.Reads Prod.fst (s.subscriptions.filter fun x =>
        some x.1.account == account && some x.2.appDomain == appDomain)
      Store.subscriptionRecord expected ∧
    r.Lists i (.subscriptionsAt account appDomain) .subscriptions expected
  accountScopesOf : ∀ projectId,
    let expected := (s.subscribers.filter fun x => projectId = some (home x).projectId).map
      fun x => ⟨x.account, s.scopeOf x.id⟩
    s.Reads Prod.fst (s.subscriptions.filter fun x => some x.2.projectId == projectId)
      (fun x scope => ⟨x.1.account, scope⟩) expected ∧
    r.Lists i (.accountScopesOf projectId) .accountScopes expected
  subscriberByTopic : ∀ topic,
    let report := ((Step.act i (.call (.subscriberByTopic topic))).run r).1
    (∃ x, s.IsFirstOn topic x ∧
        (∀ rows, rows.Perm (s.topicRows topic) → (rows.Pairwise fun a b => a.1.id.le b.1.id) →
          (Listing.ofGroups Store.subscriberRecord (groupRows Subscriber.id rows)).records.head? =
            some (s.shown x)) ∧
        ∃ events, report = .leaf (.ok (.subscriberRecord (s.shown x))) events) ∨
      ((∀ x ∈ s.subscribers, topic ≠ some x.topic) ∧
        report = .leaf (.error (.notFound "Subscriber")) [])

section Answers

variable {r : Registry} {i : SessionId} {s : Store} {op : Operation} {β : Type}
  {answer : List β → Answer} {expected : List β}

/-- A call that lists what a view reads of a store. -/
theorem Registry.lists_of_prepare {view : Store → Listing β}
    (hp : op.prepare r.clock = .ok (Operation.total fun s => Operation.listingReply answer (view s)))
    (h : (view (r.database.view i)).records.Perm expected) : r.Lists i op answer expected :=
  ⟨_, _, Step.report_of_read hp, h⟩

/-- A view in its own order of rows, sorted. -/
theorem Store.Reads.arrange {α : Type} {subscriber : α → Subscriber} {xs : List α}
    {record : α → Scope → β} (h : s.Reads subscriber xs record expected) {sort : List β → List β}
    (hsort : ∀ l, (sort l).Perm l) :
    ((Listing.ofGroups record (groupRows (fun x => (subscriber x).id)
      (s.withScopeNames subscriber xs))).arrange sort).records.Perm expected :=
  (hsort _).trans (h _ (.refl _))

/-- The lookup by topic answers the first subscriber with the topic, with the texts that its own
group refuses. -/
theorem Store.topicRead_cases (s : Store) (topic : Option String) :
    (∃ x names gs, s.IsFirstOn topic x ∧
        groupRows Subscriber.id (sortById (fun r => r.1.id) (s.topicRows topic)) = (x, names) :: gs ∧
        Operation.topicRead topic s =
          .ok ⟨.subscriberRecord (s.shown x), Event.dropped (Scope.decode names).2⟩) ∨
      ((∀ x ∈ s.subscribers, topic ≠ some x.topic) ∧
        Operation.topicRead topic s = .error (.notFound "Subscriber")) := by
  have hsorted : (sortById (fun r => r.1.id) (s.topicRows topic)).Pairwise
      fun a b => a.1.id.le b.1.id := pairwise_sortById _ _
  rw [Operation.topicRead, Store.subscriberByTopic]
  rcases firstOn_groupRows (List.mergeSort_perm _ _) hsorted with
    ⟨x, names, gs, hfirst, hgroups, hscope⟩ | ⟨hno, hgroups⟩
  · have hshown : subscriberRecord x (Scope.decode names).1 = s.shown x := by
      rw [hscope]
      rfl
    have hrows : groupRows Subscriber.id (sortById (fun r => r.1.id)
        (s.withScopeNames id (s.subscribers.filter fun x => some x.topic == topic))) =
          (x, names) :: gs := hgroups
    refine .inl ⟨x, names, gs, hfirst, hgroups, ?_⟩
    simp only [hrows, hshown]
  · have hrows : groupRows Subscriber.id (sortById (fun r => r.1.id)
        (s.withScopeNames id (s.subscribers.filter fun x => some x.topic == topic))) = [] := hgroups
    refine .inr ⟨hno, ?_⟩
    simp only [hrows]

theorem Step.report_subscriberByTopic (r : Registry) (i : SessionId) (topic : Option String) :
    ((Step.act i (.call (.subscriberByTopic topic))).run r).1 =
      .ofReply ((Operation.topicRead topic (r.database.view i)).mapError Fault.surface) :=
  Step.report_of_read rfl

theorem Store.Intact.report_subscriberByTopic (h : (r.database.view i).Intact)
    (topic : Option String) :
    let s := r.database.view i
    let report := ((Step.act i (.call (.subscriberByTopic topic))).run r).1
    (∃ x, s.IsFirstOn topic x ∧
        (∀ rows, rows.Perm (s.topicRows topic) → (rows.Pairwise fun a b => a.1.id.le b.1.id) →
          (Listing.ofGroups subscriberRecord (groupRows Subscriber.id rows)).records.head? =
            some (s.shown x)) ∧
        ∃ events, report = .leaf (.ok (.subscriberRecord (s.shown x))) events) ∨
      ((∀ x ∈ s.subscribers, topic ≠ some x.topic) ∧
        report = .leaf (.error (.notFound "Subscriber")) []) := by
  intro s report
  have hreport : report = .ofReply ((Operation.topicRead topic s).mapError Fault.surface) :=
    Step.report_subscriberByTopic r i topic
  rw [hreport]
  rcases s.topicRead_cases topic with ⟨x, names, gs, hfirst, -, hread⟩ | ⟨hno, hread⟩
  · rw [hread]
    refine .inl ⟨x, hfirst, fun rows hperm hrows => ?_, _, rfl⟩
    rcases firstOn_groupRows hperm hrows with
      ⟨y, names', gs', hfirst', hgroups', hscope'⟩ | ⟨hno, -⟩
    · cases hfirst.unique h hfirst'
      rw [hgroups', Listing.ofGroups, List.map_cons, List.head?_cons, hscope']
      rfl
    · exact absurd hfirst.has_topic (hno x hfirst.mem)
  · rw [hread]
    exact .inr ⟨hno, rfl⟩

end Answers

/-- **The views show what is stored.** At every point of a run from the empty store, and in whatever
order the joined rows come, a view has one record for each subscriber that a session sees and that
meets the criteria of the call, and no other record. The record has the columns of the subscriber
and of its own project, and the scope that its own texts spell. The lookup by topic finds the
subscriber with the lowest id, and nothing exactly if none has the topic. -/
theorem Script.views_exact (script : Script) (clock : Instant) (n : Nat) (i : SessionId) :
    let r := script.stateAt (.start clock .empty) n
    ∃ home, r.ViewsExact i (r.database.view i) home := by
  intro r
  have hintact : (r.database.view i).Intact := script.intact_view clock n i
  obtain ⟨home, hstored, hhome⟩ := hintact.exists_home
  have hsort : ∀ {β : Type} (le : β → β → Bool) (l : List β), (l.mergeSort le).Perm l :=
    fun le l => List.mergeSort_perm l le
  refine ⟨home, hstored, fun project accounts => ?_, fun account => ?_, fun account appDomain => ?_,
    fun projectId => ?_, hintact.report_subscriberByTopic⟩
  · have hreads := hintact.reads_subscribersIn project accounts
    exact ⟨hreads, Registry.lists_of_prepare rfl (hreads.arrange (hsort _))⟩
  · have hreads := hintact.reads_subscriptions hhome (fun x => some x.1.account == account)
      (fun x => account = some x.account) (fun x => by rw [beq_iff_eq, eq_comm])
      Store.subscriptionRecord
    exact ⟨hreads, Registry.lists_of_prepare rfl (hreads.arrange (hsort _))⟩
  · have hreads := hintact.reads_subscriptions hhome
      (fun x => some x.1.account == account && some x.2.appDomain == appDomain)
      (fun x => account = some x.account ∧ appDomain = some (home x).appDomain)
      (fun x => by
        rw [Bool.and_eq_true, beq_iff_eq, beq_iff_eq, eq_comm (b := account),
          eq_comm (b := appDomain)])
      Store.subscriptionRecord
    exact ⟨hreads, Registry.lists_of_prepare rfl (hreads.arrange (hsort _))⟩
  · have hreads := hintact.reads_subscriptions hhome (fun x => some x.2.projectId == projectId)
      (fun x => projectId = some (home x).projectId)
      (fun x => by rw [beq_iff_eq, eq_comm])
      fun x scope => AccountScope.mk x.1.account scope
    exact ⟨hreads, Registry.lists_of_prepare rfl (hreads.arrange (hsort _))⟩

end SubscriptionRegistry
