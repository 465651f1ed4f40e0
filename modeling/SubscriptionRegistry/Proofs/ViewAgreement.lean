import Mathlib.Algebra.Ring.Nat
import Mathlib.Data.List.Perm.Basic
import SubscriptionRegistry.Proofs.ReadViews

/-!
# Agreement of the read views

The views of subscriptions are joins that are written apart. They show one relation between projects
and accounts all the same, since no two projects share an external id or an app domain, no two
subscribers of a project share an account, and every subscriber has a project that is stored.

* `Store.subscribersOf`: the subscribers of a project. `Store.Intact.perm_subscribersOf`: each
  stored subscriber is one of exactly one project.
* `Store.Intact.filter_home`: a join finds them by the id, the external id or the app domain of the
  project.
* `Registry.Answers`: a session is answered by a call.
* `Registry.Agreement`: the answers of the views to one session agree.
* `Script.views_agree`: they do at every point of a run.
-/

namespace SubscriptionRegistry

/-! ## Lists in parts and in order -/

/-- Rows that are sorted into classes are those that belong to one of them, each once. -/
theorem perm_flatMap_filter [DecidableEq κ] {f : α → κ} {ks : List κ} (hks : ks.Nodup) (l : List α) :
    (ks.flatMap fun k => l.filter fun x => f x = k).Perm (l.filter fun x => f x ∈ ks) := by
  induction ks with
  | nil => simp
  | cons k ks ih =>
    obtain ⟨hk, hks⟩ := List.nodup_cons.1 hks
    -- The rows of all classes fall into those of the first class and those of the others.
    have hfirst : ((l.filter fun x => f x ∈ k :: ks).filter fun x => f x = k) =
        l.filter fun x => f x = k := by
      rw [List.filter_filter]
      refine List.filter_congr fun x _ => ?_
      by_cases hx : f x = k <;> simp [hx]
    have hothers : ((l.filter fun x => f x ∈ k :: ks).filter fun x => !decide (f x = k)) =
        l.filter fun x => f x ∈ ks := by
      rw [List.filter_filter]
      refine List.filter_congr fun x _ => ?_
      by_cases hx : f x = k <;> simp [hx, hk]
    have hsplit := List.filter_append_perm (fun x => decide (f x = k))
      (l.filter fun x => f x ∈ k :: ks)
    rw [hfirst, hothers] at hsplit
    rw [List.flatMap_cons]
    exact ((ih hks).append_left _).trans hsplit

theorem pairwise_sortByText (f : α → String) (rows : List α) :
    (sortByText f rows).Pairwise fun a b => f a ≤ f b := by
  have htrans : ∀ a b c, textLe (f a) (f b) = true → textLe (f b) (f c) = true →
      textLe (f a) (f c) = true :=
    fun _ _ _ hab hbc =>
      decide_eq_true (String.le_trans (of_decide_eq_true hab) (of_decide_eq_true hbc))
  have htotal : ∀ a b, (textLe (f a) (f b) || textLe (f b) (f a)) = true := by
    intro a b
    rw [Bool.or_eq_true]
    exact (String.le_total (f a) (f b)).imp decide_eq_true decide_eq_true
  exact (List.pairwise_mergeSort htrans htotal rows).imp of_decide_eq_true

theorem sortTexts_perm (texts : List String) : (sortTexts texts).Perm texts :=
  List.mergeSort_perm _ _

namespace Store

variable {s : Store} {p q : Project} {home : Subscriber → Project}

/-! ## The subscribers of a project -/

/-- The subscribers of a project. -/
def subscribersOf (s : Store) (p : Project) : List Subscriber :=
  s.subscribers.filter fun x => x.project = p.id

theorem mem_subscribersOf {x : Subscriber} :
    x ∈ s.subscribersOf p ↔ x ∈ s.subscribers ∧ x.project = p.id := by
  simp [subscribersOf]

namespace Intact

variable (h : s.Intact)
include h

/-- Each stored subscriber is one of exactly one stored project. -/
theorem perm_subscribersOf : (s.projects.flatMap s.subscribersOf).Perm s.subscribers := by
  have hall : (s.subscribers.filter fun x => x.project ∈ s.projects.map Project.id) =
      s.subscribers := by
    refine List.filter_eq_self.2 fun x hx => ?_
    obtain ⟨p, hp, hpx⟩ := h.subscribers_project x hx
    exact decide_eq_true (List.mem_map.2 ⟨p, hp, hpx⟩)
  have hperm := perm_flatMap_filter (f := Subscriber.project) h.projects_id s.subscribers
  rwa [List.flatMap_map, hall] at hperm

/-- No account is subscribed to a project twice. -/
theorem keyed_subscribersOf (p : Project) : Keyed Subscriber.account (s.subscribersOf p) := by
  have hkeyed := h.subscribers_account.filter fun x => x.project = p.id
  rw [Keyed, List.Nodup, List.pairwise_map] at hkeyed ⊢
  refine hkeyed.imp_of_mem fun {x y} hx hy hne haccount => hne ?_
  have hproject : x.project = y.project :=
    (mem_subscribersOf.1 hx).2.trans (mem_subscribersOf.1 hy).2.symm
  rw [hproject, haccount]

theorem length_subscribersOf_le (p : Project) (account : Option String) :
    ((s.subscribersOf p).filter fun x => account = some x.account).length ≤ 1 := by
  cases account with
  | none => simp
  | some a =>
    have hle := (h.keyed_subscribersOf p).length_filter_le a
    simpa [eq_comm] using hle

/-- The project of a subscriber can be told by any key of projects. -/
theorem filter_home {β : Type} [DecidableEq β] {key : Project → β}
    (hstored : ∀ x ∈ s.subscribers, home x ∈ s.projects ∧ (home x).id = x.project)
    (hkey : Keyed key s.projects) (hp : p ∈ s.projects) :
    (s.subscribers.filter fun x => some (key p) = some (key (home x))) = s.subscribersOf p := by
  refine List.filter_congr fun x hx => ?_
  obtain ⟨hmem, hid⟩ := hstored x hx
  rw [decide_eq_decide, Option.some_inj]
  constructor
  · intro hk
    rw [← hid, ← hkey.eq hp hmem hk]
  · intro hxp
    rw [h.projects_id.eq hp hmem (hxp.symm.trans hid.symm)]

/-! ## What the views show of it -/

section Views

variable (hstored : ∀ x ∈ s.subscribers, home x ∈ s.projects ∧ (home x).id = x.project)
  (hhome : s.subscriptions = s.subscribers.map fun x => (x, home x))
include hstored hhome

theorem perm_accountsOf (hp : p ∈ s.projects) :
    (s.accountsOf (some p.projectId)).Perm ((s.subscribersOf p).map Subscriber.account) := by
  have hrows := filter_subscriptions hhome (fun x => some x.2.projectId == some p.projectId)
    (fun x => some p.projectId = some (home x).projectId) fun _ => some_beq_iff
  rw [h.filter_home hstored h.projects_projectId hp] at hrows
  have hperm := sortTexts_perm
    ((s.subscriptions.filter fun x => some x.2.projectId == some p.projectId).map (·.1.account))
  rw [hrows, List.map_map] at hperm
  rw [accountsOf, hrows, List.map_map]
  exact hperm

theorem perm_accountScopesOf (hp : p ∈ s.projects) :
    (s.accountScopesOf (some p.projectId)).records.Perm
      ((s.subscribersOf p).map fun x => ⟨x.account, s.scopeOf x.id⟩) := by
  have hreads := h.reads_subscriptions hhome (fun x => some x.2.projectId == some p.projectId)
    (fun x => some p.projectId = some (home x).projectId) (fun _ => some_beq_iff)
    fun x scope => AccountScope.mk x.1.account scope
  rw [h.filter_home hstored h.projects_projectId hp] at hreads
  exact hreads.arrange fun l => List.mergeSort_perm l _

/-- The two listings of a project have the same accounts, in the same order. -/
theorem accountsOf_eq (hp : p ∈ s.projects) :
    s.accountsOf (some p.projectId) =
      (s.accountScopesOf (some p.projectId)).records.map AccountScope.account := by
  have hscopes := (h.perm_accountScopesOf hstored hhome hp).map AccountScope.account
  rw [List.map_map] at hscopes
  have hperm := (h.perm_accountsOf hstored hhome hp).trans hscopes.symm
  refine hperm.eq_of_pairwise (fun _ _ _ _ => String.le_antisymm) (pairwise_sortByText id _) ?_
  rw [List.pairwise_map]
  exact pairwise_sortByText AccountScope.account _

omit hstored hhome in
/-- Among accounts that hold those of a project, all its subscribers are found. -/
theorem perm_subscribersIn {accounts : List (Option String)}
    (haccounts : ∀ x ∈ s.subscribersOf p, some x.account ∈ accounts) :
    (s.subscribersIn (some p.id) accounts).records.Perm ((s.subscribersOf p).map s.shown) := by
  have hreads := h.reads_subscribersIn (some p.id) accounts
  have hall : (s.subscribers.filter fun x => some p.id = some x.project ∧ some x.account ∈ accounts) =
      s.subscribersOf p := by
    refine List.filter_congr fun x hx => ?_
    rw [decide_eq_decide, Option.some_inj, eq_comm]
    exact ⟨And.left, fun hxp => ⟨hxp, haccounts x (mem_subscribersOf.2 ⟨hx, hxp⟩)⟩⟩
  rw [hall] at hreads
  exact hreads.arrange fun l => List.mergeSort_perm l _

omit hstored in
theorem perm_subscriptionsOf (account : Option String) :
    (s.subscriptionsOf account).records.Perm
      ((s.subscribers.filter fun x => account = some x.account).map (s.shownAt home)) := by
  have hreads := h.reads_subscriptions hhome (fun x => some x.1.account == account)
    (fun x => account = some x.account) (fun _ => some_beq_iff) subscriptionRecord
  exact hreads.arrange fun l => List.mergeSort_perm l _

theorem perm_subscriptionsAt (hp : p ∈ s.projects) (account : Option String) :
    (s.subscriptionsAt account (some p.appDomain)).records.Perm
      (((s.subscribersOf p).filter fun x => account = some x.account).map (s.shownAt home)) := by
  have hreads := h.reads_subscriptions hhome
    (fun x => some x.1.account == account && some x.2.appDomain == some p.appDomain)
    (fun x => account = some x.account ∧ some p.appDomain = some (home x).appDomain)
    (fun _ => by rw [Bool.and_eq_true, some_beq_iff, some_beq_iff]) subscriptionRecord
  have hboth : (s.subscribers.filter fun x =>
      account = some x.account ∧ some p.appDomain = some (home x).appDomain) =
        (s.subscribersOf p).filter fun x => account = some x.account := by
    rw [← h.filter_home hstored h.projects_appDomain hp, List.filter_filter]
    exact List.filter_congr fun x _ => Bool.decide_and _ _
  rw [hboth] at hreads
  exact hreads.arrange fun l => List.mergeSort_perm l _

/-- The subscriptions of an account are those to each project together. -/
theorem perm_flatMap_subscriptionsAt (account : Option String) :
    (s.subscriptionsOf account).records.Perm
      (s.projects.flatMap fun p => (s.subscriptionsAt account (some p.appDomain)).records) := by
  have hparts : (s.projects.flatMap fun p =>
      (s.subscriptionsAt account (some p.appDomain)).records).Perm
        (s.projects.flatMap fun p =>
          ((s.subscribersOf p).filter fun x => account = some x.account).map (s.shownAt home)) :=
    .flatMap_left s.projects fun p hp => h.perm_subscriptionsAt hstored hhome hp account
  have hall := (h.perm_subscribersOf.filter fun x => account = some x.account).map (s.shownAt home)
  rw [List.filter_flatMap, List.map_flatMap] at hall
  exact (h.perm_subscriptionsOf hhome account).trans (hall.symm.trans hparts.symm)

/-- What is shown of the subscription of an account to a project names that project. -/
theorem mem_subscriptionsAt (hp : p ∈ s.projects) {account : Option String} {y : SubscriptionRecord}
    (hy : y ∈ (s.subscriptionsAt account (some p.appDomain)).records) :
    y.appDomain = p.appDomain ∧ y.authenticationKey = p.authentication.publicKey := by
  have hmem := (h.perm_subscriptionsAt hstored hhome hp account).mem_iff.1 hy
  obtain ⟨x, hx, rfl⟩ := List.mem_map.1 hmem
  obtain ⟨hxs, hxp⟩ := mem_subscribersOf.1 (List.mem_filter.1 hx).1
  obtain ⟨hmem, hid⟩ := hstored x hxs
  have hxhome : home x = p := h.projects_id.eq hmem hp (hid.trans hxp)
  rw [shownAt, hxhome]
  exact ⟨rfl, rfl⟩

/-- The subscriptions of an account name a project exactly if the project lists the account. -/
theorem exists_subscriptionsOf_iff (hp : p ∈ s.projects) (account : Option String) :
    (∃ y ∈ (s.subscriptionsOf account).records,
        y.appDomain = p.appDomain ∧ y.authenticationKey = p.authentication.publicKey) ↔
      ∃ a ∈ s.accountsOf (some p.projectId), account = some a := by
  have haccounts : ∀ a, a ∈ s.accountsOf (some p.projectId) ↔
      ∃ x ∈ s.subscribersOf p, x.account = a := fun a => by
    rw [(h.perm_accountsOf hstored hhome hp).mem_iff, List.mem_map]
  constructor
  · rintro ⟨y, hy, hdomain, -⟩
    obtain ⟨x, hx, rfl⟩ := List.mem_map.1 ((h.perm_subscriptionsOf hhome account).mem_iff.1 hy)
    obtain ⟨hxs, haccount⟩ := List.mem_filter.1 hx
    have hxp : x ∈ s.subscribersOf p := by
      rw [← h.filter_home hstored h.projects_appDomain hp, List.mem_filter, decide_eq_true_eq]
      exact ⟨hxs, congrArg some hdomain.symm⟩
    exact ⟨x.account, (haccounts _).2 ⟨x, hxp, rfl⟩, of_decide_eq_true haccount⟩
  · rintro ⟨a, ha, rfl⟩
    obtain ⟨x, hx, rfl⟩ := (haccounts a).1 ha
    have hpart : s.shownAt home x ∈ (s.subscriptionsAt (some x.account) (some p.appDomain)).records :=
      (h.perm_subscriptionsAt hstored hhome hp _).mem_iff.2
        (List.mem_map_of_mem (List.mem_filter.2 ⟨hx, by simp⟩))
    have hall := (h.perm_flatMap_subscriptionsAt hstored hhome (some x.account)).mem_iff.2
      (List.mem_flatMap.2 ⟨p, hp, hpart⟩)
    exact ⟨_, hall, h.mem_subscriptionsAt hstored hhome hp hpart⟩

/-- There is a topic for each account that a project lists. -/
theorem length_subscriberTopics : s.subscriberTopics.length =
    (s.projects.map fun p => (s.accountsOf (some p.projectId)).length).sum := by
  have hlength : s.projects.map (fun p => (s.accountsOf (some p.projectId)).length) =
      s.projects.map fun p => (s.subscribersOf p).length := by
    refine List.map_congr_left fun p hp => ?_
    rw [(h.perm_accountsOf hstored hhome hp).length_eq, List.length_map]
  rw [hlength, ← List.length_flatMap, h.perm_subscribersOf.length_eq, subscriberTopics,
    List.length_map]

end Views

end Intact

end Store

/-! ## Answers that agree -/

/-- Session `i` is answered `answer` by a call. -/
def Registry.Answers (r : Registry) (i : SessionId) (op : Operation) (answer : Answer) : Prop :=
  ∃ events, ((Step.act i (.call op)).run r).1 = .leaf (.ok answer) events

/-- What session `i` is answered about the stored projects: the accounts of each, the same accounts
with their scopes, and the topics of all subscribers. The other views agree with these. -/
structure Registry.Agreement (r : Registry) (i : SessionId) (projects : List Project)
    (accounts : Project → List String) (scopes : Project → List AccountScope)
    (topics : List String) : Prop where
  accountsOf : ∀ p ∈ projects, r.Answers i (.accountsOf (some p.projectId)) (.texts (accounts p))
  accountScopesOf : ∀ p ∈ projects,
    r.Answers i (.accountScopesOf (some p.projectId)) (.accountScopes (scopes p))
  subscriberTopics : r.Answers i .subscriberTopics (.texts topics)
  nodup : ∀ p ∈ projects, (accounts p).Nodup
  accounts_eq : ∀ p ∈ projects, accounts p = (scopes p).map AccountScope.account
  subscribersIn : ∀ p ∈ projects, ∀ list : List (Option String), (∀ a ∈ accounts p, some a ∈ list) →
    ∃ records, r.Answers i (.subscribersIn (some p.id) list) (.subscriberRecords records) ∧
      (records.map fun x => AccountScope.mk x.account x.scope).Perm (scopes p)
  subscriptionsOf : ∀ account : Option String,
    ∃ records, r.Answers i (.subscriptionsOf account) (.subscriptions records) ∧
      (∃ parts : Project → List SubscriptionRecord,
        (∀ q ∈ projects, r.Answers i (.subscriptionsAt account (some q.appDomain))
            (.subscriptions (parts q)) ∧ (parts q).length ≤ 1 ∧
          ∀ y ∈ parts q,
            y.appDomain = q.appDomain ∧ y.authenticationKey = q.authentication.publicKey) ∧
        (projects.Pairwise fun p q => (parts p).Disjoint (parts q)) ∧
        records.Perm (projects.flatMap parts)) ∧
      ∀ p ∈ projects, (∃ y ∈ records, y.appDomain = p.appDomain ∧
          y.authenticationKey = p.authentication.publicKey) ↔
        ∃ a ∈ accounts p, account = some a
  length_topics : topics.length = (projects.map fun p => (accounts p).length).sum
  subscriberByTopic : ∀ topic : Option String,
    ((Step.act i (.call (.subscriberByTopic topic))).run r).1 =
        .leaf (.error (.notFound "Subscriber")) [] ↔
      ∀ t ∈ topics, topic ≠ some t

section Answers

variable {r : Registry} {i : SessionId} {op : Operation}

/-- A read that always answers. -/
theorem Registry.answers_of_prepare {reply : Store → Reply} {answer : Answer}
    (hp : op.prepare r.clock = .ok (Operation.total reply))
    (ha : (reply (r.database.view i)).answer = answer) : r.Answers i op answer := by
  rw [← ha]
  exact ⟨_, Step.report_of_read hp⟩

/-- The lookup by topic finds nothing exactly if no subscriber has the topic. -/
theorem Store.report_topicRead_iff (s : Store) (topic : Option String) :
    Report.ofReply ((Operation.topicRead topic s).mapError Fault.surface) =
        .leaf (.error (.notFound "Subscriber")) [] ↔
      ∀ t ∈ sortTexts s.subscriberTopics, topic ≠ some t := by
  have htopics : ∀ t, t ∈ sortTexts s.subscriberTopics ↔ ∃ x ∈ s.subscribers, x.topic = t := fun t => by
    rw [(sortTexts_perm _).mem_iff, subscriberTopics, List.mem_map]
  rcases s.topicRead_cases topic with ⟨x, names, gs, hfirst, -, hread⟩ | ⟨hno, hread⟩
  · rw [hread]
    refine ⟨nofun, fun hne => ?_⟩
    exact absurd hfirst.has_topic (hne x.topic ((htopics _).2 ⟨x, hfirst.mem, rfl⟩))
  · rw [hread]
    refine ⟨fun _ t ht => ?_, fun _ => rfl⟩
    obtain ⟨x, hx, rfl⟩ := (htopics t).1 ht
    exact hno x hx

/-- The answers about an account agree with the listings of the projects. -/
theorem Store.Intact.agree_subscriptionsOf {s : Store} {home : Subscriber → Project} (h : s.Intact)
    (hstored : ∀ x ∈ s.subscribers, home x ∈ s.projects ∧ (home x).id = x.project)
    (hhome : s.subscriptions = s.subscribers.map fun x => (x, home x))
    (account : Option String) :
    let parts := fun p : Project => (s.subscriptionsAt account (some p.appDomain)).records
    (∀ q ∈ s.projects, (parts q).length ≤ 1 ∧ ∀ y ∈ parts q,
        y.appDomain = q.appDomain ∧ y.authenticationKey = q.authentication.publicKey) ∧
      s.projects.Pairwise fun p q => (parts p).Disjoint (parts q) := by
  intro parts
  have hnames : ∀ q ∈ s.projects, ∀ y ∈ parts q,
      y.appDomain = q.appDomain ∧ y.authenticationKey = q.authentication.publicKey :=
    fun q hq y hy => h.mem_subscriptionsAt hstored hhome hq hy
  refine ⟨fun q hq => ⟨?_, hnames q hq⟩, ?_⟩
  · rw [(h.perm_subscriptionsAt hstored hhome hq account).length_eq, List.length_map]
    exact h.length_subscribersOf_le q account
  · refine (List.pairwise_map.1 h.projects_appDomain).imp_of_mem fun {p q} hp hq hne y hyp hyq => ?_
    exact hne ((hnames p hp y hyp).1.symm.trans (hnames q hq y hyq).1)

end Answers

/-- **The read views agree.** At every point of a run from the empty store the two listings of a
project show the same accounts, each once; any call for these accounts shows them with the same
scopes. The subscriptions of an account are those to each project together, at most one to a
project, and name exactly the projects that list the account. There are as many topics as listed
accounts, and the lookup by topic fails exactly for a topic that is not among them. -/
theorem Script.views_agree (script : Script) (clock : Instant) (n : Nat) (i : SessionId) :
    let r := script.stateAt (.start clock .empty) n
    ∃ accounts scopes topics,
      r.Agreement i (r.database.view i).projects accounts scopes topics := by
  intro r
  have h : (r.database.view i).Intact := script.intact_view clock n i
  obtain ⟨home, hstored, hhome⟩ := h.exists_home
  refine ⟨fun p => (r.database.view i).accountsOf (some p.projectId),
    fun p => ((r.database.view i).accountScopesOf (some p.projectId)).records,
    sortTexts (r.database.view i).subscriberTopics, ?_⟩
  exact
    { accountsOf := fun p _ => Registry.answers_of_prepare rfl rfl
      accountScopesOf := fun p _ => Registry.answers_of_prepare rfl rfl
      subscriberTopics := Registry.answers_of_prepare rfl rfl
      nodup := fun p hp =>
        (h.perm_accountsOf hstored hhome hp).nodup_iff.2 (h.keyed_subscribersOf p)
      accounts_eq := fun p hp => h.accountsOf_eq hstored hhome hp
      subscribersIn := fun p hp list hlist => by
        have hall : ∀ x ∈ (r.database.view i).subscribersOf p, some x.account ∈ list := fun x hx =>
          hlist x.account ((h.perm_accountsOf hstored hhome hp).mem_iff.2 (List.mem_map_of_mem hx))
        have hrecords := (h.perm_subscribersIn hall).map fun x => AccountScope.mk x.account x.scope
        rw [List.map_map] at hrecords
        exact ⟨_, Registry.answers_of_prepare rfl rfl,
          hrecords.trans (h.perm_accountScopesOf hstored hhome hp).symm⟩
      subscriptionsOf := fun account => by
        obtain ⟨hparts, hdisjoint⟩ := h.agree_subscriptionsOf hstored hhome account
        exact ⟨_, Registry.answers_of_prepare rfl rfl,
          ⟨_, fun q hq => ⟨Registry.answers_of_prepare rfl rfl, hparts q hq⟩, hdisjoint,
            h.perm_flatMap_subscriptionsAt hstored hhome account⟩,
          fun p hp => h.exists_subscriptionsOf_iff hstored hhome hp account⟩
      length_topics := by
        rw [(sortTexts_perm _).length_eq]
        exact h.length_subscriberTopics hstored hhome
      subscriberByTopic := fun topic => by
        rw [Step.report_subscriberByTopic]
        exact (r.database.view i).report_topicRead_iff topic }

end SubscriptionRegistry
