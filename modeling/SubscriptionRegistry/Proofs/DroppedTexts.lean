import SubscriptionRegistry.Proofs.ReadViews

/-!
# Warnings of dropped scope texts

Other programs may store scope texts that spell no identifier. A view that shows the scope of a
subscriber leaves them out and logs a warning for each.

* `Scope.refused_decode`: what decoding refuses of a list.
* `Store.refusedTexts`: the stored texts of a subscriber that spell no identifier. `Store.warnings`:
  the warnings of them for some subscribers.
* `Store.refuses`: gathering the rows of a join refuses these texts of the joined subscribers, one
  for each scope entry. `Store.refused_first`: the first group refuses those of its own subscriber.
* `Registry.ListsDropping`: a session is answered records of subscribers, with a warning for each
  text that was left out of them.
* `Step.undropped`: no other step logs such a warning.
* `Script.dropped_exact`: the warnings at every point of a run.
-/

namespace SubscriptionRegistry

/-! ## What decoding refuses -/

/-- An item of a scope list that is no null and spells no identifier. -/
def Scope.isRefused : Value → Bool
  | .null => false
  | item => (readItem? item).isNone

/-- The refused items come in the order of the list, as often as they are in it. -/
theorem Scope.refused_decode (items : List Value) : (decode items).2 = items.filter isRefused := by
  induction items with
  | nil => rfl
  | cons item items ih =>
    rw [decode]
    cases hr : readItem? item with
    | some u =>
      have hno : isRefused item = false := by
        cases item <;> simp [isRefused, hr]
      simp [hno, ih]
    | none =>
      cases item with
      | null => simp [isRefused, ih]
      | _ => simp [isRefused, hr, ih]

namespace Store

variable {s : Store}

/-- The stored scope texts of a subscriber that spell no identifier. -/
def refusedTexts (s : Store) (id : Uuid) : List String :=
  (s.scopeTexts id).filter fun text => (Uuid.read? text).isNone

/-- The warnings for subscribers: one for each of their texts that spells no identifier. -/
def warnings (s : Store) (xs : List Subscriber) : List Event :=
  xs.flatMap fun x => (s.refusedTexts x.id).map fun text => .scopeDropped (.text text)

/-! ## Gathered rows -/

section Rows

variable {α β : Type} {subscriber : α → Subscriber} {xs : List α} {rows : List (α × Value)}

/-- The names that are joined to one row. -/
theorem names_withScopeNames (s : Store) (subscriber : α → Subscriber) (xs : List α) :
    (s.withScopeNames subscriber xs).map Prod.snd = xs.flatMap fun x =>
      (partners (fun x e => e.subscriber = (subscriber x).id) s.scopes x).map scopeName := by
  simp only [withScopeNames, outerJoin, List.map_flatMap, List.map_map]
  rfl

/-- What is refused of the names of one row: the null of an empty scope is not. -/
theorem refused_partners (s : Store) (subscriber : α → Subscriber) (x : α) :
    ((partners (fun x e => e.subscriber = (subscriber x).id) s.scopes x).map scopeName).filter
        Scope.isRefused = (s.refusedTexts (subscriber x).id).map .text := by
  unfold partners refusedTexts scopeTexts
  split
  · rename_i hnone
    rw [hnone]
    rfl
  · have htext : scopeName ∘ some = fun e : ScopeEntry => Value.text e.name := rfl
    have hrefused : Scope.isRefused ∘ (fun e : ScopeEntry => Value.text e.name) =
        (fun text => (Uuid.read? text).isNone) ∘ ScopeEntry.name := rfl
    rw [List.map_map, htext, List.filter_map, hrefused, List.filter_map, List.map_map]
    rfl

theorem refused_withScopeNames (s : Store) (subscriber : α → Subscriber) (xs : List α) :
    ((s.withScopeNames subscriber xs).map Prod.snd).filter Scope.isRefused =
      xs.flatMap fun x => (s.refusedTexts (subscriber x).id).map .text := by
  rw [names_withScopeNames, List.filter_flatMap]
  simp only [refused_partners]

/-- The rows that `xs` are joined to refuse the texts that spell no identifier when they are
gathered by subscriber, in whatever order they come. -/
def Refuses (s : Store) (subscriber : α → Subscriber) (xs : List α) : Prop :=
  ∀ rows, rows.Perm (s.withScopeNames subscriber xs) →
    ∀ (β : Type) (record : α → Scope → β),
      ((Listing.ofGroups record (groupRows (fun x => (subscriber x).id) rows)).refused.map
        Event.scopeDropped).Perm (s.warnings (xs.map subscriber))

theorem refuses (s : Store) (subscriber : α → Subscriber) (xs : List α) :
    s.Refuses subscriber xs := by
  intro rows h β record
  have hgroups : (Listing.ofGroups record (groupRows (fun x => (subscriber x).id) rows)).refused =
      ((groupRows (fun x => (subscriber x).id) rows).flatMap Prod.snd).filter Scope.isRefused := by
    simp only [Listing.ofGroups, Scope.refused_decode, List.filter_flatMap]
  have hnames := (flatMap_snd_groupRows (fun x => (subscriber x).id) rows).trans
    (h.map Prod.snd)
  have hrefused := hnames.filter Scope.isRefused
  rw [refused_withScopeNames, ← hgroups] at hrefused
  have hwarnings : s.warnings (xs.map subscriber) = (xs.flatMap fun x =>
      (s.refusedTexts (subscriber x).id).map Value.text).map Event.scopeDropped := by
    simp only [warnings, List.flatMap_map, List.map_flatMap, List.map_map]
    rfl
  rw [hwarnings]
  exact hrefused.map Event.scopeDropped

/-- Rows of the first table may be left out before their scope names are joined or after it. -/
theorem filter_withScopeNames (p : α → Bool) :
    (s.withScopeNames subscriber xs).filter (fun r => p r.1) =
      s.withScopeNames subscriber (xs.filter p) := by
  unfold withScopeNames
  rw [List.filter_map, ← filter_fst_outerJoin]
  rfl

/-- The first group of rows that show `x` first refuses the texts of `x`. -/
theorem refused_first (hk : Keyed (fun x => (subscriber x).id) xs) {x : α} (hx : x ∈ xs)
    (h : rows.Perm (s.withScopeNames subscriber xs)) {names : List Value}
    {gs : List (α × List Value)}
    (hgroups : groupRows (fun x => (subscriber x).id) rows = (x, names) :: gs) :
    ((Scope.decode names).2.map Event.scopeDropped).Perm (s.warnings [subscriber x]) := by
  have hgrouped := grouped_groupRows (fun x => (subscriber x).id) rows
  have hnames := hgrouped.members (x, names) (hgroups ▸ List.mem_cons_self)
  -- The rows of `x` alone are those that it would be joined to by itself.
  have hown : (s.withScopeNames subscriber xs).filter
      (fun r => (subscriber r.1).id = (subscriber x).id) = s.withScopeNames subscriber [x] := by
    rw [filter_withScopeNames fun y => decide ((subscriber y).id = (subscriber x).id),
      hk.filter_eq hx]
  have hrows := h.filter fun r => decide ((subscriber r.1).id = (subscriber x).id)
  rw [hown] at hrows
  have hrefused := (hrows.map Prod.snd).filter Scope.isRefused
  rw [refused_withScopeNames, ← hnames, ← Scope.refused_decode] at hrefused
  have hwarnings := hrefused.map Event.scopeDropped
  simpa [warnings, Function.comp_def] using hwarnings

end Rows

end Store

/-! ## Answers with warnings -/

/-- Session `i` is answered a record of each of `xs`, in some order, and warned of each text that
was left out of them. -/
def Registry.ListsDropping (r : Registry) (i : SessionId) (op : Operation) (answer : List β → Answer)
    (s : Store) (xs : List Subscriber) (record : Subscriber → β) : Prop :=
  ∃ records events, ((Step.act i (.call op)).run r).1 = .leaf (.ok (answer records)) events ∧
    records.Perm (xs.map record) ∧ events.Perm (s.warnings xs)

/-- What session `i` is answered by the five views that show scopes, and what it is warned of. Each
stored subscriber `x` has its own project `home x`. -/
structure Registry.DropsExact (r : Registry) (i : SessionId) (s : Store)
    (home : Subscriber → Project) : Prop where
  home_stored : ∀ x ∈ s.subscribers, home x ∈ s.projects ∧ (home x).id = x.project
  subscribersIn : ∀ project accounts,
    r.ListsDropping i (.subscribersIn project accounts) .subscriberRecords s
      (s.subscribers.filter fun x => project = some x.project ∧ some x.account ∈ accounts) s.shown
  subscriptionsOf : ∀ account,
    r.ListsDropping i (.subscriptionsOf account) .subscriptions s
      (s.subscribers.filter fun x => account = some x.account) (s.shownAt home)
  subscriptionsAt : ∀ account appDomain,
    r.ListsDropping i (.subscriptionsAt account appDomain) .subscriptions s
      (s.subscribers.filter fun x =>
        account = some x.account ∧ appDomain = some (home x).appDomain) (s.shownAt home)
  accountScopesOf : ∀ projectId,
    r.ListsDropping i (.accountScopesOf projectId) .accountScopes s
      (s.subscribers.filter fun x => projectId = some (home x).projectId)
      fun x => ⟨x.account, s.scopeOf x.id⟩
  subscriberByTopic : ∀ topic,
    let report := ((Step.act i (.call (.subscriberByTopic topic))).run r).1
    (∃ x events, s.IsFirstOn topic x ∧
        (∀ rows names gs, rows.Perm (s.topicRows topic) →
          groupRows Subscriber.id rows = (x, names) :: gs →
            ((Scope.decode names).2.map Event.scopeDropped).Perm (s.warnings [x])) ∧
        report = .leaf (.ok (.subscriberRecord (s.shown x))) events ∧
        events.Perm (s.warnings [x])) ∨
      ((∀ x ∈ s.subscribers, topic ≠ some x.topic) ∧
        report = .leaf (.error (.notFound "Subscriber")) [])

section Answers

variable {r : Registry} {i : SessionId} {op : Operation} {β : Type} {answer : List β → Answer}
  {s : Store}

/-- A call that lists what a view reads of a store. -/
theorem Registry.listsDropping_of_prepare {view : Store → Listing β} {xs : List Subscriber}
    {record : Subscriber → β}
    (hp : op.prepare r.clock = .ok (Operation.total fun s => Operation.listingReply answer (view s)))
    (hrecords : (view (r.database.view i)).records.Perm (xs.map record))
    (hwarnings : (Event.dropped (view (r.database.view i)).refused).Perm
      ((r.database.view i).warnings xs)) :
    r.ListsDropping i op answer (r.database.view i) xs record :=
  ⟨_, _, Step.report_of_read hp, hrecords, hwarnings⟩

/-- The warnings are sorted; these are what there was to be sorted. -/
theorem Event.dropped_perm (values : List Value) :
    (dropped values).Perm (values.map scopeDropped) :=
  (List.mergeSort_perm values _).map scopeDropped

/-- A view in its own order of rows, sorted. -/
theorem Store.Refuses.arrange {α : Type} {subscriber : α → Subscriber} {xs : List α}
    (h : s.Refuses subscriber xs) (record : α → Scope → β) (sort : List β → List β) :
    (Event.dropped ((Listing.ofGroups record (groupRows (fun x => (subscriber x).id)
      (s.withScopeNames subscriber xs))).arrange sort).refused).Perm
        (s.warnings (xs.map subscriber)) :=
  (Event.dropped_perm _).trans (h _ (.refl _) β record)

/-- The subscribers in the rows that satisfy the criteria of a call. -/
theorem Store.map_fst_subscriptions {home : Subscriber → Project}
    (hhome : s.subscriptions = s.subscribers.map fun x => (x, home x))
    (p : Subscriber × Project → Bool) (criteria : Subscriber → Prop) [DecidablePred criteria]
    (hp : ∀ x, p (x, home x) = true ↔ criteria x) :
    (s.subscriptions.filter p).map Prod.fst = s.subscribers.filter fun x => criteria x := by
  rw [filter_subscriptions hhome p criteria hp, List.map_map]
  exact List.map_id _

/-- A view of subscriptions that satisfy the criteria of a call. -/
theorem Registry.listsDropping_of_subscriptions {home : Subscriber → Project}
    (p : Subscriber × Project → Bool) (criteria : Subscriber → Prop) [DecidablePred criteria]
    (record : Subscriber × Project → Scope → β) {sort : List β → List β}
    (hsort : ∀ l, (sort l).Perm l) (hp : ∀ x, p (x, home x) = true ↔ criteria x)
    (hintact : (r.database.view i).Intact)
    (hhome : (r.database.view i).subscriptions =
      (r.database.view i).subscribers.map fun x => (x, home x))
    (hprepare : op.prepare r.clock = .ok (Operation.total fun s => Operation.listingReply answer
      ((Listing.ofGroups record (groupRows (fun x => x.1.id)
        (s.withScopeNames Prod.fst (s.subscriptions.filter p)))).arrange sort))) :
    r.ListsDropping i op answer (r.database.view i)
      ((r.database.view i).subscribers.filter fun x => criteria x)
      fun x => record (x, home x) ((r.database.view i).scopeOf x.id) := by
  have hreads := hintact.reads_subscriptions hhome p criteria hp record
  have hrefuses := ((r.database.view i).refuses Prod.fst
    ((r.database.view i).subscriptions.filter p)).arrange record sort
  rw [Store.map_fst_subscriptions hhome p criteria hp] at hrefuses
  exact listsDropping_of_prepare hprepare (hreads.arrange hsort) hrefuses

/-- The lookup by topic warns of the texts of the subscriber that it answers, and of no other. -/
theorem Store.Intact.dropped_subscriberByTopic (h : (r.database.view i).Intact)
    (topic : Option String) :
    let s := r.database.view i
    let report := ((Step.act i (.call (.subscriberByTopic topic))).run r).1
    (∃ x events, s.IsFirstOn topic x ∧
        (∀ rows names gs, rows.Perm (s.topicRows topic) →
          groupRows Subscriber.id rows = (x, names) :: gs →
            ((Scope.decode names).2.map Event.scopeDropped).Perm (s.warnings [x])) ∧
        report = .leaf (.ok (.subscriberRecord (s.shown x))) events ∧
        events.Perm (s.warnings [x])) ∨
      ((∀ x ∈ s.subscribers, topic ≠ some x.topic) ∧
        report = .leaf (.error (.notFound "Subscriber")) []) := by
  intro s report
  have hreport : report = .ofReply ((Operation.topicRead topic s).mapError Fault.surface) :=
    Step.report_subscriberByTopic r i topic
  rw [hreport]
  rcases s.topicRead_cases topic with ⟨x, names, gs, hfirst, hgroups, hread⟩ | ⟨hno, hread⟩
  · have hx : x ∈ s.subscribers.filter fun x => some x.topic == topic :=
      List.mem_filter.2 ⟨hfirst.mem, by simp [hfirst.has_topic]⟩
    have hrefused : ∀ rows names gs, rows.Perm (s.topicRows topic) →
        groupRows Subscriber.id rows = (x, names) :: gs →
          ((Scope.decode names).2.map Event.scopeDropped).Perm (s.warnings [x]) := by
      intro rows names gs hperm hrows
      have hkeyed : Keyed (fun x : Subscriber => (id x).id)
          (s.subscribers.filter fun x => some x.topic == topic) := h.subscribers_id.filter _
      exact refused_first hkeyed hx hperm hrows
    rw [hread]
    exact .inl ⟨x, _, hfirst, hrefused, rfl, (Event.dropped_perm _).trans
      (hrefused _ _ _ (List.mergeSort_perm _ _) hgroups)⟩
  · rw [hread]
    exact .inr ⟨hno, rfl⟩

/-- A session that sees an intact store is warned of what its answers leave out. -/
theorem Store.Intact.dropsExact (h : (r.database.view i).Intact) :
    ∃ home, r.DropsExact i (r.database.view i) home := by
  obtain ⟨home, hstored, hhome⟩ := h.exists_home
  have hsort : ∀ {β : Type} (le : β → β → Bool) (l : List β), (l.mergeSort le).Perm l :=
    fun le l => List.mergeSort_perm l le
  refine ⟨home, hstored, fun project accounts => ?_, fun account => ?_, fun account appDomain => ?_,
    fun projectId => ?_, h.dropped_subscriberByTopic⟩
  · have hreads := h.reads_subscribersIn project accounts
    have hrefuses := ((r.database.view i).refuses id ((r.database.view i).subscribers.filter fun x =>
      some x.project == project && accounts.contains (some x.account))).arrange
        subscriberRecord (sortById (·.id))
    rw [List.map_id] at hrefuses
    refine Registry.listsDropping_of_prepare rfl (hreads.arrange (hsort _)) ?_
    rwa [← filter_subscribersIn]
  · exact Registry.listsDropping_of_subscriptions (fun x => some x.1.account == account)
      (fun x => account = some x.account) subscriptionRecord (hsort _) (fun _ => some_beq_iff)
      h hhome rfl
  · exact Registry.listsDropping_of_subscriptions
      (fun x => some x.1.account == account && some x.2.appDomain == appDomain)
      (fun x => account = some x.account ∧ appDomain = some (home x).appDomain)
      subscriptionRecord (hsort _) (fun _ => by rw [Bool.and_eq_true, some_beq_iff, some_beq_iff])
      h hhome rfl
  · exact Registry.listsDropping_of_subscriptions (fun x => some x.2.projectId == projectId)
      (fun x => projectId = some (home x).projectId)
      (fun x scope => AccountScope.mk x.1.account scope) (hsort _) (fun _ => some_beq_iff) h hhome rfl

end Answers

/-! ## Steps without warnings -/

/-- Whether an operation shows scopes. -/
def Operation.readsScopes : Operation → Bool
  | subscriberByTopic _ | subscribersIn .. | subscriptionsOf _ => true
  | subscriptionsAt .. | accountScopesOf _ => true
  | _ => false

/-- Whether an action is a call that shows scopes. -/
def Action.readsScopes : Action → Bool
  | .call op => op.readsScopes
  | _ => false

mutual

/-- Whether a step makes a call that shows scopes. -/
def Step.readsScopes : Step → Bool
  | .act _ action => action.readsScopes
  | .setClock _ | .sweep => false
  | .unit _ _ _ steps => Step.anyReadsScopes steps

/-- Whether one of some steps makes such a call. -/
def Step.anyReadsScopes : List Step → Bool
  | [] => false
  | step :: steps => step.readsScopes || Step.anyReadsScopes steps

end

mutual

/-- The events that a step logged, in their order. -/
def Report.events : Report → List Event
  | .leaf _ events => events
  | .unit _ parts => Report.allEvents parts

/-- The events that some steps logged. -/
def Report.allEvents : List Report → List Event
  | [] => []
  | report :: reports => report.events ++ Report.allEvents reports

end

/-- No warning of a dropped text is among the events. -/
def Event.Undropped (events : List Event) : Prop :=
  ∀ value, .scopeDropped value ∉ events

theorem Event.undropped_nil : Undropped [] := nofun

/-- No write warns of a dropped text. -/
theorem Write.Effect.undropped {clock : Instant} {w : Write} {s s' : Store} {reply : Reply}
    (h : w.Effect clock s s' reply) : Event.Undropped reply.events := by
  intro value
  cases h with
  | sweepWatchers ht | sweep =>
    dsimp only
    split <;> simp
  | _ => simp

section Replies

variable {d : Database} {i : SessionId} {clock : Instant} {op : Operation} {reply : Reply}

/-- A write that succeeds has turned the store that its session sees. -/
theorem Move.turns_of_leads {d' : Database} {w : Write} {x : Except Fault Reply} (hx : x = .ok reply)
    (h : (Move.ofWrite i clock w x).Leads d d') : ∃ s, w.Turns clock (d.view i) s reply := by
  subst hx
  obtain ⟨-, s, hturns, -⟩ := h
  exact ⟨s, hturns⟩

/-- A call that reads and succeeds answers what it reads of the store that its session sees. -/
theorem Database.reply_of_read {run : Store → Except Fault Reply}
    (hp : op.prepare clock = .ok (.read run)) (h : (d.call clock i op).1 = .ok reply) :
    run (d.view i) = .ok reply := by
  rw [call_of_ok hp, attempt] at h
  cases hr : run (d.view i) with
  | ok reply' => rw [hr] at h; cases h; rfl
  | error f => rw [hr] at h; cases h

/-- No call that shows no scopes warns of a dropped text. -/
theorem Database.undropped_call (hreads : op.readsScopes = false)
    (h : (d.call clock i op).1 = .ok reply) : Event.Undropped reply.events := by
  cases hw : op.isWrite with
  | true =>
    have hleads := d.leads_call i clock op
    rw [Action.move, if_pos hw] at hleads
    obtain ⟨s, hturns⟩ := Move.turns_of_leads h hleads
    exact hturns.effect.undropped
  | false =>
    cases op with
    | findProject key =>
      have hr := reply_of_read rfl h
      rw [Operation.projectRead] at hr
      cases hfound : (d.view i).findProject key with
      | none => rw [hfound] at hr; cases hr
      | some p => rw [hfound] at hr; cases hr; exact Event.undropped_nil
    | projectTopics | accountsOf projectId | subscriberTopics =>
      cases reply_of_read rfl h
      exact Event.undropped_nil
    | watchersFor account appDomain now =>
      cases hp : (Operation.watchersFor account appDomain now).prepare clock with
      | error f => rw [call_of_error hp] at h; cases h
      | ok statement =>
        obtain ⟨t, -, rfl⟩ := Operation.prepare_watchersFor hp
        cases reply_of_read hp h
        exact Event.undropped_nil
    | subscriberByTopic | subscribersIn | subscriptionsOf | subscriptionsAt | accountScopesOf =>
      cases hreads
    | _ => cases hw

theorem Action.undropped {action : Action} (hreads : action.readsScopes = false)
    (h : (action.run i clock d).1 = .ok reply) : Event.Undropped reply.events := by
  cases action with
  | begin =>
    rw [Action.run, Database.begin] at h
    split at h
    · cases h
    · cases h
      exact Event.undropped_nil
  | call op => exact Database.undropped_call hreads h
  | replaceScope subscriber scope =>
    obtain ⟨s, hturns⟩ := Move.turns_of_leads h (d.leads_replaceScope i clock subscriber scope)
    exact hturns.effect.undropped
  | _ =>
    cases h
    exact Event.undropped_nil

end Replies

theorem Report.undropped_ofReply {x : Except Fault Reply}
    (h : ∀ reply, x = .ok reply → Event.Undropped reply.events) :
    Event.Undropped (Report.ofReply x).events := by
  cases x with
  | ok reply => exact h reply rfl
  | error f => exact Event.undropped_nil

/-! ## Runs -/

mutual

/-- A step that makes no call that shows scopes warns of no dropped text. -/
theorem Step.undropped : ∀ {step : Step} (r : Registry), step.readsScopes = false →
    Event.Undropped (step.run r).1.events
  | .setClock time, r, _ => by
    have hreply : ∀ reply, (r.setClock time).1 = .ok reply → Event.Undropped reply.events := by
      intro reply h
      unfold Registry.setClock at h
      split at h <;> cases h
      exact Event.undropped_nil
    exact Report.undropped_ofReply hreply
  | .act i action, r, hreads => Report.undropped_ofReply fun _ h => Action.undropped hreads h
  | .sweep, r, _ => by
    have hreply : ∀ reply, (r.database.sweep r.clock).1 = .ok reply →
        Event.Undropped reply.events := by
      intro reply h
      obtain ⟨s, hturns⟩ := Move.turns_of_leads h (r.database.leads_sweep r.clock)
      exact hturns.effect.undropped
    exact Report.undropped_ofReply hreply
  | .unit i propagate thrown steps, r, hreads => Step.undropped_all _ propagate hreads

theorem Step.undropped_all : ∀ {steps : List Step} (r : Registry) (propagate : Bool),
    Step.anyReadsScopes steps = false →
      Event.Undropped (Report.allEvents (Step.runAll r propagate steps).1)
  | [], _, _, _ => Event.undropped_nil
  | step :: steps, r, propagate, hreads => by
    rw [anyReadsScopes, Bool.or_eq_false_iff] at hreads
    have hstep := Step.undropped r hreads.1
    have hsteps := Step.undropped_all (step.run r).2 propagate hreads.2
    intro value
    unfold runAll
    dsimp only
    split <;> simp [Report.allEvents, hstep value, hsteps value]

end

/-- **Dropped texts are reported exactly.** At every point of a run from the empty store, and
whatever texts other programs have stored as scopes, the views that show scopes answer, but for a
topic that no subscriber has. Their warnings are the stored texts of the subscribers that they
answer which spell no identifier, each as often as it is stored, in whatever order the joined rows
come. No other step logs such a warning. -/
theorem Script.dropped_exact (script : Script) (clock : Instant) (n : Nat) (i : SessionId) :
    let r := script.stateAt (.start clock .empty) n
    (∃ home, r.DropsExact i (r.database.view i) home) ∧
      (∀ (α : Type) (subscriber : α → Subscriber) (xs : List α),
        (r.database.view i).Refuses subscriber xs) ∧
      ∀ step : Step, step.readsScopes = false → Event.Undropped (step.run r).1.events := by
  intro r
  have hintact : (r.database.view i).Intact := script.intact_view clock n i
  exact ⟨hintact.dropsExact, fun _ subscriber xs => (r.database.view i).refuses subscriber xs,
    fun _ hreads => Step.undropped r hreads⟩

/-- A subscriber whose scope another program has spoiled, and a step that does not show it. -/
theorem Script.dropped_exact_spoiled :
    let i : SessionId := .caller "a"
    let t : Instant := ⟨0, by decide⟩
    let script : Script :=
      [.act i (.call (.upsertProject ⟨default, some "p", some "app", some "t",
          ⟨some (.text "k"), some (.text "l")⟩, ⟨some (.text "m"), some (.text "n")⟩⟩)),
        .act i (.call (.upsertSubscriber ⟨default, some default, some "account", .ofList [],
          List.replicate notifyKeyLength 1, some "t", none⟩)),
        .act i (.call (.addScopeText (some default) (some "x")))]
    let r := script.stateAt (.start t .empty) 3
    let step : Step := .act i (.call (.accountsOf (some "p")))
    (r.database.view i).subscribers.map (fun x => (r.database.view i).refusedTexts x.id) = [["x"]] ∧
      step.readsScopes = false ∧
      (∃ home, r.DropsExact i (r.database.view i) home) ∧
      (r.database.view i).Refuses id (r.database.view i).subscribers ∧
      Event.Undropped (step.run r).1.events := by
  intro i t script r step
  obtain ⟨hexact, hrefuses, hundropped⟩ := Script.dropped_exact script t 3 i
  exact ⟨by decide +kernel, rfl, hexact, hrefuses Subscriber id _, hundropped step rfl⟩

end SubscriptionRegistry
