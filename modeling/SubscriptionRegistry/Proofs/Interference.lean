import SubscriptionRegistry.Proofs.Listings
import SubscriptionRegistry.Proofs.Outcome
import SubscriptionRegistry.Proofs.Placement
import SubscriptionRegistry.Proofs.Sweep

/-!
# Writes that do not interfere

A write to one subscription finds its row by project and account, and its scope entries by the id of
the row. Whether it inserts the row, overwrites it, removes it or fails, all other rows stay what
and where they are, and so does what the views show of them.

* `Store.without`: a store without one subscription and its scope. `Store.AgreesOff`: two stores
  have the same rows but for one subscription and its scope.
* `Operation.Addresses`: the writes to a subscription. `Operation.Addresses.without_eq`: without the
  subscription they are not seen. `Operation.Addresses.agreesOff`: so much is changed by them at
  most.
* `Operation.LooksPast`: the views that do not look at a subscription.
  `Operation.LooksPast.report_eq`: they report the same on two such stores.
* `Script.writes_apart`: every such write at every point of a run, as all sessions see it.
-/

namespace SubscriptionRegistry

/-! ## Stores without a subscription -/

namespace Store

variable {s t : Store} {key : Option Uuid × Option String} {u : Uuid}

/-- The store without the subscription under `key`: of the scope entries those of the other
subscribers stay. -/
def without (s : Store) (key : Option Uuid × Option String) : Store :=
  { s with
    subscribers := s.subscribers.filter (·.key ≠ key)
    scopes := s.scopes.filter fun e => (s.subscribers.filter (·.key ≠ key)).any (·.id = e.subscriber) }

theorem any_id {rows : List Subscriber} {id : Uuid} :
    rows.any (·.id = id) = true ↔ ∃ x ∈ rows, x.id = id := by
  simp only [List.any_eq_true, decide_eq_true_eq]

/-- What is done to a subscription and to the scope entries of an id that no other row has is not
seen without the subscription. -/
theorem without_eq (hprojects : t.projects = s.projects) (hwatchers : t.watchers = s.watchers)
    (hrows : t.subscribers.filter (·.key ≠ key) = s.subscribers.filter (·.key ≠ key))
    (hscopes : t.scopes.filter (·.subscriber ≠ u) = s.scopes.filter (·.subscriber ≠ u))
    (hid : ∀ x ∈ s.subscribers, x.key ≠ key → x.id ≠ u) : t.without key = s.without key := by
  have hskip : ∀ l : List ScopeEntry,
      l.filter (fun e => (s.subscribers.filter (·.key ≠ key)).any (·.id = e.subscriber)) =
        (l.filter (·.subscriber ≠ u)).filter
          fun e => (s.subscribers.filter (·.key ≠ key)).any (·.id = e.subscriber) := by
    intro l
    rw [List.filter_filter]
    refine List.filter_congr fun e _ => ?_
    by_cases he : e.subscriber = u
    · have hnone : (s.subscribers.filter (·.key ≠ key)).any (·.id = e.subscriber) = false := by
        rw [← Bool.not_eq_true, any_id]
        rintro ⟨x, hx, hxe⟩
        obtain ⟨hx, hne⟩ := List.mem_filter.1 hx
        exact hid x hx (of_decide_eq_true hne) (hxe.trans he)
      rw [hnone, Bool.false_and]
    · rw [decide_eq_true he, Bool.and_true]
  unfold without
  rw [hprojects, hwatchers, hrows, hskip t.scopes, hscopes, ← hskip]

/-- The rows of other subscriptions have other ids. -/
theorem Intact.id_ne (h : s.Intact) {x y : Subscriber} (hx : x ∈ s.subscribers)
    (hy : y ∈ s.subscribers) (hne : y.key ≠ x.key) : y.id ≠ x.id := fun hid =>
  hne (congrArg Subscriber.key (h.subscribers_id.eq hy hx hid))

/-- A row that is put in its place with its scope takes no other row's place. -/
theorem Intact.without_placed {x : Subscriber} {scope : Scope}
    (ht : ((s.placeSubscriber x).setScope x.id scope).Intact) :
    ((s.placeSubscriber x).setScope x.id scope).without x.key = s.without x.key := by
  refine without_eq rfl rfl (filter_place_ne Subscriber.key x s.subscribers)
    (filter_setScope_ne (s.placeSubscriber x) x.id scope) fun y hy hne => ?_
  exact ht.id_ne (mem_place.2 (.inl rfl)) (mem_place.2 (.inr ⟨hy, hne⟩)) hne

/-- A row that is removed takes no other row and no other row's scope with it. -/
theorem Intact.without_deleted (h : s.Intact) {x : Subscriber} (hx : x ∈ s.subscribers) :
    (s.deleteSubscriber (some x.id)).1.without x.key = s.without x.key := by
  have hid : ∀ y ∈ s.subscribers, y.key ≠ x.key → y.id ≠ x.id := fun y hy => h.id_ne hx hy
  refine without_eq rfl rfl ?_ ?_ hid
  · show (s.subscribers.filter _).filter _ = _
    rw [List.filter_filter]
    refine List.filter_congr fun y hy => ?_
    by_cases hk : y.key = x.key
    · simp [hk]
    · simp [hk, hid y hy hk]
  · show (s.scopes.filter _).filter _ = _
    rw [List.filter_filter]
    refine List.filter_congr fun e _ => ?_
    simp

/-! ## Stores that agree off a key -/

/-- The stores have the same rows but for the subscription under `key` and its scope entries. -/
structure AgreesOff (s t : Store) (key : Option Uuid × Option String) : Prop where
  projects : t.projects = s.projects
  watchers : t.watchers = s.watchers
  subscribers : t.subscribers.filter (·.key ≠ key) = s.subscribers.filter (·.key ≠ key)
  scopes : ∀ x ∈ s.subscribers, x.key ≠ key →
    t.scopes.filter (·.subscriber = x.id) = s.scopes.filter (·.subscriber = x.id)

theorem AgreesOff.refl (s : Store) (key : Option Uuid × Option String) : s.AgreesOff s key :=
  ⟨rfl, rfl, rfl, fun _ _ _ => rfl⟩

/-- The scope entries of the other subscribers are all there without the subscription. -/
theorem filter_scopes_without {x : Subscriber} (hx : x ∈ s.subscribers.filter (·.key ≠ key)) :
    (s.without key).scopes.filter (·.subscriber = x.id) = s.scopes.filter (·.subscriber = x.id) := by
  show (s.scopes.filter _).filter _ = _
  rw [List.filter_filter]
  refine List.filter_congr fun e _ => ?_
  by_cases he : e.subscriber = x.id
  · rw [any_id.2 ⟨x, hx, he.symm⟩, Bool.and_true]
  · rw [decide_eq_false he, Bool.false_and]

theorem agreesOff_of_without (h : t.without key = s.without key) : s.AgreesOff t key := by
  have hrows : t.subscribers.filter (·.key ≠ key) = s.subscribers.filter (·.key ≠ key) :=
    congrArg Store.subscribers h
  have hprojects : (t.without key).projects = (s.without key).projects := congrArg Store.projects h
  have hwatchers : (t.without key).watchers = (s.without key).watchers := congrArg Store.watchers h
  refine ⟨hprojects, hwatchers, hrows, fun x hx hne => ?_⟩
  have hx : x ∈ s.subscribers.filter (·.key ≠ key) := List.mem_filter.2 ⟨hx, decide_eq_true hne⟩
  rw [← filter_scopes_without hx, ← filter_scopes_without (hrows ▸ hx), h]

end Store

/-! ## Writes to a subscription -/

section Writes

variable {s s' : Store} {key : Option Uuid × Option String} {op : Operation}

/-- A call writes to the subscription under `key`: a request for it, a renewal of it, or the
deletion of the row that is stored for it. -/
inductive Operation.Addresses (s : Store) (key : Option Uuid × Option String) : Operation → Prop
  | upsertSubscriber (q : Subscriber.Upsert) (hq : (q.project, q.account) = key) :
      Addresses s key (.upsertSubscriber q)
  | renewSubscriber (q : Subscriber.Renewal) (hq : (q.project, q.account) = key) :
      Addresses s key (.renewSubscriber q)
  | deleteSubscriber (x : Subscriber) (hx : x ∈ s.subscribers) (hkey : x.key = key) :
      Addresses s key (.deleteSubscriber (some x.id))

/-- A write to a subscription that succeeds is not seen without the subscription. -/
theorem Operation.Addresses.without_eq (h : op.Addresses s key) (hs : s.Intact) {clock : Instant}
    {reply : Reply} (hturns : (Write.call op).Turns clock s s' reply) :
    s'.without key = s.without key := by
  have hs' := hturns.effect.intact hs
  cases h with
  | upsertSubscriber q hq =>
    subst hq
    cases hturns.effect with
    | upsertSubscriber hk hn he hstore =>
      rw [hs.upsertSubscriber_eq] at hstore
      obtain ⟨x, hx, heq⟩ := ok_of_map hstore
      obtain ⟨rfl, rfl⟩ := Prod.mk.inj heq
      rw [← hs.key_subscriber hx]
      exact hs'.without_placed
  | renewSubscriber q hq =>
    subst hq
    cases hturns.effect with
    | renewSubscriber hn he hstore =>
      rw [hs.renewSubscriber_eq] at hstore
      obtain ⟨x, hx, heq⟩ := Option.map_eq_some_iff.1 hstore
      obtain ⟨rfl, rfl⟩ := Prod.mk.inj heq
      rw [← (hs.keyed_subscribers.find?_eq_some.1 hx).2]
      exact hs'.without_placed
  | deleteSubscriber x hx hkey =>
    subst hkey
    cases hturns.effect
    exact hs.without_deleted hx

/-- Whatever comes of a write to a subscription, nothing else is changed by it. -/
theorem Operation.Addresses.agreesOff (h : op.Addresses s key) (hs : s.Intact) (locked : Bool)
    (clock : Instant) : s.AgreesOff (op.outcome locked clock s).2 key := by
  rcases outcome_cases locked clock s op with hsame | ⟨-, reply, hturns⟩
  · rw [hsame]
    exact .refl s key
  · exact Store.agreesOff_of_without (h.without_eq hs hturns)

end Writes

/-! ## Views that look past a subscription -/

/-- A call shows nothing of the subscription under `key`: it asks for other accounts, or for a
project that is not the one of the key, or for watchers. -/
inductive Operation.LooksPast (s : Store) (key : Option Uuid × Option String) : Operation → Prop
  | subscriptionsOf (account : Option String) (h : account ≠ key.2) :
      LooksPast s key (.subscriptionsOf account)
  | subscriptionsAt (account appDomain : Option String)
      (h : account ≠ key.2 ∨ ∀ p ∈ s.projects, some p.id = key.1 → some p.appDomain ≠ appDomain) :
      LooksPast s key (.subscriptionsAt account appDomain)
  | subscribersIn (project : Option Uuid) (accounts : List (Option String))
      (h : key.2 ∉ accounts ∨ project ≠ key.1) :
      LooksPast s key (.subscribersIn project accounts)
  | accountsOf (projectId : Option String)
      (h : ∀ p ∈ s.projects, some p.id = key.1 → some p.projectId ≠ projectId) :
      LooksPast s key (.accountsOf projectId)
  | accountScopesOf (projectId : Option String)
      (h : ∀ p ∈ s.projects, some p.id = key.1 → some p.projectId ≠ projectId) :
      LooksPast s key (.accountScopesOf projectId)
  | watchersFor (account appDomain : Option String) (now : Option Stamp) :
      LooksPast s key (.watchersFor account appDomain now)

namespace Store.AgreesOff

variable {s t : Store} {key : Option Uuid × Option String} (h : s.AgreesOff t key)
include h

theorem scopeTexts {x : Subscriber} (hx : x ∈ s.subscribers) (hne : x.key ≠ key) :
    t.scopeTexts x.id = s.scopeTexts x.id :=
  congrArg (List.map ScopeEntry.name) (h.scopes x hx hne)

/-- The rows that are chosen are the same, if the one under the key is not chosen. -/
theorem filter_subscribers {f : Subscriber → Bool} (hf : ∀ x, f x = true → x.key ≠ key) :
    t.subscribers.filter f = s.subscribers.filter f := by
  have hsplit : ∀ l : List Subscriber, l.filter f = (l.filter (·.key ≠ key)).filter f := by
    intro l
    rw [List.filter_filter]
    refine List.filter_congr fun x _ => ?_
    by_cases hx : f x = true
    · simp [hx, hf x hx]
    · simp [hx]
  rw [hsplit t.subscribers, h.subscribers, ← hsplit]

theorem filter_subscriptions {f : Subscriber × Project → Bool}
    (hf : ∀ x, ∀ p ∈ s.projects, p.id = x.project → f (x, p) = true → x.key ≠ key) :
    t.subscriptions.filter f = s.subscriptions.filter f := by
  have hkept : ∀ x, ∀ p ∈ s.projects, decide (p.id = x.project) = true → f (x, p) = true →
      decide (x.key ≠ key) = true := fun x p hp hon hx =>
        decide_eq_true (hf x p hp (of_decide_eq_true hon) hx)
  unfold subscriptions
  rw [h.projects, filter_innerJoin hkept, h.subscribers, ← filter_innerJoin hkept]

/-- Rows of other subscriptions have the same records. -/
theorem gathered {α β : Type} {subscriber : α → Subscriber} {record : α → Scope → β} {xs : List α}
    (hxs : ∀ x ∈ xs, subscriber x ∈ s.subscribers ∧ (subscriber x).key ≠ key) :
    t.gathered subscriber record xs = s.gathered subscriber record xs :=
  gathered_congr fun x hx => h.scopeTexts (hxs x hx).1 (hxs x hx).2

theorem gathered_subscriptions {β : Type} {record : Subscriber × Project → Scope → β}
    {f : Subscriber × Project → Bool}
    (hf : ∀ x, ∀ p ∈ s.projects, p.id = x.project → f (x, p) = true → x.key ≠ key) :
    t.gathered Prod.fst record (t.subscriptions.filter f) =
      s.gathered Prod.fst record (s.subscriptions.filter f) := by
  rw [h.filter_subscriptions hf]
  refine h.gathered fun x hx => ?_
  obtain ⟨hx, hfx⟩ := List.mem_filter.1 hx
  obtain ⟨hxs, hp, hon⟩ := mem_innerJoin.1 hx
  exact ⟨hxs, hf x.1 x.2 hp (of_decide_eq_true hon) hfx⟩

theorem subscriptionsWhere {f : Subscriber × Project → Bool}
    (hf : ∀ x, ∀ p ∈ s.projects, p.id = x.project → f (x, p) = true → x.key ≠ key) :
    t.subscriptionsWhere f = s.subscriptionsWhere f := by
  rw [subscriptionsWhere_eq, subscriptionsWhere_eq, h.gathered_subscriptions hf]

theorem subscribersIn {project : Option Uuid} {accounts : List (Option String)}
    (hpast : key.2 ∉ accounts ∨ project ≠ key.1) :
    t.subscribersIn project accounts = s.subscribersIn project accounts := by
  have hf : ∀ x : Subscriber,
      (some x.project == project && accounts.contains (some x.account)) = true → x.key ≠ key := by
    rintro x hx rfl
    obtain ⟨hproject, haccount⟩ := Bool.and_eq_true_iff.1 hx
    rcases hpast with hne | hne
    · exact hne (List.contains_iff_mem.1 haccount)
    · exact hne (beq_iff_eq.1 hproject).symm
  rw [subscribersIn_eq, subscribersIn_eq, h.filter_subscribers hf]
  refine congrArg (Listing.arrange _) (h.gathered fun x hx => ?_)
  obtain ⟨hx, hfx⟩ := List.mem_filter.1 hx
  exact ⟨hx, hf x hfx⟩

theorem watchersFor (account appDomain : Option String) (time : Instant) :
    t.watchersFor account appDomain time = s.watchersFor account appDomain time := by
  unfold Store.watchersFor
  rw [h.projects, h.watchers]

end Store.AgreesOff

section Views

variable {s t : Store} {key : Option Uuid × Option String} {op : Operation} {r r' : Registry}
  {k : SessionId}

/-- What is restricted to another project shows no row of the key. -/
theorem Subscriber.key_ne_of_project {β : Type} [DecidableEq β] {column : Project → β} {b : Option β}
    (h : ∀ p ∈ s.projects, some p.id = key.1 → some (column p) ≠ b) {x : Subscriber} {p : Project}
    (hp : p ∈ s.projects) (hid : p.id = x.project) (hb : (some (column p) == b) = true) :
    x.key ≠ key := by
  rintro rfl
  exact h p hp (congrArg some hid) (beq_iff_eq.1 hb)

/-- A read that finds the same reports the same. -/
theorem Registry.report_total_congr {reply : Store → Reply}
    (hop : ∀ clock, op.prepare clock = .ok (Operation.total reply))
    (h : reply (r'.database.view k) = reply (r.database.view k)) : r'.report k op = r.report k op := by
  rw [report_of_total (hop r'.clock), report_of_total (hop r.clock), h]

/-- A view that looks past a subscription reports the same, where all else is the same. -/
theorem Operation.LooksPast.report_eq (hop : op.LooksPast (r.database.view k) key)
    (h : (r.database.view k).AgreesOff (r'.database.view k) key) (hclock : r'.clock = r.clock) :
    r'.report k op = r.report k op := by
  cases hop with
  | subscriptionsOf account hne =>
    refine Registry.report_total_congr (fun _ => rfl) (congrArg (listingReply .subscriptions) ?_)
    refine h.subscriptionsWhere fun x p _ _ hx => ?_
    rintro rfl
    exact hne (beq_iff_eq.1 hx).symm
  | subscriptionsAt account appDomain hpast =>
    refine Registry.report_total_congr (fun _ => rfl) (congrArg (listingReply .subscriptions) ?_)
    refine h.subscriptionsWhere fun x p hp hid hx => ?_
    obtain ⟨haccount, hdomain⟩ := Bool.and_eq_true_iff.1 hx
    rcases hpast with hne | hproject
    · rintro rfl
      exact hne (beq_iff_eq.1 haccount).symm
    · exact Subscriber.key_ne_of_project hproject hp hid hdomain
  | subscribersIn project accounts hpast =>
    exact Registry.report_total_congr (fun _ => rfl)
      (congrArg (listingReply .subscriberRecords) (h.subscribersIn hpast))
  | accountsOf projectId hpast =>
    have hrows := h.filter_subscriptions (f := fun x => some x.2.projectId == projectId)
      fun x p hp hid => Subscriber.key_ne_of_project hpast hp hid
    have hview : (r'.database.view k).accountsOf projectId =
        (r.database.view k).accountsOf projectId := by
      unfold Store.accountsOf
      rw [hrows]
    exact Registry.report_total_congr (fun _ => rfl)
      (congrArg (fun texts => Reply.mk (.texts texts) []) hview)
  | accountScopesOf projectId hpast =>
    refine Registry.report_total_congr (fun _ => rfl) (congrArg (listingReply .accountScopes) ?_)
    rw [Store.accountScopesOf_eq, Store.accountScopesOf_eq]
    exact congrArg (Listing.arrange _)
      (h.gathered_subscriptions fun x p hp hid => Subscriber.key_ne_of_project hpast hp hid)
  | watchersFor account appDomain now =>
    rw [Registry.report_watchersFor, Registry.report_watchersFor, hclock]
    simp only [h.watchersFor]

end Views

/-! ## Every point of a run -/

/-- Another session sees what it saw, or, if the writer has no transaction open, what the writer
sees. -/
theorem Database.Valid.view_call_ne {d : Database} {i k : SessionId} (h : d.Valid) (hk : k ≠ i)
    (clock : Instant) (op : Operation) :
    (d.call clock i op).2.view k = d.view k ∨
      ((d.call clock i op).2.view k = (op.outcome (d.lockedFor i) clock (d.view i)).2 ∧
        d.view k = d.view i) := by
  obtain ⟨-, halike⟩ := d.call_outcome clock i op
  rw [halike.view_all]
  rcases op.outcome_cases (d.lockedFor i) clock (d.view i) with hsame | ⟨hl, -⟩
  · rw [hsame]
    exact .inl ((d.alike_put_view i).view_all k)
  · exact h.view_put_ne hl hk

/-- **Writes to different subscriptions do not interfere.** At every point of a run from the empty
store, let a session make a request for the subscription under a project and an account, or a
renewal of it, or delete the row that is stored for it. Whether the call succeeds or fails, and
whatever id it brings for a new row, every session then sees the same projects and watchers, the
same other subscriptions, and the same scope entries of these. So each view that asks for other
accounts or for another project, and the lookup of watchers, reports to every session what it
reported before, with the same warnings. -/
theorem Script.writes_apart (script : Script) (clock : Instant) (n : Nat) (i : SessionId) :
    let r := script.stateAt (.start clock .empty) n
    ∀ key op, op.Addresses (r.database.view i) key →
      let r' := ((Step.act i (.call op)).run r).2
      ∀ k, (r.database.view k).AgreesOff (r'.database.view k) key ∧
        ∀ view : Operation, view.LooksPast (r.database.view k) key →
            r'.report k view = r.report k view := by
  intro r key op hop r' k
  have htells := script.tells clock .empty n
  have hi : (r.database.view i).AgreesOff
      (op.outcome (r.database.lockedFor i) r.clock (r.database.view i)).2 key :=
    hop.agreesOff (script.intact_view clock n i) _ _
  have hrun : r' = r.withDatabase (r.database.call r.clock i op).2 :=
    congrArg Prod.snd (Step.run_callOf r i op)
  have hk : (r.database.view k).AgreesOff (r'.database.view k) key := by
    rw [hrun]
    show (r.database.view k).AgreesOff ((r.database.call r.clock i op).2.view k) key
    by_cases hki : k = i
    · rw [hki, (r.database.call_outcome r.clock i op).2.view, Database.view_put]
      exact hi
    · rcases htells.valid.view_call_ne hki r.clock op with hsame | ⟨hview, hbefore⟩
      · rw [hsame]
        exact .refl _ key
      · rw [hview, hbefore]
        exact hi
  have hclock : r'.clock = r.clock := by
    rw [hrun]
    rfl
  exact ⟨hk, fun view hview => hview.report_eq hk hclock⟩

/-- Neither a request with the id of another's subscription, which fails, nor the deletion of a
subscription is seen in what a second account is shown. -/
theorem Script.writes_apart_two_accounts :
    let i : SessionId := .caller "a"
    let t : Instant := ⟨0, by decide⟩
    let key : List UInt8 := List.replicate notifyKeyLength 1
    let request (id : Uuid) (account : String) : Subscriber.Upsert :=
      ⟨id, some default, some account, .ofList [id], key, some "t", none⟩
    let script : Script :=
      [.act i (.call (.upsertProject ⟨default, some "p", some "app", some "t",
          ⟨some (.text "k"), some (.text "l")⟩, ⟨some (.text "m"), some (.text "n")⟩⟩)),
        .act i (.call (.upsertSubscriber (request default "x"))),
        .act i (.call (.upsertSubscriber (request (.ofNat 1) "y")))]
    let r := script.stateAt (.start t .empty) 3
    let clash : Operation := .upsertSubscriber (request default "z")
    let removal : Operation := .deleteSubscriber (some default)
    let r' := ((Step.act i (.call clash)).run r).2
    let r'' := ((Step.act i (.call removal)).run r).2
    (r.report i clash).fault?.isSome = true ∧ (r.report i removal).fault?.isSome = false ∧
      r'.report i (.subscriptionsOf (some "y")) = r.report i (.subscriptionsOf (some "y")) ∧
      r''.report i (.subscriptionsOf (some "y")) = r.report i (.subscriptionsOf (some "y")) := by
  intro i t key request script r clash removal r' r''
  let x : Subscriber :=
    ⟨default, t, t, default, "x", notifyKeyText key, "t", ⟨subscriptionTerm, by decide⟩⟩
  have hx : x ∈ (r.database.view i).subscribers := by decide +kernel
  have hclash : clash.Addresses (r.database.view i) (some default, some "z") :=
    .upsertSubscriber (request default "z") rfl
  have hremoval : removal.Addresses (r.database.view i) x.key := .deleteSubscriber x hx rfl
  have hz : Operation.LooksPast (r.database.view i) (some default, some "z")
      (.subscriptionsOf (some "y")) := .subscriptionsOf (some "y") (by decide)
  have hy : Operation.LooksPast (r.database.view i) x.key (.subscriptionsOf (some "y")) :=
    .subscriptionsOf (some "y") (by decide)
  exact ⟨by decide +kernel, by decide +kernel,
    (Script.writes_apart script t 3 i _ clash hclash i).2 _ hz,
    (Script.writes_apart script t 3 i _ removal hremoval i).2 _ hy⟩

end SubscriptionRegistry
