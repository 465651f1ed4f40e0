import SubscriptionRegistry.Proofs.Outcome
import SubscriptionRegistry.Proofs.Placement

/-!
# Slots

A request for a subscription, a renewal and a request for a watcher write at one slot of the store:
that of the project and the account, or that of the did key. They look at the row in the slot, at
whether the id of a new row is taken and at whether a project is stored, and they leave one row in
the slot, with its scope if it is that of a subscription.

* `Operation.slot?`, `Store.Sight`, `Deposit`: where a call writes, what it looks at, what it
  leaves.
* `Operation.outcome_local`: the report of a call and its deposit depend on nothing but what it
  looks at.
* `Store.sight_leave`: a deposit in another slot is out of sight.
* `Store.leave_comm`: deposits in different slots may be made in either order.
* `Store.SameRows`: stores that differ in the order of their rows, which no call sees.
-/

namespace SubscriptionRegistry

/-- A place for one row: that of a subscription or that of a watcher, as requests name them. -/
inductive Slot where
  | subscription (project : Option Uuid) (account : Option String)
  | watcher (didKey : Option String)
deriving DecidableEq, Repr

/-- A row that has a slot. -/
inductive Row where
  | subscriber (x : Subscriber)
  | watcher (w : Watcher)
deriving DecidableEq, Repr

namespace Row

/-- The slot of a row. -/
def slot : Row → Slot
  | subscriber x => .subscription (some x.project) (some x.account)
  | watcher w => .watcher (some w.didKey)

theorem slot_subscriber {x y : Subscriber} (h : x.key = y.key) :
    (subscriber x).slot = (subscriber y).slot :=
  congrArg (fun key : Option Uuid × Option String => Slot.subscription key.1 key.2) h

/-- The table and the id of a row. -/
def identity : Row → Table × Uuid
  | subscriber x => (.subscriber, x.id)
  | watcher w => (.watcher, w.id)

/-- The row of a subscriber. -/
def subscriber? : Row → Option Subscriber
  | subscriber x => some x
  | watcher _ => none

/-- The row of a watcher. -/
def watcher? : Row → Option Watcher
  | subscriber _ => none
  | watcher w => some w

end Row

/-- What a call leaves in its slot. -/
inductive Deposit where
  | subscription (x : Subscriber) (scope : Scope)
  | watcher (w : Watcher)
deriving DecidableEq, Repr

/-- The row of a deposit. -/
def Deposit.row : Deposit → Row
  | subscription x _ => .subscriber x
  | watcher w => .watcher w

namespace Operation

/-- The slot at which a call writes. -/
def slot? : Operation → Option Slot
  | upsertSubscriber q => some (.subscription q.project q.account)
  | renewSubscriber q => some (.subscription q.project q.account)
  | upsertWatcher q => some (.watcher q.didKey)
  | _ => none

/-- The table and the id of the row that a call adds if there is none in its slot. -/
def newRow? : Operation → Option (Table × Uuid)
  | upsertSubscriber q => some (.subscriber, q.newId)
  | upsertWatcher q => some (.watcher, q.newId)
  | _ => none

/-- The project that a call needs for a new row or a new reference. -/
def project? : Operation → Option Uuid
  | upsertSubscriber q => q.project
  | upsertWatcher q => q.project
  | _ => none

/-- Calls that write at different slots, and do not add rows with the same id to one table. -/
structure Apart (a b : Operation) : Prop where
  slot : a.slot? ≠ b.slot?
  newRow : ∀ row, a.newRow? = some row → b.newRow? ≠ some row

theorem Apart.symm {a b : Operation} (h : a.Apart b) : b.Apart a :=
  ⟨h.slot.symm, fun row hb ha => h.newRow row ha hb⟩

end Operation

namespace Store

/-- The row in a slot. -/
def row? (s : Store) : Slot → Option Row
  | .subscription project account => (s.subscription? (project, account)).map .subscriber
  | .watcher didKey => (s.watcher? didKey).map .watcher

/-- Whether the id of a new row is taken. -/
def takes (s : Store) : Option (Table × Uuid) → Bool
  | some (.subscriber, id) => s.takesSubscriber id
  | some (.watcher, id) => s.takesWatcher id
  | _ => false

/-- What a call looks at: the row in its slot, whether the id of a new row is taken, and whether its
project is known. -/
structure Sight where
  stored : Option Row
  taken : Bool
  known : Bool

/-- What a call looks at in the store `s`. -/
def sight (s : Store) (op : Operation) : Sight :=
  ⟨op.slot?.bind s.row?, s.takes op.newRow?, s.knowsProject op.project?⟩

/-- The store with a deposit, if there is one. -/
def leave (s : Store) : Option Deposit → Store
  | none => s
  | some (.subscription x scope) => (s.placeSubscriber x).setScope x.id scope
  | some (.watcher w) => s.placeWatcher w

/-- A deposit of a call: it is made in the slot of the call, its row has the id of the row that is
there, and if there is none that of the new row of the call, which is free. -/
structure Fits (s : Store) (op : Operation) (d : Deposit) : Prop where
  slot : op.slot? = some d.row.slot
  kept : ∀ row, s.row? d.row.slot = some row → row.identity = d.row.identity
  free : s.row? d.row.slot = none →
    op.newRow? = some d.row.identity ∧ s.takes (some d.row.identity) = false

variable {s t : Store} {k : Slot} {row : Row} {d e : Deposit} {op op' : Operation}

/-! ## Rows in slots -/

theorem Intact.row?_subscriber (h : s.Intact) {x : Subscriber} :
    s.row? k = some (.subscriber x) ↔ x ∈ s.subscribers ∧ (Row.subscriber x).slot = k := by
  cases k with
  | subscription project account =>
    have hfind : s.row? (.subscription project account) = some (.subscriber x) ↔
        s.subscription? (project, account) = some x := by
      simp [row?]
    refine hfind.trans (h.keyed_subscribers.find?_eq_some.trans (and_congr_right fun _ => ?_))
    rw [Subscriber.key, Prod.mk.injEq, Row.slot, Slot.subscription.injEq]
  | watcher didKey => simp [row?, Row.slot]

theorem Intact.row?_watcher (h : s.Intact) {w : Watcher} :
    s.row? k = some (.watcher w) ↔ w ∈ s.watchers ∧ (Row.watcher w).slot = k := by
  cases k with
  | subscription project account => simp [row?, Row.slot]
  | watcher didKey =>
    have hfind : s.row? (.watcher didKey) = some (.watcher w) ↔ s.watcher? didKey = some w := by
      simp [row?]
    refine hfind.trans (h.keyed_watchers.find?_eq_some.trans (and_congr_right fun _ => ?_))
    rw [Watcher.key, Row.slot, Slot.watcher.injEq]

/-- The row in a slot has that slot. -/
theorem Intact.slot_of_row? (h : s.Intact) (hrow : s.row? k = some row) : row.slot = k := by
  cases row with
  | subscriber x => exact (h.row?_subscriber.1 hrow).2
  | watcher w => exact (h.row?_watcher.1 hrow).2

/-- The id of a row that is stored is taken. -/
theorem Intact.takes_of_row? (h : s.Intact) (hrow : s.row? k = some row) :
    s.takes (some row.identity) = true := by
  cases row with
  | subscriber x => exact List.any_eq_true.2 ⟨x, (h.row?_subscriber.1 hrow).1, decide_eq_true rfl⟩
  | watcher w => exact List.any_eq_true.2 ⟨w, (h.row?_watcher.1 hrow).1, decide_eq_true rfl⟩

/-- A row is stored in one slot only. -/
theorem Intact.slot_eq (h : s.Intact) {k' : Slot} {row' : Row} (hrow : s.row? k = some row)
    (hrow' : s.row? k' = some row') (hid : row.identity = row'.identity) : k = k' := by
  rw [← h.slot_of_row? hrow, ← h.slot_of_row? hrow']
  cases row with
  | subscriber x =>
    cases row' with
    | subscriber y =>
      rw [h.subscribers_id.eq (h.row?_subscriber.1 hrow).1 (h.row?_subscriber.1 hrow').1
        (congrArg Prod.snd hid)]
    | watcher v => cases congrArg Prod.fst hid
  | watcher w =>
    cases row' with
    | subscriber y => cases congrArg Prod.fst hid
    | watcher v =>
      rw [h.watchers_id.eq (h.row?_watcher.1 hrow).1 (h.row?_watcher.1 hrow').1
        (congrArg Prod.snd hid)]

/-- The rows that calls leave in different slots have different ids. -/
theorem Fits.identity_ne (h : s.Intact) (hd : s.Fits op d) (he : s.Fits op' e) (ha : op.Apart op') :
    d.row.identity ≠ e.row.identity := by
  intro hid
  have hslot : d.row.slot ≠ e.row.slot := fun heq =>
    ha.slot (hd.slot.trans ((congrArg some heq).trans he.slot.symm))
  cases hrow : s.row? d.row.slot with
  | some row =>
    have hkept := hd.kept row hrow
    cases hrow' : s.row? e.row.slot with
    | some row' =>
      exact hslot (h.slot_eq hrow hrow' (hkept.trans (hid.trans (he.kept row' hrow').symm)))
    | none =>
      have htaken := h.takes_of_row? hrow
      rw [hkept, hid, (he.free hrow').2] at htaken
      cases htaken
  | none =>
    obtain ⟨hnew, hfree⟩ := hd.free hrow
    cases hrow' : s.row? e.row.slot with
    | some row' =>
      have htaken := h.takes_of_row? hrow'
      rw [he.kept row' hrow', ← hid, hfree] at htaken
      cases htaken
    | none => exact ha.newRow _ hnew (hid ▸ (he.free hrow').1)

/-! ## Deposits -/

theorem Intact.row?_leave (h : s.Intact) (hk : d.row.slot ≠ k) :
    (s.leave (some d)).row? k = s.row? k := by
  cases d with
  | subscription x scope =>
    cases k with
    | subscription project account =>
      have hkey : x.key ≠ (project, account) := fun heq => hk (by
        rw [Deposit.row, Row.slot, Slot.subscription.injEq]
        exact Prod.mk.inj heq)
      exact congrArg (Option.map Row.subscriber)
        ((h.keyed_subscribers.find?_place x (project, account)).trans (if_neg hkey))
    | watcher didKey => rfl
  | watcher w =>
    cases k with
    | subscription project account => rfl
    | watcher didKey =>
      have hkey : w.key ≠ didKey := fun heq => hk (congrArg Slot.watcher heq)
      exact congrArg (Option.map Row.watcher)
        ((h.keyed_watchers.find?_place w didKey).trans (if_neg hkey))

theorem Intact.takes_leave (h : s.Intact) {new : Option (Table × Uuid)}
    (hkept : ∀ row, s.row? d.row.slot = some row → row.identity = d.row.identity)
    (hnew : s.row? d.row.slot = none → new ≠ some d.row.identity) :
    (s.leave (some d)).takes new = s.takes new := by
  have htaken (heq : new = some d.row.identity) : s.takes new = true := by
    cases hrow : s.row? d.row.slot with
    | none => exact absurd heq (hnew hrow)
    | some row =>
      rw [heq, ← hkept row hrow]
      exact h.takes_of_row? hrow
  cases d with
  | subscription x scope =>
    match new with
    | none | some (.project, _) | some (.subscriberScope, _) | some (.watcher, _) => rfl
    | some (.subscriber, id) =>
      rw [Bool.eq_iff_iff]
      simp only [takes, takesSubscriber, List.any_eq_true, decide_eq_true_eq] at htaken ⊢
      refine exists_id_place (fun y hy hk => ?_) fun hid => htaken (by rw [← hid]; rfl)
      have hslot : (Row.subscriber y).slot = (Row.subscriber x).slot := Row.slot_subscriber hk
      exact congrArg Prod.snd (hkept (.subscriber y) (h.row?_subscriber.2 ⟨hy, hslot⟩))
  | watcher w =>
    match new with
    | none | some (.project, _) | some (.subscriberScope, _) | some (.subscriber, _) => rfl
    | some (.watcher, id) =>
      rw [Bool.eq_iff_iff]
      simp only [takes, takesWatcher, List.any_eq_true, decide_eq_true_eq] at htaken ⊢
      refine exists_id_place (fun y hy hk => ?_) fun hid => htaken (by rw [← hid]; rfl)
      have hslot : (Row.watcher y).slot = (Row.watcher w).slot := congrArg Slot.watcher hk
      exact congrArg Prod.snd (hkept (.watcher y) (h.row?_watcher.2 ⟨hy, hslot⟩))

theorem Fits.sight_leave (h : s.Intact) (hd : s.Fits op d) (ha : op.Apart op') :
    (s.leave (some d)).sight op' = s.sight op' := by
  have hstored : op'.slot?.bind (s.leave (some d)).row? = op'.slot?.bind s.row? := by
    cases hk : op'.slot? with
    | none => rfl
    | some k =>
      refine h.row?_leave fun heq => ha.slot ?_
      rw [hd.slot, hk, heq]
  have htaken : (s.leave (some d)).takes op'.newRow? = s.takes op'.newRow? :=
    h.takes_leave hd.kept fun hnone => ha.newRow _ (hd.free hnone).1
  have hknown : (s.leave (some d)).knowsProject op'.project? = s.knowsProject op'.project? := by
    cases d <;> rfl
  rw [sight, hstored, htaken, hknown, sight]

/-- The row of a subscription fits a call at the slot of its key. -/
theorem fits_subscription {x : Subscriber} {scope : Scope} {project : Option Uuid}
    {account : Option String} (hop : op.slot? = some (.subscription project account))
    (hkey : x.key = (project, account))
    (hkept : ∀ y, s.subscription? (project, account) = some y → y.id = x.id)
    (hfree : s.subscription? (project, account) = none →
      op.newRow? = some (.subscriber, x.id) ∧ s.takesSubscriber x.id = false) :
    s.Fits op (.subscription x scope) := by
  obtain ⟨rfl, rfl⟩ := Prod.mk.inj hkey
  have hrow : s.row? (Row.subscriber x).slot = (s.subscription? x.key).map .subscriber := rfl
  refine ⟨hop, fun row h => ?_, fun h => ?_⟩
  · obtain ⟨y, hy, rfl⟩ := Option.map_eq_some_iff.1 (hrow.symm.trans h)
    exact congrArg (Prod.mk Table.subscriber) (hkept y hy)
  · exact hfree (Option.map_eq_none_iff.1 (hrow.symm.trans h))

/-- The row of a watcher fits a call at the slot of its key. -/
theorem fits_watcher {w : Watcher} {key : Option String} (hop : op.slot? = some (.watcher key))
    (hkey : w.key = key) (hkept : ∀ v, s.watcher? key = some v → v.id = w.id)
    (hfree : s.watcher? key = none →
      op.newRow? = some (.watcher, w.id) ∧ s.takesWatcher w.id = false) :
    s.Fits op (.watcher w) := by
  subst hkey
  have hrow : s.row? (Row.watcher w).slot = (s.watcher? w.key).map .watcher := rfl
  refine ⟨hop, fun row h => ?_, fun h => ?_⟩
  · obtain ⟨v, hv, rfl⟩ := Option.map_eq_some_iff.1 (hrow.symm.trans h)
    exact congrArg (Prod.mk Table.watcher) (hkept v hv)
  · exact hfree (Option.map_eq_none_iff.1 (hrow.symm.trans h))

/-! ## Stores with the same rows -/

/-- The tables of two stores hold the same rows, in whatever order. -/
structure SameRows (s t : Store) : Prop where
  projects : s.projects.Perm t.projects
  subscribers : s.subscribers.Perm t.subscribers
  scopes : s.scopes.Perm t.scopes
  watchers : s.watchers.Perm t.watchers

namespace SameRows

theorem refl (s : Store) : s.SameRows s := ⟨.refl _, .refl _, .refl _, .refl _⟩

theorem symm (h : s.SameRows t) : t.SameRows s :=
  ⟨h.projects.symm, h.subscribers.symm, h.scopes.symm, h.watchers.symm⟩

theorem trans {u : Store} (h : s.SameRows t) (h' : t.SameRows u) : s.SameRows u :=
  ⟨h.projects.trans h'.projects, h.subscribers.trans h'.subscribers, h.scopes.trans h'.scopes,
    h.watchers.trans h'.watchers⟩

/-- A call sees the same in stores with the same rows. -/
theorem sight (h : s.SameRows t) (hs : s.Intact) (ht : t.Intact) (op : Operation) :
    s.sight op = t.sight op := by
  have hrow : s.row? = t.row? := by
    funext k
    cases k with
    | subscription project account =>
      exact congrArg (Option.map Row.subscriber)
        (hs.keyed_subscribers.find?_perm ht.keyed_subscribers h.subscribers _)
    | watcher didKey =>
      exact congrArg (Option.map Row.watcher)
        (hs.keyed_watchers.find?_perm ht.keyed_watchers h.watchers _)
  have htakes (new : Option (Table × Uuid)) : s.takes new = t.takes new := by
    match new with
    | none | some (.project, _) | some (.subscriberScope, _) => rfl
    | some (.subscriber, id) => exact h.subscribers.any_eq
    | some (.watcher, id) => exact h.watchers.any_eq
  have hknown (project : Option Uuid) : s.knowsProject project = t.knowsProject project := by
    cases project with
    | none => rfl
    | some id => exact h.projects.any_eq
  simp only [Store.sight, hrow, htakes, hknown]

theorem setScope (h : s.SameRows t) (id : Uuid) (scope : Scope) :
    (s.setScope id scope).SameRows (t.setScope id scope) :=
  ⟨h.projects, h.subscribers, (h.scopes.filter _).append_right _, h.watchers⟩

/-- A deposit leaves the same rows where there were the same rows. -/
theorem leave (h : s.SameRows t) (hs : s.Intact) (ht : t.Intact) (o : Option Deposit) :
    (s.leave o).SameRows (t.leave o) := by
  match o with
  | none => exact h
  | some (.subscription x scope) =>
    have hplace := perm_place hs.keyed_subscribers ht.keyed_subscribers h.subscribers x
    have hplaced : (s.placeSubscriber x).SameRows (t.placeSubscriber x) :=
      ⟨h.projects, hplace, h.scopes, h.watchers⟩
    exact hplaced.setScope x.id scope
  | some (.watcher w) =>
    refine ⟨h.projects, h.subscribers, h.scopes, ?_⟩
    exact perm_place hs.keyed_watchers ht.keyed_watchers h.watchers w

end SameRows

theorem filter_scopeEntries {u v : Uuid} (huv : u ≠ v) (scope : Scope) :
    (scopeEntries u scope).filter (·.subscriber ≠ v) = scopeEntries u scope := by
  refine List.filter_eq_self.2 fun e he => ?_
  obtain ⟨name, -, rfl⟩ := List.mem_map.1 he
  exact decide_eq_true huv

/-- The scopes of different subscribers may be set in either order. -/
theorem setScope_comm (s : Store) {u v : Uuid} (huv : u ≠ v) (scope scope' : Scope) :
    ((s.setScope u scope).setScope v scope').SameRows ((s.setScope v scope').setScope u scope) := by
  refine ⟨.refl _, .refl _, ?_, .refl _⟩
  simp only [setScope, List.filter_append, filter_scopeEntries huv, filter_scopeEntries huv.symm,
    List.filter_filter, List.append_assoc, Bool.and_comm]
  exact List.perm_append_comm.append_left _

/-- Deposits in different slots may be made in either order. -/
theorem Intact.leave_comm (h : s.Intact) (hslot : d.row.slot ≠ e.row.slot)
    (hid : d.row.identity ≠ e.row.identity) :
    ((s.leave (some d)).leave (some e)).SameRows ((s.leave (some e)).leave (some d)) := by
  cases d with
  | subscription x scope =>
    cases e with
    | subscription y scope' =>
      have hkey : x.key ≠ y.key := fun heq => hslot (Row.slot_subscriber heq)
      have hne : x.id ≠ y.id := fun heq => hid (congrArg (Prod.mk Table.subscriber) heq)
      exact ⟨.refl _, place_comm h.keyed_subscribers hkey,
        (s.setScope_comm hne scope scope').scopes, .refl _⟩
    | watcher w => exact .refl _
  | watcher w =>
    cases e with
    | subscription x scope => exact .refl _
    | watcher v =>
      have hkey : w.key ≠ v.key := fun heq => hslot (congrArg Slot.watcher heq)
      exact ⟨.refl _, .refl _, .refl _, place_comm h.keyed_watchers hkey⟩

end Store

/-! ## Calls at slots -/

namespace Operation

variable {clock : Instant} {statement : Statement} {op : Operation}

/-- The statement of a call comes down to what the call looks at: from this `settle` makes the
deposit and the reply, or the fault. -/
structure SettlesBy (op : Operation) (run : Routine)
    (settle : Store.Sight → Except Fault (Deposit × Reply)) : Prop where
  run_eq : ∀ s : Store, s.Intact →
    run s = (settle (s.sight op)).map fun p => (s.leave (some p.1), p.2)
  fits : ∀ s : Store, s.Intact → ∀ p, settle (s.sight op) = .ok p → s.Fits op p.1

/-- What a request for a subscription makes of what it looks at. -/
def subscriberSettlement (e : Subscriber.Entry) (scope : Scope) (g : Store.Sight) :
    Except Fault (Deposit × Reply) :=
  (constrained (e.row (g.stored.bind Row.subscriber?) g.taken g.known)).map fun x =>
    (.subscription x scope,
      ⟨.id x.id, [.subscriberUpserted x.id (e.project.getD default) scope.size]⟩)

/-- What a renewal makes of what it looks at. -/
def renewalSettlement (q : Subscriber.Renewal) (now expiry : Instant) (g : Store.Sight) :
    Except Fault (Deposit × Reply) :=
  match g.stored.bind Row.subscriber? with
  | some x => .ok (.subscription (x.renewed now expiry) q.scope,
      ⟨.subscriber (x.renewed now expiry), [.subscriberUpdated x.id q.scope.size]⟩)
  | none => .error (.notFound "Subscriber")

/-- What a request for a watcher makes of what it looks at. -/
def watcherSettlement (e : Watcher.Entry) (g : Store.Sight) : Except Fault (Deposit × Reply) :=
  (constrained (e.row (g.stored.bind Row.watcher?) g.taken g.known)).map fun w =>
    (.watcher w, ⟨.done, [.watcherUpserted (e.didKey.getD "") e.project (e.expiry.getD e.now)]⟩)

theorem bind_row?_subscription (s : Store) (project : Option Uuid) (account : Option String) :
    (s.row? (.subscription project account)).bind Row.subscriber? =
      s.subscription? (project, account) := by
  simp only [Store.row?]
  cases s.subscription? (project, account) <;> rfl

theorem bind_row?_watcher (s : Store) (didKey : Option String) :
    (s.row? (.watcher didKey)).bind Row.watcher? = s.watcher? didKey := by
  simp only [Store.row?]
  cases s.watcher? didKey <;> rfl

theorem settlesBy_subscriberWrite (q : Subscriber.Upsert) (now expiry : Instant) :
    let e : Subscriber.Entry :=
      ⟨q.newId, q.project, q.account, notifyKeyText q.notifyKey, q.topic, now, expiry⟩
    (upsertSubscriber q).SettlesBy (subscriberWrite e q.scope) (subscriberSettlement e q.scope) := by
  intro e
  have hsettle (s : Store) : subscriberSettlement e q.scope (s.sight (upsertSubscriber q)) =
      (constrained (e.row (s.subscription? (e.project, e.account)) (s.takesSubscriber e.newId)
        (s.knowsProject e.project))).map fun x => (.subscription x q.scope,
          ⟨.id x.id, [.subscriberUpserted x.id (e.project.getD default) q.scope.size]⟩) := by
    rw [← bind_row?_subscription]
    rfl
  refine ⟨fun s h => ?_, fun s h p hp => ?_⟩
  · rw [hsettle, subscriberWrite_whole, h.upsertSubscriber_eq]
    cases e.row (s.subscription? (e.project, e.account)) (s.takesSubscriber e.newId)
      (s.knowsProject e.project) <;> rfl
  · rw [hsettle] at hp
    obtain ⟨x, hx, rfl⟩ := ok_of_map hp
    have hx := Write.ok_of_constrained hx
    obtain ⟨hkept, hfree⟩ := Subscriber.Entry.id_row hx
    refine Store.fits_subscription rfl (h.key_subscriber hx) hkept fun hnone => ?_
    rw [(hfree hnone).1]
    exact ⟨rfl, (hfree hnone).2⟩

theorem settlesBy_renewalWrite (q : Subscriber.Renewal) (now expiry : Instant) :
    (renewSubscriber q).SettlesBy (renewalWrite q now expiry) (renewalSettlement q now expiry) := by
  have hsight (s : Store) : (s.sight (renewSubscriber q)).stored.bind Row.subscriber? =
      s.subscription? (q.project, q.account) := bind_row?_subscription s q.project q.account
  refine ⟨fun s h => ?_, fun s h p hp => ?_⟩
  · rw [renewalWrite_whole, h.renewSubscriber_eq, renewalSettlement, hsight]
    cases s.subscription? (q.project, q.account) <;> rfl
  · rw [renewalSettlement, hsight] at hp
    cases hx : s.subscription? (q.project, q.account) with
    | none =>
      rw [hx] at hp
      cases hp
    | some x =>
      rw [hx] at hp
      cases hp
      refine Store.fits_subscription rfl (h.keyed_subscribers.find?_eq_some.1 hx).2
        (fun y hy => ?_) fun hnone => ?_
      · cases hx.symm.trans hy
        rfl
      · cases hx.symm.trans hnone

theorem settlesBy_watcherWrite (q : Watcher.Upsert) (clock : Instant) (expiry : Option Instant) :
    let e : Watcher.Entry := ⟨q.newId, q.account, q.project, q.didKey, q.symKey, expiry, clock⟩
    (upsertWatcher q).SettlesBy (watcherWrite e) (watcherSettlement e) := by
  intro e
  have hsettle (s : Store) : watcherSettlement e (s.sight (upsertWatcher q)) =
      (constrained (e.row (s.watcher? e.didKey) (s.takesWatcher e.newId)
        (s.knowsProject e.project))).map fun w => (.watcher w,
          ⟨.done, [.watcherUpserted (e.didKey.getD "") e.project (e.expiry.getD e.now)]⟩) := by
    rw [← bind_row?_watcher]
    rfl
  refine ⟨fun s h => ?_, fun s h p hp => ?_⟩
  · rw [hsettle, Routine.whole_one, watcherWrite, h.upsertWatcher_eq]
    cases e.row (s.watcher? e.didKey) (s.takesWatcher e.newId) (s.knowsProject e.project) <;> rfl
  · rw [hsettle] at hp
    obtain ⟨w, hw, rfl⟩ := ok_of_map hp
    have hw := Write.ok_of_constrained hw
    obtain ⟨hkept, hfree⟩ := Watcher.Entry.id_row hw
    refine Store.fits_watcher rfl (h.key_watcher hw) hkept fun hnone => ?_
    rw [(hfree hnone).1]
    exact ⟨rfl, (hfree hnone).2⟩

/-- A call at a slot runs a statement that comes down to what the call looks at. -/
theorem settlesBy_of_prepare (hop : op.slot? ≠ none) (hp : op.prepare clock = .ok statement) :
    ∃ run settle, statement = .write run ∧ op.SettlesBy run settle := by
  cases op with
  | upsertSubscriber q =>
    obtain ⟨-, now, expiry, -, -, rfl⟩ := prepare_upsertSubscriber hp
    exact ⟨_, _, rfl, settlesBy_subscriberWrite q now expiry⟩
  | renewSubscriber q =>
    obtain ⟨now, expiry, -, -, rfl⟩ := prepare_renewSubscriber hp
    exact ⟨_, _, rfl, settlesBy_renewalWrite q now expiry⟩
  | upsertWatcher q =>
    obtain ⟨expiry, -, rfl⟩ := prepare_upsertWatcher hp
    exact ⟨_, _, rfl, settlesBy_watcherWrite q clock expiry⟩
  | _ => exact absurd rfl hop

/-- The report of a call at a slot and the deposit that it makes, if it makes one, depend on nothing
but what the call looks at. -/
theorem outcome_local (locked : Bool) (clock : Instant) (hop : op.slot? ≠ none) :
    ∃ answer : Store.Sight → Report × Option Deposit, ∀ s : Store, s.Intact →
      op.outcome locked clock s = ((answer (s.sight op)).1, s.leave (answer (s.sight op)).2) ∧
        ∀ d, (answer (s.sight op)).2 = some d → s.Fits op d := by
  cases hp : op.prepare clock with
  | error f =>
    exact ⟨fun _ => (.leaf (.error f.surface) [], none), fun s _ => ⟨outcome_of_error hp, nofun⟩⟩
  | ok statement =>
    obtain ⟨run, settle, rfl, hsettles⟩ := settlesBy_of_prepare hop hp
    cases locked with
    | true =>
      exact ⟨fun _ => (.leaf (.error Fault.locked.surface) [], none),
        fun s _ => ⟨outcome_of_locked hp, nofun⟩⟩
    | false =>
      refine ⟨fun g => match settle g with
        | .ok (d, reply) => (.leaf (.ok reply.answer) reply.events, some d)
        | .error f => (.leaf (.error f.surface) [], none), fun s h => ?_⟩
      rw [outcome_of_write hp, hsettles.run_eq s h]
      cases hg : settle (s.sight op) with
      | error f =>
        simp only [hg]
        exact ⟨rfl, nofun⟩
      | ok p =>
        simp only [hg]
        refine ⟨rfl, ?_⟩
        rintro d ⟨⟩
        exact hsettles.fits s h p hg

end Operation

end SubscriptionRegistry
