import SubscriptionRegistry.Proofs.CanonicalText
import SubscriptionRegistry.Proofs.Integrity

/-!
# Histories of subscribers

A row of the subscribers has its key and topic from the last request for the subscription, its term
from the last request or renewal, and its id and its first date from the request that inserted it.

* `Deed.subscriptionFor?`, `Deed.renewedAt?`: the request for a subscription that a deed has carried
  out, and the time from which a deed has let it run.
* `IsKeyText`: the text under which a notify key is stored.
* `Subscriber.Change`: all that a write can do to a row. `Write.Effect.change`: every row has come
  about in one of these ways.
* `Subscriber.Inserted`, `Subscriber.From`: a row is what a list of deeds has made of it.
  `Subscriber.From.snoc`: one more deed keeps it so.
* `Script.subscribers_exact`: the rows at every point of a run, and what the calls that write them
  answer.
-/

namespace SubscriptionRegistry

/-- The request for the subscription of `account` to `project` that a deed has carried out. -/
def Deed.subscriptionFor? (deed : Deed) (project : Uuid) (account : String) :
    Option Subscriber.Upsert :=
  match deed.write with
  | .call (.upsertSubscriber r) =>
    if r.project = some project ∧ r.account = some account then some r else none
  | _ => none

/-- The time from which a deed has let the subscription of `account` to `project` run. -/
def Deed.renewedAt? (deed : Deed) (project : Uuid) (account : String) : Option Instant :=
  match deed.write with
  | .call (.upsertSubscriber r) =>
    if r.project = some project ∧ r.account = some account then
      (Operation.effectiveTime deed.clock r.now).toOption
    else none
  | .call (.renewSubscriber r) =>
    if r.project = some project ∧ r.account = some account then
      (Operation.effectiveTime deed.clock r.now).toOption
    else none
  | _ => none

theorem Deed.renewedAt?_of_subscriptionFor? {deed : Deed} {project : Uuid} {account : String}
    {r : Subscriber.Upsert} {now : Instant} (hr : deed.subscriptionFor? project account = some r)
    (hn : Operation.effectiveTime deed.clock r.now = .ok now) :
    deed.renewedAt? project account = some now := by
  obtain ⟨clock, write, reply⟩ := deed
  unfold subscriptionFor? at hr
  split at hr
  · rename_i r' hw
    split at hr
    · rename_i hof
      cases hr
      dsimp only at hw hn
      subst hw
      exact (if_pos hof).trans (congrArg Except.toOption hn)
    · cases hr
  · cases hr

/-! ## Keys and terms -/

/-- The text of a notify key: 64 lower-case hexadecimal digits that spell its 32 bytes. -/
structure IsKeyText (bytes : List UInt8) (text : String) : Prop where
  bytes_length : bytes.length = 32
  length : text.length = 64
  digits : ∀ c ∈ text.toList, Text.isLowerHex c
  decoded : Text.bytes? text.toList = some bytes

theorem isKeyText_notifyKeyText {bytes : List UInt8} (h : bytes.length = notifyKeyLength) :
    IsKeyText bytes (notifyKeyText bytes) where
  bytes_length := h
  length := by
    rw [notifyKeyText, String.length_ofList, Text.length_flatMap_hexDigits, h]
    rfl
  digits c hc := by
    rw [notifyKeyText, String.toList_ofList] at hc
    obtain ⟨b, -, hb⟩ := List.mem_flatMap.1 hc
    exact Text.isLowerHex_of_mem_hexDigits hb
  decoded := by
    rw [notifyKeyText, String.toList_ofList]
    exact Text.bytes?_hexDigits bytes

/-- A subscription runs for 2592000 seconds. -/
theorem Operation.micros_termEnd {now expiry : Instant} (h : termEnd now = .ok expiry) :
    expiry.micros = now.micros + 2592000 * 1000000 := by
  unfold termEnd Instant.add Instant.ofMicros at h
  split at h
  · cases h
    show ((now.micros : Int) + (subscriptionTerm : Nat)).toNat = _
    have hterm : subscriptionTerm = 2592000 * 1000000 := by decide
    omega
  · cases h

/-! ## One write -/

/-- How a row of the subscribers has come about by a deed that was done to the store `s`. -/
inductive Subscriber.Change (deed : Deed) (s : Store) : Subscriber → Prop
  | inserted {r : Upsert} {now expiry : Instant} {project : Uuid} {account topic : String}
      (hnew : ∀ y ∈ s.subscribers, ¬ y.isOf project account)
      (hr : deed.subscriptionFor? project account = some r)
      (hk : r.notifyKey.length = notifyKeyLength) (ht : r.topic = some topic)
      (hn : Operation.effectiveTime deed.clock r.now = .ok now)
      (he : Operation.termEnd now = .ok expiry) :
      Change deed s ⟨r.newId, now, now, project, account, notifyKeyText r.notifyKey, topic, expiry⟩
  | reset {y : Subscriber} {r : Upsert} {now expiry : Instant} {topic : String}
      (hy : y ∈ s.subscribers) (hr : deed.subscriptionFor? y.project y.account = some r)
      (hk : r.notifyKey.length = notifyKeyLength) (ht : r.topic = some topic)
      (hn : Operation.effectiveTime deed.clock r.now = .ok now)
      (he : Operation.termEnd now = .ok expiry) :
      Change deed s
        { y with updatedAt := now, symKey := notifyKeyText r.notifyKey, topic := topic, expiry := expiry }
  | renewed {y : Subscriber} {now expiry : Instant} (hy : y ∈ s.subscribers)
      (hr : deed.subscriptionFor? y.project y.account = none)
      (hn : deed.renewedAt? y.project y.account = some now)
      (he : Operation.termEnd now = .ok expiry) :
      Change deed s { y with updatedAt := now, expiry := expiry }
  | kept {x : Subscriber} (hx : x ∈ s.subscribers)
      (hr : deed.subscriptionFor? x.project x.account = none)
      (hn : deed.renewedAt? x.project x.account = none) : Change deed s x

section Rows

variable {s s' : Store} {x : Subscriber}

theorem Subscriber.Change.upsertSubscriber {r : Upsert} {clock now expiry : Instant} {id : Uuid}
    {reply : Reply} (hk : r.notifyKey.length = notifyKeyLength)
    (hn : Operation.effectiveTime clock r.now = .ok now) (he : Operation.termEnd now = .ok expiry)
    (hs : s.upsertSubscriber
      ⟨r.newId, r.project, r.account, notifyKeyText r.notifyKey, r.topic, now, expiry⟩ r.scope =
        .ok (s', id)) (hx : x ∈ s'.subscribers) :
    Change ⟨clock, .call (.upsertSubscriber r), reply⟩ s x := by
  obtain ⟨t, ht, rfl⟩ := Store.upsertSubscriber_cases hs
  obtain ⟨project, account, topic, hp, ha, htopic, hrows⟩ := Store.writeSubscriber_cases ht
  dsimp only at hp ha htopic
  -- Rows of other subscriptions are not those that the request names.
  have hother : ∀ y : Subscriber, ¬ y.isOf project account →
      ¬ (r.project = some y.project ∧ r.account = some y.account) := fun y hy h =>
    hy (isOf_iff.2 ⟨Option.some.inj (h.1.symm.trans hp), Option.some.inj (h.2.symm.trans ha)⟩)
  have hkept : ∀ y ∈ s.subscribers, ¬ y.isOf project account →
      Change ⟨clock, .call (.upsertSubscriber r), reply⟩ s y := fun y hy hof =>
    .kept hy (if_neg (hother y hof)) (if_neg (hother y hof))
  rcases hrows with ⟨-, -, -, -, rfl⟩ | ⟨hnew, -, -, rfl⟩
  · obtain ⟨y, hy, rfl⟩ := List.mem_map.1 hx
    by_cases hof : y.isOf project account
    · obtain ⟨rfl, rfl⟩ := isOf_iff.1 hof
      rw [Store.rewriteSubscriber, if_pos hof]
      exact .reset hy (if_pos ⟨hp, ha⟩) hk htopic hn he
    · rw [Store.rewriteSubscriber, if_neg hof]
      exact hkept y hy hof
  · rcases List.mem_append.1 hx with hx | hx
    · exact hkept x hx (hnew x hx).1
    · rw [List.mem_singleton.1 hx]
      exact .inserted (fun y hy => (hnew y hy).1) (if_pos ⟨hp, ha⟩) hk htopic hn he

theorem Subscriber.Change.renewSubscriber {r : Renewal} {clock now expiry : Instant}
    {reply : Reply} {z : Subscriber} (hn : Operation.effectiveTime clock r.now = .ok now)
    (he : Operation.termEnd now = .ok expiry)
    (hs : s.renewSubscriber r.project r.account r.scope now expiry = some (s', z))
    (hx : x ∈ s'.subscribers) : Change ⟨clock, .call (.renewSubscriber r), reply⟩ s x := by
  obtain ⟨project, account, hp, ha, _, -, -, -, -, rfl⟩ := Store.renewSubscriber_cases hs
  obtain ⟨y, hy, rfl⟩ := List.mem_map.1 hx
  by_cases hof : y.isOf project account
  · obtain ⟨rfl, rfl⟩ := isOf_iff.1 hof
    rw [Store.extendSubscriber, if_pos hof]
    refine .renewed hy rfl ?_ he
    exact (if_pos ⟨hp, ha⟩).trans (congrArg Except.toOption hn)
  · rw [Store.extendSubscriber, if_neg hof]
    refine .kept hy rfl (if_neg fun h => hof (isOf_iff.2 ?_))
    exact ⟨Option.some.inj (h.1.symm.trans hp), Option.some.inj (h.2.symm.trans ha)⟩

/-- Every row that is stored after a write has come about by it. -/
theorem Write.Effect.change {deed : Deed}
    (hw : deed.write.Effect deed.clock s s' deed.reply) (hx : x ∈ s'.subscribers) :
    Subscriber.Change deed s x := by
  obtain ⟨clock, write, reply⟩ := deed
  dsimp only at hw
  cases hw with
  | upsertProject ha hb hs =>
    obtain ⟨_, _, _, -, -, -, -, ⟨p, -, -, -, rfl⟩ | ⟨-, -, rfl⟩⟩ := Store.upsertProject_cases hs
    · exact .kept hx rfl rfl
    · exact .kept hx rfl rfl
  | upsertSubscriber hk hn he hs => exact .upsertSubscriber hk hn he hs hx
  | renewSubscriber hn he hs => exact .renewSubscriber hn he hs hx
  | deleteSubscriber => exact .kept (List.mem_filter.1 hx).1 rfl rfl
  | replaceScope hs =>
    rw [Store.subscribers_replaceScope hs] at hx
    exact .kept hx rfl rfl
  | upsertWatcher he hs =>
    obtain ⟨_, _, _, _, -, -, -, -, -, ⟨-, rfl⟩ | ⟨-, rfl⟩⟩ := Store.upsertWatcher_cases hs
    · exact .kept hx rfl rfl
    · exact .kept hx rfl rfl
  | sweepWatchers ht => exact .kept hx rfl rfl
  | sweep => exact .kept hx rfl rfl
  | addScopeText hs =>
    obtain ⟨_, _, -, -, -, rfl⟩ := Store.addScopeText_cases hs
    exact .kept hx rfl rfl
  | deleteProject => exact .kept (List.mem_filter.1 hx).1 rfl rfl

end Rows

/-! ## Histories -/

/-- Of the deeds, one has inserted the row: it has given the row its id and its first date, on a
store without a row for the account, and every store since has had the row. -/
def Subscriber.Inserted (deeds : List Deed) (x : Subscriber) : Prop :=
  ∃ before deed after, deeds = before ++ deed :: after ∧
    (∃ r, deed.subscriptionFor? x.project x.account = some r ∧ r.newId = x.id ∧
      Operation.effectiveTime deed.clock r.now = .ok x.createdAt) ∧
    (∃ s, Replays .empty before s ∧ ∀ y ∈ s.subscribers, ¬ y.isOf x.project x.account) ∧
    ∀ since rest, after = since ++ rest → ∃ s, Replays .empty (before ++ deed :: since) s ∧
      ∃ y ∈ s.subscribers, y.isOf x.project x.account ∧ y.id = x.id

/-- A row is what the deeds have made of it. -/
structure Subscriber.From (deeds : List Deed) (x : Subscriber) : Prop where
  /-- The subscription runs for 30 days. -/
  expiry : x.expiry.micros = x.updatedAt.micros + 2592000 * 1000000
  updatedAt : ∃ after, Latest (·.renewedAt? x.project x.account) deeds x.updatedAt after
  key : ∃ r after, Latest (·.subscriptionFor? x.project x.account) deeds r after ∧
    IsKeyText r.notifyKey x.symKey ∧ r.topic = some x.topic
  inserted : x.Inserted deeds

namespace Subscriber

variable {deeds : List Deed} {deed : Deed} {s s' : Store} {x y : Subscriber}

/-- A row that is stored after one more deed, too, is still the row that was inserted. -/
theorem Inserted.snoc (h : y.Inserted deeds) (hr : Replays .empty (deeds ++ [deed]) s')
    (hx : x ∈ s'.subscribers) (hp : x.project = y.project) (ha : x.account = y.account)
    (hid : x.id = y.id) (hc : x.createdAt = y.createdAt) : x.Inserted (deeds ++ [deed]) := by
  obtain ⟨before, inserter, after, hdeeds, hrequest, hnew, hsince⟩ := h
  rw [← hp, ← ha, ← hid, ← hc] at hrequest
  rw [← hp, ← ha] at hnew
  rw [← hp, ← ha, ← hid] at hsince
  exact Emerged.snoc ⟨before, inserter, after, hdeeds, hrequest, hnew, hsince⟩ hr
    ⟨x, hx, isOf_iff.2 ⟨rfl, rfl⟩, rfl⟩

theorem From.snoc (h : ∀ y ∈ s.subscribers, y.From deeds) (hr : Replays .empty deeds s)
    (hr' : Replays .empty (deeds ++ [deed]) s') (hx : x ∈ s'.subscribers)
    (hc : Change deed s x) : x.From (deeds ++ [deed]) := by
  cases hc with
  | @inserted r now expiry project account topic hnew hreq hk ht hn he =>
    refine ⟨Operation.micros_termEnd he,
      ⟨[], .snoc_self (Deed.renewedAt?_of_subscriptionFor? hreq hn)⟩,
      ⟨r, [], .snoc_self hreq, isKeyText_notifyKeyText hk, ht⟩, ?_⟩
    exact Emerged.new ⟨r, hreq, rfl, hn⟩ hr hnew hr' ⟨_, hx, isOf_iff.2 ⟨rfl, rfl⟩, rfl⟩
  | @reset y r now expiry topic hy hreq hk ht hn he =>
    exact ⟨Operation.micros_termEnd he,
      ⟨[], .snoc_self (Deed.renewedAt?_of_subscriptionFor? hreq hn)⟩,
      ⟨r, [], .snoc_self hreq, isKeyText_notifyKeyText hk, ht⟩,
      (h y hy).inserted.snoc hr' hx rfl rfl rfl rfl⟩
  | @renewed y now expiry hy hreq hn he =>
    obtain ⟨r, after, hlatest, hkey⟩ := (h y hy).key
    exact ⟨Operation.micros_termEnd he, ⟨[], .snoc_self hn⟩, ⟨r, _, hlatest.snoc hreq, hkey⟩,
      (h y hy).inserted.snoc hr' hx rfl rfl rfl rfl⟩
  | kept hy hreq hn =>
    obtain ⟨r, after, hlatest, hkey⟩ := (h x hy).key
    obtain ⟨after', hlatest'⟩ := (h x hy).updatedAt
    exact ⟨(h x hy).expiry, ⟨_, hlatest'.snoc hn⟩, ⟨r, _, hlatest.snoc hreq, hkey⟩,
      (h x hy).inserted.snoc hr' hx rfl rfl rfl rfl⟩

end Subscriber

/-- The rows of a store are what the deeds have made of them. -/
theorem Replays.subscribersFrom {deeds : List Deed} {s : Store} (h : Replays .empty deeds s) :
    ∀ x ∈ s.subscribers, x.From deeds := by
  induction h with
  | nil => intro x hx; cases hx
  | snoc hr hd ih => exact fun x hx => .snoc ih hr (hr.snoc hd) hx (hd.effect.change hx)

/-! ## Answers -/

/-- The row of the subscription that a request was for has the id that it answers with. -/
theorem Store.row_upsertSubscriber {s s' : Store} {e : Subscriber.Entry} {scope : Scope} {id : Uuid}
    (h : s.upsertSubscriber e scope = .ok (s', id)) :
    ∃ x ∈ s'.subscribers, e.project = some x.project ∧ e.account = some x.account ∧ x.id = id := by
  obtain ⟨t, ht, rfl⟩ := upsertSubscriber_cases h
  obtain ⟨project, account, topic, hp, ha, -, ⟨x, hx, hof, rfl, rfl⟩ | ⟨-, -, rfl, rfl⟩⟩ :=
    writeSubscriber_cases ht
  · obtain ⟨rfl, rfl⟩ := Subscriber.isOf_iff.1 hof
    refine ⟨_, List.mem_map_of_mem hx, ?_⟩
    rw [rewriteSubscriber_project, rewriteSubscriber_account, rewriteSubscriber_id]
    exact ⟨hp, ha, rfl⟩
  · exact ⟨_, List.mem_append_right _ List.mem_cons_self, hp, ha, rfl⟩

/-- The row that a renewal answers with is that of the subscription that it was for: no other row
has its id. -/
theorem Store.Intact.row_renewSubscriber {s s' : Store} (hi : s.Intact) {project : Option Uuid}
    {account : Option String} {scope : Scope} {now expiry : Instant} {y : Subscriber}
    (h : s.renewSubscriber project account scope now expiry = some (s', y)) :
    y ∈ s'.subscribers ∧ project = some y.project ∧ account = some y.account := by
  have hi' : s'.Intact := hi.renewSubscriber h
  obtain ⟨p, a, hp, ha, x, hx, hof, hid, hy, rfl⟩ := renewSubscriber_cases h
  have hrow : y = extendSubscriber p a now expiry x :=
    hi'.subscribers_id.eq hy (List.mem_map_of_mem hx) (hid.trans extendSubscriber_id.symm)
  obtain ⟨rfl, rfl⟩ := Subscriber.isOf_iff.1 hof
  refine ⟨hy, ?_⟩
  rw [hrow, extendSubscriber_project, extendSubscriber_account]
  exact ⟨hp, ha⟩

/-- **What a row of the subscribers tells.** At every point of a run from the empty store, each row
that is committed, and each row that a session sees, has its term from the last request for or
renewal of the subscription, its key and topic from the last request, and its id and first date from
the request that inserted it, among the writes that are committed or that the session sees. A
request that succeeds answers with the id of the row, and a renewal with the row. -/
theorem Script.subscribers_exact (script : Script) (clock : Instant) (n : Nat) :
    let r := script.stateAt (.start clock .empty) n
    let j := script.journalAt (.start clock .empty) n
    (∀ x ∈ r.database.committed.subscribers, x.From j.durable) ∧
      (∀ i, ∀ x ∈ (r.database.view i).subscribers, x.From (j.visible i)) ∧
      (∀ i u answer events, let after := (Step.act i (.call (.upsertSubscriber u))).run r
        after.1 = .leaf (.ok answer) events → ∃ x ∈ (after.2.database.view i).subscribers,
          u.project = some x.project ∧ u.account = some x.account ∧ answer = .id x.id) ∧
      ∀ i u answer events, let after := (Step.act i (.call (.renewSubscriber u))).run r
        after.1 = .leaf (.ok answer) events → ∃ x ∈ (after.2.database.view i).subscribers,
          u.project = some x.project ∧ u.account = some x.account ∧ answer = .subscriber x := by
  intro r j
  have htells : j.Tells .empty r.database := script.tells clock .empty n
  refine ⟨htells.durable.subscribersFrom, fun i => (htells.view i).subscribersFrom, ?_, ?_⟩
  · intro i u answer events after hreport
    cases (Step.turns_of_ok rfl hreport).effect with
    | upsertSubscriber hk hn he hs =>
      obtain ⟨x, hx, hp, ha, hid⟩ := Store.row_upsertSubscriber hs
      exact ⟨x, hx, hp, ha, congrArg Answer.id hid.symm⟩
  · intro i u answer events after hreport
    cases (Step.turns_of_ok rfl hreport).effect with
    | @renewSubscriber _ _ _ _ _ x hn he hs =>
      obtain ⟨hx, hp, ha⟩ := (script.intact_view clock n i).row_renewSubscriber hs
      exact ⟨x, hx, hp, ha, rfl⟩

end SubscriptionRegistry
