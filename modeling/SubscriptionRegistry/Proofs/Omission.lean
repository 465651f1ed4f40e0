import SubscriptionRegistry.Proofs.Admission
import SubscriptionRegistry.Proofs.Interference
import SubscriptionRegistry.Proofs.Retries
import SubscriptionRegistry.Proofs.SubscriberHistory

/-!
# Histories without a subscription

What is written to one subscription is not seen in the rest of the store, and the other writes do
not look at it. So the writes to a subscription may be left out of a history: the others do what
they did, with the same replies, and leave the store without the subscription. A store in which the
subscription is not there is then one in which it has never been.

* `Write.Touches`: the writes to a subscription or to its scope.
* `Write.Effect.omit`: every other write does without the subscription what it does with it.
* `Omits`: a history without the writes to a subscription. `Replays.omit`: what it makes.
* `Replays.unrequested`: a subscription that is not stored is not until it is requested.
-/

namespace SubscriptionRegistry

theorem filter_comm (p q : α → Bool) (l : List α) : (l.filter p).filter q = (l.filter q).filter p := by
  rw [List.filter_filter, List.filter_filter]
  exact List.filter_congr fun x _ => Bool.and_comm _ _

/-- A row with another key is put in its place whether some rows are left out or not. -/
theorem filter_place_of_ne {key : α → κ} [DecidableEq κ] {k : κ} {x : α} (h : key x ≠ k) (l : List α) :
    (place key x l).filter (key · ≠ k) = place key x (l.filter (key · ≠ k)) := by
  rcases exists_key_or key l (key x) with ⟨z, hz, hzx⟩ | hnew
  · have hkept : z ∈ l.filter (key · ≠ k) :=
      List.mem_filter.2 ⟨hz, decide_eq_true (hzx.symm ▸ h)⟩
    have hkeys : ∀ y, decide (key (if key y = key x then x else y) ≠ k) = decide (key y ≠ k) := fun y =>
      congrArg (fun a => decide (a ≠ k)) (key_placed x y)
    rw [place_of_mem hz hzx, place_of_mem hkept hzx, List.filter_map]
    exact congrArg (List.map _) (List.filter_congr fun y _ => hkeys y)
  · have hnew' : ∀ y ∈ l.filter (key · ≠ k), key y ≠ key x := fun y hy => hnew y (List.mem_filter.1 hy).1
    rw [place_of_new hnew, place_of_new hnew', List.filter_append,
      List.filter_cons_of_pos (by simpa using h), List.filter_nil]

/-! ## What is done to the rest of the store -/

namespace Store

variable {s s' : Store} {key : Option Uuid × Option String}

theorem Intact.without (h : s.Intact) (key : Option Uuid × Option String) : (s.without key).Intact :=
  { h with
    subscribers_id := h.subscribers_id.filter _
    subscribers_account := h.subscribers_account.filter _
    subscribers_project := fun x hx => h.subscribers_project x (List.mem_filter.1 hx).1
    scopes_subscriber := fun _ he => any_id.1 (List.mem_filter.1 he).2 }

/-- Nothing is missing without a subscription that is not stored. -/
theorem Intact.without_of_not_stored (h : s.Intact) (hkey : s.subscription? key = none) :
    s.without key = s := by
  have hrows : s.subscribers.filter (·.key ≠ key) = s.subscribers :=
    List.filter_eq_self.2 fun x hx => decide_eq_true (find?_key_eq_none.1 hkey x hx)
  have hscopes : s.scopes.filter (fun e => s.subscribers.any (·.id = e.subscriber)) = s.scopes :=
    List.filter_eq_self.2 fun e he => any_id.2 (h.scopes_subscriber e he)
  unfold Store.without
  rw [hrows, hscopes]

theorem subscription?_without {k : Option Uuid × Option String} (hne : k ≠ key) :
    (s.without key).subscription? k = s.subscription? k := by
  show (s.subscribers.filter _).find? _ = s.subscribers.find? _
  rw [List.find?_filter]
  congr 1
  funext x
  by_cases hk : x.key = k
  · simp [hk, hne]
  · simp [hk]

theorem takesSubscriber_of_without {id : Uuid} (h : (s.without key).takesSubscriber id = true) :
    s.takesSubscriber id = true := by
  obtain ⟨x, hx, hid⟩ := List.any_eq_true.1 h
  exact List.any_eq_true.2 ⟨x, (List.mem_filter.1 hx).1, hid⟩

/-- Scope entries are chosen without a subscription as they are with it. -/
theorem without_filter (p : ScopeEntry → Bool) :
    Store.without { s with scopes := s.scopes.filter p } key =
      { s.without key with scopes := (s.without key).scopes.filter p } := by
  exact congrArg (fun l => Store.mk _ _ l _) (filter_comm _ _ _)

/-- Scope entries of other subscribers are added without a subscription as they are with it. -/
theorem without_append {l : List ScopeEntry}
    (h : ∀ e ∈ l, ∃ x ∈ s.subscribers.filter (·.key ≠ key), x.id = e.subscriber) :
    Store.without { s with scopes := s.scopes ++ l } key =
      { s.without key with scopes := (s.without key).scopes ++ l } := by
  unfold Store.without
  dsimp only
  rw [List.filter_append, List.filter_eq_self.2 fun e he => any_id.2 (h e he)]

theorem without_setScope {id : Uuid} (h : ∃ x ∈ s.subscribers.filter (·.key ≠ key), x.id = id)
    (scope : Scope) : (s.setScope id scope).without key = (s.without key).setScope id scope := by
  have hentries : ∀ e ∈ scopeEntries id scope,
      ∃ x ∈ s.subscribers.filter (·.key ≠ key), x.id = e.subscriber := by
    intro e he
    obtain ⟨name, -, rfl⟩ := List.mem_map.1 he
    exact h
  unfold setScope
  rw [without_append (s := { s with scopes := s.scopes.filter (·.subscriber ≠ id) }) hentries,
    without_filter]

/-- Another subscription is put in its place with its scope, whether one is left out or not. -/
theorem without_placed_ne {x : Subscriber} {scope : Scope} (hne : x.key ≠ key)
    (hkeep : ∀ y ∈ s.subscribers, y.key = x.key → y.id = x.id) :
    ((s.placeSubscriber x).setScope x.id scope).without key =
      ((s.without key).placeSubscriber x).setScope x.id scope := by
  have hrows : (s.placeSubscriber x).subscribers.filter (·.key ≠ key) =
      place Subscriber.key x (s.subscribers.filter (·.key ≠ key)) :=
    filter_place_of_ne hne s.subscribers
  have hx : ∃ y ∈ (s.placeSubscriber x).subscribers.filter (·.key ≠ key), y.id = x.id := by
    rw [hrows]
    exact ⟨x, mem_place.2 (.inl rfl), rfl⟩
  have hscopes : ((s.placeSubscriber x).without key).scopes.filter (·.subscriber ≠ x.id) =
      (s.without key).scopes.filter (·.subscriber ≠ x.id) := by
    show (s.scopes.filter _).filter _ = (s.scopes.filter _).filter _
    rw [hrows, List.filter_filter, List.filter_filter]
    refine List.filter_congr fun e _ => ?_
    by_cases he : e.subscriber = x.id
    · rw [decide_eq_false (not_not_intro he), Bool.false_and, Bool.false_and]
    · congr 1
      rw [Bool.eq_iff_iff, any_id, any_id]
      exact exists_id_place (fun y hy => hkeep y (List.mem_filter.1 hy).1) fun hid =>
        absurd hid.symm he
  rw [without_setScope hx]
  show Store.mk _ _ _ _ = Store.mk _ _ _ _
  rw [hscopes]
  exact congrArg (fun l => Store.mk _ l _ _) hrows

end Store

/-! ## Writes to a subscription -/

/-- The write is one to the subscription under `key`: a call for it, or a change of the scope of the
row that is stored for it. -/
inductive Write.Touches (s : Store) (key : Option Uuid × Option String) : Write → Prop
  | call {op : Operation} (h : op.Addresses s key) : Touches s key (.call op)
  | replaceScope (x : Subscriber) (hx : x ∈ s.subscribers) (hkey : x.key = key) (scope : Scope) :
      Touches s key (.replaceScope (some x.id) scope)
  | addScopeText (x : Subscriber) (hx : x ∈ s.subscribers) (hkey : x.key = key)
      (name : Option String) : Touches s key (.call (.addScopeText (some x.id) name))

namespace Write

variable {s s' : Store} {key : Option Uuid × Option String} {w : Write} {clock : Instant}
  {reply : Reply}

/-- What is written to a subscription is not seen without it. -/
theorem Touches.without_eq (h : w.Touches s key) (hs : s.Intact) (hw : w.Turns clock s s' reply) :
    s'.without key = s.without key := by
  cases h with
  | call h => exact h.without_eq hs hw
  | replaceScope x hx hkey scope =>
    subst hkey
    have hid : ∀ y ∈ s.subscribers, y.key ≠ x.key → y.id ≠ x.id := fun y hy => hs.id_ne hx hy
    cases hw.effect with
    | replaceScope hstore =>
      rcases Store.replaceScope_cases hstore with ⟨-, rfl⟩ | ⟨i, hi, -, rfl⟩
      · refine Store.without_eq rfl rfl rfl ?_ hid
        show (s.scopes.filter _).filter _ = _
        rw [List.filter_filter]
        exact List.filter_congr fun e _ => by simp
      · cases hi
        exact Store.without_eq rfl rfl rfl (s.filter_setScope_ne x.id scope) hid
  | addScopeText x hx hkey name =>
    subst hkey
    have hid : ∀ y ∈ s.subscribers, y.key ≠ x.key → y.id ≠ x.id := fun y hy => hs.id_ne hx hy
    cases hw.effect with
    | addScopeText hstore =>
      obtain ⟨i, text, hi, -, -, rfl⟩ := Store.addScopeText_cases hstore
      cases hi
      refine Store.without_eq rfl rfl rfl ?_ hid
      show (s.scopes ++ _).filter _ = _
      rw [List.filter_append, List.filter_cons_of_neg (by simp), List.filter_nil, List.append_nil]

end Write

/-! ## Other writes -/

/-- The row to be stored is the same where fewer ids are taken. -/
theorem Subscriber.Entry.row_of_fewer {e : Subscriber.Entry} {stored : Option Subscriber}
    {taken taken' known : Bool} {x : Subscriber} (hfewer : taken' = true → taken = true)
    (h : e.row stored taken known = .ok x) : e.row stored taken' known = .ok x := by
  obtain ⟨project, account, topic, hp, ha, ht, ⟨y, rfl, rfl⟩ | ⟨rfl, rfl, rfl, rfl⟩⟩ := row_cases h
  · unfold row
    simp only [hp, ha, ht, required, bind, Except.bind]
  · obtain rfl : taken' = false := Bool.eq_false_iff.2 fun htaken => by cases hfewer htaken
    unfold row
    simp only [hp, ha, ht, required, bind, Except.bind, if_true, if_false, Bool.false_eq_true]

namespace Store.Intact

variable {s s' : Store} (h : s.Intact) {key : Option Uuid × Option String}
include h

theorem upsertSubscriber_without {e : Subscriber.Entry} {scope : Scope} {id : Uuid}
    (hne : (e.project, e.account) ≠ key) (hs : s.upsertSubscriber e scope = .ok (s', id)) :
    (s.without key).upsertSubscriber e scope = .ok (s'.without key, id) := by
  rw [h.upsertSubscriber_eq] at hs
  obtain ⟨x, hx, heq⟩ := ok_of_map hs
  obtain ⟨rfl, rfl⟩ := Prod.mk.inj heq
  have hkey : x.key = (e.project, e.account) := h.key_subscriber hx
  have hkeep : ∀ y ∈ s.subscribers, y.key = x.key → y.id = x.id := fun y hy hyx =>
    (Subscriber.Entry.id_row hx).1 y (h.keyed_subscribers.find?_eq_some.2 ⟨hy, hyx.trans hkey⟩)
  have hrow : e.row ((s.without key).subscription? (e.project, e.account))
      ((s.without key).takesSubscriber e.newId) ((s.without key).knowsProject e.project) = .ok x := by
    rw [subscription?_without hne]
    exact Subscriber.Entry.row_of_fewer takesSubscriber_of_without hx
  rw [(h.without key).upsertSubscriber_eq, hrow, without_placed_ne (hkey ▸ hne) hkeep]
  rfl

theorem renewSubscriber_without {project : Option Uuid} {account : Option String} {scope : Scope}
    {now expiry : Instant} {y : Subscriber} (hne : (project, account) ≠ key)
    (hs : s.renewSubscriber project account scope now expiry = some (s', y)) :
    (s.without key).renewSubscriber project account scope now expiry = some (s'.without key, y) := by
  rw [h.renewSubscriber_eq] at hs
  obtain ⟨x, hx, heq⟩ := Option.map_eq_some_iff.1 hs
  obtain ⟨rfl, rfl⟩ := Prod.mk.inj heq
  obtain ⟨hmem, hkey⟩ := h.keyed_subscribers.find?_eq_some.1 hx
  have hkeep : ∀ z ∈ s.subscribers, z.key = (x.renewed now expiry).key →
      z.id = (x.renewed now expiry).id := by
    intro z hz hzx
    obtain rfl : z = x := h.keyed_subscribers.eq hz hmem hzx
    rfl
  have hplaced : ((s.placeSubscriber (x.renewed now expiry)).setScope x.id scope).without key = _ :=
    without_placed_ne (x := x.renewed now expiry) (hkey ▸ hne) hkeep
  rw [(h.without key).renewSubscriber_eq, subscription?_without hne, hx]
  exact congrArg (fun t => some (t, x.renewed now expiry)) hplaced.symm

theorem upsertProject_without {now : Instant} {r : Project.Upsert} {keys : PublicKeys}
    (hs : s.upsertProject now r = .ok (s', keys)) :
    (s.without key).upsertProject now r = .ok (s'.without key, keys) := by
  rw [h.upsertProject_eq] at hs
  obtain ⟨p, hp, heq⟩ := ok_of_map hs
  obtain ⟨rfl, rfl⟩ := Prod.mk.inj heq
  rw [(h.without key).upsertProject_eq]
  exact congrArg (Except.map fun p => ((s.without key).placeProject p, p.publicKeys)) hp

theorem upsertWatcher_without {e : Watcher.Entry} (hs : s.upsertWatcher e = .ok s') :
    (s.without key).upsertWatcher e = .ok (s'.without key) := by
  rw [h.upsertWatcher_eq] at hs
  obtain ⟨w, hw, rfl⟩ := ok_of_map hs
  rw [(h.without key).upsertWatcher_eq]
  exact congrArg (Except.map (s.without key).placeWatcher) hw

end Store.Intact

namespace Store

variable {s s' : Store} {key : Option Uuid × Option String}

/-- An id that does not belong to the subscription is that of a row without it or of none. -/
theorem exists_without {id : Uuid} (hother : ∀ x ∈ s.subscribers, x.key = key → x.id ≠ id)
    (h : ∃ x ∈ s.subscribers, x.id = id) : ∃ x ∈ s.subscribers.filter (·.key ≠ key), x.id = id := by
  obtain ⟨x, hx, hid⟩ := h
  exact ⟨x, List.mem_filter.2 ⟨hx, decide_eq_true fun hkey => hother x hx hkey hid⟩, hid⟩

theorem replaceScope_without {id : Option Uuid} {scope : Scope}
    (hother : ∀ x ∈ s.subscribers, x.key = key → some x.id ≠ id)
    (hs : s.replaceScope id scope = .ok s') :
    (s.without key).replaceScope id scope = .ok (s'.without key) := by
  rcases replaceScope_cases hs with ⟨hempty, rfl⟩ | ⟨i, rfl, hi, rfl⟩
  · exact (if_pos hempty).trans (congrArg Except.ok (without_filter _).symm)
  · have howner := exists_without (fun x hx hkey hid => hother x hx hkey (congrArg some hid)) hi
    rw [without_setScope howner]
    exact replaceScope_of_stored howner scope

theorem addScopeText_without {id : Option Uuid} {name : Option String}
    (hother : ∀ x ∈ s.subscribers, x.key = key → some x.id ≠ id)
    (hs : s.addScopeText id name = .ok s') :
    (s.without key).addScopeText id name = .ok (s'.without key) := by
  obtain ⟨i, text, rfl, rfl, hi, rfl⟩ := addScopeText_cases hs
  have howner := exists_without (fun x hx hkey hid => hother x hx hkey (congrArg some hid)) hi
  have happend := without_append (s := s) (l := [⟨i, text⟩]) fun e he => by
    rw [List.mem_singleton.1 he]
    exact howner
  rw [happend]
  exact if_pos (any_id.2 howner)

/-- Of the rows that are chosen one has the id of a row if that row is chosen. -/
theorem Intact.any_filter (h : s.Intact) {x : Subscriber} (hx : x ∈ s.subscribers)
    (p : Subscriber → Bool) : (s.subscribers.filter p).any (·.id = x.id) = p x := by
  rw [Bool.eq_iff_iff, any_id]
  constructor
  · rintro ⟨y, hy, hid⟩
    obtain ⟨hy, hpy⟩ := List.mem_filter.1 hy
    exact h.subscribers_id.eq hy hx hid ▸ hpy
  · exact fun hpx => ⟨x, List.mem_filter.2 ⟨hx, hpx⟩, rfl⟩

theorem Intact.deleteSubscriber_without (h : s.Intact) {id : Option Uuid}
    (hother : ∀ x ∈ s.subscribers, x.key = key → some x.id ≠ id) :
    (s.without key).deleteSubscriber id =
      ((s.deleteSubscriber id).1.without key, (s.deleteSubscriber id).2) := by
  have hrows : (s.subscribers.filter (·.key ≠ key)).filter (some ·.id ≠ id) =
      (s.subscribers.filter (some ·.id ≠ id)).filter (·.key ≠ key) := filter_comm _ _ _
  have hflag : (s.subscribers.filter (·.key ≠ key)).any (some ·.id = id) =
      s.subscribers.any (some ·.id = id) := by
    rw [List.any_filter, Bool.eq_iff_iff, List.any_eq_true, List.any_eq_true]
    refine exists_congr fun x => and_congr_right fun hx => ?_
    rw [Bool.and_eq_true, and_iff_right_iff_imp, decide_eq_true_eq, decide_eq_true_eq]
    exact fun hid hkey => hother x hx hkey hid
  have hscopes : ((s.without key).deleteSubscriber id).1.scopes =
      ((s.deleteSubscriber id).1.without key).scopes := by
    show (s.scopes.filter _).filter _ = (s.scopes.filter _).filter
      fun e => ((s.subscribers.filter _).filter _).any (·.id = e.subscriber)
    rw [List.filter_filter, List.filter_filter, List.filter_filter]
    refine List.filter_congr fun e he => ?_
    obtain ⟨x, hx, hid⟩ := h.scopes_subscriber e he
    rw [← hid, h.any_filter hx, h.any_filter hx]
    cases decide (x.key ≠ key) <;> cases decide (some x.id ≠ id) <;> rfl
  exact Prod.ext (congrArg₂ (fun l m => Store.mk s.projects l m s.watchers) hrows hscopes) hflag

theorem Intact.deleteProject_without (h : s.Intact) (id : Option Uuid) :
    (s.without key).deleteProject id = (s.deleteProject id).without key := by
  have hrows : (s.subscribers.filter (·.key ≠ key)).filter (some ·.project != id) =
      (s.subscribers.filter (some ·.project != id)).filter (·.key ≠ key) := filter_comm _ _ _
  have hscopes : ((s.without key).deleteProject id).scopes =
      ((s.deleteProject id).without key).scopes := by
    show (s.scopes.filter _).filter (fun e => !((s.subscribers.filter _).filter _).any
        (·.id = e.subscriber)) = (s.scopes.filter fun e => !(s.subscribers.filter _).any
      (·.id = e.subscriber)).filter fun e => ((s.subscribers.filter _).filter _).any (·.id = e.subscriber)
    rw [List.filter_filter, List.filter_filter, List.filter_filter, List.filter_filter]
    refine List.filter_congr fun e he => ?_
    obtain ⟨x, hx, hid⟩ := h.scopes_subscriber e he
    rw [← hid, h.any_filter hx, h.any_filter hx, h.any_filter hx, h.any_filter hx]
    cases hgone : some x.project == id <;> simp [bne, hgone]
  exact congrArg₂ (fun l m => Store.mk _ l m _) hrows hscopes

end Store

/-! ## Histories -/

section Histories

variable {s s' : Store} {key : Option Uuid × Option String} {w : Write} {clock : Instant}
  {reply : Reply} {deeds rest : List Deed} {x : Subscriber} {deed : Deed}

/-- A write that is none to the subscription does without it what it does with it. -/
theorem Write.Effect.omit (h : w.Effect clock s s' reply) (hs : s.Intact) (hw : ¬ w.Touches s key) :
    w.Effect clock (s.without key) (s'.without key) reply := by
  cases h with
  | upsertProject ha hb hstore => exact .upsertProject ha hb (hs.upsertProject_without hstore)
  | @upsertSubscriber q _ _ _ _ _ hk hn he hstore =>
    have hne : (q.project, q.account) ≠ key := fun hq => hw (.call (.upsertSubscriber q hq))
    exact .upsertSubscriber hk hn he (hs.upsertSubscriber_without hne hstore)
  | @renewSubscriber q _ _ _ _ _ hn he hstore =>
    have hne : (q.project, q.account) ≠ key := fun hq => hw (.call (.renewSubscriber q hq))
    exact .renewSubscriber hn he (hs.renewSubscriber_without hne hstore)
  | @deleteSubscriber id _ =>
    have hother : ∀ x ∈ s.subscribers, x.key = key → some x.id ≠ id := fun x hx hkey hid =>
      hw (hid ▸ .call (.deleteSubscriber x hx hkey))
    have heffect : Write.Effect clock (.call (.deleteSubscriber id)) (s.without key) _ _ :=
      .deleteSubscriber
    rwa [hs.deleteSubscriber_without hother] at heffect
  | @replaceScope id scope _ _ hstore =>
    refine .replaceScope (Store.replaceScope_without (fun x hx hkey hid => ?_) hstore)
    exact hw (hid ▸ .replaceScope x hx hkey scope)
  | upsertWatcher he hstore => exact .upsertWatcher he (hs.upsertWatcher_without hstore)
  | sweepWatchers ht => exact .sweepWatchers (s := s.without key) ht
  | sweep => exact .sweep (s := s.without key)
  | @addScopeText id name _ _ hstore =>
    refine .addScopeText (Store.addScopeText_without (fun x hx hkey hid => ?_) hstore)
    exact hw (hid ▸ .addScopeText x hx hkey name)
  | @deleteProject id _ =>
    rw [← hs.deleteProject_without]
    exact .deleteProject

/-- The `rest` is the history `deeds` from the empty store without the writes to the subscription
under `key`. -/
inductive Omits (key : Option Uuid × Option String) : List Deed → List Deed → Prop
  | nil : Omits key [] []
  | omitted {deeds rest : List Deed} {deed : Deed} {s : Store} : Omits key deeds rest →
      Replays .empty deeds s → deed.write.Touches s key → Omits key (deeds ++ [deed]) rest
  | kept {deeds rest : List Deed} {deed : Deed} {s : Store} : Omits key deeds rest →
      Replays .empty deeds s → ¬ deed.write.Touches s key → Omits key (deeds ++ [deed]) (rest ++ [deed])

/-- A history without the writes to a subscription makes the store without the subscription: the
other writes succeed as they did, with the same replies. -/
theorem Replays.omit (h : Replays .empty deeds s) (key : Option Uuid × Option String) :
    ∃ rest, Omits key deeds rest ∧ Replays .empty rest (s.without key) := by
  induction h with
  | nil => exact ⟨[], .nil, .nil⟩
  | @snoc deeds deed s s' hprev hturns ih =>
    obtain ⟨rest, homits, hrest⟩ := ih
    have hs : s.Intact := hprev.intact .empty
    by_cases htouches : deed.write.Touches s key
    · refine ⟨rest, .omitted homits hprev htouches, ?_⟩
      rw [htouches.without_eq hs hturns]
      exact hrest
    · exact ⟨rest ++ [deed], .kept homits hprev htouches,
        .snoc hrest (hturns.effect.omit hs htouches).turns⟩

/-- A request for a subscription is a write to it. -/
theorem Deed.touches_of_subscriptionFor? {project : Uuid} {account : String} {q : Subscriber.Upsert}
    (h : deed.subscriptionFor? project account = some q) :
    deed.write.Touches s (some project, some account) := by
  unfold subscriptionFor? at h
  split at h
  · rename_i r hwrite
    split at h
    · rename_i hr
      rw [hwrite]
      exact .call (.upsertSubscriber r (Prod.ext hr.1 hr.2))
    · cases h
  · cases h

/-- In a history without the writes to a subscription nobody requests it. -/
theorem Omits.unrequested {project : Uuid} {account : String}
    (h : Omits (some project, some account) deeds rest) :
    ∀ deed ∈ rest, deed.subscriptionFor? project account = none := by
  induction h with
  | nil => exact fun deed hdeed => absurd hdeed List.not_mem_nil
  | omitted _ _ _ ih => exact ih
  | kept _ _ hnot ih =>
    intro d hd
    rcases List.mem_append.1 hd with hd | hd
    · exact ih d hd
    · rw [List.mem_singleton.1 hd, Option.eq_none_iff_forall_ne_some]
      exact fun q hq => hnot (Deed.touches_of_subscriptionFor? hq)

/-- A row is stored for a subscription only if one was, or if the subscription is requested. -/
theorem Subscriber.Change.stored (h : Subscriber.Change deed s x)
    (hr : deed.subscriptionFor? x.project x.account = none) : ∃ y ∈ s.subscribers, y.key = x.key := by
  cases h with
  | inserted _ hq => cases hr.symm.trans hq
  | reset hy => exact ⟨_, hy, rfl⟩
  | renewed hy => exact ⟨_, hy, rfl⟩
  | kept hx => exact ⟨_, hx, rfl⟩

/-- A subscription that is not stored is not until it is requested. -/
theorem Replays.unrequested {s₀ : Store} {project : Uuid} {account : String}
    (h : Replays s₀ deeds s) (h₀ : s₀.subscription? (some project, some account) = none)
    (hr : ∀ deed ∈ deeds, deed.subscriptionFor? project account = none) :
    s.subscription? (some project, some account) = none := by
  induction h with
  | nil => exact h₀
  | @snoc deeds deed s s' _ hturns ih =>
    have hnew := ih fun d hd => hr d (List.mem_append_left _ hd)
    refine find?_key_eq_none.2 fun x hx hkey => ?_
    obtain ⟨hproject, haccount⟩ := Prod.mk.inj hkey
    have hdeed := hr deed (List.mem_append_right _ List.mem_cons_self)
    rw [← Option.some.inj hproject, ← Option.some.inj haccount] at hdeed
    obtain ⟨y, hy, hyx⟩ := (hturns.effect.change hx).stored hdeed
    exact find?_key_eq_none.1 hnew y hy (hyx.trans hkey)

end Histories

end SubscriptionRegistry
