import SubscriptionRegistry.Proofs.Omission

/-!
# Deletions

A subscriber is deleted with its scope, and a project with all that refers to it: its subscribers,
their scopes, and its watchers. Nothing else goes, and nothing of what goes stays behind: a
subscription that is deleted and stored again has no past.

* `Store.Loses`: a store without certain rows and the scope entries that belong to them.
* `Store.Intact.deleteSubscriber_loses`, `Store.deleteProject_loses`: what the deletions remove.
* `Write.Deletes`: the deletions of a subscription. `Replays.gone`: after one of them the
  subscription is not stored until it is requested.
* `Store.Intact.stored_anew`: what a request stores for a subscription that is not there.
* `Script.deletions_exact`: deletions at every point of a run.
-/

namespace SubscriptionRegistry

/-! ## Rows that go -/

namespace Store

variable {s s' : Store} {id : Option Uuid}

/-- The store `t` is `s` without certain projects, subscribers and watchers. Of the scope entries
those go that belong to a subscriber that goes. -/
structure Loses (s t : Store) (project : Project → Bool) (subscriber : Subscriber → Bool)
    (watcher : Watcher → Bool) : Prop where
  projects : t.projects = s.projects.filter (!project ·)
  subscribers : t.subscribers = s.subscribers.filter (!subscriber ·)
  scopes : t.scopes = s.scopes.filter fun e =>
    !s.subscribers.any fun x => subscriber x && x.id = e.subscriber
  watchers : t.watchers = s.watchers.filter (!watcher ·)

theorem filter_not_false (l : List α) : l = l.filter fun _ => !false :=
  (List.filter_eq_self.2 fun _ _ => rfl).symm

theorem Intact.deleteSubscriber_loses (h : s.Intact) (id : Option Uuid) :
    s.Loses (s.deleteSubscriber id).1 (fun _ => false) (some ·.id = id) fun _ => false where
  projects := filter_not_false _
  subscribers := List.filter_congr fun x _ => decide_not
  scopes := by
    refine List.filter_congr fun e he => ?_
    obtain ⟨x, hx, hid⟩ := h.scopes_subscriber e he
    rw [← List.any_filter, ← hid, h.any_filter hx, decide_not]
  watchers := filter_not_false _

theorem deleteProject_loses (s : Store) (id : Option Uuid) :
    s.Loses (s.deleteProject id) (some ·.id = id) (some ·.project = id)
      fun w => w.project.isSome && w.project = id where
  projects := List.filter_congr fun p _ => congrArg Bool.not (beq_eq_decide _ _)
  subscribers := List.filter_congr fun x _ => congrArg Bool.not (beq_eq_decide _ _)
  scopes := List.filter_congr fun e _ => by simp only [List.any_filter, beq_eq_decide]
  watchers := List.filter_congr fun w _ => by
    rw [Bool.not_and, Option.not_isSome, ← beq_eq_decide]
    rfl

theorem deleteSubscriber_existed :
    (s.deleteSubscriber id).2 = true ↔ ∃ x ∈ s.subscribers, some x.id = id := by
  show s.subscribers.any _ = true ↔ _
  simp only [List.any_eq_true, decide_eq_true_eq]

/-- A subscriber is deleted once. -/
theorem deleteSubscriber_again (s : Store) (id : Option Uuid) :
    (s.deleteSubscriber id).1.deleteSubscriber id = ((s.deleteSubscriber id).1, false) := by
  have hgone : (s.deleteSubscriber id).1.subscribers.any (some ·.id = id) = false :=
    List.any_eq_false.2 fun x hx hid =>
      of_decide_eq_true (List.mem_filter.1 hx).2 (of_decide_eq_true hid)
  refine Prod.ext ?_ hgone
  show Store.mk _ ((s.subscribers.filter _).filter _) ((s.scopes.filter _).filter _) _ = _
  rw [List.filter_filter, List.filter_filter]
  simp only [Bool.and_self]
  rfl

end Store

/-! ## Subscriptions without a past -/

/-- The write deletes the subscriber, by its own id or with its project. -/
inductive Write.Deletes (x : Subscriber) : Write → Prop
  | subscriber : Deletes x (.call (.deleteSubscriber (some x.id)))
  | project : Deletes x (.call (.deleteProject (some x.project)))

section Past

variable {s s' : Store} {x : Subscriber} {w : Write} {clock : Instant} {reply : Reply}
  {before after : List Deed} {deletion : Deed}

theorem Write.Deletes.gone (h : w.Deletes x) (hs : s.Intact) (hx : x ∈ s.subscribers)
    (hw : w.Turns clock s s' reply) : s'.subscription? x.key = none := by
  refine find?_key_eq_none.2 fun y hy hkey => ?_
  cases h with
  | subscriber =>
    cases hw.effect
    obtain ⟨hy, hid⟩ := List.mem_filter.1 hy
    rw [hs.keyed_subscribers.eq hy hx hkey] at hid
    exact of_decide_eq_true hid rfl
  | project =>
    cases hw.effect
    obtain ⟨hy, hproject⟩ := List.mem_filter.1 hy
    rw [hs.keyed_subscribers.eq hy hx hkey] at hproject
    simp at hproject

/-- What deeds make of a store is determined. -/
theorem Replays.unique {s₀ t : Store} {deeds : List Deed} (h : Replays s₀ deeds s)
    (h' : Replays s₀ deeds t) : s = t := by
  induction h generalizing t with
  | nil =>
    generalize hnil : ([] : List Deed) = deeds at h'
    cases h' with
    | nil => rfl
    | snoc => simp at hnil
  | snoc _ hturns ih =>
    obtain ⟨m, hm, hturns'⟩ := h'.of_snoc
    obtain rfl := ih hm
    exact (hturns.unique hturns').1

theorem Replays.of_append {s₀ : Store} {a b : List Deed} (h : Replays s₀ (a ++ b) s) :
    ∃ m, Replays s₀ a m ∧ Replays m b s := by
  generalize hall : a ++ b = all at h
  induction h generalizing b with
  | nil =>
    obtain ⟨rfl, rfl⟩ := List.append_eq_nil_iff.1 hall
    exact ⟨s₀, .nil, .nil⟩
  | @snoc deeds deed m s' hprev hturns ih =>
    rcases List.eq_nil_or_concat b with rfl | ⟨b, last, rfl⟩
    · rw [List.append_nil] at hall
      exact ⟨s', hall ▸ .snoc hprev hturns, .nil⟩
    · rw [List.concat_eq_append, ← List.append_assoc] at hall
      obtain ⟨hdeeds, hlast⟩ := List.append_inj' hall rfl
      obtain rfl := List.singleton_inj.1 hlast
      obtain ⟨m', ha, hb⟩ := ih hdeeds
      exact ⟨m', ha, List.concat_eq_append ▸ hb.snoc hturns⟩

/-- A subscription that has been deleted is not stored until it is requested. -/
theorem Replays.gone (h : Replays .empty (before ++ deletion :: after) s)
    (hx : ∃ t, Replays .empty before t ∧ x ∈ t.subscribers) (hd : deletion.write.Deletes x)
    (hafter : ∀ deed ∈ after, deed.subscriptionFor? x.project x.account = none) :
    s.subscription? x.key = none := by
  rw [← List.singleton_append, ← List.append_assoc] at h
  obtain ⟨m, hdeleted, hrest⟩ := h.of_append
  obtain ⟨t, ht, hturns⟩ := hdeleted.of_snoc
  obtain ⟨t', ht', hxt⟩ := hx
  obtain rfl := ht'.unique ht
  exact hrest.unrequested (hd.gone (ht.intact .empty) hxt hturns) hafter

/-- What a request stores for a subscription that is not there is its own. -/
theorem Store.Intact.stored_anew {q : Subscriber.Upsert} (h : s.Intact)
    (hnew : s.subscription? (q.project, q.account) = none)
    (hw : (Write.call (.upsertSubscriber q)).Turns clock s s' reply) :
    ∃ project account topic now expiry, q.project = some project ∧ q.account = some account ∧
      q.topic = some topic ∧ Operation.effectiveTime clock q.now = .ok now ∧
      Operation.termEnd now = .ok expiry ∧ reply.answer = .id q.newId ∧
      s'.subscription? (q.project, q.account) =
        some ⟨q.newId, now, now, project, account, notifyKeyText q.notifyKey, topic, expiry⟩ ∧
      s'.scopeTexts q.newId = q.scope.texts := by
  cases hw.effect with
  | upsertSubscriber hk hn he hs =>
    rw [h.upsertSubscriber_eq] at hs
    obtain ⟨y, hy, heq⟩ := ok_of_map hs
    obtain ⟨rfl, rfl⟩ := Prod.mk.inj heq
    have hkey := h.key_subscriber hy
    obtain ⟨project, account, topic, hp, ha, ht, ⟨z, hz, -⟩ | ⟨-, -, -, rfl⟩⟩ :=
      Subscriber.Entry.row_cases hy
    · cases hnew.symm.trans hz
    · exact ⟨project, account, topic, _, _, hp, ha, ht, hn, he, rfl,
        h.subscription?_placed hkey _ _, Store.scopeTexts_setScope _ _ _⟩

end Past

/-! ## Every point of a run -/

/-- A step that changes nothing is answered the same again and again. -/
theorem Script.run_replicate {step : Step} {r : Registry} {report : Report}
    (h : step.run r = (report, r)) (k : Nat) :
    Script.run r (List.replicate k step) = (List.replicate k report, r) := by
  induction k with
  | zero => rfl
  | succ k ih =>
    rw [List.replicate_succ, run_cons, h, ih]
    rfl

section Calls

variable {r : Registry} {i : SessionId} (hl : r.database.lockedFor i = false) (id : Option Uuid)
include hl

theorem Step.run_deleteSubscriber :
    (Step.act i (.call (.deleteSubscriber id))).run r =
      (.leaf (.ok (.flag ((r.database.view i).deleteSubscriber id).2))
          [.subscriberDeleted id ((r.database.view i).deleteSubscriber id).2],
        r.withDatabase (r.database.put i ((r.database.view i).deleteSubscriber id).1)) :=
  Step.run_call hl Write.Effect.deleteSubscriber.turns

theorem Step.run_deleteProject :
    (Step.act i (.call (.deleteProject id))).run r =
      (.leaf (.ok .done) [],
        r.withDatabase (r.database.put i ((r.database.view i).deleteProject id))) :=
  Step.run_call hl Write.Effect.deleteProject.turns

/-- A subscriber that has been deleted is not found again. -/
theorem Step.run_deleteSubscriber_again :
    let first := (Step.act i (.call (.deleteSubscriber id))).run r
    (Step.act i (.call (.deleteSubscriber id))).run first.2 =
      (.leaf (.ok (.flag false)) [.subscriberDeleted id false], first.2) := by
  intro first
  let s := r.database.view i
  have hfirst : first.2 = r.withDatabase (r.database.put i (s.deleteSubscriber id).1) :=
    congrArg Prod.snd (Step.run_deleteSubscriber hl id)
  have hl' : first.2.database.lockedFor i = false := by
    rw [hfirst]
    exact (Database.lockedFor_congr Database.others_put).trans hl
  have hview : first.2.database.view i = (s.deleteSubscriber id).1 := by
    rw [hfirst]
    exact Database.view_put
  rw [Step.run_deleteSubscriber hl' id, hview, s.deleteSubscriber_again, hfirst]
  exact congrArg (fun d => (Report.leaf (.ok (.flag false)) [.subscriberDeleted id false],
    r.withDatabase d)) Database.put_put

end Calls

/-- **Deletions remove what belongs to a row, and leave no residue.** At every point of a run from
the empty store at which no other session is the writer, a session may delete a subscriber: of the
store that it sees there go the row with this id, if there is one, and its scope entries, and the
answer tells whether there was one. To do so again is answered that there is none, and changes
nothing at all. It may delete a project: there go the row with this id, the subscribers of the
project, their scope entries, and the watchers of the project.

A subscription that one of the two has deleted, and that has not been requested since, has left
nothing: the session sees the store that the history without all writes to the subscription makes. A
request for it that succeeds, whatever id it brings, stores the row and the scope that it asks for,
and it makes of that other history, with the same answer, the very store that it makes of this
one. -/
theorem Script.deletions_exact (script : Script) (clock : Instant) (n : Nat) (i : SessionId) :
    let r := script.stateAt (.start clock .empty) n
    let s := r.database.view i
    let visible := (script.journalAt (.start clock .empty) n).visible i
    ((¬ ∃ k, k ≠ i ∧ script.IsWriterAt (.start clock .empty) n k) →
      (∀ id, let deletion : Step := .act i (.call (.deleteSubscriber id))
        let first := deletion.run r
        ∃ existed, first.1 = .leaf (.ok (.flag existed)) [.subscriberDeleted id existed] ∧
          (existed = true ↔ ∃ x ∈ s.subscribers, some x.id = id) ∧
          s.Loses (first.2.database.view i) (fun _ => false) (some ·.id = id) (fun _ => false) ∧
          ∀ k, Script.run first.2 (List.replicate k deletion) =
            (List.replicate k (.leaf (.ok (.flag false)) [.subscriberDeleted id false]), first.2)) ∧
      ∀ id, let first := (Step.act i (.call (.deleteProject id))).run r
        first.1 = .leaf (.ok .done) [] ∧
          s.Loses (first.2.database.view i) (some ·.id = id) (some ·.project = id)
            fun w => w.project.isSome && w.project = id) ∧
    ∀ before deletion after x, visible = before ++ deletion :: after →
      (∃ t, Replays .empty before t ∧ x ∈ t.subscribers) → deletion.write.Deletes x →
      (∀ deed ∈ after, deed.subscriptionFor? x.project x.account = none) →
        ∃ rest, Omits x.key visible rest ∧
          (∀ deed ∈ rest, deed.subscriptionFor? x.project x.account = none) ∧
          Replays .empty rest s ∧
          ∀ q answer events, q.project = some x.project → q.account = some x.account →
            r.report i (.upsertSubscriber q) = .leaf (.ok answer) events →
              let s' := ((Step.act i (.call (.upsertSubscriber q))).run r).2.database.view i
              Replays .empty (rest ++ [⟨r.clock, .call (.upsertSubscriber q), ⟨answer, events⟩⟩]) s' ∧
                ∃ now expiry topic, Operation.effectiveTime r.clock q.now = .ok now ∧
                  Operation.termEnd now = .ok expiry ∧ q.topic = some topic ∧ answer = .id q.newId ∧
                  s'.subscription? x.key = some ⟨q.newId, now, now, x.project, x.account,
                    notifyKeyText q.notifyKey, topic, expiry⟩ ∧
                  s'.scopeTexts q.newId = q.scope.texts := by
  intro r s visible
  have hs : s.Intact := script.intact_view clock n i
  have htells := script.tells clock .empty n
  refine ⟨fun hfree => ?_, ?_⟩
  · have hl : r.database.lockedFor i = false := by
      rw [← Bool.not_eq_true, htells.valid.lockedFor_iff]
      simp only [Script.isWriterAt_iff] at hfree
      exact hfree
    refine ⟨fun id => ?_, fun id => ?_⟩
    · intro deletion first
      have hfirst := Step.run_deleteSubscriber hl id
      refine ⟨(s.deleteSubscriber id).2, congrArg Prod.fst hfirst, Store.deleteSubscriber_existed, ?_,
        Script.run_replicate (Step.run_deleteSubscriber_again hl id)⟩
      rw [show first = _ from hfirst]
      show s.Loses ((r.database.put i _).view i) _ _ _
      rw [Database.view_put]
      exact hs.deleteSubscriber_loses id
    · intro first
      have hfirst := Step.run_deleteProject hl id
      refine ⟨congrArg Prod.fst hfirst, ?_⟩
      rw [show first = _ from hfirst]
      show s.Loses ((r.database.put i _).view i) _ _ _
      rw [Database.view_put]
      exact s.deleteProject_loses id
  · intro before deletion after x hvisible hx hd hafter
    have hview : Replays .empty visible s := htells.view i
    have hgone : s.subscription? x.key = none := (hvisible ▸ hview).gone hx hd hafter
    obtain ⟨rest, homits, hrest⟩ := hview.omit x.key
    rw [hs.without_of_not_stored hgone] at hrest
    refine ⟨rest, homits, homits.unrequested, hrest, ?_⟩
    intro q answer events hproject haccount hreport s'
    have hturns : (Write.call (.upsertSubscriber q)).Turns r.clock s s' ⟨answer, events⟩ :=
      Step.turns_of_ok rfl hreport
    have hkey : (q.project, q.account) = x.key := Prod.ext hproject haccount
    obtain ⟨project, account, topic, now, expiry, hp, ha, ht, hn, he, hanswer, hrow, hscope⟩ :=
      hs.stored_anew (hkey ▸ hgone) hturns
    obtain rfl := Option.some.inj (hproject.symm.trans hp)
    obtain rfl := Option.some.inj (haccount.symm.trans ha)
    exact ⟨.snoc hrest hturns, now, expiry, topic, hn, he, ht, hanswer, hkey ▸ hrow, hscope⟩

end SubscriptionRegistry
