import SubscriptionRegistry.Proofs.CanonicalText
import SubscriptionRegistry.Proofs.Integrity

/-!
# Histories of scopes

The scope texts of a subscriber are those of the last scope that was set for it and the texts that
other programs have added since, and nothing else.

* `Deed.scopeFor?`, `Deed.textFor?`: the scope that a deed sets for a subscriber, and the text that
  it adds for it.
* `Write.Effect.scopeTexts`: what a write does to the scope texts of a subscriber that is stored
  after it.
* `ScopeFrom`: texts are what a list of deeds has made of the scope of a subscriber.
* `Script.scopes_exact`: at every point of a run the scope texts are what the writes have made of
  them.
-/

namespace SubscriptionRegistry

variable {s s' : Store}

/-- The scope that a deed sets for subscriber `id`. -/
def Deed.scopeFor? (deed : Deed) (id : Uuid) : Option Scope :=
  match deed.write, deed.reply.answer with
  | .call (.upsertSubscriber r), .id i => if i = id then some r.scope else none
  | .call (.renewSubscriber r), .subscriber x => if x.id = id then some r.scope else none
  | .replaceScope i scope, _ => if i = some id then some scope else none
  | _, _ => none

/-- Whether a write stores a scope text of another program. -/
def Write.isForeign : Write → Bool
  | call (.addScopeText ..) => true
  | _ => false

/-- The scope text of another program that a deed adds for subscriber `id`. -/
def Deed.textFor? (deed : Deed) (id : Uuid) : Option String :=
  match deed.write with
  | .call (.addScopeText i name) => if i = some id then name else none
  | _ => none

theorem Deed.textFor?_eq_none {deed : Deed} (h : deed.write.isForeign = false) (id : Uuid) :
    deed.textFor? id = none := by
  unfold textFor?
  split
  · rename_i hw
    rw [hw] at h
    cases h
  · rfl

/-! ## One write -/

/-- A subscriber that is not stored has no scope texts. -/
theorem Store.Intact.scopeTexts_eq_nil (h : s.Intact) {id : Uuid}
    (hx : ∀ x ∈ s.subscribers, x.id ≠ id) : s.scopeTexts id = [] := by
  unfold Store.scopeTexts
  rw [List.map_eq_nil_iff, List.filter_eq_nil_iff]
  intro e he
  obtain ⟨x, hxs, hxe⟩ := h.scopes_subscriber e he
  rw [decide_eq_true_eq, ← hxe]
  exact hx x hxs

/-- A scope entry of a subscriber that keeps its project stays. -/
theorem Store.Intact.scopeTexts_deleteProject (h : s.Intact) {project : Option Uuid}
    {x : Subscriber} (hx : x ∈ (s.deleteProject project).subscribers) :
    (s.deleteProject project).scopeTexts x.id = s.scopeTexts x.id := by
  obtain ⟨hxs, hxp⟩ := List.mem_filter.1 hx
  refine Store.scopeTexts_filter (s := s) fun e _ hex => ?_
  rw [Bool.not_eq_true', List.any_eq_false]
  intro y hy hye
  obtain ⟨hys, hyp⟩ := List.mem_filter.1 hy
  -- Only the row `x` has the id, and it is not one of those that go.
  have hyx : y = x := h.subscribers_id.eq hys hxs ((beq_iff_eq.1 hye).trans hex)
  rw [hyx] at hyp
  rw [bne, hyp] at hxp
  cases hxp

/-- After a write a subscriber that is stored has the scope that the write has set for it, or else
was stored before and has what it had, and the text that the write has added. -/
theorem Write.Effect.scopeTexts {deed : Deed}
    (hw : deed.write.Effect deed.clock s s' deed.reply) (h : s.Intact) {x : Subscriber}
    (hx : x ∈ s'.subscribers) :
    (∃ scope, deed.scopeFor? x.id = some scope ∧ s'.scopeTexts x.id = scope.texts) ∨
      (deed.scopeFor? x.id = none ∧ (∃ y ∈ s.subscribers, y.id = x.id) ∧
        s'.scopeTexts x.id = s.scopeTexts x.id ++ (deed.textFor? x.id).toList) := by
  obtain ⟨clock, write, reply⟩ := deed
  dsimp only at hw
  -- Writes of projects and watchers touch neither the subscribers nor their scopes.
  have hsame : s'.subscribers = s.subscribers → s'.scopes = s.scopes →
      (∃ y ∈ s.subscribers, y.id = x.id) ∧ s'.scopeTexts x.id = s.scopeTexts x.id ++ [] := by
    intro hsub hscopes
    rw [hsub] at hx
    refine ⟨⟨x, hx, rfl⟩, ?_⟩
    rw [List.append_nil, Store.scopeTexts, hscopes]
    rfl
  cases hw with
  | upsertProject ha hb hs =>
    obtain ⟨_, _, _, -, -, -, -, ⟨p, -, -, -, rfl⟩ | ⟨-, -, rfl⟩⟩ := Store.upsertProject_cases hs
    · exact .inr ⟨rfl, hsame rfl rfl⟩
    · exact .inr ⟨rfl, hsame rfl rfl⟩
  | @upsertSubscriber r _ _ _ _ id hk hn he hs =>
    by_cases hid : id = x.id
    · exact .inl ⟨r.scope, if_pos hid, hid ▸ Store.scopeTexts_upsertSubscriber hs⟩
    · refine .inr ⟨if_neg hid, ?_, ?_⟩
      · exact (Store.mem_upsertSubscriber hs hx).resolve_left fun h => hid h.symm
      · rw [Store.scopeTexts_upsertSubscriber_ne hs (Ne.symm hid)]
        exact (List.append_nil _).symm
  | @renewSubscriber r _ _ _ _ y hn he hs =>
    by_cases hid : y.id = x.id
    · exact .inl ⟨r.scope, if_pos hid, hid ▸ Store.scopeTexts_renewSubscriber hs⟩
    · refine .inr ⟨if_neg hid, Store.mem_renewSubscriber hs hx, ?_⟩
      rw [Store.scopeTexts_renewSubscriber_ne hs (Ne.symm hid)]
      exact (List.append_nil _).symm
  | deleteSubscriber =>
    obtain ⟨hxs, hid⟩ := List.mem_filter.1 hx
    refine .inr ⟨rfl, ⟨x, hxs, rfl⟩, ?_⟩
    rw [Store.scopeTexts_deleteSubscriber_ne (of_decide_eq_true hid)]
    exact (List.append_nil _).symm
  | @replaceScope id scope _ _ hs =>
    by_cases hid : id = some x.id
    · subst hid
      exact .inl ⟨scope, if_pos rfl, Store.scopeTexts_replaceScope hs⟩
    · rw [Store.subscribers_replaceScope hs] at hx
      refine .inr ⟨if_neg hid, ⟨x, hx, rfl⟩, ?_⟩
      rw [Store.scopeTexts_replaceScope_ne hs (Ne.symm hid)]
      exact (List.append_nil _).symm
  | upsertWatcher he hs =>
    obtain ⟨_, _, _, _, -, -, -, -, -, ⟨-, rfl⟩ | ⟨-, rfl⟩⟩ := Store.upsertWatcher_cases hs
    · exact .inr ⟨rfl, hsame rfl rfl⟩
    · exact .inr ⟨rfl, hsame rfl rfl⟩
  | sweepWatchers ht => exact .inr ⟨rfl, hsame rfl rfl⟩
  | sweep => exact .inr ⟨rfl, hsame rfl rfl⟩
  | addScopeText hs =>
    have ht := Store.scopeTexts_addScopeText x.id hs
    obtain ⟨_, _, -, -, -, rfl⟩ := Store.addScopeText_cases hs
    exact .inr ⟨rfl, ⟨x, hx, rfl⟩, ht⟩
  | deleteProject =>
    obtain ⟨hxs, -⟩ := List.mem_filter.1 hx
    refine .inr ⟨rfl, ⟨x, hxs, rfl⟩, ?_⟩
    rw [h.scopeTexts_deleteProject hx]
    exact (List.append_nil _).symm

/-! ## Histories -/

/-- The texts are what the deeds have made of the scope of subscriber `id`: those of the last scope
that was set for it, and then one for each text that was added for it since. -/
def ScopeFrom (deeds : List Deed) (id : Uuid) (texts : List String) : Prop :=
  ∃ scope after own, Latest (·.scopeFor? id) deeds scope after ∧ scope.IsWritten own ∧
    texts = own ++ after.filterMap (·.textFor? id)

namespace ScopeFrom

variable {deeds : List Deed} {deed : Deed} {id : Uuid} {texts : List String}

theorem set {scope : Scope} (h : deed.scopeFor? id = some scope) :
    ScopeFrom (deeds ++ [deed]) id scope.texts :=
  ⟨scope, [], scope.texts, .snoc_self h, scope.isWritten_texts, (List.append_nil _).symm⟩

theorem snoc (h : ScopeFrom deeds id texts) (hd : deed.scopeFor? id = none) :
    ScopeFrom (deeds ++ [deed]) id (texts ++ (deed.textFor? id).toList) := by
  obtain ⟨scope, after, own, hlatest, hown, rfl⟩ := h
  refine ⟨scope, after ++ [deed], own, hlatest.snoc hd, hown, ?_⟩
  rw [List.filterMap_append, List.append_assoc]
  cases ht : deed.textFor? id with
  | none => simp [ht]
  | some text => simp [ht]

/-- Without texts of other programs none is there twice. -/
theorem nodup (h : ScopeFrom deeds id texts) (hf : ∀ d ∈ deeds, d.write.isForeign = false) :
    texts.Nodup := by
  obtain ⟨scope, after, own, hlatest, hown, rfl⟩ := h
  have hnone : after.filterMap (·.textFor? id) = [] :=
    List.filterMap_eq_nil_iff.2 fun later hl =>
      later.textFor?_eq_none (hf later (hlatest.mem hl)) id
  rw [hnone, List.append_nil]
  exact hown.nodup

end ScopeFrom

/-- The scope texts of a store are what the deeds have made of them. -/
structure Store.ScopesFrom (s : Store) (deeds : List Deed) : Prop where
  stored : ∀ x ∈ s.subscribers, ScopeFrom deeds x.id (s.scopeTexts x.id)
  others : ∀ id, (∀ x ∈ s.subscribers, x.id ≠ id) → s.scopeTexts id = []

theorem Store.ScopesFrom.nodup {deeds : List Deed} (h : s.ScopesFrom deeds)
    (hf : ∀ d ∈ deeds, d.write.isForeign = false) (id : Uuid) : (s.scopeTexts id).Nodup := by
  by_cases hx : ∃ x ∈ s.subscribers, x.id = id
  · obtain ⟨x, hx, rfl⟩ := hx
    exact (h.stored x hx).nodup hf
  · rw [h.others id fun x hxs hid => hx ⟨x, hxs, hid⟩]
    exact List.nodup_nil

theorem Replays.scopeFrom {deeds : List Deed} (h : Replays .empty deeds s) :
    ∀ x ∈ s.subscribers, ScopeFrom deeds x.id (s.scopeTexts x.id) := by
  induction h with
  | nil => intro x hx; cases hx
  | snoc hr hd ih =>
    intro x hx
    rcases hd.effect.scopeTexts (hr.intact .empty) hx with ⟨scope, hs, ht⟩ | ⟨hn, ⟨y, hy, hyx⟩, ht⟩
    · rw [ht]
      exact .set hs
    · have hbefore := ih y hy
      rw [hyx] at hbefore
      rw [ht]
      exact hbefore.snoc hn

theorem Replays.scopesFrom {deeds : List Deed} (h : Replays .empty deeds s) :
    s.ScopesFrom deeds :=
  ⟨h.scopeFrom, fun _ => (h.intact .empty).scopeTexts_eq_nil⟩

/-- At every point of a run from the empty store, the scope texts of the committed store are what
the committed writes have made of them, and those that a session sees are what the writes that it
sees have made of them. If no other program stores scope texts, none is there twice. -/
theorem Script.scopes_exact (script : Script) (clock : Instant) (n : Nat) :
    let d := (script.stateAt (.start clock .empty) n).database
    let j := script.journalAt (.start clock .empty) n
    d.committed.ScopesFrom j.durable ∧ (∀ i, (d.view i).ScopesFrom (j.visible i)) ∧
      ((∀ w ∈ script.writes, w.isForeign = false) →
        (∀ id, (d.committed.scopeTexts id).Nodup) ∧ ∀ i id, ((d.view i).scopeTexts id).Nodup) := by
  intro d j
  have htells : j.Tells .empty d := script.tells clock .empty n
  have hdurable := htells.durable.scopesFrom
  have hview := fun i => (htells.view i).scopesFrom
  refine ⟨hdurable, hview, fun hf => ⟨hdurable.nodup ?_, fun i => (hview i).nodup ?_⟩⟩
  · intro deed hdeed
    obtain ⟨e, he, rfl⟩ := Journal.mem_durable hdeed
    exact hf _ (Script.mem_writes he)
  · intro deed hdeed
    obtain ⟨e, he, rfl⟩ := Journal.mem_visible hdeed
    exact hf _ (Script.mem_writes he)

end SubscriptionRegistry
