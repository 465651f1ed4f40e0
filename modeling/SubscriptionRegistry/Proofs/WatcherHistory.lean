import SubscriptionRegistry.Proofs.Integrity
import SubscriptionRegistry.Proofs.Joins

/-!
# Histories of watchers

A watcher is what the last request for its did key has made it, as long as nothing has removed it
since. The lookup of active watchers answers from this.

* `Watcher.Terms`: what a request says about a watcher. `Watcher.Upsert.Gives`: it says so.
* `Deed.Removes`: a sweep, or the deletion of a project, that a watcher does not outlive.
* `WatcherFrom`: a watcher is what a list of deeds has left of it.
* `Write.Effect.watchers`: what a write does to the watchers. `Replays.mem_watchers`: the watchers
  of a store are what the deeds have left.
* `Store.mem_watchersFor`, `Store.watchersFor_nodup`: what the lookup finds.
* `Script.watchersFor_exact`: what the lookup answers at every point of a run.
-/

namespace SubscriptionRegistry

/-- Whom a watcher is for, what it covers, its keys and its end. -/
structure Watcher.Terms where
  account : String
  project : Option Uuid
  didKey : String
  symKey : String
  expiry : Instant

/-- The terms of a stored watcher. -/
def Watcher.terms (w : Watcher) : Terms :=
  ⟨w.account, w.project, w.didKey, w.symKey, w.expiry⟩

/-- The request gives a watcher these terms. -/
structure Watcher.Upsert.Gives (r : Watcher.Upsert) (t : Terms) : Prop where
  account : r.account = some t.account
  project : r.project = t.project
  didKey : r.didKey = some t.didKey
  symKey : r.symKey = some t.symKey
  expiry : ∃ stamp, r.expiry = some stamp ∧ stamp.toUtc = .ok t.expiry

/-- A request gives no more than one watcher. -/
theorem Watcher.Upsert.Gives.unique {r : Watcher.Upsert} {t u : Terms} (ht : r.Gives t)
    (hu : r.Gives u) : t = u := by
  obtain ⟨a, p, d, k, e⟩ := t
  obtain ⟨a', p', d', k', e'⟩ := u
  obtain ⟨stamp, hs, he⟩ := ht.expiry
  obtain ⟨stamp', hs', he'⟩ := hu.expiry
  cases ht.account.symm.trans hu.account
  cases ht.project.symm.trans hu.project
  cases ht.didKey.symm.trans hu.didKey
  cases ht.symKey.symm.trans hu.symKey
  cases hs.symm.trans hs'
  cases he.symm.trans he'
  rfl

/-- The request for a watcher with the given did key that a deed has carried out. -/
def Deed.watcherFor? (deed : Deed) (didKey : String) : Option Watcher.Upsert :=
  match deed.write with
  | .call (.upsertWatcher r) => if r.didKey = some didKey then some r else none
  | _ => none

/-- The deed removes a watcher for `project` that ends at `expiry`: it sweeps at that time or later,
or deletes the project. -/
def Deed.Removes (deed : Deed) (project : Option Uuid) (expiry : Instant) : Prop :=
  match deed.write with
  | .call (.sweepWatchers now) =>
    ∃ t, Operation.effectiveTime deed.clock now = .ok t ∧ expiry ≤ t
  | .sweep => expiry ≤ deed.clock
  | .call (.deleteProject id) => project.isSome ∧ project = id
  | _ => False

/-! ## One write -/

section Rows

variable {s s' : Store} {t : Watcher.Terms}

theorem Operation.boundTime_eq_some {o : Option Stamp} {expiry : Instant}
    (h : boundTime o = .ok (some expiry)) : ∃ stamp, o = some stamp ∧ stamp.toUtc = .ok expiry := by
  cases o with
  | none => cases h
  | some stamp =>
    refine ⟨stamp, rfl, ?_⟩
    cases ht : stamp.toUtc with
    | error e => rw [boundTime, ht] at h; cases h
    | ok u => rw [boundTime, ht] at h; cases h; rfl

/-- After a request the did key has the terms of the request, and other did keys have what they
had. -/
theorem Store.watchers_upsertWatcher {e : Watcher.Entry} (h : s.upsertWatcher e = .ok s') :
    ∃ u : Watcher.Terms, e.account = some u.account ∧ e.project = u.project ∧
      e.didKey = some u.didKey ∧ e.symKey = some u.symKey ∧ e.expiry = some u.expiry ∧
      ∀ t, (t ∈ s'.watchers.map Watcher.terms ↔
        t = u ∨ (t.didKey ≠ u.didKey ∧ t ∈ s.watchers.map Watcher.terms)) := by
  obtain ⟨account, didKey, symKey, expiry, ha, hd, hk, he, -, hrows⟩ := upsertWatcher_cases h
  refine ⟨⟨account, e.project, didKey, symKey, expiry⟩, ha, rfl, hd, hk, he, fun t => ?_⟩
  rcases hrows with ⟨⟨w, hw, hwd⟩, rfl⟩ | ⟨hnew, rfl⟩
  · have hself : ∀ v : Watcher, v.didKey = didKey →
        (rewriteWatcher e account didKey symKey expiry v).terms =
          ⟨account, e.project, didKey, symKey, expiry⟩ := fun v hv => by
      rw [rewriteWatcher, if_pos hv]
      exact congrArg (Watcher.Terms.mk account e.project · symKey expiry) hv
    have hother : ∀ v : Watcher, v.didKey ≠ didKey →
        rewriteWatcher e account didKey symKey expiry v = v := fun v hv => if_neg hv
    simp only [List.map_map, List.mem_map, Function.comp_apply]
    constructor
    · rintro ⟨v, hv, rfl⟩
      by_cases hvd : v.didKey = didKey
      · exact .inl (hself v hvd)
      · rw [hother v hvd]
        exact .inr ⟨hvd, v, hv, rfl⟩
    · rintro (rfl | ⟨htd, v, hv, rfl⟩)
      · exact ⟨w, hw, hself w hwd⟩
      · exact ⟨v, hv, congrArg Watcher.terms (hother v htd)⟩
  · simp only [List.map_append, List.mem_append, List.map_cons, List.map_nil, List.mem_singleton,
      List.mem_map]
    constructor
    · rintro (⟨v, hv, rfl⟩ | rfl)
      · exact .inr ⟨(hnew v hv).1, v, hv, rfl⟩
      · exact .inl rfl
    · rintro (rfl | ⟨-, v, hv, rfl⟩)
      · exact .inr rfl
      · exact .inl ⟨v, hv, rfl⟩

theorem Store.watchers_sweepWatchers (now : Instant) :
    t ∈ (s.sweepWatchers now).1.watchers.map Watcher.terms ↔
      t ∈ s.watchers.map Watcher.terms ∧ ¬ t.expiry ≤ now := by
  simp only [sweepWatchers, List.mem_map, List.mem_filter, Watcher.isActive, decide_eq_true_eq]
  constructor
  · rintro ⟨w, ⟨hw, hactive⟩, rfl⟩
    exact ⟨⟨w, hw, rfl⟩, Nat.not_le_of_lt hactive⟩
  · rintro ⟨⟨w, hw, rfl⟩, hactive⟩
    exact ⟨w, ⟨hw, Nat.lt_of_not_le hactive⟩, rfl⟩

theorem Store.watchers_deleteProject (id : Option Uuid) :
    t ∈ (s.deleteProject id).watchers.map Watcher.terms ↔
      t ∈ s.watchers.map Watcher.terms ∧ ¬ (t.project.isSome ∧ t.project = id) := by
  simp only [deleteProject, List.mem_map, List.mem_filter]
  have hkeep : ∀ w : Watcher, (w.project.isNone || w.project != id) = true ↔
      ¬ (w.terms.project.isSome ∧ w.terms.project = id) := fun w => by
    show _ ↔ ¬ (w.project.isSome ∧ w.project = id)
    cases w.project with
    | none => simp
    | some p => simp
  constructor
  · rintro ⟨w, ⟨hw, hk⟩, rfl⟩
    exact ⟨⟨w, hw, rfl⟩, (hkeep w).1 hk⟩
  · rintro ⟨⟨w, hw, rfl⟩, hk⟩
    exact ⟨w, ⟨hw, (hkeep w).2 hk⟩, rfl⟩

/-- After a write a watcher has the terms that the write gives it, or else it was stored before with
the terms that it has and the write does not remove it. -/
theorem Write.Effect.watchers {deed : Deed}
    (hw : deed.write.Effect deed.clock s s' deed.reply) (t : Watcher.Terms) :
    (∃ r, deed.watcherFor? t.didKey = some r ∧
        (t ∈ s'.watchers.map Watcher.terms ↔ r.Gives t)) ∨
      (deed.watcherFor? t.didKey = none ∧
        (t ∈ s'.watchers.map Watcher.terms ↔
          t ∈ s.watchers.map Watcher.terms ∧ ¬ deed.Removes t.project t.expiry)) := by
  obtain ⟨clock, write, reply⟩ := deed
  dsimp only at hw
  -- Writes of projects, subscribers and scopes do not touch the watchers.
  have hsame : s'.watchers = s.watchers → (t ∈ s'.watchers.map Watcher.terms ↔
      t ∈ s.watchers.map Watcher.terms ∧ ¬ False) := fun h => by
    rw [h, not_false_eq_true, and_true]
  cases hw with
  | upsertProject ha hb hs =>
    obtain ⟨_, _, _, -, -, -, -, ⟨p, -, -, -, rfl⟩ | ⟨-, -, rfl⟩⟩ := Store.upsertProject_cases hs
    · exact .inr ⟨rfl, hsame rfl⟩
    · exact .inr ⟨rfl, hsame rfl⟩
  | upsertSubscriber hk hn he hs => exact .inr ⟨rfl, hsame (Store.watchers_upsertSubscriber hs)⟩
  | renewSubscriber hn he hs => exact .inr ⟨rfl, hsame (Store.watchers_renewSubscriber hs)⟩
  | deleteSubscriber => exact .inr ⟨rfl, hsame rfl⟩
  | replaceScope hs => exact .inr ⟨rfl, hsame (Store.watchers_replaceScope hs)⟩
  | @upsertWatcher r _ _ _ he hs =>
    obtain ⟨u, ha, hp, hd, hk, hexp, hrows⟩ := Store.watchers_upsertWatcher hs
    dsimp only at ha hp hd hk hexp
    rw [hexp] at he
    have hu : r.Gives u := ⟨ha, hp, hd, hk, Operation.boundTime_eq_some he⟩
    by_cases htd : t.didKey = u.didKey
    · refine .inl ⟨r, if_pos (htd ▸ hd), (hrows t).trans ?_⟩
      constructor
      · rintro (rfl | ⟨hne, -⟩)
        · exact hu
        · exact absurd htd hne
      · exact fun ht => .inl (ht.unique hu)
    · refine .inr ⟨if_neg fun h => htd (Option.some.inj (h.symm.trans hd)), (hrows t).trans ?_⟩
      constructor
      · rintro (rfl | ⟨-, ht⟩)
        · exact absurd rfl htd
        · exact ⟨ht, nofun⟩
      · exact fun ht => .inr ⟨htd, ht.1⟩
  | @sweepWatchers now time _ ht =>
    refine .inr ⟨rfl, (Store.watchers_sweepWatchers time).trans (and_congr_right fun _ => ?_)⟩
    refine not_congr ⟨fun h => ⟨time, ht, h⟩, ?_⟩
    rintro ⟨time', ht', h⟩
    cases ht.symm.trans ht'
    exact h
  | sweep => exact .inr ⟨rfl, Store.watchers_sweepWatchers clock⟩
  | addScopeText hs =>
    obtain ⟨_, _, -, -, -, rfl⟩ := Store.addScopeText_cases hs
    exact .inr ⟨rfl, hsame rfl⟩
  | deleteProject => exact .inr ⟨rfl, Store.watchers_deleteProject _⟩

end Rows

/-! ## Histories -/

/-- The deeds have left a watcher with these terms: the last request for its did key gave them, and
no later deed removed it. -/
def WatcherFrom (deeds : List Deed) (t : Watcher.Terms) : Prop :=
  ∃ r after, Latest (·.watcherFor? t.didKey) deeds r after ∧ r.Gives t ∧
    ∀ later ∈ after, ¬ later.Removes t.project t.expiry

namespace WatcherFrom

variable {deeds : List Deed} {deed : Deed} {t : Watcher.Terms}

theorem snoc_self {r : Watcher.Upsert} (h : deed.watcherFor? t.didKey = some r) :
    WatcherFrom (deeds ++ [deed]) t ↔ r.Gives t := by
  constructor
  · rintro ⟨r', after, hlatest, hgives, -⟩
    rcases latest_snoc.1 hlatest with ⟨hr', -⟩ | ⟨hnone, -⟩
    · cases h.symm.trans hr'
      exact hgives
    · cases h.symm.trans hnone
  · exact fun hgives => ⟨r, [], .snoc_self h, hgives, fun _ hl => by cases hl⟩

theorem snoc (h : deed.watcherFor? t.didKey = none) :
    WatcherFrom (deeds ++ [deed]) t ↔ WatcherFrom deeds t ∧ ¬ deed.Removes t.project t.expiry := by
  constructor
  · rintro ⟨r, after, hlatest, hgives, hkept⟩
    rcases latest_snoc.1 hlatest with ⟨hr, -⟩ | ⟨-, rest, rfl, hrest⟩
    · cases h.symm.trans hr
    · have hlast := hkept deed (List.mem_append_right rest List.mem_cons_self)
      exact ⟨⟨r, rest, hrest, hgives, fun later hl => hkept later (List.mem_append_left _ hl)⟩, hlast⟩
  · rintro ⟨⟨r, after, hlatest, hgives, hkept⟩, hlast⟩
    refine ⟨r, after ++ [deed], hlatest.snoc h, hgives, fun later hl => ?_⟩
    rcases List.mem_append.1 hl with hl | hl
    · exact hkept later hl
    · rw [List.mem_singleton.1 hl]
      exact hlast

end WatcherFrom

/-- The watchers of a store are what the deeds have left of them. -/
theorem Replays.mem_watchers {deeds : List Deed} {s : Store} (h : Replays .empty deeds s)
    (t : Watcher.Terms) : t ∈ s.watchers.map Watcher.terms ↔ WatcherFrom deeds t := by
  induction h with
  | nil =>
    refine iff_of_false List.not_mem_nil ?_
    rintro ⟨r, after, ⟨before, deed, hnil, -⟩, -⟩
    exact List.append_ne_nil_of_right_ne_nil before (List.cons_ne_nil deed after) hnil.symm
  | snoc hr hd ih =>
    rcases hd.effect.watchers t with ⟨r, hfor, ht⟩ | ⟨hfor, ht⟩
    · rw [ht, WatcherFrom.snoc_self hfor]
    · rw [ht, WatcherFrom.snoc hfor, ih]

/-! ## The lookup -/

namespace Store

variable {s : Store} {account appDomain : Option String} {now : Instant}

/-- The terms let a watcher act for the account at the time, for no project or for one that now has
the app domain. -/
def Admits (s : Store) (account appDomain : Option String) (now : Instant) (t : Watcher.Terms) :
    Prop :=
  account = some t.account ∧ now < t.expiry ∧
    (t.project = none ∨
      ∃ p ∈ s.projects, t.project = some p.id ∧ appDomain = some p.appDomain)

theorem mem_watchersFor {x : WatcherRecord} : x ∈ s.watchersFor account appDomain now ↔
    ∃ t ∈ s.watchers.map Watcher.terms, s.Admits account appDomain now t ∧
      x = ⟨t.project, t.didKey, t.symKey⟩ := by
  simp only [watchersFor, sortByText, List.mem_mergeSort, List.mem_map, List.mem_filter,
    Watcher.isActive, Bool.and_eq_true, Bool.or_eq_true, decide_eq_true_eq, beq_iff_eq]
  constructor
  · rintro ⟨⟨w, o⟩, ⟨hrow, ⟨hactive, haccount⟩, hproject⟩, rfl⟩
    obtain ⟨hw, ho⟩ := mem_outerJoin.1 hrow
    refine ⟨w.terms, ⟨w, hw, rfl⟩, ⟨haccount.symm, hactive, ?_⟩, rfl⟩
    rcases hproject with hnone | hdomain
    · exact .inl (Option.isNone_iff_eq_none.1 hnone)
    · rcases mem_partners.1 ho with ⟨p, hp, hon, rfl⟩ | ⟨rfl, -⟩
      · exact .inr ⟨p, hp, of_decide_eq_true hon, (beq_iff_eq.1 hdomain).symm⟩
      · cases hdomain
  · rintro ⟨_, ⟨w, hw, rfl⟩, ⟨haccount, hactive, hproject⟩, rfl⟩
    have hrow : ∃ o, o ∈ partners (fun w p => w.project = some p.id) s.projects w ∧
        (w.project.isNone = true ∨ (o.any fun p => some p.appDomain == appDomain) = true) := by
      rcases hproject with hnone | ⟨p, hp, hwp, hdomain⟩
      · refine ⟨none, mem_partners.2 (.inr ⟨rfl, fun p _ => ?_⟩), .inl ?_⟩
        · show decide (w.terms.project = some p.id) = false
          rw [hnone]
          rfl
        · exact Option.isNone_iff_eq_none.2 hnone
      · exact ⟨some p, mem_partners.2 (.inl ⟨p, hp, decide_eq_true hwp, rfl⟩),
          .inr (beq_iff_eq.2 hdomain.symm)⟩
    obtain ⟨o, ho, hproject⟩ := hrow
    exact ⟨(w, o), ⟨mem_outerJoin.2 ⟨hw, ho⟩, ⟨hactive, haccount.symm⟩, hproject⟩, rfl⟩

/-- No did key is found twice. -/
theorem Intact.watchersFor_nodup (h : s.Intact) :
    ((s.watchersFor account appDomain now).map (·.didKey)).Nodup := by
  have hjoin : (outerJoin (fun w p => w.project = some p.id) s.watchers s.projects).map Prod.fst =
      s.watchers := by
    refine map_fst_outerJoin fun w _ => ?_
    cases w.project with
    | none =>
      have hnil : s.projects.filter (fun p => decide (none = some p.id)) = [] :=
        List.filter_eq_nil_iff.2 fun p _ => by simp
      rw [hnil]
      exact Nat.zero_le 1
    | some id =>
      have hle := h.projects_id.length_filter_le id
      simpa [eq_comm] using hle
  have hrows : Keyed (fun r : Watcher × Option Project => r.1.didKey)
      (outerJoin (fun w p => w.project = some p.id) s.watchers s.projects) := by
    have hkeys := h.watchers_didKey
    rw [Keyed, ← hjoin, List.map_map] at hkeys
    exact hkeys
  unfold watchersFor sortByText
  refine ((List.mergeSort_perm _ _).map _).nodup_iff.2 ?_
  rw [List.map_map]
  exact hrows.filter _

end Store

/-- **The lookup of active watchers.** At every point of a run from the empty store, a session that
looks up the watchers of an account for an app is answered one record for each did key whose last
request, among the writes that the session sees, gave a watcher for the account that is not over at
the time of the call and is for no project or for one with the app domain, unless a later write has
removed the watcher; the record has the project and the key of that request. There is no other
record: a null account has none, and a null app domain has none of a project. -/
theorem Script.watchersFor_exact (script : Script) (clock : Instant) (n : Nat) (i : SessionId)
    (account appDomain : Option String) (now : Option Stamp) :
    let r := script.stateAt (.start clock .empty) n
    let deeds := (script.journalAt (.start clock .empty) n).visible i
    let report := ((Step.act i (.call (.watchersFor account appDomain now))).run r).1
    match Operation.effectiveTime r.clock now with
    | .error f => report = .leaf (.error f.surface) []
    | .ok time => ∃ records, report = .leaf (.ok (.watchers records)) [] ∧
        (records.map (·.didKey)).Nodup ∧
        (∀ x, x ∈ records ↔ ∃ t, WatcherFrom deeds t ∧
          (r.database.view i).Admits account appDomain time t ∧
          x = ⟨t.project, t.didKey, t.symKey⟩) ∧
        (account = none → records = []) ∧
        (appDomain = none → ∀ x ∈ records, x.project = none) := by
  intro r deeds report
  have hreplays : Replays .empty deeds (r.database.view i) := (script.tells clock .empty n).view i
  cases ht : Operation.effectiveTime r.clock now with
  | error f =>
    have hp : (Operation.watchersFor account appDomain now).prepare r.clock = .error f := by
      rw [Operation.prepare, ht]
      rfl
    exact Step.report_of_error hp
  | ok time =>
    have hp : (Operation.watchersFor account appDomain now).prepare r.clock =
        .ok (Operation.total fun s => ⟨.watchers (s.watchersFor account appDomain time), []⟩) := by
      rw [Operation.prepare, ht]
      rfl
    have hmem : ∀ x, x ∈ (r.database.view i).watchersFor account appDomain time ↔
        ∃ t, WatcherFrom deeds t ∧ (r.database.view i).Admits account appDomain time t ∧
          x = ⟨t.project, t.didKey, t.symKey⟩ := fun x => by
      simp only [Store.mem_watchersFor, hreplays.mem_watchers]
    refine ⟨_, Step.report_of_read hp, (hreplays.intact .empty).watchersFor_nodup, hmem, ?_, ?_⟩
    · rintro rfl
      refine List.eq_nil_iff_forall_not_mem.2 fun x hx => ?_
      obtain ⟨t, -, ⟨haccount, -⟩, -⟩ := (hmem x).1 hx
      cases haccount
    · rintro rfl x hx
      obtain ⟨t, -, ⟨-, -, hnone | ⟨p, -, -, hdomain⟩⟩, rfl⟩ := (hmem x).1 hx
      · exact hnone
      · cases hdomain

end SubscriptionRegistry
