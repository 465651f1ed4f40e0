import Mathlib.Logic.Equiv.Basic
import SubscriptionRegistry.Proofs.Listings
import SubscriptionRegistry.Proofs.Outcome
import SubscriptionRegistry.Proofs.WatcherHistory

/-!
# Projects that move to other app domains

Subscribers and watchers refer to a project by its id, so a project that moves takes with it all
that hangs on it. No other project has the app domain that it leaves or the one that it takes. The
move thus exchanges the two among the stored projects, and a view shows at one of them what it has
shown at the other.

* `Store.renamed`: a store with other app domains. `Store.Intact.moveProject_eq`: a move is an
  exchange of two of them.
* `Store.watchersFor_renamed`, `Store.subscriptionsAt_renamed`, `Store.subscriptionsOf_renamed`:
  what the views show of a store with other app domains.
* `Store.Intact.no_project_at`: which app domain nobody has, before the move and after it.
* `Registry.Relocates`: what a session is answered after the move, by what it was answered before.
* `Script.moves_whole`: every move at every point of a run.
-/

namespace SubscriptionRegistry

/-! ## Other app domains -/

section Renaming

/-- A project with its app domain renamed by `σ`; the one of external id `projectId` has the date
`now`. -/
def Project.renamed (σ : Equiv.Perm String) (now : Instant) (projectId : String) (p : Project) :
    Project :=
  { p with
    appDomain := σ p.appDomain
    updatedAt := if p.projectId = projectId then now else p.updatedAt }

/-- The record of a subscription with its app domain renamed by `σ`. -/
def SubscriptionRecord.renamed (σ : Equiv.Perm String) (y : SubscriptionRecord) : SubscriptionRecord :=
  { y with appDomain := σ y.appDomain }

/-- The record of a subscription at `appDomain`. -/
def SubscriptionRecord.movedTo (appDomain : String) (y : SubscriptionRecord) : SubscriptionRecord :=
  { y with appDomain }

namespace Store

variable {s : Store} {p : Project} {d' : String}

/-- The store with the app domains of its projects renamed by `σ`. -/
def renamed (s : Store) (σ : Equiv.Perm String) (now : Instant) (projectId : String) : Store :=
  { s with projects := s.projects.map (Project.renamed σ now projectId) }

/-- A move to an app domain that no other project has exchanges it with the one that is left. -/
theorem Intact.moveProject_eq (h : s.Intact) (hp : p ∈ s.projects) (now : Instant)
    (hfree : ∀ q ∈ s.projects, q.projectId ≠ p.projectId → q.appDomain ≠ d') :
    { s with projects := Store.moveProject now p.projectId d' s.projects } =
      s.renamed (.swap p.appDomain d') now p.projectId := by
  refine congrArg (fun l => { s with projects := l }) (List.map_congr_left fun q hq => ?_)
  unfold Project.renamed
  by_cases hid : q.projectId = p.projectId
  · rw [if_pos hid, if_pos hid, h.projects_projectId.eq hq hp hid, Equiv.swap_apply_left]
  · have hleft : q.appDomain ≠ p.appDomain := fun hd =>
      hid (congrArg Project.projectId (h.projects_appDomain.eq hq hp hd))
    rw [if_neg hid, if_neg hid, Equiv.swap_apply_of_ne_of_ne hleft (hfree q hq hid)]

/-- Nobody else has the app domain that a project may take. -/
theorem Intact.no_project_at (h : s.Intact) (hp : p ∈ s.projects) (hne : d' ≠ p.appDomain)
    (hfree : ∀ q ∈ s.projects, q.projectId ≠ p.projectId → q.appDomain ≠ d') :
    ∀ q ∈ s.projects, q.appDomain ≠ d' := by
  intro q hq
  by_cases hid : q.projectId = p.projectId
  · rw [h.projects_projectId.eq hq hp hid]
    exact hne.symm
  · exact hfree q hq hid

/-! ## Views of renamed app domains -/

section Views

variable {σ : Equiv.Perm String} {now : Instant} {projectId : String}

theorem some_beq_map (σ : Equiv.Perm String) (d : String) (appDomain : Option String) :
    (some (σ d) == appDomain.map σ) = (some d == appDomain) := by
  rw [Bool.eq_iff_iff, beq_iff_eq, beq_iff_eq]
  exact (Option.map_injective σ.injective).eq_iff (a := some d)

theorem watchersFor_renamed (account appDomain : Option String) (time : Instant) :
    (s.renamed σ now projectId).watchersFor account (appDomain.map σ) time =
      s.watchersFor account appDomain time := by
  have hjoin : outerJoin (fun w p => w.project = some p.id) (s.watchers.map id)
        (s.projects.map (Project.renamed σ now projectId)) =
      (outerJoin (fun w p => w.project = some p.id) s.watchers s.projects).map
        fun r => (id r.1, r.2.map (Project.renamed σ now projectId)) := outerJoin_map fun _ _ => rfl
  have hcovers : ∀ r : Watcher × Option Project,
      ((r.2.map (Project.renamed σ now projectId)).any fun p => some p.appDomain == appDomain.map σ) =
        r.2.any fun p => some p.appDomain == appDomain := by
    intro r
    cases r.2 with
    | none => rfl
    | some p => exact some_beq_map σ p.appDomain appDomain
  rw [List.map_id] at hjoin
  unfold watchersFor
  dsimp only [renamed]
  rw [hjoin, filter_map_of_agree fun r => congrArg (fun b => r.1.isActive time &&
    some r.1.account == account && (r.1.project.isNone || b)) (hcovers r), List.map_map]
  rfl

theorem subscriptions_renamed :
    (s.renamed σ now projectId).subscriptions =
      s.subscriptions.map fun x => (x.1, x.2.renamed σ now projectId) := by
  have hjoin : innerJoin (fun x p => p.id = x.project) (s.subscribers.map id)
        (s.projects.map (Project.renamed σ now projectId)) =
      (innerJoin (fun x p => p.id = x.project) s.subscribers s.projects).map
        fun x => (id x.1, x.2.renamed σ now projectId) := innerJoin_map fun _ _ => rfl
  rw [List.map_id] at hjoin
  exact hjoin

theorem project_of_mem_subscriptions {x : Subscriber × Project} (hx : x ∈ s.subscriptions) :
    x.2 ∈ s.projects :=
  (mem_innerJoin.1 hx).2.1

/-- A record is that of a subscription to a stored project. -/
theorem mem_subscriptionsWhere {f : Subscriber × Project → Bool} {y : SubscriptionRecord}
    (hy : y ∈ (s.subscriptionsWhere f).records) :
    ∃ x ∈ s.subscriptions, f x = true ∧ y.appDomain = x.2.appDomain := by
  obtain ⟨x, hx, scope, rfl⟩ := mem_gathered (List.mem_mergeSort.1 hy)
  obtain ⟨hx, hf⟩ := List.mem_filter.1 hx
  exact ⟨x, hx, hf, rfl⟩

theorem appDomain_of_mem_subscriptionsAt {account appDomain : Option String} {y : SubscriptionRecord}
    (hy : y ∈ (s.subscriptionsAt account appDomain).records) : some y.appDomain = appDomain := by
  obtain ⟨x, -, hf, hd⟩ := mem_subscriptionsWhere hy
  rw [hd]
  exact beq_iff_eq.1 (Bool.and_eq_true_iff.1 hf).2

/-- The records of subscriptions before they are sorted. -/
theorem gathered_renamed (xs : List (Subscriber × Project)) :
    (s.renamed σ now projectId).gathered Prod.fst subscriptionRecord
        (xs.map fun x => (x.1, x.2.renamed σ now projectId)) =
      (s.gathered Prod.fst subscriptionRecord xs).arrange (List.map (SubscriptionRecord.renamed σ)) := by
  refine s.gathered_map (f := fun x : Subscriber × Project => (x.1, x.2.renamed σ now projectId))
    (g := SubscriptionRecord.renamed σ) ?_ ?_ xs
  · exact fun _ => rfl
  · exact fun _ _ => rfl

theorem subscriptionsAt_renamed (account appDomain : Option String) :
    (s.renamed σ now projectId).subscriptionsAt account (appDomain.map σ) =
      (s.subscriptionsAt account appDomain).arrange (List.map (SubscriptionRecord.renamed σ)) := by
  have hrows : (s.renamed σ now projectId).subscriptions.filter
        (fun x => some x.1.account == account && some x.2.appDomain == appDomain.map σ) =
      (s.subscriptions.filter
        fun x => some x.1.account == account && some x.2.appDomain == appDomain).map
          fun x => (x.1, x.2.renamed σ now projectId) := by
    rw [subscriptions_renamed]
    exact filter_map_of_agree (fun x => congrArg (some x.1.account == account && ·)
      (some_beq_map σ x.2.appDomain appDomain)) _
  rw [subscriptionsAt, subscriptionsAt, subscriptionsWhere_eq, subscriptionsWhere_eq, hrows,
    gathered_renamed]
  refine Listing.arrange_map (List.map_mergeSort fun a ha b hb => ?_).symm
  -- All records have the one app domain, so that only the accounts decide on their order.
  have hdomain : ∀ y ∈ (s.gathered Prod.fst subscriptionRecord (s.subscriptions.filter
      fun x => some x.1.account == account && some x.2.appDomain == appDomain)).records,
        some y.appDomain = appDomain := fun y hy =>
    appDomain_of_mem_subscriptionsAt (List.mem_mergeSort.2 hy)
  have hab : a.appDomain = b.appDomain :=
    Option.some_inj.1 ((hdomain a ha).trans (hdomain b hb).symm)
  have hrenamed : (a.renamed σ).appDomain = (b.renamed σ).appDomain := congrArg σ hab
  rw [textPairLe, textPairLe, if_pos hab, if_pos hrenamed]
  rfl

theorem subscriptionsOf_renamed (s : Store) (σ : Equiv.Perm String) (now : Instant)
    (projectId : String) (account : Option String) :
    ((s.renamed σ now projectId).subscriptionsOf account).records.Perm
        ((s.subscriptionsOf account).records.map (SubscriptionRecord.renamed σ)) ∧
      ((s.renamed σ now projectId).subscriptionsOf account).refused =
        (s.subscriptionsOf account).refused := by
  have hrows : (s.renamed σ now projectId).subscriptions.filter (fun x => some x.1.account == account) =
      (s.subscriptions.filter fun x => some x.1.account == account).map
        fun x => (x.1, x.2.renamed σ now projectId) := by
    rw [subscriptions_renamed]
    exact filter_map_of_agree (fun _ => rfl) _
  rw [subscriptionsOf, subscriptionsOf, subscriptionsWhere_eq, subscriptionsWhere_eq, hrows,
    gathered_renamed]
  exact ⟨(List.mergeSort_perm _ _).trans ((List.mergeSort_perm _ _).map _).symm, rfl⟩

end Views

/-- At an app domain of no project there are the watchers of no project, as there are at every
other. -/
theorem mem_watchersFor_of_no_project {account : Option String} {time : Instant}
    (hno : ∀ q ∈ s.projects, q.appDomain ≠ d') (appDomain : Option String) {x : WatcherRecord} :
    x ∈ s.watchersFor account (some d') time ↔
      x ∈ s.watchersFor account appDomain time ∧ x.project = none := by
  rw [mem_watchersFor, mem_watchersFor]
  constructor
  · rintro ⟨t, ht, ⟨haccount, hactive, hnone | ⟨q, hq, -, hd⟩⟩, rfl⟩
    · exact ⟨⟨t, ht, ⟨haccount, hactive, .inl hnone⟩, rfl⟩, hnone⟩
    · exact absurd (Option.some_inj.1 hd).symm (hno q hq)
  · rintro ⟨⟨t, ht, ⟨haccount, hactive, -⟩, rfl⟩, hnone⟩
    exact ⟨t, ht, ⟨haccount, hactive, .inl hnone⟩, rfl⟩

/-- At an app domain of no project there are no subscriptions. -/
theorem subscriptionsAt_of_no_project (hno : ∀ q ∈ s.projects, q.appDomain ≠ d')
    (account : Option String) : s.subscriptionsAt account (some d') = ⟨[], []⟩ := by
  have hnil : s.subscriptions.filter
      (fun x => some x.1.account == account && some x.2.appDomain == some d') = [] := by
    refine List.filter_eq_nil_iff.2 fun x hx => ?_
    have hd : x.2.appDomain ≠ d' := hno x.2 (project_of_mem_subscriptions hx)
    simp [hd]
  rw [subscriptionsAt, subscriptionsWhere_eq, hnil]
  exact congrArg (Listing.mk · []) List.mergeSort_nil

end Store

end Renaming

/-! ## Answers before and after a move -/

/-- What session `i` is answered in `r'`, when a project has moved from `d` to `d'`, by what it is
answered in `r`. -/
structure Registry.Relocates (r r' : Registry) (i : SessionId) (d d' : String) : Prop where
  watchers_new : ∀ account now,
    r'.report i (.watchersFor account (some d') now) = r.report i (.watchersFor account (some d) now)
  watchers_old : ∀ account now,
    r'.report i (.watchersFor account (some d) now) = r.report i (.watchersFor account (some d') now)
  watchers_global : ∀ account now records events,
    r.report i (.watchersFor account (some d) now) = .leaf (.ok (.watchers records)) events →
      ∃ globals, r.report i (.watchersFor account (some d') now) =
          .leaf (.ok (.watchers globals)) events ∧
        ∀ x, x ∈ globals ↔ x ∈ records ∧ x.project = none
  watchers_other : ∀ account now e, e ≠ some d → e ≠ some d' →
    r'.report i (.watchersFor account e now) = r.report i (.watchersFor account e now)
  subscriptions_new : ∀ account, ∃ records events,
    r.report i (.subscriptionsAt account (some d)) = .leaf (.ok (.subscriptions records)) events ∧
      r'.report i (.subscriptionsAt account (some d')) =
        .leaf (.ok (.subscriptions (records.map (·.movedTo d')))) events
  subscriptions_old : ∀ account,
    r'.report i (.subscriptionsAt account (some d)) = .leaf (.ok (.subscriptions [])) []
  subscriptions_other : ∀ account e, e ≠ some d → e ≠ some d' →
    r'.report i (.subscriptionsAt account e) = r.report i (.subscriptionsAt account e)
  subscriptionsOf : ∀ account, ∃ records records' events,
    r.report i (.subscriptionsOf account) = .leaf (.ok (.subscriptions records)) events ∧
      r'.report i (.subscriptionsOf account) = .leaf (.ok (.subscriptions records')) events ∧
      records'.Perm (records.map fun y => if y.appDomain = d then y.movedTo d' else y)

section Move

variable {r r' : Registry} {i : SessionId} {d d' : String} {now : Instant} {projectId : String}

theorem map_swap_of_ne {e : Option String} (hd : e ≠ some d) (hd' : e ≠ some d') :
    e.map (Equiv.swap d d') = e := by
  cases e with
  | none => rfl
  | some e =>
    exact congrArg some (Equiv.swap_apply_of_ne_of_ne (fun h => hd (congrArg some h))
      fun h => hd' (congrArg some h))

/-- Where no record is at `d'`, an exchange of `d` and `d'` only moves the records at `d`. -/
theorem SubscriptionRecord.renamed_swap {y : SubscriptionRecord} (h : y.appDomain ≠ d') :
    y.renamed (.swap d d') = if y.appDomain = d then y.movedTo d' else y := by
  by_cases hd : y.appDomain = d
  · rw [if_pos hd, renamed, hd, Equiv.swap_apply_left]
    rfl
  · rw [if_neg hd, renamed, Equiv.swap_apply_of_ne_of_ne hd h]

theorem Store.renamed_swap_records {s : Store} {f : Subscriber × Project → Bool}
    (hno : ∀ q ∈ s.projects, q.appDomain ≠ d') :
    (s.subscriptionsWhere f).records.map (SubscriptionRecord.renamed (.swap d d')) =
      (s.subscriptionsWhere f).records.map fun y => if y.appDomain = d then y.movedTo d' else y := by
  refine List.map_congr_left fun y hy => SubscriptionRecord.renamed_swap ?_
  obtain ⟨x, hx, -, hyx⟩ := mem_subscriptionsWhere hy
  rw [hyx]
  exact hno x.2 (project_of_mem_subscriptions hx)

theorem Registry.report_subscriptionsAt (r : Registry) (i : SessionId)
    (account appDomain : Option String) :
    r.report i (.subscriptionsAt account appDomain) =
      .leaf (.ok (.subscriptions ((r.database.view i).subscriptionsAt account appDomain).records))
        (Event.dropped ((r.database.view i).subscriptionsAt account appDomain).refused) := by
  have hp : (Operation.subscriptionsAt account appDomain).prepare r.clock = .ok (Operation.total fun s =>
      Operation.listingReply .subscriptions (s.subscriptionsAt account appDomain)) := rfl
  exact report_of_total hp

theorem Registry.report_subscriptionsOf (r : Registry) (i : SessionId) (account : Option String) :
    r.report i (.subscriptionsOf account) =
      .leaf (.ok (.subscriptions ((r.database.view i).subscriptionsOf account).records))
        (Event.dropped ((r.database.view i).subscriptionsOf account).refused) := by
  have hp : (Operation.subscriptionsOf account).prepare r.clock = .ok (Operation.total fun s =>
      Operation.listingReply .subscriptions (s.subscriptionsOf account)) := rfl
  exact report_of_total hp

section Exchanged

variable (hview : r'.database.view i = (r.database.view i).renamed (.swap d d') now projectId)
include hview

theorem Registry.report_watchersFor_swap (hclock : r'.clock = r.clock) (account e : Option String)
    (time : Option Stamp) :
    r'.report i (.watchersFor account (e.map (Equiv.swap d d')) time) =
      r.report i (.watchersFor account e time) := by
  rw [report_watchersFor, report_watchersFor, hclock, hview]
  simp only [Store.watchersFor_renamed]

theorem Registry.report_subscriptionsAt_swap
    (hno : ∀ q ∈ (r.database.view i).projects, q.appDomain ≠ d') (account e : Option String) :
    let l := (r.database.view i).subscriptionsAt account e
    r'.report i (.subscriptionsAt account (e.map (Equiv.swap d d'))) =
      .leaf (.ok (.subscriptions
          (l.records.map fun y => if y.appDomain = d then y.movedTo d' else y)))
        (Event.dropped l.refused) := by
  intro l
  rw [report_subscriptionsAt, hview, Store.subscriptionsAt_renamed]
  exact congrArg (fun records => Report.leaf (.ok (.subscriptions records)) (Event.dropped l.refused))
    (Store.renamed_swap_records hno)

/-- What a session is answered when two app domains have been exchanged and nobody had the
second. -/
theorem Registry.relocates_of_swap (hclock : r'.clock = r.clock)
    (hno : ∀ q ∈ (r.database.view i).projects, q.appDomain ≠ d') : r.Relocates r' i d d' := by
  have hnew : (some d).map (Equiv.swap d d') = some d' := congrArg some (Equiv.swap_apply_left d d')
  have hold : (some d').map (Equiv.swap d d') = some d := congrArg some (Equiv.swap_apply_right d d')
  have hwatchers := fun account e time => report_watchersFor_swap hview hclock account e time
  have hsubscriptions := fun account e => report_subscriptionsAt_swap hview hno account e
  refine ⟨fun account time => ?_, fun account time => ?_, fun account time records events h => ?_,
    fun account time e hd hd' => ?_, fun account => ?_, fun account => ?_,
    fun account e hd hd' => ?_, fun account => ?_⟩
  · rw [← hnew, hwatchers]
  · rw [← hold, hwatchers]
  · rw [report_watchersFor] at h ⊢
    cases ht : Operation.effectiveTime r.clock time with
    | error f =>
      rw [ht] at h
      cases h
    | ok t =>
      rw [ht] at h
      cases h
      exact ⟨_, rfl, fun x => Store.mem_watchersFor_of_no_project hno (some d)⟩
  · rw [← map_swap_of_ne hd hd', hwatchers, map_swap_of_ne hd hd']
  · refine ⟨_, _, r.report_subscriptionsAt i account (some d), ?_⟩
    rw [← hnew, hsubscriptions]
    refine congrArg (fun l => Report.leaf (.ok (.subscriptions l)) _)
      (List.map_congr_left fun y hy => ?_)
    exact if_pos (Option.some_inj.1 (Store.appDomain_of_mem_subscriptionsAt hy))
  · have hnone : Event.dropped [] = [] := congrArg (List.map Event.scopeDropped) List.mergeSort_nil
    rw [← hold, hsubscriptions, Store.subscriptionsAt_of_no_project hno, hnone]
    rfl
  · rw [← map_swap_of_ne hd hd', hsubscriptions, map_swap_of_ne hd hd', report_subscriptionsAt]
    refine congrArg (fun l => Report.leaf (.ok (.subscriptions l)) _)
      ((List.map_congr_left fun y hy => ?_).trans (List.map_id _))
    refine if_neg fun hyd => hd ?_
    rw [← hyd]
    exact (Store.appDomain_of_mem_subscriptionsAt hy).symm
  · obtain ⟨hrecords, hrefused⟩ :=
      (r.database.view i).subscriptionsOf_renamed (.swap d d') now projectId account
    have hreport := r'.report_subscriptionsOf i account
    rw [hview, hrefused] at hreport
    exact ⟨_, _, _, r.report_subscriptionsOf i account, hreport,
      hrecords.trans (.of_eq (Store.renamed_swap_records hno))⟩

end Exchanged

end Move

/-! ## Every point of a run -/

/-- **A project that moves takes with it all that hangs on it, and nothing else moves.** At every
point of a run from the empty store, let a session move a project that it sees stored from its app
domain `d` to another one, `d'`. For every account and every time, the lookup of watchers then finds
at `d'` what it found at `d` before, at `d` the watchers of no project that it found at `d'` before,
and elsewhere what it found before. The subscriptions of an account at `d'` are those that were at
`d` with the app domain replaced, at `d` there are none, and elsewhere they are as before. Among all
subscriptions of an account those that were at `d` are replaced, and the others are the same. The
warnings are the same too. -/
theorem Script.moves_whole (script : Script) (clock : Instant) (n : Nat) (i : SessionId) :
    let r := script.stateAt (.start clock .empty) n
    ∀ p ∈ (r.database.view i).projects, ∀ (q : Project.Request) (d' : String),
      q.projectId = some p.projectId → q.appDomain = some d' → d' ≠ p.appDomain →
        ∀ answer events, r.report i (.upsertProject q) = .leaf (.ok answer) events →
          r.Relocates ((Step.act i (.call (.upsertProject q))).run r).2 i p.appDomain d' := by
  intro r p hp q d' hid hdomain hne answer events hreport
  have h : (r.database.view i).Intact := script.intact_view clock n i
  obtain ⟨-, s, hturns, hrun⟩ := Step.run_of_ok rfl hreport
  obtain ⟨keys, r', hid', hdomain', hs⟩ : ∃ keys r', r'.projectId = q.projectId ∧
      r'.appDomain = q.appDomain ∧
      (r.database.view i).upsertProject r.clock r' = .ok (s, keys) := by
    cases hturns.effect with
    | upsertProject ha hb hs => exact ⟨_, _, rfl, rfl, hs⟩
  obtain ⟨projectId, appDomain, topic, hpid, hd, -, hfree, hcases⟩ := Store.upsertProject_cases hs
  obtain rfl : p.projectId = projectId := Option.some_inj.1 (hid.symm.trans (hid'.symm.trans hpid))
  obtain rfl : d' = appDomain := Option.some_inj.1 (hdomain.symm.trans (hdomain'.symm.trans hd))
  rcases hcases with ⟨-, -, -, -, rfl⟩ | ⟨hnew, -, -⟩
  · rw [hrun]
    exact Registry.relocates_of_swap (Database.view_put.trans (h.moveProject_eq hp r.clock hfree)) rfl
      (h.no_project_at hp hne hfree)
  · exact absurd rfl (hnew p hp).1

/-- A project of a subscriber and a watcher that moves from one app domain to another. -/
theorem Script.moves_whole_subscribed :
    let i : SessionId := .caller "a"
    let t : Instant := ⟨0, by decide⟩
    let first : Project.Request := ⟨default, some "p", some "old.app", some "t",
      ⟨some (.text "k"), some (.text "l")⟩, ⟨some (.text "m"), some (.text "n")⟩⟩
    let key : List UInt8 := List.replicate notifyKeyLength 1
    let script : Script :=
      [.act i (.call (.upsertProject first)),
        .act i (.call (.upsertSubscriber ⟨default, some default, some "x", .ofList [default], key,
          some "s", none⟩)),
        .act i (.call (.upsertWatcher ⟨default, some "x", some default, some "did", some "sym",
          some (.ofInstant t)⟩))]
    let r := script.stateAt (.start t .empty) 3
    let q : Project.Request := { first with appDomain := some "new.app" }
    let p : Project := ⟨default, t, t, "p", "old.app", "t", ⟨"k", "l"⟩, ⟨"m", "n"⟩⟩
    p ∈ (r.database.view i).projects ∧ (r.database.view i).subscribers.length = 1 ∧
      (r.database.view i).watchers.length = 1 ∧
      q.projectId = some p.projectId ∧ q.appDomain = some "new.app" ∧ "new.app" ≠ p.appDomain ∧
      (∃ answer events, r.report i (.upsertProject q) = .leaf (.ok answer) events) ∧
      r.Relocates ((Step.act i (.call (.upsertProject q))).run r).2 i "old.app" "new.app" := by
  intro i t first key script r q p
  have hp : p ∈ (r.database.view i).projects := by decide +kernel
  have hne : "new.app" ≠ p.appDomain := by decide
  have hok : (r.report i (.upsertProject q)).fault?.isSome = false := by decide +kernel
  obtain ⟨answer, events, hreport⟩ := Registry.report_of_no_fault hok
  exact ⟨hp, by decide +kernel, by decide +kernel, rfl, rfl, hne, ⟨answer, events, hreport⟩,
    Script.moves_whole script t 3 i p hp q "new.app" rfl rfl hne answer events hreport⟩

end SubscriptionRegistry
