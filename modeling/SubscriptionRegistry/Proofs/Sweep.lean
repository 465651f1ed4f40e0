import Mathlib.Algebra.Ring.Nat
import SubscriptionRegistry.Proofs.WatcherHistory
import SubscriptionRegistry.Proofs.WriterLock

/-!
# Sweeps

A sweep removes the watchers that the lookup hides because they are over, no more and no fewer. It
cannot be told from later lookups that there was one, and many sweeps do what the last of them in
time does alone.

* `Store.Covers`: a lookup is for a watcher, whether the watcher is over or not.
* `Store.Swept`: what a sweep leaves of a store. `Store.Intact.swept`: a sweep leaves that.
* `Store.sweepAll`: the store after sweeps at several times. `Store.sweepAll_of_max`: it is that
  after the last one.
* `Registry.SameLookups`: lookups from some time on are answered the same.
* `Script.run_sweeps`, `Script.run_sweeps_locked`: sweeps one after the other.
* `Step.byCallers`, `Script.transaction?_worker`: a worker that nobody else acts for has no
  transaction open, so that its sweep is one of the committed store.
* `Script.sweeps_exact`: sweeps at every point of a run.
-/

namespace SubscriptionRegistry

/-! ## One sweep of a store -/

namespace Store

variable {s s' : Store} {t u : Instant} {w : Watcher} {account appDomain : Option String}

/-- The lookup of an account for an app is for the watcher, whether the watcher is over or not. -/
def Covers (s : Store) (account appDomain : Option String) (w : Watcher) : Prop :=
  account = some w.account ∧
    (w.project = none ∨ ∃ p ∈ s.projects, w.project = some p.id ∧ appDomain = some p.appDomain)

/-- What a sweep at the time `t` leaves of the store `s`, and how many watchers it removes. -/
structure Swept (s : Store) (t : Instant) (s' : Store) (count : Nat) : Prop where
  projects : s'.projects = s.projects
  subscribers : s'.subscribers = s.subscribers
  scopes : s'.scopes = s.scopes
  watchers : s'.watchers = s.watchers.filter fun w => ¬ w.expiry ≤ t
  count : count = (s.watchers.filter fun w => w.expiry ≤ t).length
  /-- Of the watchers that a lookup is for, those stay that it finds at the time. -/
  found : ∀ w ∈ s.watchers, ∀ account appDomain, s.Covers account appDomain w →
    (w ∈ s'.watchers ↔ w.didKey ∈ (s.watchersFor account appDomain t).map (·.didKey))
  /-- Those are removed that no lookup finds at the time. -/
  hidden : ∀ w ∈ s.watchers, w ∉ s'.watchers ↔
    ∀ account appDomain, w.didKey ∉ (s.watchersFor account appDomain t).map (·.didKey)
  lookups : ∀ u, t ≤ u → ∀ account appDomain,
    s'.watchersFor account appDomain u = s.watchersFor account appDomain u

/-- A watcher is found by the lookups that are for it until it is over. -/
theorem Intact.didKey_mem_watchersFor (h : s.Intact) (hw : w ∈ s.watchers) :
    w.didKey ∈ (s.watchersFor account appDomain t).map (·.didKey) ↔
      s.Covers account appDomain w ∧ t < w.expiry := by
  rw [List.mem_map]
  constructor
  · rintro ⟨x, hx, hkey⟩
    obtain ⟨_, hterms, ⟨haccount, hactive, hproject⟩, rfl⟩ := mem_watchersFor.1 hx
    obtain ⟨v, hv, rfl⟩ := List.mem_map.1 hterms
    have hvw : v = w := h.watchers_didKey.eq hv hw hkey
    subst hvw
    exact ⟨⟨haccount, hproject⟩, hactive⟩
  · rintro ⟨⟨haccount, hproject⟩, hactive⟩
    refine ⟨⟨w.project, w.didKey, w.symKey⟩, mem_watchersFor.2 ?_, rfl⟩
    exact ⟨w.terms, List.mem_map_of_mem hw, ⟨haccount, hactive, hproject⟩, rfl⟩

/-- There is a lookup for every watcher. -/
theorem Intact.exists_covers (h : s.Intact) (hw : w ∈ s.watchers) :
    ∃ account appDomain, s.Covers account appDomain w := by
  cases hp : w.project with
  | none => exact ⟨some w.account, none, rfl, .inl hp⟩
  | some id =>
    obtain ⟨p, hps, hid⟩ := h.watchers_project w hw id hp
    refine ⟨some w.account, some p.appDomain, rfl, .inr ⟨p, hps, ?_, rfl⟩⟩
    rw [hp, hid]

theorem mem_sweepWatchers : w ∈ (s.sweepWatchers t).1.watchers ↔ w ∈ s.watchers ∧ t < w.expiry := by
  unfold sweepWatchers Watcher.isActive
  simp only [List.mem_filter, decide_eq_true_eq]

/-- A lookup at the time of a sweep, or later, does not miss what the sweep has removed. -/
theorem watchersFor_sweepWatchers (htu : t ≤ u) :
    (s.sweepWatchers t).1.watchersFor account appDomain u = s.watchersFor account appDomain u := by
  unfold watchersFor sweepWatchers
  dsimp only
  rw [← filter_fst_outerJoin, List.filter_filter]
  have hactive : ∀ w : Watcher, w.isActive u = true → w.isActive t = true := by
    intro w hw
    have hlt : u.micros < w.expiry.micros := of_decide_eq_true hw
    have hle : t.micros ≤ u.micros := htu
    exact decide_eq_true (Nat.lt_of_le_of_lt hle hlt)
  have hfilter : ∀ r : Watcher × Option Project,
      (r.1.isActive u && some r.1.account == account &&
          (r.1.project.isNone || (r.2.any fun p => some p.appDomain == appDomain)) &&
        r.1.isActive t) =
      (r.1.isActive u && some r.1.account == account &&
        (r.1.project.isNone || (r.2.any fun p => some p.appDomain == appDomain))) := by
    intro r
    cases hu : r.1.isActive u with
    | false => simp
    | true => simp [hactive r.1 hu]
  simp only [hfilter]

/-- A sweep leaves what a sweep is to leave. -/
theorem Intact.swept (h : s.Intact) (t : Instant) :
    s.Swept t (s.sweepWatchers t).1 (s.sweepWatchers t).2 where
  projects := rfl
  subscribers := rfl
  scopes := rfl
  watchers := List.filter_congr fun w _ => decide_eq_decide.2 Nat.not_le.symm
  count := by
    show s.watchers.countP (fun w => !w.isActive t) = _
    rw [List.countP_eq_length_filter]
    unfold Watcher.isActive
    refine congrArg List.length (List.filter_congr fun w _ => ?_)
    rw [← decide_not]
    exact decide_eq_decide.2 Nat.not_lt
  found w hw account appDomain hcovers := by
    rw [h.didKey_mem_watchersFor hw, mem_sweepWatchers]
    exact ⟨fun hs => ⟨hcovers, hs.2⟩, fun hl => ⟨hw, hl.2⟩⟩
  hidden w hw := by
    simp only [h.didKey_mem_watchersFor hw, mem_sweepWatchers]
    constructor
    · intro hgone account appDomain hl
      exact hgone ⟨hw, hl.2⟩
    · intro hhidden hs
      obtain ⟨account, appDomain, hcovers⟩ := h.exists_covers hw
      exact hhidden account appDomain ⟨hcovers, hs.2⟩
  lookups u htu account appDomain := watchersFor_sweepWatchers htu

/-! ## Many sweeps of a store -/

/-- The store after sweeps at all the times. -/
def sweepAll (s : Store) (times : List Instant) : Store :=
  { s with watchers := s.watchers.filter fun w => times.all (w.isActive ·) }

theorem sweepAll_singleton (s : Store) (t : Instant) : s.sweepAll [t] = (s.sweepWatchers t).1 := by
  unfold sweepAll sweepWatchers
  simp only [List.all_cons, List.all_nil, Bool.and_true]

theorem sweepAll_cons (s : Store) (t : Instant) (times : List Instant) :
    s.sweepAll (t :: times) = (s.sweepWatchers t).1.sweepAll times := by
  unfold sweepAll sweepWatchers
  simp only [List.filter_filter, List.all_cons, Bool.and_comm]

/-- The latest of the sweeps does what all of them do. -/
theorem sweepAll_of_max {times : List Instant} (ht : t ∈ times) (hmax : ∀ u ∈ times, u ≤ t) :
    s.sweepAll times = (s.sweepWatchers t).1 := by
  have hall : ∀ w : Watcher, times.all (w.isActive ·) = w.isActive t := by
    intro w
    rw [Bool.eq_iff_iff, List.all_eq_true]
    constructor
    · intro h
      exact h t ht
    · intro h u hu
      exact decide_eq_true (Nat.lt_of_le_of_lt (hmax u hu) (of_decide_eq_true h))
  unfold sweepAll sweepWatchers
  simp only [hall]

/-- The watchers that a sweep counts are those that it removes. -/
theorem count_sweepWatchers (s : Store) (t : Instant) :
    (s.sweepWatchers t).2 + (s.sweepWatchers t).1.watchers.length = s.watchers.length := by
  have h := List.length_eq_countP_add_countP (l := s.watchers) (Watcher.isActive · t)
  simp only [List.countP_eq_length_filter (p := (Watcher.isActive · t)), Bool.not_eq_true,
    Bool.decide_eq_false] at h
  show s.watchers.countP (fun w => !w.isActive t) +
    (s.watchers.filter (Watcher.isActive · t)).length = _
  omega

end Store

/-! ## Sweeps of sessions -/

namespace Database

variable {d : Database} {i j : SessionId} {s : Store}

/-- What a session has put another one sees if the first has no transaction, and then that one saw
what the first did. -/
theorem Valid.view_put_ne (h : d.Valid) (hl : d.lockedFor i = false) (hj : j ≠ i) :
    (d.put i s).view j = d.view j ∨ ((d.put i s).view j = s ∧ d.view j = d.view i) := by
  have ht : (d.put i s).transaction? j = d.transaction? j := transaction?_congr others_put hj
  have hw : d.isWriter j = false := by
    rw [← Bool.not_eq_true]
    intro hw
    rw [h.lockedFor_iff.2 ⟨j, hj, hw⟩] at hl
    cases hl
  cases hi : d.transaction? i with
  | none =>
    have hw' : (d.put i s).isWriter j = false := (isWriter_congr ht).trans hw
    refine .inr ⟨?_, ?_⟩
    · rw [(h.put hl).view_of_not_isWriter hw', put_of_none hi]
    · rw [h.view_of_not_isWriter hw, view_of_none hi]
  | some t =>
    refine .inl (view_congr ht ?_)
    rw [put_of_some hi]
    rfl

end Database

/-- The step in which a session sweeps at a time. -/
def Step.sweepAt (i : SessionId) (now : Option Stamp) : Step := .act i (.call (.sweepWatchers now))

/-- The events of a sweep that has removed `count` watchers. -/
def Event.ofSweep (count : Nat) : List Event := if count = 0 then [] else [.watchersSwept count]

/-- The report of a sweep that has removed `count` watchers. -/
def Report.swept (count : Nat) : Report := .leaf (.ok (.count count)) (Event.ofSweep count)

section Sessions

variable {r : Registry} {i : SessionId} {now : Option Stamp} {t : Instant}

theorem Step.run_sweepAt (hl : r.database.lockedFor i = false)
    (ht : Operation.effectiveTime r.clock now = .ok t) :
    (Step.sweepAt i now).run r = (.swept ((r.database.view i).sweepWatchers t).2,
      r.withDatabase (r.database.put i ((r.database.view i).sweepWatchers t).1)) := by
  have hturns : (Write.call (.sweepWatchers now)).Turns r.clock (r.database.view i)
      ((r.database.view i).sweepWatchers t).1
      ⟨.count ((r.database.view i).sweepWatchers t).2,
        Event.ofSweep ((r.database.view i).sweepWatchers t).2⟩ := by
    refine ⟨Operation.sweepWrite t, ?_, rfl⟩
    show (Operation.sweepWatchers now).prepare r.clock = _
    rw [Operation.prepare, ht]
    rfl
  exact Step.run_call hl hturns

theorem Step.run_sweepAt_locked (hl : r.database.lockedFor i = true)
    (ht : Operation.effectiveTime r.clock now = .ok t) : (Step.sweepAt i now).run r =
      (.leaf (.error Fault.locked.surface) [], r.withDatabase (r.database.rest i)) := by
  have hp : (Operation.sweepWatchers now).prepare r.clock =
      .ok (.write (Operation.sweepWrite t)) := by
    rw [Operation.prepare, ht]
    rfl
  unfold Step.sweepAt
  simp only [Step.run, Action.run, Database.call_of_ok hp, Database.attempt, hl, if_true]
  rfl

/-- The effective times of sweeps. -/
def Operation.times (clock : Instant) (nows : List (Option Stamp)) : List Instant :=
  nows.filterMap fun now => (effectiveTime clock now).toOption

theorem Operation.times_cons {clock : Instant} (nows : List (Option Stamp))
    (ht : effectiveTime clock now = .ok t) : times clock (now :: nows) = t :: times clock nows := by
  unfold times
  rw [List.filterMap_cons, ht]
  rfl

theorem Operation.mem_times {clock : Instant} {nows : List (Option Stamp)} :
    t ∈ times clock nows ↔ ∃ now ∈ nows, effectiveTime clock now = .ok t := by
  unfold times
  rw [List.mem_filterMap]
  refine exists_congr fun now => and_congr_right fun _ => ?_
  cases effectiveTime clock now <;> simp [Except.toOption]

/-- Sweeps one after the other leave the store that is swept at all their times, and count together
the watchers that it misses. -/
theorem Script.run_sweeps (hl : r.database.lockedFor i = false) {nows : List (Option Stamp)}
    (h : ∀ n ∈ now :: nows, ∃ t, Operation.effectiveTime r.clock n = .ok t) :
    let left := (r.database.view i).sweepAll (Operation.times r.clock (now :: nows))
    ∃ counts : List Nat, Script.run r ((now :: nows).map (Step.sweepAt i)) =
        (counts.map Report.swept, r.withDatabase (r.database.put i left)) ∧
      counts.sum + left.watchers.length = (r.database.view i).watchers.length := by
  induction nows generalizing r now with
  | nil =>
    obtain ⟨t, ht⟩ := h now List.mem_cons_self
    have hcount := (r.database.view i).count_sweepWatchers t
    refine ⟨[((r.database.view i).sweepWatchers t).2], ?_, ?_⟩
    · rw [List.map_cons, run_cons, Step.run_sweepAt hl ht, Operation.times_cons [] ht]
      rw [show Operation.times r.clock [] = [] from rfl, Store.sweepAll_singleton]
      rfl
    · rw [Operation.times_cons [] ht, show Operation.times r.clock [] = [] from rfl,
        Store.sweepAll_singleton, List.sum_singleton]
      exact hcount
  | cons now' nows ih =>
    obtain ⟨t, ht⟩ := h now List.mem_cons_self
    -- After the first sweep the session sees what that has left, and may write as before.
    let left := ((r.database.view i).sweepWatchers t).1
    have hcount : ((r.database.view i).sweepWatchers t).2 + left.watchers.length =
        (r.database.view i).watchers.length := Store.count_sweepWatchers _ t
    have hview : (r.database.put i left).view i = left := Database.view_put
    have hl' : (r.database.put i left).lockedFor i = false := by
      rw [Database.lockedFor_congr Database.others_put, hl]
    obtain ⟨counts, hrun, hsum⟩ := ih (r := r.withDatabase (r.database.put i left)) hl'
      fun n hn => h n (List.mem_cons_of_mem now hn)
    simp only [Registry.withDatabase, Database.put_put, hview] at hrun hsum
    refine ⟨((r.database.view i).sweepWatchers t).2 :: counts, ?_, ?_⟩
    · rw [List.map_cons, run_cons, Step.run_sweepAt hl ht, Operation.times_cons _ ht,
        Store.sweepAll_cons]
      simp only [Registry.withDatabase, hrun, left]
      rfl
    · rw [Operation.times_cons _ ht, Store.sweepAll_cons, List.sum_cons]
      show _ + (left.sweepAll _).watchers.length = _
      omega

/-- Sweeps that are locked out do nothing, however many they are. -/
theorem Script.run_sweeps_locked (hl : r.database.lockedFor i = true) {nows : List (Option Stamp)}
    (h : ∀ n ∈ now :: nows, ∃ t, Operation.effectiveTime r.clock n = .ok t) :
    (Script.run r ((now :: nows).map (Step.sweepAt i))).2 =
      r.withDatabase (r.database.rest i) := by
  induction nows generalizing r now with
  | nil =>
    obtain ⟨t, ht⟩ := h now List.mem_cons_self
    rw [List.map_cons, run_cons, Step.run_sweepAt_locked hl ht, List.map_nil, run_nil]
  | cons now' nows ih =>
    obtain ⟨t, ht⟩ := h now List.mem_cons_self
    have hl' : (r.database.rest i).lockedFor i = true := by
      rw [Database.lockedFor_congr Database.others_rest, hl]
    have hrest := ih (r := r.withDatabase (r.database.rest i)) hl'
      fun n hn => h n (List.mem_cons_of_mem now hn)
    simp only [Registry.withDatabase, Database.rest_rest] at hrest
    rw [List.map_cons, run_cons, Step.run_sweepAt_locked hl ht]
    exact hrest

/-- A sweep of the worker that succeeds. -/
theorem Step.run_sweep_of_ok {answer : Answer} {events : List Event}
    (h : (Step.sweep.run r).1 = .leaf (.ok answer) events) :
    let left := (r.database.view .worker).sweepWatchers r.clock
    r.database.lockedFor .worker = false ∧ answer = .count left.2 ∧
      events = Event.ofSweep left.2 ++ [.sweepFinished left.2] ∧
      (Step.sweep.run r).2 = r.withDatabase (r.database.put .worker left.1) := by
  intro left
  have hrun : Step.sweep.run r = (.ofReply (r.database.sweep r.clock).1,
      r.withDatabase (r.database.sweep r.clock).2) := by
    simp only [Step.run]
  rw [hrun, Database.sweep_eq, Database.attempt] at h ⊢
  cases hl : r.database.lockedFor .worker with
  | true =>
    rw [hl] at h
    cases h
  | false =>
    rw [hl] at h
    cases h
    exact ⟨rfl, rfl, rfl, rfl⟩

end Sessions

/-! ## Lookups after sweeps -/

/-- In the second registry every session is answered as in the first by every lookup at the time `t`
or later. -/
def Registry.SameLookups (r r' : Registry) (t : Instant) : Prop :=
  ∀ i account appDomain now u, Operation.effectiveTime r.clock now = .ok u → t ≤ u →
    ((Step.act i (.call (.watchersFor account appDomain now))).run r').1 =
      ((Step.act i (.call (.watchersFor account appDomain now))).run r).1

theorem Registry.sameLookups_put {r : Registry} {k : SessionId} {t : Instant}
    (hv : r.database.Valid) (hl : r.database.lockedFor k = false) :
    r.SameLookups (r.withDatabase (r.database.put k ((r.database.view k).sweepWatchers t).1)) t := by
  intro i account appDomain now u hu htu
  have hsame : ((r.database.put k ((r.database.view k).sweepWatchers t).1).view i).watchersFor
      account appDomain u = (r.database.view i).watchersFor account appDomain u := by
    by_cases hik : i = k
    · subst hik
      rw [Database.view_put, Store.watchersFor_sweepWatchers htu]
    · rcases hv.view_put_ne hl hik with hview | ⟨hview, hbefore⟩
      · rw [hview]
      · rw [hview, hbefore, Store.watchersFor_sweepWatchers htu]
  have hp : (Operation.watchersFor account appDomain now).prepare r.clock =
      .ok (Operation.total fun s => ⟨.watchers (s.watchersFor account appDomain u), []⟩) := by
    rw [Operation.prepare, hu]
    rfl
  let r' := r.withDatabase (r.database.put k ((r.database.view k).sweepWatchers t).1)
  have hreport := Step.report_of_read (r := r') (i := i) hp
  rw [Step.report_of_read hp]
  refine hreport.trans ?_
  show Report.leaf (.ok (.watchers _)) [] = Report.leaf (.ok (.watchers _)) []
  rw [← hsame]
  rfl

/-! ## The worker -/

mutual

/-- Whether a step is of callers alone, who leave the session of the worker to its sweeps. -/
def Step.byCallers : Step → Bool
  | .setClock _ | .sweep => true
  | .act i _ => i ≠ .worker
  | .unit i _ _ steps => i ≠ .worker && Step.allByCallers steps

/-- Whether steps are of callers alone. -/
def Step.allByCallers : List Step → Bool
  | [] => true
  | step :: steps => step.byCallers && Step.allByCallers steps

end

/-- A session opens no level of another one. -/
theorem Action.move_ne_opened {i k : SessionId} (hi : i ≠ k) (clock : Instant)
    (reply : Except Fault Reply) (action : Action) : action.move i clock reply ≠ .opened k := by
  have hwrite : ∀ w : Write, Move.ofWrite i clock w reply ≠ .opened k := by
    intro w
    cases reply <;> nofun
  cases action with
  | begin =>
    cases reply with
    | ok reply => exact fun h => hi (Move.opened.inj h)
    | error f => nofun
  | call op =>
    unfold move
    dsimp only
    split
    · exact hwrite _
    · nofun
  | replaceScope subscriber scope => exact hwrite _
  | _ => nofun

mutual

/-- Callers open no level of the worker. -/
theorem Step.not_opened_worker {r : Registry} {p : Move × Registry} :
    ∀ {step : Step}, step.byCallers = true → p ∈ step.trail r → p.1 ≠ .opened .worker
  | .setClock time, _, h => by
    cases List.mem_singleton.1 h
    nofun
  | .act i action, hb, h => by
    cases List.mem_singleton.1 h
    exact action.move_ne_opened (of_decide_eq_true hb) _ _
  | .sweep, _, h => by
    cases List.mem_singleton.1 h
    dsimp only
    cases (r.database.sweep r.clock).1 <;> nofun
  | .unit i propagate thrown steps, hb, h => by
    rw [byCallers, Bool.and_eq_true] at hb
    simp only [trail, List.mem_cons, List.mem_append, List.not_mem_nil, or_false] at h
    rcases h with rfl | h | rfl
    · exact fun hopened => of_decide_eq_true hb.1 (Move.opened.inj hopened)
    · exact Step.not_opened_worker_all hb.2 h
    · dsimp only
      split <;> nofun

theorem Step.not_opened_worker_all {r : Registry} {p : Move × Registry} {propagate : Bool} :
    ∀ {steps : List Step}, Step.allByCallers steps = true → p ∈ Step.trailAll r propagate steps →
      p.1 ≠ .opened .worker
  | [], _, h => by cases h
  | step :: steps, hb, h => by
    rw [allByCallers, Bool.and_eq_true] at hb
    have hboth : p ∈ step.trail r ∨ p ∈ Step.trailAll (step.run r).2 propagate steps := by
      unfold trailAll at h
      split at h
      · exact .inl h
      · exact List.mem_append.1 h
    rcases hboth with h | h
    · exact Step.not_opened_worker hb.1 h
    · exact Step.not_opened_worker_all hb.2 h

end

namespace Script

variable {script : Script} {clock : Instant} {s : Store}

/-- In a run of callers the worker never has a transaction open. -/
theorem transaction?_worker (h : Step.allByCallers script = true) (n : Nat) :
    (script.stateAt (.start clock s) n).database.transaction? .worker = none := by
  have hdepth : (script.stateAt (.start clock s) n).database.depth .worker = 0 := by
    induction n with
    | zero => rfl
    | succ n ih =>
      rcases script.stateAt_succ (.start clock s) n with ⟨m, hm, hleads⟩ | ⟨-, hsame⟩
      · obtain ⟨p, hp, rfl⟩ := Option.map_eq_some_iff.1 hm
        have hm := Step.not_opened_worker_all h (List.mem_of_getElem? hp)
        rw [hleads.depth, ih]
        generalize p.1 = m at hm
        cases m with
        | opened i => exact if_neg fun hi => hm (congrArg Move.opened hi)
        | kept i | undone i | committed i | rolledBack i => exact ite_self 0
        | wrote i deed | failed i clock w f | idle => rfl
      · rw [hsame, ih]
  cases ht : (script.stateAt (.start clock s) n).database.transaction? .worker with
  | none => rfl
  | some t =>
    rw [Database.depth_of_some ht] at hdepth
    cases hdepth

end Script

/-! ## Sweeps at every point of a run -/

section Points

variable {r : Registry} {i : SessionId} {now : Option Stamp} {t : Instant} {answer : Answer}
  {events : List Event}

/-- A sweep that succeeds removes what lookups hide, and later lookups do not miss it. -/
theorem Step.swept_of_ok (hv : r.database.Valid) (hs : (r.database.view i).Intact)
    (ht : Operation.effectiveTime r.clock now = .ok t)
    (h : ((Step.sweepAt i now).run r).1 = .leaf (.ok answer) events) :
    (∃ count, answer = .count count ∧ (r.database.view i).Swept t
        (((Step.sweepAt i now).run r).2.database.view i) count) ∧
      r.SameLookups ((Step.sweepAt i now).run r).2 t := by
  have hl : r.database.lockedFor i = false := (Step.run_of_ok rfl h).1
  rw [Step.run_sweepAt hl ht] at h ⊢
  cases h
  refine ⟨⟨_, rfl, ?_⟩, Registry.sameLookups_put hv hl⟩
  show (r.database.view i).Swept t ((r.database.put i _).view i) _
  rw [Database.view_put]
  exact hs.swept t

/-- Sweeps do together what the latest of them does alone. -/
theorem Script.run_sweeps_of_max {nows : List (Option Stamp)} {last : Option Stamp} {top : Instant}
    (hlast : Operation.effectiveTime r.clock last = .ok top)
    (hmem : ∃ now ∈ nows, Operation.effectiveTime r.clock now = .ok top)
    (hmax : ∀ now ∈ nows, ∃ t, Operation.effectiveTime r.clock now = .ok t ∧ t ≤ top) :
    (Script.run r (nows.map (Step.sweepAt i))).2 = ((Step.sweepAt i last).run r).2 ∧
      ∀ answer events, ((Step.sweepAt i last).run r).1 = .leaf (.ok answer) events →
        ∃ counts : List Nat, (Script.run r (nows.map (Step.sweepAt i))).1 = counts.map Report.swept ∧
          answer = .count counts.sum := by
  have htop : top ∈ Operation.times r.clock nows := Operation.mem_times.2 hmem
  have hle : ∀ t ∈ Operation.times r.clock nows, t ≤ top := by
    intro t ht
    obtain ⟨now, hnow, htime⟩ := Operation.mem_times.1 ht
    obtain ⟨t', ht', hle⟩ := hmax now hnow
    cases htime.symm.trans ht'
    exact hle
  have htimes : ∀ now ∈ nows, ∃ t, Operation.effectiveTime r.clock now = .ok t := fun now hnow =>
    (hmax now hnow).imp fun t ht => ht.1
  cases nows with
  | nil =>
    obtain ⟨now, hnow, -⟩ := hmem
    cases hnow
  | cons first rest =>
    cases hl : r.database.lockedFor i with
    | true =>
      rw [Script.run_sweeps_locked hl htimes, Step.run_sweepAt_locked hl hlast]
      exact ⟨rfl, nofun⟩
    | false =>
      obtain ⟨counts, hrun, hsum⟩ := Script.run_sweeps hl htimes
      have hcount := (r.database.view i).count_sweepWatchers top
      rw [Store.sweepAll_of_max htop hle] at hrun hsum
      rw [hrun, Step.run_sweepAt hl hlast]
      refine ⟨rfl, fun answer events h => ⟨counts, rfl, ?_⟩⟩
      cases h
      exact congrArg Answer.count (by omega)

/-- The sweep of a worker that has no transaction open is one of the committed store. -/
theorem Step.swept_of_worker (hv : r.database.Valid) (hs : r.database.committed.Intact)
    (hw : r.database.transaction? .worker = none)
    (h : (Step.sweep.run r).1 = .leaf (.ok answer) events) :
    (∃ count, answer = .count count ∧ events = Event.ofSweep count ++ [.sweepFinished count] ∧
        r.database.committed.Swept r.clock (Step.sweep.run r).2.database.committed count) ∧
      r.SameLookups (Step.sweep.run r).2 r.clock := by
  obtain ⟨hl, hanswer, hevents, hrun⟩ := Step.run_sweep_of_ok h
  have hview : r.database.view .worker = r.database.committed := Database.view_of_none hw
  rw [hrun]
  refine ⟨⟨_, hanswer, hevents, ?_⟩, Registry.sameLookups_put hv hl⟩
  show r.database.committed.Swept r.clock (r.database.put .worker _).committed _
  rw [Database.put_of_none hw, hview]
  exact hs.swept r.clock

end Points

/-- **Sweeps and lookups draw the line in the same place.** At every point of a run from the empty
store, a sweep at a time that succeeds removes the watchers that are not found at that time by the
lookups that are for them, counts them, changes nothing else, and leaves the answers of all lookups
at that time or later as they are. Sweeps one after the other, in whatever order, end where the
latest of them alone ends, and their counts add up to its count. The worker's sweep does the same to
the committed store at the time of the clock, if nobody else acts for the worker. -/
theorem Script.sweeps_exact (script : Script) (clock : Instant) (n : Nat) :
    let r := script.stateAt (.start clock .empty) n
    (∀ i now t answer events, let after := (Step.sweepAt i now).run r
      Operation.effectiveTime r.clock now = .ok t → after.1 = .leaf (.ok answer) events →
        (∃ count, answer = .count count ∧
          (r.database.view i).Swept t (after.2.database.view i) count) ∧
        r.SameLookups after.2 t) ∧
      (∀ i (nows : List (Option Stamp)) last top, let once := (Step.sweepAt i last).run r
        let all := Script.run r (nows.map (Step.sweepAt i))
        Operation.effectiveTime r.clock last = .ok top →
        (∃ now ∈ nows, Operation.effectiveTime r.clock now = .ok top) →
        (∀ now ∈ nows, ∃ t, Operation.effectiveTime r.clock now = .ok t ∧ t ≤ top) →
          all.2 = once.2 ∧ ∀ answer events, once.1 = .leaf (.ok answer) events →
            ∃ counts : List Nat, all.1 = counts.map Report.swept ∧ answer = .count counts.sum) ∧
      (Step.allByCallers script = true → ∀ answer events, let after := Step.sweep.run r
        after.1 = .leaf (.ok answer) events →
          (∃ count, answer = .count count ∧
            events = Event.ofSweep count ++ [.sweepFinished count] ∧
            r.database.committed.Swept r.clock after.2.database.committed count) ∧
          r.SameLookups after.2 r.clock) := by
  intro r
  have hv : r.database.Valid := (script.tells clock .empty n).valid
  refine ⟨?_, ?_, ?_⟩
  · intro i now t answer events after ht h
    exact Step.swept_of_ok hv (script.intact_view clock n i) ht h
  · intro i nows last top once all hlast hmem hmax
    exact Script.run_sweeps_of_max hlast hmem hmax
  · intro hcallers answer events after h
    have hcommitted := script.intact_committed clock n
    exact Step.swept_of_worker hv hcommitted (script.transaction?_worker hcallers n) h

end SubscriptionRegistry
