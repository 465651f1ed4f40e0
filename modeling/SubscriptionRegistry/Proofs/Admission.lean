import SubscriptionRegistry.Proofs.Outcome
import SubscriptionRegistry.Proofs.Placement
import SubscriptionRegistry.Proofs.ProjectHistory
import SubscriptionRegistry.Proofs.WriterLock

/-!
# Admission of requests

A call that stores a row by its key may meet several obstacles at once: a key of the wrong length, a
time outside the calendar, another session that is writing, a constraint of the tables. They are met
in a fixed order, and the first of them decides what the call fails with. Where there is none the
call succeeds.

* `Report.DecidedBy`: the first objection that holds decides a report.
* `Store.AdmitsSubscriber`, `Store.HasSubscription`, `Store.AdmitsProject`, `Store.AdmitsWatcher`:
  what a store asks of a request, in terms of its rows.
* `Subscriber.Entry.row_ok`, `Project.Upsert.row_ok`, `Watcher.Entry.row_ok`: when there is a row to
  be stored.
* `Operation.decided_upsertSubscriber` and its like: one call, as its session sees the store.
* `Script.upserts_decided`: the calls at every point of a run.
-/

namespace SubscriptionRegistry

/-! ## Objections -/

/-- A reason to turn a call down, and the faults with which the call then ends. -/
structure Objection where
  holds : Prop
  faults : Fault → Prop

/-- The first objection that holds turns the call down. If none does, the call succeeds. -/
def Report.DecidedBy (report : Report) : List Objection → Prop
  | [] => ∃ answer events, report = .leaf (.ok answer) events
  | o :: os =>
    (o.holds → ∃ f, o.faults f ∧ report = .leaf (.error f) []) ∧ (¬ o.holds → report.DecidedBy os)

/-- What a caller sees where another session is writing. -/
def Fault.busy : Fault := .registry ⟨.transient, "(sqlite3.OperationalError) database is locked"⟩

/-- What a caller sees of a violated constraint. -/
def Fault.IsConflict (f : Fault) : Prop := ∃ v : Violation, f = .registry ⟨.conflict, v.message⟩

namespace Report

variable {report : Report} {o : Objection} {os : List Objection} {f : Fault}

theorem DecidedBy.of_holds (h : o.holds) (hf : o.faults f) (hr : report = .leaf (.error f) []) :
    report.DecidedBy (o :: os) :=
  ⟨fun _ => ⟨f, hf, hr⟩, fun hn => absurd h hn⟩

theorem DecidedBy.of_not (h : ¬ o.holds) (hr : report.DecidedBy os) : report.DecidedBy (o :: os) :=
  ⟨fun ho => absurd ho h, fun _ => hr⟩

/-- An objection to the inputs, which turns a call down before its statement is prepared. -/
theorem decidedBy_cons {clock : Instant} {locked : Bool} {s : Store} {op : Operation}
    (herror : o.holds → ∃ f, op.prepare clock = .error f ∧ o.faults f.surface)
    (hok : ¬ o.holds → (op.outcome locked clock s).1.DecidedBy os) :
    (op.outcome locked clock s).1.DecidedBy (o :: os) := by
  by_cases h : o.holds
  · obtain ⟨f, hp, hf⟩ := herror h
    exact .of_holds h hf (congrArg Prod.fst (Operation.outcome_of_error hp))
  · exact .of_not h (hok h)

end Report

namespace Operation

variable {clock : Instant} {locked : Bool} {s : Store} {op : Operation}
  {run : Routine} {admitted : Prop}

/-- A call whose inputs are accepted is turned down if another session is writing, or if its
statement fails. -/
theorem decided_of_write {faults : Fault → Prop} (hp : op.prepare clock = .ok (.write run))
    (hok : admitted → ∃ p, run s = .ok p)
    (herror : ¬ admitted → ∃ f, run s = .error f ∧ faults f.surface) :
    (op.outcome locked clock s).1.DecidedBy
      [⟨locked = true, (· = .busy)⟩, ⟨¬ admitted, faults⟩] := by
  cases locked with
  | true => exact .of_holds rfl rfl (by rw [outcome_of_locked hp]; rfl)
  | false =>
    refine .of_not Bool.false_ne_true ?_
    rw [outcome_of_write hp]
    by_cases h : admitted
    · obtain ⟨p, hr⟩ := hok h
      exact .of_not (not_not_intro h) ⟨_, _, by rw [hr]⟩
    · obtain ⟨f, hr, hf⟩ := herror h
      exact .of_holds h hf (by rw [hr])

/-- A write fails with a conflict where a constraint leaves it nothing to store. -/
theorem decided_of_constrained {x : Except Violation α} {g : α → Except Fault (Store × Reply)}
    (hp : op.prepare clock = .ok (.write run)) (hrun : run s = constrained x >>= g)
    (hg : ∀ a, ∃ p, g a = .ok p) (hx : (∃ a, x = .ok a) ↔ admitted) :
    (op.outcome locked clock s).1.DecidedBy
      [⟨locked = true, (· = .busy)⟩, ⟨¬ admitted, Fault.IsConflict⟩] := by
  refine decided_of_write hp (fun h => ?_) (fun h => ?_)
  · obtain ⟨a, rfl⟩ := hx.2 h
    rw [hrun]
    exact hg a
  · cases x with
    | ok a => exact absurd (hx.1 ⟨a, rfl⟩) h
    | error v => exact ⟨v.fault, hrun, v, rfl⟩

end Operation

/-! ## Times of requests -/

/-- The number is that of a microsecond of the years 1 to 9999. -/
def InCalendar (micros : Int) : Prop :=
  0 ≤ micros ∧ micros < (daysBeforeYear 10000 * microsPerDay : Nat)

theorem Instant.ofMicros_of_inCalendar {n : Int} (h : InCalendar n) :
    ∃ t : Instant, ofMicros n = .ok t ∧ t.micros = n := by
  refine ⟨_, dif_pos h, ?_⟩
  exact Int.toNat_of_nonneg h.1

theorem Instant.ofMicros_of_not_inCalendar {n : Int} (h : ¬ InCalendar n) :
    ofMicros n = .error .outOfRange :=
  dif_neg h

namespace Operation

variable {clock : Instant} {now : Option Stamp}

/-- The time of a request in microseconds of universal time: that of the caller, or the clock. -/
def requestedMicros (clock : Instant) : Option Stamp → Int
  | none => clock.micros
  | some stamp => stamp.micros

/-- Both the time of the request and the time 30 days later are in the calendar. -/
def HasTerm (clock : Instant) (now : Option Stamp) : Prop :=
  InCalendar (requestedMicros clock now) ∧
    InCalendar (requestedMicros clock now + 30 * 86400 * 1000000)

theorem effectiveTime_of_inCalendar (h : InCalendar (requestedMicros clock now)) :
    ∃ t, effectiveTime clock now = .ok t ∧ t.micros = requestedMicros clock now := by
  cases now with
  | none => exact ⟨clock, rfl, rfl⟩
  | some stamp =>
    obtain ⟨t, ht, hm⟩ := Instant.ofMicros_of_inCalendar h
    have hutc : stamp.toUtc = .ok t := ht
    refine ⟨t, ?_, hm⟩
    rw [effectiveTime, hutc]
    rfl

theorem effectiveTime_of_not_inCalendar (h : ¬ InCalendar (requestedMicros clock now)) :
    effectiveTime clock now = .error (.rejected (.time .outOfRange)) := by
  cases now with
  | none => exact absurd ⟨Int.natCast_nonneg _, Int.ofNat_lt.2 clock.inRange⟩ h
  | some stamp =>
    have hutc : stamp.toUtc = .error .outOfRange := Instant.ofMicros_of_not_inCalendar h
    rw [effectiveTime, hutc]
    rfl

theorem subscriptionTerm_eq : (subscriptionTerm : Int) = 30 * 86400 * 1000000 := by
  simp only [subscriptionTerm, microsPerDay]
  omega

/-- The times of a request that has a term. -/
theorem times_of_hasTerm (h : HasTerm clock now) :
    ∃ t expiry, effectiveTime clock now = .ok t ∧ termEnd t = .ok expiry := by
  obtain ⟨t, ht, hm⟩ := effectiveTime_of_inCalendar h.1
  have hterm : InCalendar (t.micros + subscriptionTerm) := by
    rw [hm, subscriptionTerm_eq]
    exact h.2
  obtain ⟨expiry, he, -⟩ := Instant.ofMicros_of_inCalendar hterm
  have hadd : t.add subscriptionTerm = .ok expiry := he
  refine ⟨t, expiry, ht, ?_⟩
  rw [termEnd, hadd]
  rfl

/-- A request without a term is turned down, at its time or at the end of its term. -/
theorem bind_of_not_hasTerm (h : ¬ HasTerm clock now) (g : Instant → Instant → Except Fault α) :
    (do let t ← effectiveTime clock now; let expiry ← termEnd t; g t expiry) =
      .error (.rejected (.time .outOfRange)) := by
  by_cases hnow : InCalendar (requestedMicros clock now)
  · obtain ⟨t, ht, hm⟩ := effectiveTime_of_inCalendar hnow
    have hterm : ¬ InCalendar (t.micros + subscriptionTerm) := by
      rw [hm, subscriptionTerm_eq]
      exact fun hend => h ⟨hnow, hend⟩
    have he : termEnd t = .error (.rejected (.time .outOfRange)) := by
      have hadd : t.add subscriptionTerm = .error .outOfRange :=
        Instant.ofMicros_of_not_inCalendar hterm
      rw [termEnd, hadd]
      rfl
    exact (bind_of_ok ht _).trans (bind_of_error he _)
  · exact bind_of_error (effectiveTime_of_not_inCalendar hnow) _

theorem boundTime_of_not_inCalendar {stamp : Stamp} (h : ¬ InCalendar stamp.micros) :
    boundTime (some stamp) = .error (.store (.unbindable .outOfRange)) := by
  have hutc : stamp.toUtc = .error .outOfRange := Instant.ofMicros_of_not_inCalendar h
  rw [boundTime, hutc]
  rfl

theorem boundTime_of_inCalendar {expiry : Option Stamp}
    (h : ∀ stamp, expiry = some stamp → InCalendar stamp.micros) :
    ∃ t, boundTime expiry = .ok t ∧ (t ≠ none ↔ expiry ≠ none) := by
  cases expiry with
  | none => exact ⟨none, rfl, iff_of_false (absurd rfl) (absurd rfl)⟩
  | some stamp =>
    obtain ⟨t, ht, -⟩ := Instant.ofMicros_of_inCalendar (h stamp rfl)
    have hutc : stamp.toUtc = .ok t := ht
    refine ⟨some t, ?_, iff_of_true nofun nofun⟩
    rw [boundTime, hutc]
    rfl

/-- A draft that is no key pair has issues. -/
theorem validKeyPair_of_not {d : KeyPair.Draft} (h : ¬ ∃ k : KeyPair, d = k.draft) :
    ∃ issues, validKeyPair d = .error (.rejected (.invalid issues)) := by
  unfold validKeyPair
  cases hd : d.validate with
  | ok k => exact absurd ⟨k, KeyPair.validate_eq_ok.1 hd⟩ h
  | error issues => exact ⟨issues, rfl⟩

end Operation

/-! ## Rows to be stored -/

theorem Subscriber.Entry.row_ok {e : Subscriber.Entry} {stored : Option Subscriber}
    {taken known : Bool} : (∃ x, e.row stored taken known = .ok x) ↔
      e.project ≠ none ∧ e.account ≠ none ∧ e.topic ≠ none ∧
        (stored ≠ none ∨ (known = true ∧ taken = false)) := by
  unfold row
  cases e.project <;> cases e.account <;> cases e.topic <;> cases stored <;> cases taken <;>
    cases known <;> simp [required, bind, Except.bind]

theorem Watcher.Entry.row_ok {e : Watcher.Entry} {stored : Option Watcher} {taken known : Bool} :
    (∃ w, e.row stored taken known = .ok w) ↔
      e.account ≠ none ∧ e.didKey ≠ none ∧ e.symKey ≠ none ∧ e.expiry ≠ none ∧
        known = true ∧ (stored ≠ none ∨ taken = false) := by
  unfold row
  cases e.account <;> cases e.didKey <;> cases e.symKey <;> cases e.expiry <;> cases stored <;>
    cases taken <;> cases known <;> simp [required, bind, Except.bind]

theorem Project.Upsert.row_ok {r : Project.Upsert} {now : Instant} {stored : Option Project}
    {clash taken : Bool} : (∃ p, r.row now stored clash taken = .ok p) ↔
      r.projectId ≠ none ∧ r.appDomain ≠ none ∧ r.topic ≠ none ∧ clash = false ∧
        (stored ≠ none ∨ taken = false) := by
  unfold row
  cases r.projectId <;> cases r.appDomain <;> cases r.topic <;> cases stored <;> cases clash <;>
    cases taken <;> simp [required, bind, Except.bind]

theorem exists_map_ok {x : Except ε α} {f : α → β} : (∃ b, x.map f = .ok b) ↔ ∃ a, x = .ok a := by
  cases x <;> simp [Except.map]

/-! ## What a store asks of a request -/

theorem find?_key_ne_none {key : α → κ} [DecidableEq κ] {rows : List α} {k : κ} :
    rows.find? (key · = k) ≠ none ↔ ∃ x ∈ rows, k = key x := by
  rw [Option.ne_none_iff_isSome, List.find?_isSome]
  refine exists_congr fun x => and_congr_right fun _ => ?_
  rw [decide_eq_true_eq]
  exact eq_comm

namespace Store

/-- A row is stored for the subscription of an account to a project. -/
def HasSubscription (s : Store) (project : Option Uuid) (account : Option String) : Prop :=
  ∃ x ∈ s.subscribers, project = some x.project ∧ account = some x.account

/-- What a request for a subscription needs: its texts, and a row of the subscription, or its
project and an id for a new row. -/
structure AdmitsSubscriber (s : Store) (q : Subscriber.Upsert) : Prop where
  project : q.project ≠ none
  account : q.account ≠ none
  topic : q.topic ≠ none
  row : s.HasSubscription q.project q.account ∨
    ((∃ p ∈ s.projects, q.project = some p.id) ∧ ∀ x ∈ s.subscribers, x.id ≠ q.newId)

/-- What a request for a project needs: its texts, an app domain that is not that of another
project, and a row of the project or an id for a new one. -/
structure AdmitsProject (s : Store) (q : Project.Request) : Prop where
  projectId : q.projectId ≠ none
  appDomain : q.appDomain ≠ none
  topic : q.topic ≠ none
  free : ∀ p ∈ s.projects, q.projectId ≠ some p.projectId → q.appDomain ≠ some p.appDomain
  row : (∃ p ∈ s.projects, q.projectId = some p.projectId) ∨ ∀ p ∈ s.projects, p.id ≠ q.newId

/-- What a request for a watcher needs: its texts and its expiry, the project that it names, and a
row of the watcher or an id for a new one. -/
structure AdmitsWatcher (s : Store) (q : Watcher.Upsert) : Prop where
  account : q.account ≠ none
  didKey : q.didKey ≠ none
  symKey : q.symKey ≠ none
  expiry : q.expiry ≠ none
  project : ∀ id, q.project = some id → ∃ p ∈ s.projects, p.id = id
  row : (∃ w ∈ s.watchers, q.didKey = some w.didKey) ∨ ∀ w ∈ s.watchers, w.id ≠ q.newId

variable {s : Store}

theorem subscription?_ne_none {project : Option Uuid} {account : Option String} :
    s.subscription? (project, account) ≠ none ↔ s.HasSubscription project account :=
  find?_key_ne_none.trans (exists_congr fun _ => and_congr_right fun _ => by
    rw [Subscriber.key, Prod.mk.injEq])

theorem watcher?_ne_none {didKey : Option String} :
    s.watcher? didKey ≠ none ↔ ∃ w ∈ s.watchers, didKey = some w.didKey :=
  find?_key_ne_none

theorem project?_ne_none {projectId : Option String} :
    s.project? projectId ≠ none ↔ ∃ p ∈ s.projects, projectId = some p.projectId :=
  find?_key_ne_none

theorem any_id_eq_false {id : α → Uuid} {rows : List α} {u : Uuid} :
    rows.any (id · = u) = false ↔ ∀ x ∈ rows, id x ≠ u := by
  simp only [List.any_eq_false, decide_eq_true_eq, ne_eq]

theorem clashes_eq_false {projectId appDomain : Option String} :
    s.clashes projectId appDomain = false ↔
      ∀ p ∈ s.projects, projectId ≠ some p.projectId → appDomain ≠ some p.appDomain := by
  unfold clashes Project.key
  rw [List.any_eq_false]
  refine forall₂_congr fun p _ => ?_
  rw [decide_eq_true_eq, not_and]
  exact imp_congr (not_congr eq_comm) (not_congr eq_comm)

theorem admitsSubscriber_iff {q : Subscriber.Upsert} :
    s.AdmitsSubscriber q ↔ q.project ≠ none ∧ q.account ≠ none ∧ q.topic ≠ none ∧
      (s.subscription? (q.project, q.account) ≠ none ∨
        (s.knowsProject q.project = true ∧ s.takesSubscriber q.newId = false)) := by
  have hknown (hp : q.project ≠ none) :
      s.knowsProject q.project = true ↔ ∃ p ∈ s.projects, q.project = some p.id := by
    rw [knowsProject_iff]
    cases hq : q.project with
    | none => exact absurd hq hp
    | some id => simp [eq_comm]
  rw [subscription?_ne_none, takesSubscriber, any_id_eq_false]
  constructor
  · rintro ⟨hp, ha, ht, hrow⟩
    exact ⟨hp, ha, ht, hrow.imp_right (And.imp_left (hknown hp).2)⟩
  · rintro ⟨hp, ha, ht, hrow⟩
    exact ⟨hp, ha, ht, hrow.imp_right (And.imp_left (hknown hp).1)⟩

theorem admitsProject_iff {q : Project.Request} :
    s.AdmitsProject q ↔ q.projectId ≠ none ∧ q.appDomain ≠ none ∧ q.topic ≠ none ∧
      s.clashes q.projectId q.appDomain = false ∧
        (s.project? q.projectId ≠ none ∨ s.takesProject q.newId = false) := by
  rw [project?_ne_none, clashes_eq_false, takesProject, any_id_eq_false]
  exact ⟨fun h => ⟨h.projectId, h.appDomain, h.topic, h.free, h.row⟩,
    fun ⟨hi, ha, ht, hfree, hrow⟩ => ⟨hi, ha, ht, hfree, hrow⟩⟩

theorem admitsWatcher_iff {q : Watcher.Upsert} :
    s.AdmitsWatcher q ↔ q.account ≠ none ∧ q.didKey ≠ none ∧ q.symKey ≠ none ∧ q.expiry ≠ none ∧
      s.knowsProject q.project = true ∧
        (s.watcher? q.didKey ≠ none ∨ s.takesWatcher q.newId = false) := by
  rw [watcher?_ne_none, knowsProject_iff, takesWatcher, any_id_eq_false]
  exact ⟨fun h => ⟨h.account, h.didKey, h.symKey, h.expiry, h.project, h.row⟩,
    fun ⟨ha, hd, hs, he, hp, hrow⟩ => ⟨ha, hd, hs, he, hp, hrow⟩⟩

end Store

/-! ## Calls -/

namespace Operation

variable {s : Store} (h : s.Intact) (locked : Bool) (clock : Instant)
include h

/-- A request for a subscription is turned down by its key, then by its times, then by another
session, then by the constraints of the tables. -/
theorem decided_upsertSubscriber (q : Subscriber.Upsert) :
    ((upsertSubscriber q).outcome locked clock s).1.DecidedBy
      [⟨q.notifyKey.length ≠ 32, (· = .rejected .keyLength)⟩,
        ⟨¬ HasTerm clock q.now, (· = .rejected (.time .outOfRange))⟩,
        ⟨locked = true, (· = .busy)⟩,
        ⟨¬ s.AdmitsSubscriber q, Fault.IsConflict⟩] := by
  refine Report.decidedBy_cons (fun hk => ⟨_, if_pos hk, rfl⟩) fun hk => ?_
  refine Report.decidedBy_cons (fun hn => ⟨_, (if_neg hk).trans (bind_of_not_hasTerm hn _), rfl⟩)
    fun hn => ?_
  obtain ⟨now, expiry, ht, he⟩ := times_of_hasTerm (Classical.not_not.1 hn)
  refine decided_of_constrained ((if_neg hk).trans ((bind_of_ok ht _).trans (bind_of_ok he _)))
    (subscriberWrite_whole _ _ s) (fun _ => ⟨_, rfl⟩) ?_
  rw [h.upsertSubscriber_eq, exists_map_ok, Subscriber.Entry.row_ok, Store.admitsSubscriber_iff]

/-- A renewal is turned down by its times, then by another session, then because there is no row. -/
theorem decided_renewSubscriber (q : Subscriber.Renewal) :
    ((renewSubscriber q).outcome locked clock s).1.DecidedBy
      [⟨¬ HasTerm clock q.now, (· = .rejected (.time .outOfRange))⟩,
        ⟨locked = true, (· = .busy)⟩,
        ⟨¬ s.HasSubscription q.project q.account,
          (· = .registry ⟨.notFound, "Subscriber not found"⟩)⟩] := by
  refine Report.decidedBy_cons (fun hn => ⟨_, bind_of_not_hasTerm hn _, rfl⟩) fun hn => ?_
  obtain ⟨now, expiry, ht, he⟩ := times_of_hasTerm (Classical.not_not.1 hn)
  refine decided_of_write ((bind_of_ok ht _).trans (bind_of_ok he _)) ?_ ?_
  all_goals
    rw [← Store.subscription?_ne_none, renewalWrite_whole, h.renewSubscriber_eq]
    cases s.subscription? (q.project, q.account)
  · exact fun hne => absurd rfl hne
  · exact fun _ => ⟨_, rfl⟩
  · exact fun _ => ⟨_, rfl, rfl⟩
  · exact fun hne => absurd (Option.some_ne_none _) hne

/-- A request for a project is turned down by its key pairs, then by another session, then by the
constraints of the tables. -/
theorem decided_upsertProject (q : Project.Request) :
    ((upsertProject q).outcome locked clock s).1.DecidedBy
      [⟨¬ ((∃ a : KeyPair, q.authentication = a.draft) ∧ ∃ b : KeyPair, q.subscription = b.draft),
          fun f => ∃ issues, f = .rejected (.invalid issues)⟩,
        ⟨locked = true, (· = .busy)⟩,
        ⟨¬ s.AdmitsProject q, Fault.IsConflict⟩] := by
  refine Report.decidedBy_cons (fun hk => ?_) fun hk => ?_
  · -- The pair of the subscriptions is only looked at if that of the authentication is valid.
    by_cases ha : ∃ a : KeyPair, q.authentication = a.draft
    · obtain ⟨issues, hb⟩ := validKeyPair_of_not fun hb => hk ⟨ha, hb⟩
      obtain ⟨a, ha⟩ := ha
      exact ⟨_, (bind_of_ok (validKeyPair_eq_ok.2 ha) _).trans (bind_of_error hb _), issues, rfl⟩
    · obtain ⟨issues, ha⟩ := validKeyPair_of_not ha
      exact ⟨_, bind_of_error ha _, issues, rfl⟩
  · obtain ⟨⟨a, ha⟩, b, hb⟩ := Classical.not_not.1 hk
    refine decided_of_constrained ((bind_of_ok (validKeyPair_eq_ok.2 ha) _).trans
      (bind_of_ok (validKeyPair_eq_ok.2 hb) _)) rfl (fun _ => ⟨_, rfl⟩) ?_
    rw [h.upsertProject_eq, exists_map_ok, Project.Upsert.row_ok, Store.admitsProject_iff]

/-- A request for a watcher is turned down by its expiry, which cannot be bound to its statement,
then by another session, then by the constraints of the tables. -/
theorem decided_upsertWatcher (q : Watcher.Upsert) :
    ((upsertWatcher q).outcome locked clock s).1.DecidedBy
      [⟨∃ stamp, q.expiry = some stamp ∧ ¬ InCalendar stamp.micros,
          (· = .registry ⟨.fatal, "(builtins.OverflowError) date value out of range"⟩)⟩,
        ⟨locked = true, (· = .busy)⟩,
        ⟨¬ s.AdmitsWatcher q, Fault.IsConflict⟩] := by
  refine Report.decidedBy_cons ?_ fun he => ?_
  · rintro ⟨stamp, hstamp, hout⟩
    have he : boundTime q.expiry = .error (.store (.unbindable .outOfRange)) := by
      rw [hstamp, boundTime_of_not_inCalendar hout]
    exact ⟨_, bind_of_error he _, rfl⟩
  · have hin : ∀ stamp, q.expiry = some stamp → InCalendar stamp.micros := fun stamp hstamp =>
      Classical.not_not.1 fun hout => he ⟨stamp, hstamp, hout⟩
    obtain ⟨expiry, he, hnone⟩ := boundTime_of_inCalendar hin
    refine decided_of_constrained (bind_of_ok he _) rfl (fun _ => ⟨_, rfl⟩) ?_
    rw [h.upsertWatcher_eq, exists_map_ok, Watcher.Entry.row_ok, Store.admitsWatcher_iff, hnone]

end Operation

/-! ## Scopes that are replaced -/

namespace Store

variable {s : Store}

/-- A request writes its row and then replaces the scope, which does not fail. -/
theorem upsertSubscriber_eq_replaceScope (s : Store) (e : Subscriber.Entry) (scope : Scope) :
    s.upsertSubscriber e scope = (do
      let (s', id) ← s.writeSubscriber e
      let s'' ← s'.replaceScope (some id) scope
      .ok (s'', id)) := by
  unfold upsertSubscriber
  cases h : s.writeSubscriber e with
  | error v => rfl
  | ok p =>
    simp only [bind, Except.bind, replaceScope_of_stored (exists_of_writeSubscriber h) scope]

/-- A renewal extends the row that it finds and then replaces the scope, which does not fail. -/
theorem Intact.renewSubscriber_eq_replaceScope (h : s.Intact) (project : Option Uuid)
    (account : Option String) (scope : Scope) (now expiry : Instant) :
    s.renewSubscriber project account scope now expiry =
      (s.subscription? (project, account)).bind fun x =>
        ((s.placeSubscriber (x.renewed now expiry)).replaceScope (some x.id) scope).toOption.map
          fun s' => (s', x.renewed now expiry) := by
  rw [h.renewSubscriber_eq]
  cases s.subscription? (project, account) with
  | none => rfl
  | some x =>
    have hrow : ∃ y ∈ (s.placeSubscriber (x.renewed now expiry)).subscribers, y.id = x.id :=
      ⟨_, mem_place.2 (.inl rfl), rfl⟩
    simp only [Option.map_some, Option.bind_some, replaceScope_of_stored hrow scope]
    rfl

end Store

/-! ## Every point of a run -/

/-- **The first obstacle decides what an upsert fails with, and without one it succeeds.** At every
point of a run from the empty store:

* A request for a subscription is turned down by a key that is not 32 bytes, then by a time that
  leaves the years 1 to 9999 now or 30 days later, then by another session that is the writer. What
  is left succeeds exactly if project, account and topic are there and either the subscription is
  stored or its project is and the new id is not that of a subscriber, and is a conflict otherwise.
* A renewal is turned down by its times and by another writer in the same way, and then succeeds
  exactly if the subscription is stored.
* A request for a project with valid key pairs is turned down by another writer. What is left
  succeeds exactly if external id, app domain and topic are there, no project with another external
  id has the app domain, and either the project is stored or the new id is not that of a project,
  and is a conflict otherwise.
* A request for a watcher is turned down by an expiry outside the calendar, then by another writer.
  What is left succeeds exactly if account, did key, symmetric key and expiry are there, the project
  is stored if there is one, and either the watcher is stored or the new id is not that of a
  watcher, and is a conflict otherwise.

The scope that is replaced after the row has been written is never what fails. -/
theorem Script.upserts_decided (script : Script) (clock : Instant) (n : Nat) (i : SessionId) :
    let r := script.stateAt (.start clock .empty) n
    let s := r.database.view i
    let report := fun op => ((Step.act i (.call op)).run r).1
    let locked := ∃ k, k ≠ i ∧ script.IsWriterAt (.start clock .empty) n k
    (∀ q, (report (.upsertSubscriber q)).DecidedBy
        [⟨q.notifyKey.length ≠ 32, (· = .rejected .keyLength)⟩,
          ⟨¬ Operation.HasTerm r.clock q.now, (· = .rejected (.time .outOfRange))⟩,
          ⟨locked, (· = .busy)⟩,
          ⟨¬ s.AdmitsSubscriber q, Fault.IsConflict⟩]) ∧
      (∀ q, (report (.renewSubscriber q)).DecidedBy
        [⟨¬ Operation.HasTerm r.clock q.now, (· = .rejected (.time .outOfRange))⟩,
          ⟨locked, (· = .busy)⟩,
          ⟨¬ s.HasSubscription q.project q.account,
            (· = .registry ⟨.notFound, "Subscriber not found"⟩)⟩]) ∧
      (∀ q, (report (.upsertProject q)).DecidedBy
        [⟨¬ ((∃ a : KeyPair, q.authentication = a.draft) ∧ ∃ b : KeyPair, q.subscription = b.draft),
            fun f => ∃ issues, f = .rejected (.invalid issues)⟩,
          ⟨locked, (· = .busy)⟩,
          ⟨¬ s.AdmitsProject q, Fault.IsConflict⟩]) ∧
      (∀ q, (report (.upsertWatcher q)).DecidedBy
        [⟨∃ stamp, q.expiry = some stamp ∧ ¬ InCalendar stamp.micros,
            (· = .registry ⟨.fatal, "(builtins.OverflowError) date value out of range"⟩)⟩,
          ⟨locked, (· = .busy)⟩,
          ⟨¬ s.AdmitsWatcher q, Fault.IsConflict⟩]) ∧
      (∀ e scope, s.upsertSubscriber e scope = (do
        let (s', id) ← s.writeSubscriber e
        let s'' ← s'.replaceScope (some id) scope
        .ok (s'', id))) ∧
      ∀ project account scope now expiry, s.renewSubscriber project account scope now expiry =
        (s.subscription? (project, account)).bind fun x =>
          ((s.placeSubscriber (x.renewed now expiry)).replaceScope (some x.id) scope).toOption.map
            fun s' => (s', x.renewed now expiry) := by
  intro r s report locked
  have hs : s.Intact := script.intact_view clock n i
  have hv : r.database.Valid := (script.tells clock .empty n).valid
  have hlocked : (r.database.lockedFor i = true) = locked := by
    rw [hv.lockedFor_iff]
    simp only [locked, Script.isWriterAt_iff]
    rfl
  have hreport (op : Operation) :
      report op = (op.outcome (r.database.lockedFor i) r.clock s).1 := Step.report_callOf r i op
  simp only [hreport, ← hlocked]
  exact ⟨Operation.decided_upsertSubscriber hs _ _, Operation.decided_renewSubscriber hs _ _,
    Operation.decided_upsertProject hs _ _, Operation.decided_upsertWatcher hs _ _,
    s.upsertSubscriber_eq_replaceScope, hs.renewSubscriber_eq_replaceScope⟩

end SubscriptionRegistry
