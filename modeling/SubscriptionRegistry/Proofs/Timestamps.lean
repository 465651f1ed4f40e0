import SubscriptionRegistry.Proofs.Admission
import SubscriptionRegistry.Proofs.Serial
import SubscriptionRegistry.Proofs.Sweep
import SubscriptionRegistry.Proofs.TimeTexts

/-!
# Times are instants

A caller writes a time in any notation, and the registry turns it into an instant of universal time.
All that it does with the time depends on the instant alone.

* `Spelling.micros`: the instant that a written time denotes. `Spelling.micros_stamp_of_le`: it is
  read as that, unless its offset is less than a second. `Spelling.micros_stamp_of_lt`: such an
  offset is left out. `Stamp.offset_below_second_lost`: then the two differ.
* `Instant.Shows`: a date and a time of day that are those of an instant. `Stamp.shows_toUtc`: a
  stamp is turned into them.
* `Operation.lt_expiry_iff`: whether a watcher is over at the time of a request.
* `Date.later?_eq_none`, `Operation.termEnd_spec`: the end of a subscription, 30 days later.
* `Stamp.plain`, `Step.plain`: one notation for each instant. `Script.run_plain`: a run does not
  depend on the notations.
* `Stamp.times_exact`: the whole of it.
-/

namespace SubscriptionRegistry

/-! ## Instants of written times -/

/-- The instant that a written time denotes, in microseconds from the first of the year 1. -/
def Spelling.micros (w : Spelling) : Int :=
  (w.date.dayNumber * microsPerDay + w.clock.micros : Nat) - (w.offset.map Offset.micros).getD 0

theorem Spelling.micros_stamp (w : Spelling) : w.stamp.micros =
    (w.date.dayNumber * microsPerDay + w.clock.micros : Nat) - (w.offset.map Offset.counted).getD 0 :=
  rfl

/-- A time is read as the instant that it denotes, if its offset is none or at least a second. -/
theorem Spelling.micros_stamp_of_le {w : Spelling}
    (h : ∀ o, w.offset = some o → o.distance = 0 ∨ 1000000 ≤ o.distance) :
    w.stamp.micros = w.micros := by
  have hoffset : w.offset.map Offset.counted = w.offset.map Offset.micros := by
    refine Option.map_congr fun o ho => ?_
    rw [Offset.counted]
    split
    · next hshort =>
      have hzero : o.distance = 0 := (h o ho).resolve_right (Nat.not_le.2 hshort)
      rw [Offset.micros, hzero, Int.natCast_zero, Int.neg_zero, ite_self]
    · rfl
  rw [micros_stamp, micros, hoffset]

/-- An offset of less than a second is read as none. -/
theorem Spelling.micros_stamp_of_lt {w : Spelling} {o : Offset} (ho : w.offset = some o)
    (h : o.distance < 1000000) : w.stamp.micros = { w with offset := none }.micros := by
  rw [micros_stamp, micros, ho, Option.map_some, Offset.counted, if_pos h]
  rfl

/-- Midnight on a clock that is a microsecond ahead of universal time is read as midnight in
universal time. -/
theorem Stamp.offset_below_second_lost :
    ∃ (w : Spelling) (s : Stamp) (t : Instant), w.text = "2026-01-01T00:00:00+00:00:00.000001" ∧
      read? w.text = some s ∧ s.toUtc = .ok t ∧ t.text = "2026-01-01T00:00:00+00:00" ∧
      (t.micros : Int) ≠ w.micros := by
  refine ⟨⟨⟨2026, 1, 1, by decide, by decide, by decide, by decide⟩, ⟨0, 0, 0, []⟩,
    some ⟨false, 0, 0, some (0, [0, 0, 0, 0, 0, 1])⟩⟩, _,
    ⟨daysBeforeYear 2026 * microsPerDay, by decide⟩, ?_, Spelling.read?_text _, ?_, ?_, ?_⟩
  · rw [← String.toList_inj, Spelling.text, String.toList_ofList]
    rfl
  · rfl
  · rw [← String.toList_inj, Instant.text, String.toList_ofList]
    rfl
  · decide

/-! ## Dates of instants -/

theorem Date.dayNumber_date (t : Instant) : t.date.dayNumber = t.micros / microsPerDay :=
  dayNumber_ofDayNumber _ _

/-- Each date lies its day number after the first. -/
theorem Date.later?_first (d : Date) : first.later? d.dayNumber = some d :=
  later?_eq_some.2 (by rw [dayNumber_first, Nat.zero_add])

/-- A date has no date `n` days later if the calendar ends before. -/
theorem Date.later?_eq_none {d : Date} {n : Nat} :
    d.later? n = none ↔ daysOfCalendar ≤ d.dayNumber + n := by
  constructor
  · intro hnone
    refine Nat.not_lt.1 fun hlt => ?_
    have hsome : d.later? n = some (ofDayNumber _ hlt) := later?_eq_some.2 (dayNumber_ofDayNumber _ hlt)
    cases hnone.symm.trans hsome
  · intro hle
    refine Option.eq_none_iff_forall_ne_some.2 fun e he => ?_
    have hlt := e.dayNumber_lt
    rw [later?_eq_some.1 he] at hlt
    omega

/-- The date and the time of day are those of the instant `n` microseconds after the first midnight
of the calendar. -/
def Instant.Shows (t : Instant) (n : Int) : Prop :=
  ∃ days, Date.first.later? days = some t.date ∧ t.timeOfDay < microsPerDay ∧
    n = (days * microsPerDay + t.timeOfDay : Nat)

theorem Instant.shows_micros (t : Instant) : t.Shows t.micros :=
  ⟨t.date.dayNumber, t.date.later?_first, Nat.mod_lt _ (by decide), by
    rw [Date.dayNumber_date]
    exact congrArg Nat.cast (Nat.div_add_mod' t.micros microsPerDay).symm⟩

theorem Operation.micros_of_effectiveTime {clock t : Instant} {now : Option Stamp}
    (h : effectiveTime clock now = .ok t) : (t.micros : Int) = requestedMicros clock now := by
  by_cases hin : InCalendar (requestedMicros clock now)
  · obtain ⟨t', ht', hmicros⟩ := effectiveTime_of_inCalendar hin
    cases ht'.symm.trans h
    exact hmicros
  · cases (effectiveTime_of_not_inCalendar hin).symm.trans h

namespace Stamp

variable {s s' : Stamp} {t t' : Instant}

theorem micros_of_toUtc (h : s.toUtc = .ok t) : (t.micros : Int) = s.micros := by
  have ht : Operation.effectiveTime t (some s) = .ok t := by
    rw [Operation.effectiveTime, h]
    rfl
  exact Operation.micros_of_effectiveTime ht

/-- A stamp of the calendar is turned into the date and the time of its instant. -/
theorem shows_toUtc (h : InCalendar s.micros) : ∃ t, s.toUtc = .ok t ∧ t.Shows s.micros := by
  obtain ⟨t, ht, hmicros⟩ := Instant.ofMicros_of_inCalendar h
  exact ⟨t, ht, hmicros ▸ t.shows_micros⟩

theorem toUtc_congr (h : s.micros = s'.micros) : s.toUtc = s'.toUtc :=
  congrArg Instant.ofMicros h

/-- Instants are ordered as the times that they are made of. -/
theorem lt_iff_of_toUtc (h : s.toUtc = .ok t) (h' : s'.toUtc = .ok t') :
    t < t' ↔ s.micros < s'.micros := by
  rw [← micros_of_toUtc h, ← micros_of_toUtc h', Int.ofNat_lt]
  rfl

theorem eq_iff_of_toUtc (h : s.toUtc = .ok t) (h' : s'.toUtc = .ok t') :
    t = t' ↔ s.micros = s'.micros := by
  rw [← micros_of_toUtc h, ← micros_of_toUtc h', Int.ofNat_inj]
  refine ⟨congrArg Instant.micros, fun heq => ?_⟩
  obtain ⟨m, hm⟩ := t
  obtain ⟨m', hm'⟩ := t'
  dsimp only at heq
  subst heq
  rfl

end Stamp

/-! ## Times of requests -/

/-- A watcher is over at the time of a request if the instant of its expiry is no later. -/
theorem Operation.lt_expiry_iff {clock t : Instant} {now : Option Stamp} {w : Watcher} {e : Stamp}
    (he : e.toUtc = .ok w.expiry) (ht : effectiveTime clock now = .ok t) :
    t < w.expiry ↔ requestedMicros clock now < e.micros := by
  rw [← micros_of_effectiveTime ht, ← Stamp.micros_of_toUtc he, Int.ofNat_lt]
  rfl

/-! ## The end of a subscription -/

/-- The calendar has not ended as long as it has days. -/
theorem inCalendar_iff {n : Nat} : InCalendar n ↔ n / microsPerDay < daysOfCalendar := by
  have hcalendar : daysBeforeYear 10000 = daysOfCalendar := by decide
  rw [Nat.div_lt_iff_lt_mul (by decide), InCalendar, hcalendar, Int.ofNat_lt]
  exact and_iff_right (Int.natCast_nonneg n)

/-- A subscription ends 30 days later at the same time of day, if the calendar has not ended. -/
theorem Operation.termEnd_spec (now : Instant) :
    (∀ d, now.date.later? 30 = some d → ∃ t, termEnd now = .ok t ∧ t.date = d ∧
        t.timeOfDay = now.timeOfDay ∧ t.micros = now.micros + 2592000 * 1000000) ∧
      (now.date.later? 30 = none → termEnd now = .error (.rejected (.time .outOfRange))) := by
  have hend : (now.micros + 30 * microsPerDay) / microsPerDay = now.date.dayNumber + 30 := by
    rw [Nat.add_mul_div_right _ _ (by decide), Date.dayNumber_date]
  refine ⟨fun d hd => ?_, fun hnone => ?_⟩
  · have hnumber := Date.later?_eq_some.1 hd
    have hin : InCalendar (now.micros + 30 * microsPerDay : Nat) := by
      rw [inCalendar_iff, hend, ← hnumber]
      exact d.dayNumber_lt
    obtain ⟨t, ht, hmicros⟩ := Instant.ofMicros_of_inCalendar hin
    have hadd : t.micros = now.micros + 30 * microsPerDay := Int.ofNat_inj.1 hmicros
    refine ⟨t, ?_, Date.eq_of_dayNumber ?_, ?_, hadd⟩
    · have hterm : now.add subscriptionTerm = .ok t := ht
      rw [termEnd, hterm]
      rfl
    · rw [Date.dayNumber_date, hadd, hend, hnumber]
    · exact (congrArg (· % microsPerDay) hadd).trans (Nat.add_mul_mod_self_right _ _ _)
  · have hout : ¬ InCalendar (now.micros + 30 * microsPerDay : Nat) := by
      rw [inCalendar_iff, hend]
      exact Nat.not_lt.2 (Date.later?_eq_none.1 hnone)
    have hterm : now.add subscriptionTerm = .error .outOfRange :=
      Instant.ofMicros_of_not_inCalendar hout
    rw [termEnd, hterm]
    rfl

/-! ## Notations -/

/-- One notation for all stamps of an instant. -/
def Stamp.plain (s : Stamp) : Stamp := ⟨.first, 0, some (-s.micros)⟩

theorem Stamp.toUtc_plain (s : Stamp) : s.plain.toUtc = s.toUtc := by
  refine toUtc_congr ?_
  show ((Date.first.dayNumber * microsPerDay + 0 : Nat) : Int) - -s.micros = s.micros
  rw [Date.dayNumber_first]
  omega

namespace Operation

/-- The call with its times in one notation. -/
def plain : Operation → Operation
  | upsertSubscriber r => upsertSubscriber { r with now := r.now.map Stamp.plain }
  | renewSubscriber r => renewSubscriber { r with now := r.now.map Stamp.plain }
  | upsertWatcher r => upsertWatcher { r with expiry := r.expiry.map Stamp.plain }
  | watchersFor account appDomain now => watchersFor account appDomain (now.map Stamp.plain)
  | sweepWatchers now => sweepWatchers (now.map Stamp.plain)
  | op => op

theorem effectiveTime_plain (clock : Instant) (now : Option Stamp) :
    effectiveTime clock (now.map Stamp.plain) = effectiveTime clock now := by
  cases now with
  | none => rfl
  | some s =>
    rw [Option.map_some, effectiveTime, effectiveTime, s.toUtc_plain]

theorem boundTime_plain (expiry : Option Stamp) :
    boundTime (expiry.map Stamp.plain) = boundTime expiry := by
  cases expiry with
  | none => rfl
  | some s =>
    rw [Option.map_some, boundTime, boundTime, s.toUtc_plain]

/-- The same statement is run whatever the notation of a time. -/
theorem prepare_plain (clock : Instant) (op : Operation) :
    op.plain.prepare clock = op.prepare clock := by
  cases op with
  | upsertSubscriber r =>
    rw [plain, prepare, prepare, effectiveTime_plain]
  | renewSubscriber r =>
    rw [plain, prepare, prepare, effectiveTime_plain]
    rfl
  | upsertWatcher r =>
    rw [plain, prepare, prepare, boundTime_plain]
  | watchersFor account appDomain now =>
    rw [plain, prepare, prepare, effectiveTime_plain]
  | sweepWatchers now =>
    rw [plain, prepare, prepare, effectiveTime_plain]
  | _ => rfl

end Operation

/-- The action with its times in one notation. -/
def Action.plain : Action → Action
  | .call op => .call op.plain
  | action => action

theorem Database.call_plain (d : Database) (clock : Instant) (i : SessionId) (op : Operation) :
    d.call clock i op.plain = d.call clock i op := by
  rw [call, call, perform, perform, op.prepare_plain]

theorem Action.run_plain (i : SessionId) (clock : Instant) (d : Database) (action : Action) :
    action.plain.run i clock d = action.run i clock d := by
  cases action with
  | call op => exact d.call_plain clock i op
  | _ => rfl

mutual

/-- The step with its times in one notation. -/
def Step.plain : Step → Step
  | .setClock time => .setClock time.plain
  | .act i action => .act i action.plain
  | .sweep => .sweep
  | .unit i propagate thrown steps => .unit i propagate thrown (Step.plainAll steps)

/-- The steps with their times in one notation. -/
def Step.plainAll : List Step → List Step
  | [] => []
  | step :: steps => step.plain :: Step.plainAll steps

end

mutual

theorem Step.run_plain (r : Registry) : ∀ step : Step, step.plain.run r = step.run r
  | .setClock time => by
    unfold Step.plain Step.run Registry.setClock
    rw [time.toUtc_plain]
  | .act i action => by
    unfold Step.plain Step.run
    rw [action.run_plain]
  | .sweep => rfl
  | .unit i propagate thrown steps => by
    unfold Step.plain Step.run
    rw [Step.runAll_plain]

theorem Step.runAll_plain (r : Registry) (propagate : Bool) : ∀ steps : List Step,
    Step.runAll r propagate (Step.plainAll steps) = Step.runAll r propagate steps
  | [] => rfl
  | step :: steps => by
    unfold Step.plainAll Step.runAll
    rw [Step.run_plain r step]
    dsimp only
    rw [Step.runAll_plain (step.run r).2 propagate steps]

end

/-- A run does not depend on the notations of its times. -/
theorem Script.run_plain (r : Registry) (script : Script) :
    Script.run r (Step.plainAll script) = Script.run r script := by
  unfold Script.run
  rw [Step.runAll_plain]

theorem Stamp.plain_inj {s s' : Stamp} : s.plain = s'.plain ↔ s.micros = s'.micros := by
  unfold plain
  simp only [Stamp.mk.injEq, true_and, Option.some.injEq, Int.neg_inj]

/-! ## Times are instants -/

/-- **Times are exact instants.** A written time is read as the instant that it denotes, with an
offset of less than a second left out. A time becomes the date and the time of day of its instant in
universal time, counted from the first day of the calendar to the microsecond, and fails if the
calendar does not have it. What has become of it stays, also when it is printed and read. Times are
the same and ordered as their instants are, so that a lookup finds a watcher, and a sweep spares it,
by the instants of its expiry and of the request alone, and a run does not depend on the notations
of the times in it. A subscription ends at the same time of day on the date 30 days later, and fails
if the calendar does not have that. -/
theorem Stamp.times_exact :
    (∀ w : Spelling, ∃ s, read? w.text = some s ∧
        ((∀ o, w.offset = some o → o.distance = 0 ∨ 1000000 ≤ o.distance) → s.micros = w.micros) ∧
        (∀ o, w.offset = some o → o.distance < 1000000 →
          s.micros = { w with offset := none }.micros)) ∧
      (∀ d : Date, Date.first.later? d.dayNumber = some d) ∧
      (∀ s : Stamp,
        (InCalendar s.micros → ∃ t, s.toUtc = .ok t ∧ t.Shows s.micros) ∧
        (¬ InCalendar s.micros → ∃ e, s.toUtc = .error e ∧ e.message = "date value out of range")) ∧
      (∀ t : Instant, (ofInstant t).toUtc = .ok t ∧ read? t.text = some (ofInstant t)) ∧
      (∀ s s' : Stamp, s.micros = s'.micros → s.toUtc = s'.toUtc) ∧
      (∀ (s s' : Stamp) (t t' : Instant), s.toUtc = .ok t → s'.toUtc = .ok t' →
        (t = t' ↔ s.micros = s'.micros) ∧ (t < t' ↔ s.micros < s'.micros)) ∧
      (∀ (s : Store) (w : Watcher) (e : Stamp) (clock t : Instant) (now : Option Stamp),
        s.Intact → w ∈ s.watchers → e.toUtc = .ok w.expiry →
        Operation.effectiveTime clock now = .ok t →
        (∀ account appDomain, w.didKey ∈ (s.watchersFor account appDomain t).map (·.didKey) ↔
          s.Covers account appDomain w ∧ Operation.requestedMicros clock now < e.micros) ∧
        (w ∉ (s.sweepWatchers t).1.watchers ↔ e.micros ≤ Operation.requestedMicros clock now)) ∧
      (∀ s s' : Stamp, s.plain = s'.plain ↔ s.micros = s'.micros) ∧
      (∀ (r : Registry) (a b : Script), Step.plainAll a = Step.plainAll b →
        Script.run r a = Script.run r b) ∧
      (∀ now : Instant,
        (∀ d, now.date.later? 30 = some d → ∃ t, Operation.termEnd now = .ok t ∧ t.date = d ∧
          t.timeOfDay = now.timeOfDay ∧ t.micros = now.micros + 2592000 * 1000000) ∧
        (now.date.later? 30 = none →
          Operation.termEnd now = .error (.rejected (.time .outOfRange)))) := by
  refine ⟨fun w => ⟨w.stamp, w.read?_text, Spelling.micros_stamp_of_le, fun o ho hlt =>
      Spelling.micros_stamp_of_lt ho hlt⟩, Date.later?_first, fun s => ⟨shows_toUtc, fun hout =>
      ⟨.outOfRange, Instant.ofMicros_of_not_inCalendar hout, rfl⟩⟩,
    fun t => ⟨toUtc_ofInstant t, read?_text t⟩, fun s s' => toUtc_congr,
    fun s s' t t' h h' => ⟨eq_iff_of_toUtc h h', lt_iff_of_toUtc h h'⟩, ?_, fun s s' => plain_inj,
    fun r a b hab => ?_, Operation.termEnd_spec⟩
  · intro s w e clock t now hs hw he ht
    have hlt := Operation.lt_expiry_iff he ht
    refine ⟨fun account appDomain => ?_, ?_⟩
    · rw [hs.didKey_mem_watchersFor hw, hlt]
    · rw [Store.mem_sweepWatchers, hlt, not_and]
      exact ⟨fun h => Int.not_lt.1 (h hw), fun h _ => Int.not_lt.2 h⟩
  · rw [← Script.run_plain r a, hab, Script.run_plain]

end SubscriptionRegistry
