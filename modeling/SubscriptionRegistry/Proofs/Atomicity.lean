import SubscriptionRegistry.Proofs.Session
import SubscriptionRegistry.Script

/-!
# Failures leave no trace

A call that fails, and a unit that ends with a fault after any tree of steps of its own session,
leave every session with what it saw, and the transaction around them as it was.

* `Database.Alike`: two databases that session `i` cannot tell apart, at any of its levels.
* `Database.Restored`: what is left after a failure. Nothing is committed, every session sees what
  it saw, and every further action of the session does what it would have done before.
* `Database.alike_undo_execute`: what a statement has written in a level is gone when the level is
  undone, however far the statement has come.
* `Step.inside`: the steps of one session that leave its transaction open.
* `Step.run_inside`: such a step changes neither the committed store, nor the other sessions, nor
  the savepoints around it. So the level that surrounds it can be undone.
-/

namespace SubscriptionRegistry

namespace Database

variable {d d' d'' : Database} {i j : SessionId} {s : Store}

/-! ## Levels after an operation -/

theorem levels_enter : (d.enter i).levels i = d.view i :: d.levels i := by
  cases h : d.transaction? i with
  | none =>
    rw [enter_of_none h, levels_of_some transaction?_setTransaction, levels_of_none h,
      view_of_some transaction?_setTransaction, view_of_none h]
    rfl
  | some t =>
    rw [enter_of_some h, levels_of_some transaction?_setTransaction, levels_of_some h,
      view_of_some transaction?_setTransaction, view_of_some h]
    rfl

theorem levels_close : (d.close i).levels i = [d.committed] :=
  levels_of_none transaction?_close

theorem levels_commitAll : (d.commitAll i).levels i = [d.view i] := by
  cases h : d.transaction? i with
  | none => rw [commitAll_of_none h, levels_of_none h, view_of_none h]
  | some t =>
    rw [commitAll_of_some h]
    exact levels_of_none transaction?_close

theorem levels_put : (d.put i s).levels i = s :: (d.levels i).tail := by
  cases h : d.transaction? i with
  | none =>
    rw [put_of_none h, levels_of_none h]
    exact levels_of_none h
  | some t =>
    rw [put_of_some h, levels_of_some transaction?_setTransaction, levels_of_some h,
      view_of_some transaction?_setTransaction]
    rfl

theorem depth_enter : (d.enter i).depth i = d.depth i + 1 := by
  have hlen := length_levels (d.enter i) i
  rw [levels_enter, List.length_cons, length_levels] at hlen
  omega

theorem depth_commitAll : (d.commitAll i).depth i = 0 := by
  have hlen := length_levels (d.commitAll i) i
  rw [levels_commitAll, List.length_singleton] at hlen
  omega

theorem depth_put : (d.put i s).depth i = d.depth i := by
  have hlen := length_levels (d.put i s) i
  rw [levels_put, List.length_cons, List.length_tail, length_levels] at hlen
  omega

theorem levels_rest : (d.rest i).levels i = d.levels i := by
  cases h : d.transaction? i with
  | none => rw [rest_of_none h]
  | some t =>
    rw [rest_of_some h]
    exact levels_congr (transaction?_setTransaction.trans h.symm) rfl

theorem levels_write_view : (d.write i (d.view i)).levels i = d.levels i := by
  cases h : d.transaction? i with
  | none => rw [write_of_none h]
  | some t =>
    rw [write_of_some h, levels_of_some transaction?_setTransaction, levels_of_some h,
      view_of_some transaction?_setTransaction]
    rfl

theorem committed_rest : (d.rest i).committed = d.committed := by
  unfold rest
  split <;> rfl

theorem committed_write : (d.write i s).committed = d.committed := by
  unfold write
  split <;> rfl

theorem committed_enter : (d.enter i).committed = d.committed := by
  unfold enter
  split <;> rfl

theorem others_rest : (d.rest i).others i = d.others i := by
  unfold rest
  split
  · rfl
  · exact others_setTransaction

theorem others_write : (d.write i s).others i = d.others i := by
  unfold write
  split
  · rfl
  · exact others_setTransaction

theorem others_enter : (d.enter i).others i = d.others i := by
  unfold enter
  split <;> exact others_setTransaction

theorem others_put : (d.put i s).others i = d.others i := by
  unfold put
  split
  · rfl
  · exact others_setTransaction

/-! ## Databases that a session cannot tell apart -/

/-- Session `i` has the same levels in both databases, and all other sessions have the same
transactions. Whether `i` holds the writer lock may differ. -/
structure Alike (i : SessionId) (d d' : Database) : Prop where
  committed : d'.committed = d.committed
  others : d'.others i = d.others i
  levels : d'.levels i = d.levels i

theorem Alike.view (h : Alike i d d') : d'.view i = d.view i := by
  have hv := head_levels d' i
  rw [h.levels, head_levels] at hv
  exact (Option.some.inj hv).symm

theorem Alike.depth (h : Alike i d d') : d'.depth i = d.depth i := by
  have hl := length_levels d' i
  rw [h.levels, length_levels] at hl
  omega

theorem inTransaction_eq_decide (d : Database) (i : SessionId) :
    d.inTransaction i = decide (0 < d.depth i) := by
  cases h : d.transaction? i with
  | none => simp [inTransaction_of_none h, depth_of_none h]
  | some t => simp [inTransaction_of_some h, depth_of_some h]

theorem Alike.inTransaction (h : Alike i d d') : d'.inTransaction i = d.inTransaction i := by
  rw [inTransaction_eq_decide, inTransaction_eq_decide, h.depth]

theorem Alike.lockedFor (h : Alike i d d') : d'.lockedFor i = d.lockedFor i :=
  lockedFor_congr h.others

/-- The transaction of another session is found among the others. -/
theorem transaction?_others (hj : j ≠ i) : d.transaction? j = (d.others i).lookup j :=
  (transaction?_close_ne (d := d) hj).symm

theorem transaction?_congr (h : d'.others i = d.others i) (hj : j ≠ i) :
    d'.transaction? j = d.transaction? j := by
  rw [transaction?_others hj, transaction?_others hj, h]

theorem Alike.transaction?_ne (h : Alike i d d') (hj : j ≠ i) :
    d'.transaction? j = d.transaction? j :=
  transaction?_congr h.others hj

theorem Alike.levels_all (h : Alike i d d') (j : SessionId) : d'.levels j = d.levels j := by
  by_cases hj : j = i
  · exact hj ▸ h.levels
  · exact levels_congr (h.transaction?_ne hj) h.committed

theorem Alike.view_all (h : Alike i d d') (j : SessionId) : d'.view j = d.view j := by
  by_cases hj : j = i
  · exact hj ▸ h.view
  · exact view_congr (h.transaction?_ne hj) h.committed

theorem Alike.inTransaction_all (h : Alike i d d') (j : SessionId) :
    d'.inTransaction j = d.inTransaction j := by
  by_cases hj : j = i
  · exact hj ▸ h.inTransaction
  · simp only [Database.inTransaction, h.transaction?_ne hj]

/-- Leaving a level that did nothing changes nothing for its session. -/
theorem alike_rest (d : Database) (i : SessionId) : Alike i d (d.rest i) :=
  ⟨committed_rest, others_rest, levels_rest⟩

/-- Taking the writer lock changes nothing for its session. -/
theorem alike_write_view (d : Database) (i : SessionId) : Alike i d (d.write i (d.view i)) :=
  ⟨committed_write, others_write, levels_write_view⟩

theorem Alike.trans (h : Alike i d d') (h' : Alike i d' d'') : Alike i d d'' :=
  ⟨h'.committed.trans h.committed, h'.others.trans h.others, h'.levels.trans h.levels⟩

theorem Alike.symm (h : Alike i d d') : Alike i d' d :=
  ⟨h.committed.symm, h.others.symm, h.levels.symm⟩

theorem Alike.enter (h : Alike i d d') : Alike i (d.enter i) (d'.enter i) :=
  ⟨by rw [committed_enter, committed_enter, h.committed],
    by rw [others_enter, others_enter, h.others],
    by rw [levels_enter, levels_enter, h.levels, h.view]⟩

theorem Alike.close (h : Alike i d d') : Alike i (d.close i) (d'.close i) :=
  ⟨h.committed, by rw [others_close, others_close, h.others],
    by rw [levels_close, levels_close, h.committed]⟩

theorem committed_commitAll (d : Database) (i : SessionId) :
    (d.commitAll i).committed = d.view i := by
  cases h : d.transaction? i with
  | none => rw [commitAll_of_none h, view_of_none h]
  | some t => rw [commitAll_of_some h, commit]

theorem others_commitAll : (d.commitAll i).others i = d.others i := by
  cases h : d.transaction? i with
  | none => rw [commitAll_of_none h]
  | some t =>
    rw [commitAll_of_some h]
    exact others_close

theorem Alike.commitAll (h : Alike i d d') : Alike i (d.commitAll i) (d'.commitAll i) :=
  ⟨by rw [committed_commitAll, committed_commitAll, h.view],
    by rw [others_commitAll, others_commitAll, h.others],
    by rw [levels_commitAll, levels_commitAll, h.view]⟩

theorem committed_put (d : Database) (i : SessionId) (s : Store) :
    (d.put i s).committed = if d.inTransaction i then d.committed else s := by
  cases h : d.transaction? i with
  | none => simp [put_of_none h, inTransaction_of_none h]
  | some t => simp [put_of_some h, inTransaction_of_some h]

theorem Alike.put (h : Alike i d d') (s : Store) : Alike i (d.put i s) (d'.put i s) :=
  ⟨by rw [committed_put, committed_put, h.inTransaction, h.committed],
    by rw [others_put, others_put, h.others],
    by rw [levels_put, levels_put, h.levels]⟩

/-- A statement answers the same on databases that its session cannot tell apart. -/
theorem Alike.attempt (h : Alike i d d') (statement : Statement) :
    (d'.attempt i statement).1 = (d.attempt i statement).1 ∧
      Alike i (d.attempt i statement).2 (d'.attempt i statement).2 := by
  have hrest : Alike i (d.rest i) (d'.rest i) :=
    (alike_rest d i).symm.trans (h.trans (alike_rest d' i))
  cases statement with
  | read run => exact ⟨by simp only [Database.attempt, h.view], hrest⟩
  | write run =>
    simp only [Database.attempt, h.lockedFor, h.view]
    by_cases hl : d.lockedFor i = true
    · simp only [hl, if_true]
      exact ⟨trivial, hrest⟩
    · simp only [hl, if_false, Bool.false_eq_true]
      cases run (d.view i) with
      | ok p => exact ⟨rfl, h.put p.1⟩
      | error f =>
        have hw := (alike_write_view d i).symm.trans (h.trans (alike_write_view d' i))
        rw [h.view] at hw
        exact ⟨rfl, hw⟩

theorem Alike.call (h : Alike i d d') (clock : Instant) (op : Operation) :
    (d'.call clock i op).1 = (d.call clock i op).1 ∧
      Alike i (d.call clock i op).2 (d'.call clock i op).2 := by
  rw [call_eq, call_eq]
  cases op.prepare clock with
  | error f => exact ⟨rfl, (alike_rest d i).symm.trans (h.trans (alike_rest d' i))⟩
  | ok statement => exact h.attempt statement

theorem Alike.replaceScope (h : Alike i d d') (subscriber : Option Uuid) (scope : Scope) :
    (d'.replaceScope i subscriber scope).1 = (d.replaceScope i subscriber scope).1 ∧
      Alike i (d.replaceScope i subscriber scope).2 (d'.replaceScope i subscriber scope).2 := by
  rw [replaceScope_eq, replaceScope_eq, h.inTransaction, h.lockedFor, h.view]
  by_cases ht : d.inTransaction i = true
  · by_cases hl : d.lockedFor i = true
    · simp only [ht, hl, if_true]
      exact ⟨trivial, h⟩
    · simp only [ht, hl, if_true, if_false, Bool.false_eq_true]
      cases Operation.scopeReplacement subscriber scope (d.view i) with
      | ok p => exact ⟨rfl, h.put p.1⟩
      | error f =>
        have hw := (alike_write_view d i).symm.trans (h.trans (alike_write_view d' i))
        rw [h.view] at hw
        exact ⟨rfl, hw⟩
  · simp only [ht, if_false, Bool.false_eq_true]
    exact ⟨trivial, h⟩

/-- Whatever a session does next, it cannot tell the databases apart. -/
theorem Alike.action (h : Alike i d d') (clock : Instant) (action : Action) :
    (action.run i clock d').1 = (action.run i clock d).1 ∧
      Alike i (action.run i clock d).2 (action.run i clock d').2 := by
  cases action with
  | begin =>
    simp only [Action.run, Database.begin, h.inTransaction]
    by_cases ht : d.inTransaction i = true
    · simp only [ht, if_true]
      exact ⟨trivial, h⟩
    · simp only [ht, if_false, Bool.false_eq_true]
      exact ⟨trivial, h.enter⟩
  | commit => exact ⟨rfl, h.commitAll⟩
  | rollback => exact ⟨rfl, h.close⟩
  | inTransaction => exact ⟨by simp only [Action.run, h.inTransaction], h⟩
  | dump => exact ⟨by simp only [Action.run, h.view], h⟩
  | call op => exact h.call clock op
  | replaceScope subscriber scope => exact h.replaceScope subscriber scope

/-! ## What is left after a failure -/

/-- `d'` is what a failure of session `i` leaves of `d`: the committed store, what each session
sees and could fall back to, and which sessions have a transaction open. The transaction of `i`
can be used as if nothing had happened. -/
structure Restored (i : SessionId) (d d' : Database) : Prop where
  committed : d'.committed = d.committed
  view : ∀ j, d'.view j = d.view j
  levels : ∀ j, d'.levels j = d.levels j
  inTransaction : ∀ j, d'.inTransaction j = d.inTransaction j
  /-- Every further action of `i` answers and does the same, a commit for one. -/
  usable : ∀ clock (action : Action),
    (action.run i clock d').1 = (action.run i clock d).1 ∧
      Alike i (action.run i clock d).2 (action.run i clock d').2

theorem Alike.restored (h : Alike i d d') : Restored i d d' :=
  ⟨h.committed, h.view_all, h.levels_all, h.inTransaction_all, h.action⟩

/-- Whatever a statement has written in a level of its own, to undo the level takes it back: also
what the writes of a routine have left before one of them failed. -/
theorem alike_undo_execute (d : Database) (i : SessionId) (statement : Statement) :
    Alike i d (((d.enter i).execute i statement).2.undo i) := by
  cases statement with
  | read run =>
    simp only [execute, undo_enter]
    exact alike_rest d i
  | write routine =>
    simp only [execute]
    cases hl : d.lockedFor i with
    | true =>
      rw [executeRoutine_of_locked (lockedFor_enter.trans hl), undo_enter]
      exact alike_rest d i
    | false =>
      rw [executeRoutine_of_unlocked (inTransaction_enter d i) (lockedFor_enter.trans hl),
        undo_write_enter]
      exact alike_write_view d i

/-- A routine that fails at its second write has changed what its session sees, until it is
undone. -/
example :
    let i : SessionId := .caller "a"
    let t : Instant := ⟨0, by decide⟩
    let d : Database :=
      .ofStore { Store.empty with subscribers := [⟨default, t, t, default, "x", "key", "t", t⟩] }
    let routine : Routine := .after [Operation.scopeTextWrite (some default) (some "x")]
      (.one (Operation.scopeTextWrite none (some "x")))
    let d' := ((d.enter i).execute i (.write routine)).2
    d'.view i ≠ d.view i ∧ (d'.undo i).view i = d.view i := by
  decide +kernel

/-- A call that fails. -/
theorem alike_call_error {clock : Instant} {op : Operation} {f : Fault}
    (hf : (d.call clock i op).1 = .error f) : Alike i d (d.call clock i op).2 := by
  unfold call perform at hf ⊢
  cases hp : op.prepare clock with
  | error e =>
    simp only [undo_enter]
    exact alike_rest d i
  | ok statement =>
    have hundo := alike_undo_execute d i statement
    simp only [hp] at hf ⊢
    generalize (d.enter i).execute i statement = done at hf hundo ⊢
    obtain ⟨outcome, d'⟩ := done
    cases outcome with
    | ok reply => cases hf
    | error e => exact hundo

end Database

/-! ## Steps inside a transaction -/

/-- Whether an action leaves the transaction of its session open. -/
def Action.keepsOpen : Action → Bool
  | .commit | .rollback => false
  | _ => true

mutual

/-- Whether a step is one of session `i` that neither commits nor rolls back, with all the steps in
it. The sweep is a step of the worker. -/
def Step.inside (i : SessionId) : Step → Bool
  | .setClock _ => true
  | .act j action => j = i && action.keepsOpen
  | .sweep => false
  | .unit j _ _ steps => j = i && Step.allInside i steps

/-- Whether all steps are inside. -/
def Step.allInside (i : SessionId) : List Step → Bool
  | [] => true
  | step :: steps => step.inside i && Step.allInside i steps

end

namespace Database

variable {d d' d'' : Database} {i : SessionId} {xs : List (Option Store)} {w x : Option Store}

/-- `d'` differs from `d` in the working store of session `i` only, whose transaction is open with
the savepoints `xs`. -/
structure Within (i : SessionId) (xs : List (Option Store)) (d d' : Database) : Prop where
  committed : d'.committed = d.committed
  others : d'.others i = d.others i
  opened : ∃ w, d'.transaction? i = some ⟨w, xs⟩

theorem Within.refl (h : d.transaction? i = some ⟨w, xs⟩) : Within i xs d d :=
  ⟨rfl, rfl, w, h⟩

theorem Within.trans (h : Within i xs d d') (h' : Within i xs d' d'') : Within i xs d d'' :=
  ⟨h'.committed.trans h.committed, h'.others.trans h.others, h'.opened⟩

theorem within_setTransaction : Within i xs d (d.setTransaction i ⟨w, xs⟩) :=
  ⟨rfl, others_setTransaction, w, transaction?_setTransaction⟩

theorem within_rest (h : d.transaction? i = some ⟨w, xs⟩) : Within i xs d (d.rest i) := by
  rw [rest_of_some h]
  exact within_setTransaction

theorem within_write (h : d.transaction? i = some ⟨w, xs⟩) (s : Store) :
    Within i xs d (d.write i s) := by
  rw [write_of_some h]
  exact within_setTransaction

theorem within_put (h : d.transaction? i = some ⟨w, xs⟩) (s : Store) :
    Within i xs d (d.put i s) := by
  rw [put_of_some h]
  exact within_setTransaction

theorem within_attempt (h : d.transaction? i = some ⟨w, xs⟩) (statement : Statement) :
    Within i xs d (d.attempt i statement).2 := by
  cases statement with
  | read run => exact within_rest h
  | write run =>
    simp only [attempt]
    split
    · exact within_rest h
    · split
      · exact within_put h _
      · exact within_write h _

theorem within_action {action : Action} (h : d.transaction? i = some ⟨w, xs⟩)
    (ha : action.keepsOpen = true) (clock : Instant) :
    Within i xs d (action.run i clock d).2 := by
  cases action with
  | begin =>
    simp only [Action.run, begin, inTransaction_of_some h, if_true]
    exact .refl h
  | commit => cases ha
  | rollback => cases ha
  | inTransaction => exact .refl h
  | dump => exact .refl h
  | call op =>
    simp only [Action.run, call_eq]
    split
    · exact within_rest h
    · exact within_attempt h _
  | replaceScope subscriber scope =>
    simp only [Action.run, replaceScope_eq, inTransaction_of_some h, if_true]
    split
    · exact .refl h
    · split
      · exact within_put h _
      · exact within_write h _

/-- A level whose work is within it is left for the one around it. -/
theorem Within.release (h : Within i (x :: xs) (d.enter i) d') : Within i xs d (d'.release i) := by
  obtain ⟨v, hv⟩ := h.opened
  rw [release_of_nested hv]
  refine ⟨h.committed.trans committed_enter, ?_, v, transaction?_setTransaction⟩
  rw [others_setTransaction, h.others, others_enter]

theorem Within.undo (h : Within i (x :: xs) (d.enter i) d') : Within i xs d (d'.undo i) := by
  obtain ⟨v, hv⟩ := h.opened
  rw [undo_of_nested hv]
  refine ⟨h.committed.trans committed_enter, ?_, _, transaction?_setTransaction⟩
  rw [others_setTransaction, h.others, others_enter]

theorem transaction?_enter_of_some (h : d.transaction? i = some ⟨w, xs⟩) :
    (d.enter i).transaction? i = some ⟨w, w :: xs⟩ := by
  rw [enter_of_some h]
  exact transaction?_setTransaction

/-- Undoing a level that was entered in an open transaction gives back what the session saw. -/
theorem alike_undo_of_some (h : d.transaction? i = some ⟨w, xs⟩)
    (h' : Within i (w :: xs) (d.enter i) d') : Alike i d (d'.undo i) := by
  have hu := h'.undo
  refine ⟨hu.committed, hu.others, ?_⟩
  obtain ⟨v, hv⟩ := h'.opened
  have hc : d'.committed = d.committed := h'.committed.trans committed_enter
  rw [undo_of_nested hv, levels_of_some transaction?_setTransaction, levels_of_some h,
    view_of_some transaction?_setTransaction, view_of_some h]
  simp only [committed_setTransaction, hc, getD_undone]

/-- Undoing a level that began a transaction ends it with nothing committed. -/
theorem alike_undo_of_none (h : d.transaction? i = none)
    (h' : Within i [] (d.enter i) d') : Alike i d (d'.undo i) := by
  obtain ⟨v, hv⟩ := h'.opened
  have hc : d'.committed = d.committed := h'.committed.trans committed_enter
  rw [undo_of_outermost hv]
  exact ⟨hc, by rw [others_close, h'.others, others_enter],
    by rw [levels_close, levels_of_none h, hc]⟩

end Database

open Database in
mutual

/-- A step inside the open transaction of `i` keeps its savepoints, the committed store and the
transactions of all other sessions. -/
theorem Step.run_inside {i : SessionId} {r : Registry} {w : Option Store} {xs : List (Option Store)} :
    ∀ step : Step, step.inside i = true → r.database.transaction? i = some ⟨w, xs⟩ →
      Within i xs r.database (step.run r).2.database
  | .setClock time, _, ht => by
    simp only [Step.run, Registry.setClock]
    split <;> exact .refl ht
  | .act j action, hs, ht => by
    simp only [Step.inside, Bool.and_eq_true, decide_eq_true_eq] at hs
    obtain ⟨rfl, ha⟩ := hs
    exact within_action ht ha r.clock
  | .sweep, hs, _ => by simp [Step.inside] at hs
  | .unit j propagate thrown steps, hs, ht => by
    simp only [Step.inside, Bool.and_eq_true, decide_eq_true_eq] at hs
    obtain ⟨rfl, hs⟩ := hs
    have hin := Step.runAll_inside (r := r.withDatabase (r.database.enter j)) steps propagate hs
      (transaction?_enter_of_some ht)
    simp only [Step.run]
    cases (Step.runAll (r.withDatabase (r.database.enter j)) propagate steps).2.1 <|> thrown with
    | none => exact hin.release
    | some f => exact hin.undo

theorem Step.runAll_inside {i : SessionId} {r : Registry} {w : Option Store}
    {xs : List (Option Store)} : ∀ (steps : List Step) (propagate : Bool),
      Step.allInside i steps = true → r.database.transaction? i = some ⟨w, xs⟩ →
      Within i xs r.database (Step.runAll r propagate steps).2.2.database
  | [], _, _, ht => .refl ht
  | step :: steps, propagate, hs, ht => by
    simp only [Step.allInside, Bool.and_eq_true] at hs
    have hstep := Step.run_inside step hs.1 ht
    obtain ⟨v, hv⟩ := hstep.opened
    simp only [Step.runAll]
    split
    · exact hstep
    · exact hstep.trans (Step.runAll_inside steps _ hs.2 hv)

end

open Database in
/-- A unit of inside steps that ends with a fault. -/
theorem Step.alike_unit_fault {i : SessionId} {r : Registry} {propagate : Bool}
    {thrown : Option Fault} {steps : List Step} {f : Fault} (hs : Step.allInside i steps = true)
    (hf : ((Step.unit i propagate thrown steps).run r).1.fault? = some f) :
    Alike i r.database ((Step.unit i propagate thrown steps).run r).2.database := by
  simp only [Step.run, Report.fault?, Option.map_eq_some_iff] at hf ⊢
  obtain ⟨g, hg, -⟩ := hf
  rw [hg]
  have hin : ∀ {w xs}, (r.database.enter i).transaction? i = some ⟨w, xs⟩ →
      Within i xs (r.database.enter i)
        (Step.runAll (r.withDatabase (r.database.enter i)) propagate steps).2.2.database :=
    Step.runAll_inside (r := r.withDatabase (r.database.enter i)) steps propagate hs
  -- The unit may be the level that begins the transaction, which has no savepoint.
  cases ht : r.database.transaction? i with
  | none =>
    refine alike_undo_of_none ht (hin (w := none) ?_)
    rw [enter_of_none ht, transaction?_setTransaction]
  | some t => exact alike_undo_of_some ht (hin (transaction?_enter_of_some ht))

theorem Report.fault?_ofReply {reply : Except Fault Reply} {f : Fault} :
    (Report.ofReply reply).fault? = some f ↔ reply = .error f := by
  cases reply with
  | ok reply => simp [Report.ofReply, Report.fault?]
  | error g => simp [Report.ofReply, Report.fault?]

theorem Report.ofReply_eq_ok {reply : Except Fault Reply} {answer : Answer} {events : List Event} :
    Report.ofReply reply = .leaf (.ok answer) events ↔ reply = .ok ⟨answer, events⟩ := by
  cases reply with
  | ok reply =>
    obtain ⟨answer', events'⟩ := reply
    simp [Report.ofReply]
  | error g => simp [Report.ofReply]

section
variable {r : Registry} {i : SessionId} {op : Operation}

/-- A call whose inputs are rejected reports why. -/
theorem Step.report_of_error {f : Fault} (hp : op.prepare r.clock = .error f) :
    ((Step.act i (.call op)).run r).1 = .leaf (.error f.surface) [] := by
  simp only [Step.run, Action.run, Database.call_of_error hp]
  rfl

/-- A call that reads reports what it reads of the store that its session sees. -/
theorem Step.report_of_read {run : Store → Except Fault Reply}
    (hp : op.prepare r.clock = .ok (.read run)) : ((Step.act i (.call op)).run r).1 =
      .ofReply ((run (r.database.view i)).mapError Fault.surface) := by
  simp only [Step.run, Action.run, Database.call_of_ok hp, Database.attempt]

end

/-- **A failure undoes exactly its own work.** In every state, a call that fails logs nothing and
leaves what was there before it; so does a unit that ends with a fault, thrown by a step in it or
by its caller, whatever steps and units of its own session it holds. The transaction around it
stays open with the work done before, at every level, and can be used as if nothing had
happened. -/
theorem failure_restores (r : Registry) (i : SessionId) :
    (∀ op f, ((Step.act i (.call op)).run r).1.fault? = some f →
      ((Step.act i (.call op)).run r).1 = .leaf (.error f) [] ∧
        Database.Restored i r.database ((Step.act i (.call op)).run r).2.database) ∧
    (∀ propagate thrown steps f, Step.allInside i steps = true →
      ((Step.unit i propagate thrown steps).run r).1.fault? = some f →
        Database.Restored i r.database
          ((Step.unit i propagate thrown steps).run r).2.database) := by
  refine ⟨fun op f hf => ?_, fun propagate thrown steps f hs hf =>
    (Step.alike_unit_fault hs hf).restored⟩
  simp only [Step.run, Action.run] at hf ⊢
  have he := Report.fault?_ofReply.1 hf
  exact ⟨by rw [he]; rfl, (Database.alike_call_error he).restored⟩

/-- In a transaction that has stored a project, a scope text for a subscriber that is not stored
fails, and so does a unit that comes to it after it has stored a subscription. -/
theorem failure_restores_unknown_subscriber :
    let i : SessionId := .caller "a"
    let key : List UInt8 := List.replicate notifyKeyLength 1
    let r : Registry := (Script.run ⟨⟨0, by decide⟩, .ofStore .empty⟩
      [.act i .begin,
        .act i (.call (.upsertProject ⟨default, some "p", some "app", some "t",
          ⟨some (.text "k"), some (.text "l")⟩, ⟨some (.text "m"), some (.text "n")⟩⟩))]).2
    let write : Step := .act i (.call (.upsertSubscriber
      ⟨.ofNat 1, some default, some "x", .ofList [default], key, some "t", none⟩))
    let op : Operation := .addScopeText (some default) (some "x")
    let steps : List Step := [write, .act i (.call op)]
    let f : Fault := Violation.foreignKey.fault.surface
    (r.database.view i ≠ r.database.committed ∧
      (write.run r).2.database.view i ≠ r.database.view i) ∧
    (((Step.act i (.call op)).run r).1.fault? = some f ∧
      ((Step.act i (.call op)).run r).1 = .leaf (.error f) [] ∧
      Database.Restored i r.database ((Step.act i (.call op)).run r).2.database) ∧
    (Step.allInside i steps = true ∧
      ((Step.unit i true none steps).run r).1.fault? = some f ∧
      Database.Restored i r.database ((Step.unit i true none steps).run r).2.database) := by
  intro i key r write op steps f
  have hwork : r.database.view i ≠ r.database.committed ∧
      (write.run r).2.database.view i ≠ r.database.view i := by decide +kernel
  have hop : ((Step.act i (.call op)).run r).1.fault? = some f := by decide +kernel
  have hunit : ((Step.unit i true none steps).run r).1.fault? = some f := by decide +kernel
  have hs : Step.allInside i steps = true := by decide
  exact ⟨hwork, ⟨hop, (failure_restores r i).1 op f hop⟩,
    hs, hunit, (failure_restores r i).2 true none steps f hs hunit⟩

end SubscriptionRegistry
