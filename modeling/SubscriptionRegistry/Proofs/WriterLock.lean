import SubscriptionRegistry.Proofs.Serial

/-!
# The writer lock

A session is the writer from the first write statement that it runs in a transaction to the end of
that transaction. This is told here by the moves of a run alone; the database agrees.

* `Script.IsWriterAt`: session `i` is the writer after `n` moves. `Script.isWriterAt_iff`: its
  transaction has a store to work on.
* `Write.refusal`: what a write fails with while another session is the writer.
* `Step.isWorkOf`: the operations and units of a session. `Step.depth_work`: they leave its levels
  as they were.
* `Step.begun`: whether a session has begun a transaction by itself, by the steps and their reports.
* `Script.single_writer`: one writer at a time, whose work no other session sees or overwrites, and
  no transaction that nobody has begun.
-/

namespace SubscriptionRegistry

/-! ## One move -/

/-- The session whose move it is. -/
def Move.session? : Move → Option SessionId
  | opened i | kept i | undone i | committed i | rolledBack i | wrote i _ | failed i .. => some i
  | idle => none

theorem Move.Attempts.session? {i : SessionId} {m : Move} (h : m.Attempts i) :
    m.session? = some i := by
  cases h <;> rfl

namespace Database

variable {d d' : Database} {i k : SessionId} {s : Store} {m : Move}

theorem others_release : (d.release i).others i = d.others i := by
  unfold release
  split
  · rfl
  · split
    · exact others_close
    · exact others_setTransaction

theorem others_undo : (d.undo i).others i = d.others i := by
  unfold undo
  split
  · rfl
  · split
    · exact others_close
    · exact others_setTransaction

/-- A session that has left its outermost level has no transaction, and is not the writer. -/
theorem depth_release : (d.release i).depth i = d.depth i - 1 := by
  by_cases hd : d.depth i ≤ 1
  · rw [release_eq_commitAll hd, depth_commitAll]
    omega
  · obtain ⟨w, x, xs, ht⟩ := exists_nested (Nat.lt_of_not_le hd)
    rw [release_of_nested ht, depth_of_some ht, depth_of_some transaction?_setTransaction]
    rfl

theorem depth_undo : (d.undo i).depth i = d.depth i - 1 := by
  by_cases hd : d.depth i ≤ 1
  · rw [undo_eq_close hd, depth_of_none transaction?_close]
    omega
  · obtain ⟨w, x, xs, ht⟩ := exists_nested (Nat.lt_of_not_le hd)
    rw [undo_of_nested ht, depth_of_some ht, depth_of_some transaction?_setTransaction]
    rfl

theorem inTransaction_congr (h : d'.depth i = d.depth i) : d'.inTransaction i = d.inTransaction i := by
  rw [inTransaction_eq_decide, inTransaction_eq_decide, h]

theorem isWriter_enter : (d.enter i).isWriter i = d.isWriter i := by
  cases h : d.transaction? i with
  | none => simp [enter_of_none h, isWriter, h]
  | some t => simp [enter_of_some h, isWriter, h]

/-- Leaving a level with its work keeps the lock as long as the transaction is open. -/
theorem isWriter_release (ht : (d.release i).inTransaction i = true) :
    (d.release i).isWriter i = d.isWriter i := by
  rw [inTransaction_eq_decide, decide_eq_true_eq, depth_release] at ht
  obtain ⟨w, x, xs, h⟩ := exists_nested (show 1 < d.depth i by omega)
  rw [release_of_nested h, isWriter_of_some h, isWriter_of_some transaction?_setTransaction]

theorem Valid.isWriter_undo (hv : d.Valid) (ht : (d.undo i).inTransaction i = true) :
    (d.undo i).isWriter i = d.isWriter i := by
  rw [inTransaction_eq_decide, decide_eq_true_eq, depth_undo] at ht
  obtain ⟨w, x, xs, h⟩ := exists_nested (show 1 < d.depth i by omega)
  rw [undo_of_nested h, isWriter_of_some h, isWriter_of_some transaction?_setTransaction]
  cases w with
  | none =>
    -- Before the first write there was nothing to save.
    rw [hv.unwritten i _ h rfl x List.mem_cons_self]
    rfl
  | some s => cases x <;> rfl

end Database

namespace Move

variable {d d' : Database} {i k : SessionId} {m : Move}

/-- A move changes the transaction of its own session only. -/
theorem Leads.transaction?_eq (hm : m.Leads d d') (hk : m.session? ≠ some k) :
    d'.transaction? k = d.transaction? k := by
  have hrest : ∀ i, (d.rest i).transaction? k = d.transaction? k := fun i => by
    by_cases hi : k = i
    · subst hi
      cases h : d.transaction? k with
      | none => rw [Database.rest_of_none h, h]
      | some t => rw [Database.rest_of_some h, Database.transaction?_setTransaction]
    · exact Database.transaction?_congr Database.others_rest hi
  have hne : ∀ {i}, some i ≠ some k → k ≠ i := fun h hki => h (congrArg some hki.symm)
  cases m with
  | opened i => cases hm; exact Database.transaction?_congr Database.others_enter (hne hk)
  | kept i => cases hm; exact Database.transaction?_congr Database.others_release (hne hk)
  | undone i => cases hm; exact Database.transaction?_congr Database.others_undo (hne hk)
  | committed i => cases hm; exact Database.transaction?_congr Database.others_commitAll (hne hk)
  | rolledBack i => cases hm; exact Database.transaction?_close_ne (hne hk)
  | wrote i deed =>
    obtain ⟨-, s, -, rfl⟩ := hm
    exact Database.transaction?_congr Database.others_put (hne hk)
  | failed i clock w f =>
    rcases hm with ⟨-, rfl | rfl⟩ | ⟨-, -, rfl⟩
    · rfl
    · exact hrest i
    · exact Database.transaction?_congr Database.others_write (hne hk)
  | idle =>
    rcases hm with rfl | ⟨i, rfl⟩
    · rfl
    · exact hrest i

/-- The number of levels of session `k` after a move, of `n` before it. -/
def levelsOf (k : SessionId) (n : Nat) : Move → Nat
  | opened i => if i = k then n + 1 else n
  | kept i | undone i => if i = k then n - 1 else n
  | committed i | rolledBack i => if i = k then 0 else n
  | wrote .. | failed .. | idle => n

theorem Leads.depth (hm : m.Leads d d') (k : SessionId) :
    d'.depth k = m.levelsOf k (d.depth k) := by
  by_cases hk : m.session? = some k
  · cases m with
    | opened i => cases hk; cases hm; simpa [levelsOf] using Database.depth_enter
    | kept i => cases hk; cases hm; simpa [levelsOf] using Database.depth_release
    | undone i => cases hk; cases hm; simpa [levelsOf] using Database.depth_undo
    | committed i => cases hk; cases hm; simpa [levelsOf] using Database.depth_commitAll
    | rolledBack i =>
      cases hk
      cases hm
      simpa [levelsOf] using Database.depth_of_none Database.transaction?_close
    | wrote i deed =>
      cases hk
      obtain ⟨-, s, -, rfl⟩ := hm
      exact Database.depth_put
    | failed i clock w f =>
      cases hk
      rcases hm with ⟨-, rfl | rfl⟩ | ⟨-, -, rfl⟩
      · rfl
      · exact (Database.alike_rest d k).depth
      · exact (Database.alike_write_view d k).depth
    | idle => cases hk
  · rw [Database.depth_congr (hm.transaction?_eq hk)]
    cases m with
    | opened i | kept i | undone i | committed i | rolledBack i =>
      exact (if_neg fun h => hk (congrArg some h)).symm
    | wrote i deed | failed i clock w f | idle => rfl

/-- After a move a session with an open transaction is the writer if it was before, or has run a
write statement. -/
theorem Leads.isWriter_iff (hm : m.Leads d d') (hv : d.Valid) (ht : d'.inTransaction k = true) :
    d'.isWriter k = true ↔ d.isWriter k = true ∨ m.Attempts k := by
  by_cases hk : m.session? = some k
  · cases m with
    | opened i =>
      cases hk
      cases hm
      rw [Database.isWriter_enter, or_iff_left nofun]
    | kept i =>
      cases hk
      cases hm
      rw [Database.isWriter_release ht, or_iff_left nofun]
    | undone i =>
      cases hk
      cases hm
      rw [hv.isWriter_undo ht, or_iff_left nofun]
    | committed i | rolledBack i =>
      cases hk
      rw [Database.inTransaction_eq_decide, hm.depth] at ht
      simp [levelsOf] at ht
    | wrote i deed =>
      cases hk
      obtain ⟨-, s, -, rfl⟩ := hm
      rw [Database.isWriter_put, ← Database.inTransaction_congr Database.depth_put, ht]
      exact iff_of_true rfl (.inr (.wrote deed))
    | failed i clock w f =>
      cases hk
      rcases hm with ⟨hno, rfl | rfl⟩ | ⟨hran, -, rfl⟩
      · rw [or_iff_left hno]
      · rw [Database.isWriter_rest, or_iff_left hno]
      · rw [(Database.alike_write_view d k).inTransaction] at ht
        exact iff_of_true (Database.isWriter_write ht) (.inr hran)
    | idle => cases hk
  · rw [Database.isWriter_congr (hm.transaction?_eq hk), or_iff_left fun h => hk h.session?]

/-- As long as the writer's transaction is open, nothing is committed. -/
theorem Leads.committed_eq (hm : m.Leads d d') (hv : d.Valid) (hw : d.isWriter k = true)
    (ht : d'.inTransaction k = true) : d'.committed = d.committed := by
  -- Another session that ends its transaction commits what it sees, which is what is committed.
  have hother : ∀ {i}, i ≠ k → (d.commitAll i).committed = d.committed := fun {i} hi => by
    have hno : d.isWriter i = false := by
      rw [← Bool.not_eq_true]
      exact fun h => hi (hv.single i k h hw)
    rw [Database.committed_commitAll, hv.view_of_not_isWriter hno]
  have hdepth := hm.depth k
  rw [Database.inTransaction_eq_decide, decide_eq_true_eq] at ht
  cases m with
  | opened i => cases hm; exact Database.committed_enter
  | kept i =>
    cases hm
    by_cases hd : d.depth i ≤ 1
    · rw [Database.release_eq_commitAll hd]
      refine hother ?_
      rintro rfl
      simp only [levelsOf, if_true] at hdepth
      omega
    · obtain ⟨w, x, xs, h⟩ := Database.exists_nested (Nat.lt_of_not_le hd)
      rw [Database.release_of_nested h, Database.committed_setTransaction]
  | undone i =>
    cases hm
    by_cases hd : d.depth i ≤ 1
    · rw [Database.undo_eq_close hd]
      rfl
    · obtain ⟨w, x, xs, h⟩ := Database.exists_nested (Nat.lt_of_not_le hd)
      rw [Database.undo_of_nested h, Database.committed_setTransaction]
  | committed i =>
    cases hm
    refine hother ?_
    rintro rfl
    simp only [levelsOf, if_true] at hdepth
    omega
  | rolledBack i => cases hm; rfl
  | wrote i deed =>
    obtain ⟨hl, s, -, rfl⟩ := hm
    have hi : i = k := Decidable.byContradiction fun hi => by
      simp [hv.lockedFor_iff.2 ⟨k, Ne.symm hi, hw⟩] at hl
    rw [Database.committed_put, hi, Database.inTransaction_of_isWriter hw, if_pos rfl]
  | failed i clock w f =>
    rcases hm with ⟨-, rfl | rfl⟩ | ⟨-, -, rfl⟩
    · rfl
    · exact Database.committed_rest
    · exact Database.committed_write
  | idle =>
    rcases hm with rfl | ⟨i, rfl⟩
    · rfl
    · exact Database.committed_rest

end Move

/-! ## Points of a run -/

namespace Script

variable {script : Script} {r : Registry} {clock : Instant} {s : Store} {n k : Nat} {i j : SessionId}

/-- The move of a run after its first `n` moves. -/
def moveAt (script : Script) (r : Registry) (n : Nat) : Option Move :=
  ((script.trail r)[n]?).map (·.1)

/-- From one point to the next there is a move, or the run has ended. -/
theorem stateAt_succ (script : Script) (r : Registry) (n : Nat) :
    (∃ m, script.moveAt r n = some m ∧
      m.Leads (script.stateAt r n).database (script.stateAt r (n + 1)).database) ∨
    (script.moveAt r n = none ∧ script.stateAt r (n + 1) = script.stateAt r n) := by
  unfold moveAt stateAt
  have hf := (script.follows_trail r).take (n + 1)
  rw [List.take_add_one] at hf ⊢
  rw [Registry.follows_append] at hf
  rw [Registry.after_append]
  cases h : (script.trail r)[n]? with
  | none => exact .inr ⟨rfl, rfl⟩
  | some p =>
    rw [h] at hf
    exact .inl ⟨p.1, rfl, hf.2.1⟩

/-- Session `i` is the writer after `n` moves of a run: it has run a write statement in a
transaction that has been open ever since. -/
def IsWriterAt (script : Script) (r : Registry) (n : Nat) (i : SessionId) : Prop :=
  ∃ k < n, (∃ m, script.moveAt r k = some m ∧ m.Attempts i) ∧
    ∀ l, k < l → l ≤ n → (script.stateAt r l).database.inTransaction i = true

theorem isWriterAt_succ : script.IsWriterAt r (n + 1) i ↔
    (script.stateAt r (n + 1)).database.inTransaction i = true ∧
      (script.IsWriterAt r n i ∨ ∃ m, script.moveAt r n = some m ∧ m.Attempts i) := by
  constructor
  · rintro ⟨k, hk, hm, hopen⟩
    refine ⟨hopen (n + 1) hk (Nat.le_refl _), ?_⟩
    rcases Nat.lt_succ_iff_lt_or_eq.1 hk with hkn | rfl
    · exact .inl ⟨k, hkn, hm, fun l hkl hl => hopen l hkl (Nat.le_succ_of_le hl)⟩
    · exact .inr hm
  · rintro ⟨ht, ⟨k, hk, hm, hopen⟩ | hm⟩
    · refine ⟨k, Nat.lt_succ_of_lt hk, hm, fun l hkl hl => ?_⟩
      rcases Nat.le_succ_iff.1 hl with hl | rfl
      · exact hopen l hkl hl
      · exact ht
    · refine ⟨n, Nat.lt_succ_self n, hm, fun l hnl hl => ?_⟩
      rw [Nat.le_antisymm hl hnl]
      exact ht

/-- The session that the moves of a run make the writer has a store to work on, and no other one
has. -/
theorem isWriterAt_iff : script.IsWriterAt (.start clock s) n i ↔
    (script.stateAt (.start clock s) n).database.isWriter i = true := by
  induction n with
  | zero =>
    refine iff_of_false ?_ nofun
    rintro ⟨k, hk, -⟩
    exact absurd hk (Nat.not_lt_zero k)
  | succ n ih =>
    rw [isWriterAt_succ, ih]
    rcases script.stateAt_succ (.start clock s) n with ⟨m, hm, hleads⟩ | ⟨hm, hstate⟩
    · have hv := (script.tells clock s n).valid
      simp only [hm, Option.some.injEq, exists_eq_left']
      exact ⟨fun ⟨ht, h⟩ => (hleads.isWriter_iff hv ht).2 h, fun h =>
        have ht := Database.inTransaction_of_isWriter h
        ⟨ht, (hleads.isWriter_iff hv ht).1 h⟩⟩
    · simp only [hm, hstate, reduceCtorEq, false_and, exists_false, or_false]
      exact ⟨fun h => h.2, fun h => ⟨Database.inTransaction_of_isWriter h, h⟩⟩

end Script

/-! ## Refusals -/

namespace Write

variable {w : Write} {r : Registry} {i : SessionId} {f : Fault}

/-- Whether the call writes to the store. -/
def isWrite : Write → Bool
  | call op => op.isWrite
  | replaceScope .. | sweep => true

/-- What a write fails with while another session is the writer. If its inputs are rejected it fails
by these; otherwise the database is locked, which the replacement of a scope tells in the driver's
own terms. -/
def refusal (clock : Instant) (inTransaction : Bool) : Write → Fault
  | call op =>
    match op.prepare clock with
    | .error f => f.surface
    | .ok _ => .registry ⟨.transient, "(sqlite3.OperationalError) database is locked"⟩
  | sweep => .registry ⟨.transient, "(sqlite3.OperationalError) database is locked"⟩
  | replaceScope .. => if inTransaction then .locked else .rejected .scopeOutsideTransaction

open Database in
/-- A write that is locked out fails and does nothing. -/
theorem run_locked (hw : w.isWrite = true) (hl : r.database.lockedFor (w.owner i) = true) :
    ((w.step i).run r).1 =
        .leaf (.error (w.refusal r.clock (r.database.inTransaction i))) [] ∧
      Alike (w.owner i) r.database ((w.step i).run r).2.database := by
  have hattempt : ∀ run, r.database.attempt (w.owner i) (.write run) =
      (.error Fault.locked.surface, r.database.rest (w.owner i)) := fun run => by
    simp only [attempt, hl, if_true]
  cases w with
  | call op =>
    simp only [step, Step.run, Action.run, call_eq, refusal]
    cases hp : op.prepare r.clock with
    | error f => exact ⟨rfl, alike_rest r.database i⟩
    | ok statement =>
      cases statement with
      | read run =>
        have hop : op.isWrite = true := hw
        rw [Operation.isWrite_of_prepare hp] at hop
        cases hop
      | write run =>
        have h : r.database.attempt i (.write run) = _ := hattempt run
        simp only [h]
        exact ⟨rfl, alike_rest r.database i⟩
  | replaceScope subscriber scope =>
    have hl' : r.database.lockedFor i = true := hl
    simp only [step, Step.run, Action.run, replaceScope_eq, refusal, hl', if_true]
    cases r.database.inTransaction i with
    | true => exact ⟨rfl, rfl, rfl, rfl⟩
    | false => exact ⟨rfl, rfl, rfl, rfl⟩
  | sweep =>
    have h : r.database.attempt .worker (.write (sweepTask r.clock)) = _ := hattempt _
    simp only [step, Step.run, sweep_eq, h]
    exact ⟨rfl, alike_rest r.database .worker⟩

open Database in
/-- A write that is not locked out is not refused because of a lock. -/
theorem surface_ne_locked_of_unlocked (hw : w.isWrite = true)
    (hl : r.database.lockedFor (w.owner i) = false)
    (hf : ((w.step i).run r).1.fault? = some f) : f.surface ≠ Fault.locked.surface := by
  -- A statement that has failed was attempted, and so was none that the lock kept out.
  have hrun : ∀ {run g}, w.statement r.clock = .ok (.write run) →
      run (r.database.view (w.owner i)) = .error g → g.surface ≠ Fault.locked.surface :=
    fun hs hr => (Move.attempts_of_run (i := i) hs hr rfl).surface_ne_locked
  cases w with
  | call op =>
    have hl' : r.database.lockedFor i = false := hl
    have he : (r.database.call r.clock i op).1 = .error f := Report.fault?_ofReply.1 hf
    rw [call_eq] at he
    cases hp : op.prepare r.clock with
    | error g =>
      rw [hp] at he
      cases he
      rw [Fault.surface_surface]
      exact (Operation.isInputFault_prepare hp).surface_ne_locked
    | ok statement =>
      have hop : op.isWrite = true := hw
      rw [Operation.isWrite_of_prepare hp] at hop
      cases statement with
      | read run => cases hop
      | write run =>
        simp only [hp, attempt, hl', if_false, Bool.false_eq_true] at he
        cases hr : run (r.database.view i) with
        | ok p => rw [hr] at he; cases he
        | error g =>
          rw [hr] at he
          cases he
          rw [Fault.surface_surface]
          exact hrun hp hr
  | replaceScope subscriber scope =>
    have hl' : r.database.lockedFor i = false := hl
    have he : (r.database.replaceScope i subscriber scope).1 = .error f :=
      Report.fault?_ofReply.1 hf
    simp only [replaceScope_eq, hl', if_false, Bool.false_eq_true] at he
    cases ht : r.database.inTransaction i with
    | false =>
      rw [ht] at he
      cases he
      decide
    | true =>
      simp only [ht, if_true] at he
      cases hr : Operation.scopeReplacement subscriber scope (r.database.view i) with
      | ok p => rw [hr] at he; cases he
      | error g =>
        rw [hr] at he
        cases he
        exact hrun rfl hr
  | sweep =>
    have hl' : r.database.lockedFor .worker = false := hl
    have he : (r.database.sweep r.clock).1 = .error f := Report.fault?_ofReply.1 hf
    simp only [sweep_eq, attempt, hl', if_false, Bool.false_eq_true] at he
    cases he

end Write

/-! ## Levels that are left as they were found -/

mutual

/-- Whether a step has no commit and no rollback of session `i` in it. -/
def Step.keepsOpen (i : SessionId) : Step → Bool
  | .setClock _ | .sweep => true
  | .act j action => j ≠ i || action.keepsOpen
  | .unit _ _ _ steps => Step.allKeepOpen i steps

/-- Whether no step has a commit or a rollback of session `i` in it. -/
def Step.allKeepOpen (i : SessionId) : List Step → Bool
  | [] => true
  | step :: steps => step.keepsOpen i && Step.allKeepOpen i steps

end

/-- Whether a step is an operation of session `i`, or a unit of it that it neither commits nor rolls
back inside. -/
def Step.isWorkOf (i : SessionId) : Step → Bool
  | .act j (.call _) | .act j (.replaceScope ..) => j = i
  | .sweep => i = .worker
  | .unit j _ _ steps => j = i && Step.allKeepOpen i steps
  | _ => false

namespace Move

variable {k : SessionId} {n : Nat}

theorem levelsOf_ofWrite (i : SessionId) (clock : Instant) (w : Write) (reply : Except Fault Reply) :
    (ofWrite i clock w reply).levelsOf k n = n := by
  cases reply <;> rfl

theorem levelsOf_call (i : SessionId) (clock : Instant) (op : Operation)
    (reply : Except Fault Reply) : ((Action.call op).move i clock reply).levelsOf k n = n := by
  rw [Action.move]
  split
  · exact levelsOf_ofWrite i clock _ reply
  · rfl

end Move

open Database in
theorem Database.depth_action (d : Database) (i k : SessionId) (clock : Instant) (action : Action) :
    (action.run i clock d).2.depth k =
      (action.move i clock (action.run i clock d).1).levelsOf k (d.depth k) :=
  (action.leads d i clock).depth k

theorem Database.depth_sweep (d : Database) (k : SessionId) (clock : Instant) :
    (d.sweep clock).2.depth k = d.depth k := by
  rw [(d.leads_sweep clock).depth k, Move.levelsOf_ofWrite]

/-- Leaving a unit of session `i` takes one level from it, whatever the unit ended with. -/
theorem Registry.depth_leave (r : Registry) (i k : SessionId) (fault : Option Fault) :
    (r.leave i fault).database.depth k =
      if i = k then r.database.depth k - 1 else r.database.depth k := by
  cases fault with
  | none => exact Move.Leads.depth (m := .kept i) rfl k
  | some f => exact Move.Leads.depth (m := .undone i) rfl k

theorem Database.depth_enter_eq (d : Database) (i k : SessionId) :
    (d.enter i).depth k = if i = k then d.depth k + 1 else d.depth k :=
  Move.Leads.depth (m := .opened i) rfl k

mutual

/-- In an open transaction of session `i` a step keeps its levels, unless it commits or rolls
back. -/
theorem Step.depth_run {i : SessionId} {r : Registry} (ht : 0 < r.database.depth i) :
    ∀ step : Step, step.keepsOpen i = true →
      (step.run r).2.database.depth i = r.database.depth i
  | .setClock time, _ => by
    simp only [Step.run, Registry.setClock]
    split <;> rfl
  | .act j action, hs => by
    show (action.run j r.clock r.database).2.depth i = _
    rw [Database.depth_action]
    cases action with
    | begin =>
      by_cases hj : j = i
      · -- Another transaction cannot be begun in an open one.
        have hopen : r.database.inTransaction j = true := by
          rw [hj, Database.inTransaction_eq_decide]
          exact decide_eq_true ht
        simp only [Action.run, Database.begin, hopen, if_true, Action.move, Move.levelsOf]
      · simp only [Action.move]
        split
        · exact if_neg hj
        · rfl
    | commit | rollback =>
      simp only [Step.keepsOpen, Action.keepsOpen, Bool.or_false, decide_eq_true_eq] at hs
      exact if_neg hs
    | inTransaction | dump => rfl
    | call op => exact Move.levelsOf_call j r.clock op _
    | replaceScope subscriber scope => exact Move.levelsOf_ofWrite j r.clock _ _
  | .sweep, _ => Database.depth_sweep r.database i r.clock
  | .unit j propagate thrown steps, hs => by
    have henter := Database.depth_enter_eq r.database j i
    have hpos : 0 < (r.withDatabase (r.database.enter j)).database.depth i := by
      show 0 < (r.database.enter j).depth i
      rw [henter]
      split <;> omega
    have hsteps := Step.depth_runAll hpos steps propagate hs
    show (Registry.leave _ j _).database.depth i = _
    rw [Registry.depth_leave, hsteps]
    show (if j = i then (r.database.enter j).depth i - 1 else (r.database.enter j).depth i) = _
    rw [henter]
    split
    · rfl
    · rfl

theorem Step.depth_runAll {i : SessionId} {r : Registry} (ht : 0 < r.database.depth i) :
    ∀ (steps : List Step) (propagate : Bool), Step.allKeepOpen i steps = true →
      (Step.runAll r propagate steps).2.2.database.depth i = r.database.depth i
  | [], _, _ => rfl
  | step :: steps, propagate, hs => by
    simp only [Step.allKeepOpen, Bool.and_eq_true] at hs
    have hstep := Step.depth_run ht step hs.1
    simp only [Step.runAll]
    split
    · exact hstep
    · rw [← hstep] at ht ⊢
      exact Step.depth_runAll ht steps _ hs.2

end

/-- Every operation of a session and every unit of it leaves its levels as they were. -/
theorem Step.depth_work {i : SessionId} {step : Step} (h : step.isWorkOf i = true) (r : Registry) :
    (step.run r).2.database.depth i = r.database.depth i := by
  cases step with
  | setClock time => cases h
  | act j action =>
    show (action.run j r.clock r.database).2.depth i = _
    rw [Database.depth_action]
    cases action with
    | call op => exact Move.levelsOf_call j r.clock op _
    | replaceScope subscriber scope => exact Move.levelsOf_ofWrite j r.clock _ _
    | _ => cases h
  | sweep => exact Database.depth_sweep r.database i r.clock
  | unit j propagate thrown steps =>
    simp only [Step.isWorkOf, Bool.and_eq_true, decide_eq_true_eq] at h
    obtain ⟨rfl, hs⟩ := h
    have hpos : 0 < (r.withDatabase (r.database.enter j)).database.depth j := by
      show 0 < (r.database.enter j).depth j
      rw [Database.depth_enter]
      exact Nat.succ_pos _
    show (Registry.leave _ j _).database.depth j = _
    rw [Registry.depth_leave, Step.depth_runAll hpos steps propagate hs, if_pos rfl]
    show (r.database.enter j).depth j - 1 = _
    rw [Database.depth_enter]
    rfl

/-! ## Transactions that a session has begun -/

/-- Whether a session has begun a transaction by itself and not ended it since, after an action with
its report; `own` tells whether the action is one of the session. -/
def Action.begun (own before : Bool) : Action → Report → Bool
  | .begin, report => before || (own && report.fault?.isNone)
  | .commit, _ | .rollback, _ => before && !own
  | .inTransaction, _ | .dump, _ | .call _, _ | .replaceScope .., _ => before

mutual

/-- Whether session `i` has begun a transaction by itself and not ended it since, after a step with
its report, if it had `before`. -/
def Step.begun (i : SessionId) (before : Bool) : Step → Report → Bool
  | .setClock _, _ | .sweep, _ => before
  | .act j action, report => action.begun (j = i) before report
  | .unit _ _ _ steps, .unit _ parts => Step.allBegun i before steps parts
  | .unit .., .leaf .. => before

/-- The same after steps with their reports. -/
def Step.allBegun (i : SessionId) (before : Bool) : List Step → List Report → Bool
  | step :: steps, report :: reports => Step.allBegun i (step.begun i before report) steps reports
  | [], _ | _ :: _, [] => before

end

theorem Database.depth_le_of_not_begun {d : Database} {i j : SessionId} {clock : Instant}
    {before : Bool} {n : Nat} {action : Action} (hn : before = false → d.depth i ≤ n)
    (hb : action.begun (j = i) before (.ofReply (action.run j clock d).1) = false) :
    (action.run j clock d).2.depth i ≤ n := by
  rw [depth_action]
  cases action with
  | begin =>
    cases hr : (Action.begin.run j clock d).1 with
    | error f =>
      rw [Action.begun, Bool.or_eq_false_iff] at hb
      exact hn hb.1
    | ok reply =>
      rw [hr, Action.begun, Bool.or_eq_false_iff] at hb
      have hj : j ≠ i := by simpa [Report.ofReply, Report.fault?] using hb.2
      simp only [Action.move, Move.levelsOf, if_neg hj]
      exact hn hb.1
  | commit | rollback =>
    simp only [Action.move, Move.levelsOf]
    split
    · exact Nat.zero_le n
    · rename_i hj
      exact hn (by simpa [Action.begun, hj] using hb)
  | inTransaction | dump => exact hn hb
  | call op =>
    rw [Move.levelsOf_call]
    exact hn hb
  | replaceScope subscriber scope =>
    rw [Action.move, Move.levelsOf_ofWrite]
    exact hn hb

mutual

/-- Unless session `i` has begun a transaction by itself it has no more levels than the units of it
that a step is in. -/
theorem Step.depth_le_of_not_begun {i : SessionId} {r : Registry} {before : Bool} {n : Nat}
    (hn : before = false → r.database.depth i ≤ n) :
    ∀ step : Step, step.begun i before (step.run r).1 = false →
      (step.run r).2.database.depth i ≤ n
  | .setClock time, hb => by
    have hd : (Step.run r (.setClock time)).2.database = r.database := by
      simp only [Step.run, Registry.setClock]
      split <;> rfl
    rw [hd]
    exact hn hb
  | .act j action, hb => Database.depth_le_of_not_begun hn hb
  | .sweep, hb => by
    show (r.database.sweep r.clock).2.depth i ≤ n
    rw [Database.depth_sweep]
    exact hn hb
  | .unit j propagate thrown steps, hb => by
    have henter := Database.depth_enter_eq r.database j i
    show (Registry.leave _ j _).database.depth i ≤ n
    rw [Registry.depth_leave]
    by_cases hj : j = i
    · have hsteps := Step.depth_le_of_not_allBegun (r := r.withDatabase (r.database.enter j))
        (n := n + 1) (i := i) (fun h => ?_) propagate steps hb
      · rw [if_pos hj]
        exact Nat.sub_le_of_le_add hsteps
      · show (r.database.enter j).depth i ≤ n + 1
        rw [henter, if_pos hj]
        exact Nat.succ_le_succ (hn h)
    · have hsteps := Step.depth_le_of_not_allBegun (r := r.withDatabase (r.database.enter j))
        (n := n) (i := i) (fun h => ?_) propagate steps hb
      · rw [if_neg hj]
        exact hsteps
      · show (r.database.enter j).depth i ≤ n
        rw [henter, if_neg hj]
        exact hn h

theorem Step.depth_le_of_not_allBegun {i : SessionId} {r : Registry} {before : Bool} {n : Nat}
    (hn : before = false → r.database.depth i ≤ n) (propagate : Bool) :
    ∀ steps : List Step, Step.allBegun i before steps (Step.runAll r propagate steps).1 = false →
      (Step.runAll r propagate steps).2.2.database.depth i ≤ n
  | [], hb => hn hb
  | step :: steps, hb => by
    have hstep := Step.depth_le_of_not_begun (n := n) hn step
    have hall := Step.depth_le_of_not_allBegun hstep propagate steps
    cases propagate with
    | false =>
      simp only [Step.runAll, Step.allBegun] at hb ⊢
      exact hall hb
    | true =>
      cases hf : (step.run r).1.fault? with
      | none =>
        simp only [Step.runAll, hf, Step.allBegun] at hb ⊢
        exact hall hb
      | some f =>
        simp only [Step.runAll, hf] at hb ⊢
        refine hstep ?_
        cases steps <;> exact hb

end

/-! ## The law of the lock -/

/-- What sessions may rely on at every point of a run from `r`. -/
structure Script.SingleWriter (script : Script) (r : Registry) : Prop where
  single : ∀ n i j, script.IsWriterAt r n i → script.IsWriterAt r n j → i = j
  /-- A session that is not the writer sees what is committed. -/
  view : ∀ n i, ¬ script.IsWriterAt r n i →
    (script.stateAt r n).database.view i = (script.stateAt r n).database.committed
  /-- Nothing is committed until the transaction of the writer ends. -/
  committed : ∀ n m i, script.IsWriterAt r n i → n ≤ m →
    (∀ k, n ≤ k → k ≤ m → (script.stateAt r k).database.inTransaction i = true) →
      (script.stateAt r m).database.committed = (script.stateAt r n).database.committed
  /-- A write of another session fails and changes nothing. -/
  refused : ∀ n i j (w : Write), w.isWrite = true → script.IsWriterAt r n i → w.owner j ≠ i →
    let before := script.stateAt r n
    let after := (w.step j).run before
    after.1 = .leaf (.error (w.refusal before.clock (before.database.inTransaction j))) [] ∧
      Database.Restored (w.owner j) before.database after.2.database
  /-- A write is not refused because of a lock that no other session holds. -/
  unlocked : ∀ n j (w : Write) f, w.isWrite = true →
    (∀ i, script.IsWriterAt r n i → i = w.owner j) →
      ((w.step j).run (script.stateAt r n)).1.fault? = some f → f.surface ≠ Fault.locked.surface

theorem Script.committed_eq (script : Script) (clock : Instant) (s : Store) {n m : Nat}
    {i : SessionId} (hw : script.IsWriterAt (.start clock s) n i) (hnm : n ≤ m)
    (hopen : ∀ k, n ≤ k → k ≤ m →
      (script.stateAt (.start clock s) k).database.inTransaction i = true) :
    script.IsWriterAt (.start clock s) m i ∧
      (script.stateAt (.start clock s) m).database.committed =
        (script.stateAt (.start clock s) n).database.committed := by
  induction hnm with
  | refl => exact ⟨hw, rfl⟩
  | @step m hnm ih =>
    obtain ⟨hwm, hc⟩ := ih fun k hnk hkm => hopen k hnk (Nat.le_succ_of_le hkm)
    have ht := hopen (m + 1) (Nat.le_succ_of_le hnm) (Nat.le_refl _)
    refine ⟨isWriterAt_succ.2 ⟨ht, .inl hwm⟩, ?_⟩
    rw [← hc]
    rcases script.stateAt_succ (.start clock s) m with ⟨mv, -, hleads⟩ | ⟨-, hstate⟩
    · exact hleads.committed_eq (script.tells clock s m).valid (isWriterAt_iff.1 hwm) ht
    · rw [hstate]

theorem Script.singleWriter (script : Script) (clock : Instant) (s : Store) :
    script.SingleWriter (.start clock s) where
  single n i j hi hj :=
    (script.tells clock s n).valid.single i j (isWriterAt_iff.1 hi) (isWriterAt_iff.1 hj)
  view n i hi := by
    rw [isWriterAt_iff, Bool.not_eq_true] at hi
    exact (script.tells clock s n).valid.view_of_not_isWriter hi
  committed n m i hw hnm hopen := (script.committed_eq clock s hw hnm hopen).2
  refused n i j w hisw hw hj := by
    have hl := (script.tells clock s n).valid.lockedFor_iff.2 ⟨i, Ne.symm hj, isWriterAt_iff.1 hw⟩
    obtain ⟨hreport, halike⟩ := Write.run_locked hisw hl
    exact ⟨hreport, halike.restored⟩
  unlocked n j w f hisw hfree hf := by
    refine Write.surface_ne_locked_of_unlocked hisw (Bool.eq_false_iff.2 fun hl => ?_) hf
    obtain ⟨i, hi, hw⟩ := (script.tells clock s n).valid.lockedFor_iff.1 hl
    exact hi (hfree i (isWriterAt_iff.2 hw))

/-- **One writer, no dirty reads, no lock that is left behind.** At every point of a run there is at
most one writer, whose work no other session sees before its transaction ends, and until then every
write of another session is refused. Operations and units leave the transaction of their session as
they found it, so after any number of the steps of a script only a session that has begun a
transaction by itself, and not ended it, has one. -/
theorem Script.single_writer (script : Script) (clock : Instant) (s : Store) :
    script.SingleWriter (.start clock s) ∧
      (∀ r i (step : Step), step.isWorkOf i = true →
        let d' := (step.run r).2.database
        d'.inTransaction i = r.database.inTransaction i ∧ d'.depth i = r.database.depth i) ∧
      ∀ n i, let (reports, r') := Script.run (.start clock s) (script.take n)
        r'.database.inTransaction i = true → Step.allBegun i false (script.take n) reports = true := by
  refine ⟨script.singleWriter clock s, fun r i step h => ?_, fun n i => ?_⟩
  · have hd := Step.depth_work h r
    exact ⟨Database.inTransaction_congr hd, hd⟩
  · intro ht
    refine Decidable.byContradiction fun hb => ?_
    have hd := Step.depth_le_of_not_allBegun (i := i) (r := .start clock s) (n := 0)
      (fun _ => Nat.le_refl 0) false (script.take n) (Bool.eq_false_iff.2 hb)
    rw [Database.inTransaction_eq_decide, decide_eq_true_eq] at ht
    exact absurd (Nat.lt_of_lt_of_le ht hd) (Nat.lt_irrefl 0)

end SubscriptionRegistry
