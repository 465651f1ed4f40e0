import SubscriptionRegistry.Proofs.Routines
import SubscriptionRegistry.Worker

/-!
# Laws of sessions and transactions

What each operation of a `Database` does to the committed store and to the transactions of all
sessions.

* `Database.levels`: the stores that a session would fall back to, from what it sees now out to
  the committed store. It has one entry for each open level and one more.
* `Database.Valid`: one transaction a session, one writer, and no savepoint with work in a
  transaction without any. Every operation keeps it.
* `Database.put`: the database in which a session has written one store as a unit.
* `executeRoutine_of_unlocked`: what a routine leaves in a transaction, also if it fails.
* `call_eq`, `replaceScope_eq`, `sweep_eq`: all that a call can do. A call that succeeds with a
  write is a `put`; one that fails leaves the database as it is, but for the writer lock.
-/

namespace SubscriptionRegistry

namespace Database

variable {d : Database} {i j : SessionId} {t t' : Transaction} {s s' : Store}

/-! ## The open transactions -/

@[simp] theorem committed_setTransaction : (d.setTransaction i t).committed = d.committed := rfl

@[simp] theorem others_setTransaction : (d.setTransaction i t).others i = d.others i := by
  simp [others, setTransaction]

@[simp] theorem others_close : (d.close i).others i = d.others i := by
  simp [others, close]

@[simp] theorem transaction?_setTransaction : (d.setTransaction i t).transaction? i = some t := by
  simp [transaction?, setTransaction]

@[simp] theorem transaction?_close : (d.close i).transaction? i = none := by
  refine List.lookup_eq_none_iff.2 fun p hp => ?_
  have hpi : p.1 ≠ i := by simpa using (List.mem_filter.1 hp).2
  simpa using Ne.symm hpi

theorem transaction?_close_ne (h : j ≠ i) : (d.close i).transaction? j = d.transaction? j := by
  obtain ⟨c, l⟩ := d
  show (l.filter (·.1 ≠ i)).lookup j = l.lookup j
  induction l with
  | nil => rfl
  | cons p l ih =>
    obtain ⟨k, t⟩ := p
    by_cases hk : k = i
    · have hjk : (j == k) = false := by simpa [hk] using h
      simpa [hk, List.lookup_cons, hk ▸ hjk] using ih
    · simp only [ne_eq, decide_not] at ih
      simp [hk, List.lookup_cons, ih]

theorem transaction?_setTransaction_ne (h : j ≠ i) :
    (d.setTransaction i t).transaction? j = d.transaction? j := by
  have hji : (j == i) = false := by simpa using h
  simp only [transaction?, setTransaction, List.lookup_cons, hji]
  exact transaction?_close_ne h

@[simp] theorem setTransaction_setTransaction :
    (d.setTransaction i t).setTransaction i t' = d.setTransaction i t' := by
  simp [setTransaction, others]

@[simp] theorem close_setTransaction : (d.setTransaction i t).close i = d.close i := by
  simp [close, setTransaction, others]

theorem others_eq_of_none (h : d.transaction? i = none) : d.others i = d.transactions := by
  refine List.filter_eq_self.2 fun p hp => ?_
  have := List.lookup_eq_none_iff.1 h p hp
  simpa using fun e : p.1 = i => by simp [e] at this

theorem close_eq_of_none (h : d.transaction? i = none) : d.close i = d := by
  unfold close
  rw [others_eq_of_none h]

theorem lockedFor_congr {d' : Database} (h : d'.others i = d.others i) :
    d'.lockedFor i = d.lockedFor i := by
  unfold lockedFor
  rw [h]

@[simp] theorem lockedFor_setTransaction :
    (d.setTransaction i t).lockedFor i = d.lockedFor i :=
  lockedFor_congr others_setTransaction

/-! ## What a session sees -/

theorem view_of_none (h : d.transaction? i = none) : d.view i = d.committed := by
  simp [view, h]

theorem view_of_some (h : d.transaction? i = some t) :
    d.view i = t.working.getD d.committed := by
  simp [view, h]

theorem isWriter_of_some (h : d.transaction? i = some t) :
    d.isWriter i = t.working.isSome := by
  simp [isWriter, h]

theorem not_isWriter_of_none (h : d.transaction? i = none) : d.isWriter i = false := by
  simp [isWriter, h]

/-- The stores that session `i` would fall back to, the innermost first: what it sees, what it saw
at each savepoint, and the committed store. -/
def levels (d : Database) (i : SessionId) : List Store :=
  match d.transaction? i with
  | none => [d.committed]
  | some t => (t.working :: t.savepoints).map (·.getD d.committed) ++ [d.committed]

/-- The number of open levels of session `i`. -/
def depth (d : Database) (i : SessionId) : Nat :=
  match d.transaction? i with
  | none => 0
  | some t => t.savepoints.length + 1

theorem levels_of_none (h : d.transaction? i = none) : d.levels i = [d.committed] := by
  simp [levels, h]

theorem levels_of_some (h : d.transaction? i = some t) :
    d.levels i = d.view i :: (t.savepoints.map (·.getD d.committed) ++ [d.committed]) := by
  simp [levels, h, view_of_some h]

theorem depth_of_none (h : d.transaction? i = none) : d.depth i = 0 := by
  simp [depth, h]

theorem depth_of_some (h : d.transaction? i = some t) : d.depth i = t.savepoints.length + 1 := by
  simp [depth, h]

theorem length_levels (d : Database) (i : SessionId) : (d.levels i).length = d.depth i + 1 := by
  cases h : d.transaction? i with
  | none => simp [levels_of_none h, depth_of_none h]
  | some t => simp [levels_of_some h, depth_of_some h]

theorem head_levels (d : Database) (i : SessionId) : (d.levels i).head? = some (d.view i) := by
  cases h : d.transaction? i with
  | none => simp [levels_of_none h, view_of_none h]
  | some t => simp [levels_of_some h]

/-- The innermost level is what the session sees. -/
theorem levels_eq_cons (d : Database) (i : SessionId) :
    ∃ outer, d.levels i = d.view i :: outer ∧ outer.length = d.depth i := by
  obtain ⟨outer, ho⟩ := List.head?_eq_some_iff.1 (head_levels d i)
  have hlen := length_levels d i
  rw [ho, List.length_cons] at hlen
  exact ⟨outer, ho, Nat.succ.inj hlen⟩

/-- The outermost level is the committed store. -/
theorem levels_eq_append (d : Database) (i : SessionId) :
    ∃ inner, d.levels i = inner ++ [d.committed] := by
  cases h : d.transaction? i with
  | none => exact ⟨[], levels_of_none h⟩
  | some t => exact ⟨_ :: _, levels_of_some h⟩

/-- A session's levels depend on its own transaction and the committed store. -/
theorem levels_congr {d' : Database} (ht : d'.transaction? i = d.transaction? i)
    (hc : d'.committed = d.committed) : d'.levels i = d.levels i := by
  simp only [levels, ht, hc]

theorem depth_congr {d' : Database} (ht : d'.transaction? i = d.transaction? i) :
    d'.depth i = d.depth i := by
  simp only [depth, ht]

theorem view_congr {d' : Database} (ht : d'.transaction? i = d.transaction? i)
    (hc : d'.committed = d.committed) : d'.view i = d.view i := by
  simp only [view, ht, hc]

/-! ## Levels of a transaction -/

theorem enter_of_none (h : d.transaction? i = none) : d.enter i = d.setTransaction i ⟨none, []⟩ := by
  simp [enter, h]

theorem enter_of_some (h : d.transaction? i = some t) :
    d.enter i = d.setTransaction i ⟨t.working, t.working :: t.savepoints⟩ := by
  simp [enter, h]

theorem release_of_none (h : d.transaction? i = none) : d.release i = d := by
  simp [release, h]

theorem release_of_outermost {w : Option Store} (h : d.transaction? i = some ⟨w, []⟩) :
    d.release i = d.commit i := by
  simp [release, h]

theorem release_of_nested {w x : Option Store} {xs : List (Option Store)}
    (h : d.transaction? i = some ⟨w, x :: xs⟩) : d.release i = d.setTransaction i ⟨w, xs⟩ := by
  simp [release, h]

theorem undo_of_none (h : d.transaction? i = none) : d.undo i = d := by
  simp [undo, h]

theorem undo_of_outermost {w : Option Store} (h : d.transaction? i = some ⟨w, []⟩) :
    d.undo i = d.close i := by
  simp [undo, h]

theorem undo_of_nested {w x : Option Store} {xs : List (Option Store)}
    (h : d.transaction? i = some ⟨w, x :: xs⟩) :
    d.undo i = d.setTransaction i ⟨x <|> w.map fun _ => d.committed, xs⟩ := by
  simp [undo, h]

theorem write_of_none (h : d.transaction? i = none) : d.write i s = d := by
  simp [write, h]

theorem write_of_some (h : d.transaction? i = some t) :
    d.write i s = d.setTransaction i { t with working := some s } := by
  simp [write, h]

theorem inTransaction_of_some (h : d.transaction? i = some t) : d.inTransaction i = true := by
  simp [inTransaction, h]

theorem inTransaction_of_none (h : d.transaction? i = none) : d.inTransaction i = false := by
  simp [inTransaction, h]

theorem commitAll_of_none (h : d.transaction? i = none) : d.commitAll i = d := by
  simp [commitAll, inTransaction_of_none h]

theorem commitAll_of_some (h : d.transaction? i = some t) : d.commitAll i = d.commit i := by
  simp [commitAll, inTransaction_of_some h]

/-- To release the only level is to commit. -/
theorem release_eq_commitAll (h : d.depth i ≤ 1) : d.release i = d.commitAll i := by
  cases ht : d.transaction? i with
  | none => rw [release_of_none ht, commitAll_of_none ht]
  | some t =>
    obtain ⟨w, xs⟩ := t
    rw [depth_of_some ht] at h
    obtain rfl : xs = [] := List.eq_nil_of_length_eq_zero (Nat.le_zero.1 (Nat.le_of_succ_le_succ h))
    rw [release_of_outermost ht, commitAll_of_some ht]

/-- To undo the only level is to roll back. -/
theorem undo_eq_close (h : d.depth i ≤ 1) : d.undo i = d.close i := by
  cases ht : d.transaction? i with
  | none => rw [undo_of_none ht, close_eq_of_none ht]
  | some t =>
    obtain ⟨w, xs⟩ := t
    rw [depth_of_some ht] at h
    obtain rfl : xs = [] := List.eq_nil_of_length_eq_zero (Nat.le_zero.1 (Nat.le_of_succ_le_succ h))
    rw [undo_of_outermost ht]

theorem exists_nested (h : 1 < d.depth i) :
    ∃ w x xs, d.transaction? i = some ⟨w, x :: xs⟩ := by
  cases ht : d.transaction? i with
  | none => rw [depth_of_none ht] at h; omega
  | some t =>
    obtain ⟨w, xs⟩ := t
    rw [depth_of_some ht] at h
    cases xs with
    | nil => simp at h
    | cons x xs => exact ⟨w, x, xs, rfl⟩

/-- Restoring an absent savepoint leaves the session with the committed store. -/
theorem getD_undone (x w : Option Store) (c : Store) :
    (x <|> w.map fun _ => c).getD c = x.getD c := by
  cases x <;> cases w <;> rfl

/-! ## One unit of work -/

/-- The database in which session `i` has written `s` as a unit: in its open transaction, or for
all to see if it has none. -/
def put (d : Database) (i : SessionId) (s : Store) : Database :=
  match d.transaction? i with
  | none => { d with committed := s }
  | some t => d.setTransaction i { t with working := some s }

/-- The database after session `i` has left a level that did nothing. The sessions see what they
saw. -/
def rest (d : Database) (i : SessionId) : Database :=
  match d.transaction? i with
  | none => d
  | some t => d.setTransaction i t

theorem put_of_none (h : d.transaction? i = none) : d.put i s = { d with committed := s } := by
  simp [put, h]

theorem put_of_some (h : d.transaction? i = some t) :
    d.put i s = d.setTransaction i { t with working := some s } := by
  simp [put, h]

theorem rest_of_none (h : d.transaction? i = none) : d.rest i = d := by
  simp [rest, h]

theorem rest_of_some (h : d.transaction? i = some t) : d.rest i = d.setTransaction i t := by
  simp [rest, h]

theorem put_put : (d.put i s).put i s' = d.put i s' := by
  cases h : d.transaction? i with
  | none =>
    rw [put_of_none h, put_of_none h]
    exact put_of_none (d := { d with committed := s }) h
  | some t =>
    rw [put_of_some h, put_of_some transaction?_setTransaction, setTransaction_setTransaction,
      put_of_some h]

theorem rest_rest : (d.rest i).rest i = d.rest i := by
  cases h : d.transaction? i with
  | none => rw [rest_of_none h, rest_of_none h]
  | some t =>
    rw [rest_of_some h, rest_of_some transaction?_setTransaction, setTransaction_setTransaction]

theorem lockedFor_enter : (d.enter i).lockedFor i = d.lockedFor i := by
  cases h : d.transaction? i with
  | none => rw [enter_of_none h, lockedFor_setTransaction]
  | some t => rw [enter_of_some h, lockedFor_setTransaction]

theorem view_enter : (d.enter i).view i = d.view i := by
  cases h : d.transaction? i with
  | none => simp [enter_of_none h, view, h]
  | some t => simp [enter_of_some h, view, h]

theorem release_enter : (d.enter i).release i = d.rest i := by
  cases h : d.transaction? i with
  | none =>
    rw [enter_of_none h, release_of_outermost transaction?_setTransaction, rest_of_none h]
    simp [commit, view_of_some transaction?_setTransaction, close_eq_of_none h]
  | some t =>
    rw [enter_of_some h, release_of_nested transaction?_setTransaction, rest_of_some h,
      setTransaction_setTransaction]

theorem undo_enter : (d.enter i).undo i = d.rest i := by
  cases h : d.transaction? i with
  | none =>
    rw [enter_of_none h, undo_of_outermost transaction?_setTransaction, rest_of_none h,
      close_setTransaction, close_eq_of_none h]
  | some t =>
    rw [enter_of_some h, undo_of_nested transaction?_setTransaction, rest_of_some h,
      setTransaction_setTransaction]
    obtain ⟨w, xs⟩ := t
    cases w <;> rfl

/-- Work that is kept is a unit's. -/
theorem release_write_enter : ((d.enter i).write i s).release i = d.put i s := by
  cases h : d.transaction? i with
  | none =>
    rw [enter_of_none h, write_of_some transaction?_setTransaction, setTransaction_setTransaction,
      release_of_outermost transaction?_setTransaction, put_of_none h]
    simp [commit, view_of_some transaction?_setTransaction, close_eq_of_none h]
  | some t =>
    rw [enter_of_some h, write_of_some transaction?_setTransaction, setTransaction_setTransaction,
      release_of_nested transaction?_setTransaction, setTransaction_setTransaction, put_of_some h]

/-- Of work that is undone nothing is left but the writer lock. -/
theorem undo_write_enter : ((d.enter i).write i s).undo i = d.write i (d.view i) := by
  cases h : d.transaction? i with
  | none =>
    rw [enter_of_none h, write_of_some transaction?_setTransaction, setTransaction_setTransaction,
      undo_of_outermost transaction?_setTransaction, close_setTransaction, close_eq_of_none h,
      write_of_none h]
  | some t =>
    rw [enter_of_some h, write_of_some transaction?_setTransaction, setTransaction_setTransaction,
      undo_of_nested transaction?_setTransaction, setTransaction_setTransaction, write_of_some h,
      view_of_some h]
    obtain ⟨w, xs⟩ := t
    cases w <;> rfl

/-! ## Statements -/

theorem inTransaction_enter (d : Database) (i : SessionId) : (d.enter i).inTransaction i = true := by
  cases h : d.transaction? i with
  | none => rw [enter_of_none h, inTransaction_of_some transaction?_setTransaction]
  | some t => rw [enter_of_some h, inTransaction_of_some transaction?_setTransaction]

theorem inTransaction_write : (d.write i s).inTransaction i = d.inTransaction i := by
  cases h : d.transaction? i with
  | none => rw [write_of_none h]
  | some t =>
    rw [write_of_some h, inTransaction_of_some transaction?_setTransaction, inTransaction_of_some h]

theorem lockedFor_write : (d.write i s).lockedFor i = d.lockedFor i := by
  cases h : d.transaction? i with
  | none => rw [write_of_none h]
  | some t => rw [write_of_some h, lockedFor_setTransaction]

theorem view_write (ht : d.inTransaction i = true) : (d.write i s).view i = s := by
  cases h : d.transaction? i with
  | none => rw [inTransaction_of_none h] at ht; cases ht
  | some t => rw [write_of_some h, view_of_some transaction?_setTransaction, Option.getD_some]

theorem write_write : (d.write i s).write i s' = d.write i s' := by
  cases h : d.transaction? i with
  | none => rw [write_of_none h]
  | some t =>
    rw [write_of_some h, write_of_some transaction?_setTransaction, setTransaction_setTransaction,
      write_of_some h]

/-- Every routine meets the lock at its first write. -/
theorem executeRoutine_of_locked (hl : d.lockedFor i = true) (routine : Routine) :
    d.executeRoutine i routine = (.error .locked, d) := by
  cases routine <;> simp only [executeRoutine, executeOne, hl, if_true]

/-- A routine leaves in the transaction what its writes, one after the other, leave of the store
that its session sees. -/
theorem executeRoutine_of_unlocked (ht : d.inTransaction i = true) (hl : d.lockedFor i = false)
    (routine : Routine) :
    d.executeRoutine i routine =
      ((routine.run (d.view i)).1, d.write i (routine.run (d.view i)).2) := by
  induction routine generalizing d with
  | one write =>
    simp only [executeRoutine, executeOne, hl, if_false, Bool.false_eq_true, Routine.run]
    cases write (d.view i) <;> rfl
  | next write rest ih =>
    simp only [executeRoutine, executeOne, hl, if_false, Bool.false_eq_true, Routine.run]
    cases write (d.view i) with
    | error f => rfl
    | ok p =>
      have hrest := ih p.2.answer (d := d.write i p.1) (inTransaction_write.trans ht)
        (lockedFor_write.trans hl)
      rw [view_write ht, write_write] at hrest
      exact hrest

/-! ## Calls -/

/-- All that a statement can do as a unit of session `i`. -/
def attempt (d : Database) (i : SessionId) : Statement → Except Fault Reply × Database
  | .read run => ((run (d.view i)).mapError Fault.surface, d.rest i)
  | .write routine =>
    if d.lockedFor i then (.error Fault.locked.surface, d.rest i)
    else
      match routine (d.view i) with
      | .ok (s, reply) => (.ok reply, d.put i s)
      | .error f => (.error f.surface, d.write i (d.view i))

/-- All that a call can do. -/
theorem call_eq (d : Database) (clock : Instant) (i : SessionId) (op : Operation) :
    d.call clock i op =
      match op.prepare clock with
      | .error f => (.error f.surface, d.rest i)
      | .ok statement => d.attempt i statement := by
  unfold call perform
  cases op.prepare clock with
  | error f => simp only [undo_enter]
  | ok statement =>
    cases statement with
    | read run =>
      simp only [execute, attempt, view_enter]
      cases run (d.view i) with
      | ok reply =>
        simp only [release_enter]
        rfl
      | error f =>
        simp only [undo_enter]
        rfl
    | write routine =>
      simp only [execute, attempt]
      cases hl : d.lockedFor i with
      | true =>
        rw [executeRoutine_of_locked (lockedFor_enter.trans hl)]
        simp only [if_true, undo_enter]
      | false =>
        rw [executeRoutine_of_unlocked (inTransaction_enter d i) (lockedFor_enter.trans hl), view_enter]
        simp only [if_false, Bool.false_eq_true]
        cases hr : routine (d.view i) with
        | ok p => simp only [Routine.run_of_ok hr, release_write_enter]
        | error f =>
          -- The writes before the failure are in the level that is undone.
          simp only [Routine.run_of_error hr, undo_write_enter]

theorem call_of_error {clock : Instant} {op : Operation} {f : Fault}
    (hp : op.prepare clock = .error f) : d.call clock i op = (.error f.surface, d.rest i) := by
  rw [call_eq, hp]

theorem call_of_ok {clock : Instant} {op : Operation} {statement : Statement}
    (hp : op.prepare clock = .ok statement) : d.call clock i op = d.attempt i statement := by
  rw [call_eq, hp]

/-- The sweep of the worker: expired watchers go, and the end of the sweep is reported. -/
def sweepTask (clock : Instant) (s : Store) : Except Fault (Store × Reply) :=
  let (s, count) := s.sweepWatchers clock
  .ok (s, ⟨.count count,
    (if count = 0 then [] else [.watchersSwept count]) ++ [.sweepFinished count]⟩)

theorem sweep_eq (d : Database) (clock : Instant) :
    d.sweep clock = d.attempt .worker (.write (sweepTask clock)) := by
  unfold sweep
  have hp : (Operation.sweepWatchers none).prepare clock =
      .ok (.write (Operation.sweepWrite clock)) := rfl
  rw [call_of_ok hp]
  simp only [attempt]
  by_cases hl : d.lockedFor .worker = true
  · simp only [hl, if_true]
  · simp only [hl, if_false, Bool.false_eq_true]
    rfl

/-- A replacement of a scope in an open transaction has no level of its own: if it fails it leaves
what the transaction had, and the writer lock. -/
theorem replaceScope_eq (d : Database) (i : SessionId) (subscriber : Option Uuid) (scope : Scope) :
    d.replaceScope i subscriber scope =
      if d.inTransaction i then
        if d.lockedFor i then (.error Fault.locked, d)
        else
          match Operation.scopeReplacement subscriber scope (d.view i) with
          | .ok (s, reply) => (.ok reply, d.put i s)
          | .error f => (.error f, d.write i (d.view i))
      else (.error (.rejected .scopeOutsideTransaction), d) := by
  unfold replaceScope
  cases h : d.transaction? i with
  | none => simp only [inTransaction_of_none h, if_false, Bool.false_eq_true]
  | some t =>
    simp only [inTransaction_of_some h, if_true, execute, executeRoutine, executeOne]
    by_cases hl : d.lockedFor i = true
    · simp only [hl, if_true]
    · simp only [hl, if_false, Bool.false_eq_true]
      cases Operation.scopeReplacement subscriber scope (d.view i) with
      | ok p => simp only [write_of_some h, put_of_some h]
      | error f => rfl

/-! ## Valid databases -/

/-- What holds of every database that sessions can reach: a session has one transaction, at most
one session has work, and a savepoint has work only if its transaction has. -/
structure Valid (d : Database) : Prop where
  keys : (d.transactions.map (·.1)).Nodup
  single : ∀ i j, d.isWriter i = true → d.isWriter j = true → i = j
  unwritten : ∀ i t, d.transaction? i = some t → t.working = none → ∀ x ∈ t.savepoints, x = none

theorem valid_ofStore (s : Store) : (ofStore s).Valid := by
  refine ⟨List.nodup_nil, fun i j h => ?_, fun i t h => ?_⟩
  · cases h
  · cases h

theorem isWriter_congr {d' : Database} (h : d'.transaction? i = d.transaction? i) :
    d'.isWriter i = d.isWriter i := by
  simp only [isWriter, h]

theorem mem_of_transaction? (h : d.transaction? i = some t) : (i, t) ∈ d.transactions := by
  obtain ⟨l₁, l₂, hl, -⟩ := List.lookup_eq_some_iff.1 h
  rw [hl]
  simp

theorem Valid.transaction?_of_mem (h : d.Valid) (hm : (i, t) ∈ d.transactions) :
    d.transaction? i = some t := by
  obtain ⟨l₁, l₂, hl⟩ := List.append_of_mem hm
  refine List.lookup_eq_some_iff.2 ⟨l₁, l₂, hl, fun p hp => ?_⟩
  have hk := h.keys
  rw [hl, List.map_append, List.nodup_append] at hk
  simpa using Ne.symm (hk.2.2 p.1 (List.mem_map_of_mem hp) i (by simp))

theorem inTransaction_of_isWriter (h : d.isWriter i = true) : d.inTransaction i = true := by
  cases ht : d.transaction? i with
  | none => rw [not_isWriter_of_none ht] at h; cases h
  | some t => exact inTransaction_of_some ht

theorem isWriter_put : (d.put i s).isWriter i = d.inTransaction i := by
  cases h : d.transaction? i with
  | none =>
    rw [put_of_none h, inTransaction_of_none h]
    exact not_isWriter_of_none h
  | some t =>
    rw [put_of_some h, inTransaction_of_some h, isWriter_of_some transaction?_setTransaction]
    rfl

theorem isWriter_rest : (d.rest i).isWriter i = d.isWriter i := by
  cases h : d.transaction? i with
  | none => rw [rest_of_none h]
  | some t =>
    rw [rest_of_some h]
    exact isWriter_congr (transaction?_setTransaction.trans h.symm)

theorem isWriter_write (h : d.inTransaction i = true) : (d.write i s).isWriter i = true := by
  cases ht : d.transaction? i with
  | none => rw [inTransaction_of_none ht] at h; cases h
  | some t =>
    rw [write_of_some ht, isWriter_of_some transaction?_setTransaction]
    rfl

/-- A session is locked out exactly by another one that is the writer. -/
theorem Valid.lockedFor_iff (h : d.Valid) :
    d.lockedFor i = true ↔ ∃ j, j ≠ i ∧ d.isWriter j = true := by
  simp only [lockedFor, others, List.any_eq_true, List.mem_filter, decide_eq_true_eq]
  constructor
  · rintro ⟨⟨j, t⟩, ⟨hm, hj⟩, hw⟩
    exact ⟨j, hj, by rw [isWriter_of_some (h.transaction?_of_mem hm)]; exact hw⟩
  · rintro ⟨j, hj, hw⟩
    cases ht : d.transaction? j with
    | none => rw [not_isWriter_of_none ht] at hw; cases hw
    | some t =>
      rw [isWriter_of_some ht] at hw
      exact ⟨(j, t), ⟨mem_of_transaction? ht, hj⟩, hw⟩

theorem Valid.unlocked_of_isWriter (h : d.Valid) (hi : d.isWriter i = true) :
    d.lockedFor i = false := by
  rw [← Bool.not_eq_true, h.lockedFor_iff]
  rintro ⟨j, hj, hw⟩
  exact hj (h.single j i hw hi)

/-- A session that is not the writer has the committed store at all its levels. -/
theorem Valid.eq_committed_of_mem_levels (h : d.Valid) (hi : d.isWriter i = false)
    (hs : s ∈ d.levels i) : s = d.committed := by
  cases ht : d.transaction? i with
  | none => simpa [levels_of_none ht] using hs
  | some t =>
    have hw : t.working = none := by
      rw [isWriter_of_some ht] at hi
      simpa using hi
    rw [levels_of_some ht, view_of_some ht, hw] at hs
    simp only [Option.getD_none, List.mem_cons, List.mem_append, List.mem_map, List.not_mem_nil,
      or_false] at hs
    rcases hs with rfl | ⟨x, hx, rfl⟩ | rfl
    · rfl
    · rw [h.unwritten i t ht hw x hx, Option.getD_none]
    · rfl

theorem Valid.view_of_not_isWriter (h : d.Valid) (hi : d.isWriter i = false) :
    d.view i = d.committed :=
  h.eq_committed_of_mem_levels hi (List.mem_of_head? (head_levels d i))

theorem Valid.setTransaction (h : d.Valid) (hw : t.working.isSome = true → d.lockedFor i = false)
    (hs : t.working = none → ∀ x ∈ t.savepoints, x = none) : (d.setTransaction i t).Valid := by
  refine ⟨?_, fun a b ha hb => ?_, fun a x ha => ?_⟩
  · refine List.nodup_cons.2 ⟨fun hm => ?_, h.keys.sublist (List.filter_sublist.map _)⟩
    obtain ⟨p, hp, hpi⟩ := List.mem_map.1 hm
    have hne : p.1 ≠ i := by simpa using (List.mem_filter.1 hp).2
    exact hne hpi
  · have key : ∀ c, c ≠ i → (d.setTransaction i t).isWriter i = true →
        (d.setTransaction i t).isWriter c = true → False := by
      intro c hc hi hcw
      rw [isWriter_of_some transaction?_setTransaction] at hi
      rw [isWriter_congr (transaction?_setTransaction_ne hc)] at hcw
      exact absurd (h.lockedFor_iff.2 ⟨c, hc, hcw⟩) (by simp [hw hi])
    by_cases hai : a = i
    · by_cases hbi : b = i
      · rw [hai, hbi]
      · exact (key b hbi (hai ▸ ha) hb).elim
    · by_cases hbi : b = i
      · exact (key a hai (hbi ▸ hb) ha).elim
      · rw [isWriter_congr (transaction?_setTransaction_ne hai)] at ha
        rw [isWriter_congr (transaction?_setTransaction_ne hbi)] at hb
        exact h.single a b ha hb
  · by_cases hai : a = i
    · subst hai
      rw [transaction?_setTransaction] at ha
      cases ha
      exact hs
    · rw [transaction?_setTransaction_ne hai] at ha
      exact h.unwritten a x ha

theorem Valid.close (h : d.Valid) : (d.close i).Valid := by
  have hne : ∀ a, (d.close i).isWriter a = true → a ≠ i := by
    rintro a ha rfl
    rw [not_isWriter_of_none transaction?_close] at ha
    cases ha
  refine ⟨h.keys.sublist (List.filter_sublist.map _), fun a b ha hb => ?_, fun a x ha => ?_⟩
  · have hai := hne a ha
    have hbi := hne b hb
    rw [isWriter_congr (transaction?_close_ne hai)] at ha
    rw [isWriter_congr (transaction?_close_ne hbi)] at hb
    exact h.single a b ha hb
  · by_cases hai : a = i
    · rw [hai, transaction?_close] at ha
      cases ha
    · rw [transaction?_close_ne hai] at ha
      exact h.unwritten a x ha

theorem Valid.commitStore (h : d.Valid) (s : Store) : ({ d with committed := s } : Database).Valid :=
  ⟨h.keys, h.single, h.unwritten⟩

theorem Valid.unlocked_of_some (h : d.Valid) (ht : d.transaction? i = some t)
    (hw : t.working.isSome = true) : d.lockedFor i = false :=
  h.unlocked_of_isWriter (by rw [isWriter_of_some ht]; exact hw)

theorem Valid.enter (h : d.Valid) : (d.enter i).Valid := by
  cases ht : d.transaction? i with
  | none =>
    rw [enter_of_none ht]
    exact h.setTransaction (fun hw => by cases hw) fun _ x hx => by cases hx
  | some t =>
    rw [enter_of_some ht]
    refine h.setTransaction (fun hw => h.unlocked_of_some ht hw) fun hw x hx => ?_
    rcases List.mem_cons.1 hx with rfl | hx
    · exact hw
    · exact h.unwritten i t ht hw x hx

theorem Valid.commit (h : d.Valid) : (d.commit i).Valid :=
  h.close.commitStore _

theorem Valid.commitAll (h : d.Valid) : (d.commitAll i).Valid := by
  unfold Database.commitAll
  split
  · exact h.commit
  · exact h

theorem Valid.release (h : d.Valid) : (d.release i).Valid := by
  cases ht : d.transaction? i with
  | none => rwa [release_of_none ht]
  | some t =>
    obtain ⟨w, xs⟩ := t
    cases xs with
    | nil => rw [release_of_outermost ht]; exact h.commit
    | cons x xs =>
      rw [release_of_nested ht]
      exact h.setTransaction (fun hw => h.unlocked_of_some ht hw) fun hw y hy =>
        h.unwritten i _ ht hw y (List.mem_cons_of_mem _ hy)

theorem Valid.undo (h : d.Valid) : (d.undo i).Valid := by
  cases ht : d.transaction? i with
  | none => rwa [undo_of_none ht]
  | some t =>
    obtain ⟨w, xs⟩ := t
    cases xs with
    | nil => rw [undo_of_outermost ht]; exact h.close
    | cons x xs =>
      rw [undo_of_nested ht]
      cases w with
      | none =>
        -- A transaction without work has a savepoint without any: there is nothing to restore.
        have hx : x = none := h.unwritten i _ ht rfl x List.mem_cons_self
        subst hx
        exact h.setTransaction (fun hw => by cases hw) fun _ y hy =>
          h.unwritten i _ ht rfl y (List.mem_cons_of_mem _ hy)
      | some s =>
        refine h.setTransaction (fun _ => h.unlocked_of_some ht rfl) fun hw => ?_
        cases x <;> cases hw

theorem Valid.write (h : d.Valid) (hl : d.lockedFor i = false) : (d.write i s).Valid := by
  cases ht : d.transaction? i with
  | none => rwa [write_of_none ht]
  | some t =>
    rw [write_of_some ht]
    exact h.setTransaction (fun _ => hl) fun hw => by cases hw

theorem Valid.put (h : d.Valid) (hl : d.lockedFor i = false) : (d.put i s).Valid := by
  cases ht : d.transaction? i with
  | none => rw [put_of_none ht]; exact h.commitStore s
  | some t =>
    rw [put_of_some ht]
    exact h.setTransaction (fun _ => hl) fun hw => by cases hw

theorem Valid.rest (h : d.Valid) : (d.rest i).Valid := by
  cases ht : d.transaction? i with
  | none => rwa [rest_of_none ht]
  | some t =>
    rw [rest_of_some ht]
    exact h.setTransaction (h.unlocked_of_some ht) (h.unwritten i t ht)

end Database

end SubscriptionRegistry
