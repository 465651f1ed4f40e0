import SubscriptionRegistry.Proofs.Integrity

/-!
# Outcomes of calls

Of the whole database a call looks at two things: the store that its session sees, and whether
another session is writing. From these follow its report and the store that the session sees
afterwards.

* `Operation.outcome`: the report of a call, and the store that it leaves.
* `Database.call_outcome`: a session that makes the call is given this report and sees this store.
* `Registry.report`: the report of a call. `Registry.report_of_total`: that of a view.
* `Operation.outcomes`, `Script.run_calls`: the same for calls that are made one after the other.
-/

namespace SubscriptionRegistry

namespace Operation

variable {locked : Bool} {clock : Instant} {s : Store} {op : Operation}

/-- The report of a call for a session that sees the store `s`, and the store that it sees
afterwards. A write is refused if another session is writing. -/
def outcome (locked : Bool) (clock : Instant) (s : Store) (op : Operation) : Report × Store :=
  match op.prepare clock with
  | .error f => (.leaf (.error f.surface) [], s)
  | .ok (.read run) => (.ofReply ((run s).mapError Fault.surface), s)
  | .ok (.write run) =>
    if locked then (.leaf (.error Fault.locked.surface) [], s)
    else
      match run s with
      | .ok (s', reply) => (.leaf (.ok reply.answer) reply.events, s')
      | .error f => (.leaf (.error f.surface) [], s)

/-- The reports of calls that are made one after the other, and the store that they leave. -/
def outcomes (locked : Bool) (clock : Instant) : Store → List Operation → List Report × Store
  | s, [] => ([], s)
  | s, op :: ops =>
    let (report, s') := outcome locked clock s op
    let (reports, s'') := outcomes locked clock s' ops
    (report :: reports, s'')

theorem outcomes_cons (locked : Bool) (clock : Instant) (s : Store) (op : Operation)
    (ops : List Operation) : outcomes locked clock s (op :: ops) =
      ((outcome locked clock s op).1 :: (outcomes locked clock (outcome locked clock s op).2 ops).1,
        (outcomes locked clock (outcome locked clock s op).2 ops).2) := rfl

theorem outcome_of_error {f : Fault} (hp : op.prepare clock = .error f) :
    outcome locked clock s op = (.leaf (.error f.surface) [], s) := by
  simp only [outcome, hp]

theorem outcome_of_locked {run : Routine}
    (hp : op.prepare clock = .ok (.write run)) :
    outcome true clock s op = (.leaf (.error Fault.locked.surface) [], s) := by
  simp only [outcome, hp, if_true]

theorem outcome_of_write {run : Routine}
    (hp : op.prepare clock = .ok (.write run)) :
    outcome false clock s op =
      match run s with
      | .ok (s', reply) => (.leaf (.ok reply.answer) reply.events, s')
      | .error f => (.leaf (.error f.surface) [], s) := by
  simp only [outcome, hp, if_false, Bool.false_eq_true]

/-- A call leaves the store as it was, or is a write that nobody has locked out and that has
succeeded. -/
theorem outcome_cases (locked : Bool) (clock : Instant) (s : Store) (op : Operation) :
    (op.outcome locked clock s).2 = s ∨ (locked = false ∧
      ∃ reply, (Write.call op).Turns clock s (op.outcome locked clock s).2 reply) := by
  cases hp : op.prepare clock with
  | error f =>
    rw [outcome_of_error hp]
    exact .inl rfl
  | ok statement =>
    cases statement with
    | read run =>
      simp only [outcome, hp]
      exact .inl trivial
    | write run =>
      cases locked with
      | true =>
        rw [outcome_of_locked hp]
        exact .inl rfl
      | false =>
        rw [outcome_of_write hp]
        cases hr : run s with
        | error f => exact .inl rfl
        | ok p => exact .inr ⟨rfl, p.2, run, hp, hr⟩

/-- A call keeps the constraints of the tables. -/
theorem intact_outcome (hs : s.Intact) : (op.outcome locked clock s).2.Intact := by
  rcases outcome_cases locked clock s op with hsame | ⟨-, reply, hturns⟩
  · rw [hsame]
    exact hs
  · exact hturns.effect.intact hs

/-- Calls keep the constraints of the tables. -/
theorem intact_outcomes {ops : List Operation} (hs : s.Intact) :
    (outcomes locked clock s ops).2.Intact := by
  induction ops generalizing s with
  | nil => exact hs
  | cons op ops ih => exact ih (intact_outcome hs)

end Operation

/-! ## Calls of a session -/

/-- To put what one sees changes nothing that a session sees. -/
theorem Database.alike_put_view (d : Database) (i : SessionId) : Alike i d (d.put i (d.view i)) := by
  refine ⟨?_, others_put, ?_⟩
  · rw [committed_put]
    cases ht : d.transaction? i with
    | none => rw [inTransaction_of_none ht, view_of_none ht, ite_self]
    | some t => rw [inTransaction_of_some ht, if_pos rfl]
  · obtain ⟨outer, houter, -⟩ := levels_eq_cons d i
    rw [levels_put, houter, List.tail_cons]

/-- A call gives its session the report of its outcome, and the session then sees the store that is
left. Nobody can tell whether a store was put or nothing was done, where the two come to the
same. -/
theorem Database.call_outcome (d : Database) (clock : Instant) (i : SessionId) (op : Operation) :
    let outcome := op.outcome (d.lockedFor i) clock (d.view i)
    Report.ofReply (d.call clock i op).1 = outcome.1 ∧
      Alike i (d.put i outcome.2) (d.call clock i op).2 := by
  intro outcome
  have hsame : Alike i (d.put i (d.view i)) d := (d.alike_put_view i).symm
  cases hp : op.prepare clock with
  | error f =>
    simp only [outcome, Operation.outcome_of_error hp, call_of_error hp]
    exact ⟨rfl, hsame.trans (d.alike_rest i)⟩
  | ok statement =>
    simp only [outcome, Operation.outcome, hp, call_of_ok hp, attempt]
    cases statement with
    | read run => exact ⟨rfl, hsame.trans (d.alike_rest i)⟩
    | write run =>
      cases d.lockedFor i with
      | true => exact ⟨rfl, hsame.trans (d.alike_rest i)⟩
      | false =>
        simp only [if_false, Bool.false_eq_true]
        cases run (d.view i) with
        | ok p => exact ⟨rfl, rfl, rfl, rfl⟩
        | error f => exact ⟨rfl, hsame.trans (d.alike_write_view i)⟩

/-- The step in which a session makes a call. -/
def Step.callOf (i : SessionId) (op : Operation) : Step := .act i (.call op)

theorem Step.run_callOf (r : Registry) (i : SessionId) (op : Operation) :
    (callOf i op).run r = (.ofReply (r.database.call r.clock i op).1,
      r.withDatabase (r.database.call r.clock i op).2) := by
  simp only [callOf, Step.run, Action.run]

/-- A session that makes a call is given the report of its outcome. -/
theorem Step.report_callOf (r : Registry) (i : SessionId) (op : Operation) :
    ((callOf i op).run r).1 =
      (op.outcome (r.database.lockedFor i) r.clock (r.database.view i)).1 := by
  rw [run_callOf]
  exact (r.database.call_outcome r.clock i op).1

/-- The report that session `i` is given for a call. -/
def Registry.report (r : Registry) (i : SessionId) (op : Operation) : Report :=
  ((Step.act i (.call op)).run r).1

section Reports

variable {r : Registry} {i : SessionId} {op : Operation}

/-- A call that ends without a fault has an answer. -/
theorem Registry.report_of_no_fault (h : (r.report i op).fault?.isSome = false) :
    ∃ answer events, r.report i op = .leaf (.ok answer) events := by
  have hreport : r.report i op = .ofReply (r.database.call r.clock i op).1 :=
    congrArg Prod.fst (Step.run_callOf r i op)
  rw [hreport] at h ⊢
  cases hreply : (r.database.call r.clock i op).1 with
  | ok reply => exact ⟨_, _, rfl⟩
  | error f =>
    rw [hreply] at h
    cases h

/-- A call that always answers reports its reply. -/
theorem Registry.report_of_total {reply : Store → Reply}
    (hp : op.prepare r.clock = .ok (Operation.total reply)) :
    r.report i op = .leaf (.ok (reply (r.database.view i)).answer) (reply (r.database.view i)).events :=
  Step.report_of_read hp

/-- The lookup of watchers depends on the time, which may be out of range. -/
theorem Registry.report_watchersFor (r : Registry) (i : SessionId) (account appDomain : Option String)
    (now : Option Stamp) :
    r.report i (.watchersFor account appDomain now) =
      match Operation.effectiveTime r.clock now with
      | .error f => .leaf (.error f.surface) []
      | .ok t => .leaf (.ok (.watchers ((r.database.view i).watchersFor account appDomain t))) [] := by
  cases ht : Operation.effectiveTime r.clock now with
  | error f =>
    have hp : (Operation.watchersFor account appDomain now).prepare r.clock = .error f := by
      rw [Operation.prepare, ht]
      rfl
    exact Step.report_of_error hp
  | ok t =>
    have hp : (Operation.watchersFor account appDomain now).prepare r.clock =
        .ok (Operation.total fun s => ⟨.watchers (s.watchersFor account appDomain t), []⟩) := by
      rw [Operation.prepare, ht]
      rfl
    exact Registry.report_of_total hp

end Reports

/-- A session that has made calls one after the other is given the reports of their outcomes, and
sees the store that is left. -/
theorem Script.run_calls (r : Registry) (i : SessionId) (ops : List Operation) :
    let outcomes := Operation.outcomes (r.database.lockedFor i) r.clock (r.database.view i) ops
    ∃ d, Script.run r (ops.map (Step.callOf i)) = (outcomes.1, r.withDatabase d) ∧
      Database.Alike i (r.database.put i outcomes.2) d := by
  induction ops generalizing r with
  | nil => exact ⟨r.database, rfl, (r.database.alike_put_view i).symm⟩
  | cons op ops ih =>
    intro outcomes
    obtain ⟨hreport, hleft⟩ := r.database.call_outcome r.clock i op
    let left := op.outcome (r.database.lockedFor i) r.clock (r.database.view i)
    let r' := r.withDatabase (r.database.call r.clock i op).2
    have hlocked : r'.database.lockedFor i = r.database.lockedFor i :=
      hleft.lockedFor.trans (Database.lockedFor_congr Database.others_put)
    have hview : r'.database.view i = left.2 := hleft.view.trans Database.view_put
    obtain ⟨d, hrun, halike⟩ := ih r'
    rw [hlocked, hview] at hrun halike
    refine ⟨d, ?_, ?_⟩
    · rw [List.map_cons, run_cons, Step.run_callOf, hreport]
      exact congrArg (fun x : List Report × Registry => (left.1 :: x.1, x.2)) hrun
    · have hput := hleft.put (Operation.outcomes (r.database.lockedFor i) r.clock left.2 ops).2
      rw [Database.put_put] at hput
      exact hput.trans halike

end SubscriptionRegistry
