import SubscriptionRegistry.Proofs.Redaction
import SubscriptionRegistry.Proofs.Serial

/-!
# Secrecy

Secrets decide nothing: a run of a script in which other keys stand in the places of the private
keys, the notify keys and the symmetric keys goes as it would have gone, and differs from it only
where it answers or holds these keys.

* `Database.redact`, `Registry.redact`: what sessions hold, without secrets.
* `Database.attempt_redact` and its like: what sessions do to a redacted database.
* `Step.redact`, `Report.redact`: steps without secrets, and reports without them. The events and
  the fault of a report stay.
* `Script.run_redact`: the run of a redacted script is the redacted run.
* `Script.secrets_hidden`: two runs that differ in secrets log the same and fail alike.
-/

namespace SubscriptionRegistry

/-! ## Databases -/

/-- The transaction with its stores redacted. -/
def Transaction.redact (t : Transaction) : Transaction where
  working := t.working.map Store.redact
  savepoints := t.savepoints.map (Option.map Store.redact)

/-- The open transactions, redacted. -/
def redactTransactions (ts : List (SessionId × Transaction)) : List (SessionId × Transaction) :=
  ts.map fun p => (p.1, p.2.redact)

/-- The database without secrets. -/
def Database.redact (d : Database) : Database where
  committed := d.committed.redact
  transactions := redactTransactions d.transactions

/-- What an action makes, without secrets. -/
def redactDone (p : Except Fault Reply × Database) : Except Fault Reply × Database :=
  (p.1.map Reply.redact, p.2.redact)

namespace Database

variable (d : Database) (i : SessionId)

theorem transaction?_redact : d.redact.transaction? i = (d.transaction? i).map Transaction.redact := by
  obtain ⟨c, ts⟩ := d
  show (redactTransactions ts).lookup i = (ts.lookup i).map Transaction.redact
  induction ts with
  | nil => rfl
  | cons p ts ih =>
    rw [redactTransactions, List.map_cons, List.lookup_cons, List.lookup_cons]
    cases i == p.1 with
    | true => rfl
    | false => exact ih

theorem others_redact : d.redact.others i = redactTransactions (d.others i) :=
  List.filter_map

theorem view_redact : d.redact.view i = (d.view i).redact := by
  unfold view
  rw [transaction?_redact]
  cases d.transaction? i with
  | none => rfl
  | some t =>
    obtain ⟨w, saved⟩ := t
    cases w <;> rfl

theorem inTransaction_redact : d.redact.inTransaction i = d.inTransaction i := by
  unfold inTransaction
  rw [transaction?_redact, Option.isSome_map]

theorem lockedFor_redact : d.redact.lockedFor i = d.lockedFor i := by
  unfold lockedFor
  rw [others_redact, redactTransactions, List.any_map]
  refine congrArg (List.any _) (funext fun p => ?_)
  exact Option.isSome_map

theorem setTransaction_redact (t : Transaction) :
    d.redact.setTransaction i t.redact = (d.setTransaction i t).redact := by
  unfold setTransaction
  rw [others_redact]
  rfl

theorem close_redact : d.redact.close i = (d.close i).redact := by
  unfold close
  rw [others_redact]
  rfl

theorem enter_redact : d.redact.enter i = (d.enter i).redact := by
  unfold enter
  rw [transaction?_redact]
  cases d.transaction? i with
  | none => exact d.setTransaction_redact i ⟨none, []⟩
  | some t => exact d.setTransaction_redact i { t with savepoints := t.working :: t.savepoints }

theorem commit_redact : d.redact.commit i = (d.commit i).redact := by
  unfold commit
  rw [close_redact, view_redact]
  rfl

theorem commitAll_redact : d.redact.commitAll i = (d.commitAll i).redact := by
  unfold commitAll
  rw [inTransaction_redact, commit_redact, apply_ite redact]

theorem release_redact : d.redact.release i = (d.release i).redact := by
  unfold release
  rw [transaction?_redact]
  cases d.transaction? i with
  | none => rfl
  | some t =>
    obtain ⟨w, saved⟩ := t
    cases saved with
    | nil => exact d.commit_redact i
    | cons x xs => exact d.setTransaction_redact i ⟨w, xs⟩

theorem undo_redact : d.redact.undo i = (d.undo i).redact := by
  unfold undo
  rw [transaction?_redact]
  cases d.transaction? i with
  | none => rfl
  | some t =>
    obtain ⟨w, saved⟩ := t
    cases saved with
    | nil => exact d.close_redact i
    | cons x xs =>
      have hundone := d.setTransaction_redact i ⟨x <|> w.map fun _ => d.committed, xs⟩
      cases x <;> cases w <;> exact hundone

theorem write_redact (s : Store) : d.redact.write i s.redact = (d.write i s).redact := by
  unfold write
  rw [transaction?_redact]
  cases d.transaction? i with
  | none => rfl
  | some t => exact d.setTransaction_redact i { t with working := some s }

theorem put_redact (s : Store) : d.redact.put i s.redact = (d.put i s).redact := by
  unfold put
  rw [transaction?_redact]
  cases d.transaction? i with
  | none => rfl
  | some t => exact d.setTransaction_redact i { t with working := some s }

theorem rest_redact : d.redact.rest i = (d.rest i).redact := by
  unfold rest
  rw [transaction?_redact]
  cases d.transaction? i with
  | none => rfl
  | some t => exact d.setTransaction_redact i t

/-! ## Calls -/

variable {d i}

/-- A statement whose like is run on the redacted database is run alike. -/
theorem attempt_redact {st st' : Statement} (h : st.Redacts st') :
    d.redact.attempt i st' = redactDone (d.attempt i st) := by
  cases st with
  | read run =>
    cases st' with
    | read run' =>
      have hrun := h (d.view i)
      unfold attempt
      dsimp only
      rw [view_redact, hrun, rest_redact]
      cases run (d.view i) <;> rfl
    | write run' => exact h.elim
  | write run =>
    cases st' with
    | read run' => exact h.elim
    | write run' =>
      have hrun := h (d.view i)
      unfold attempt
      dsimp only
      rw [view_redact, hrun, rest_redact, lockedFor_redact, write_redact]
      cases d.lockedFor i with
      | true => rfl
      | false =>
        cases run (d.view i) with
        | error f => rfl
        | ok p => exact congrArg (Prod.mk _) (d.put_redact i p.1)

theorem call_redact (clock : Instant) (op : Operation) :
    d.redact.call clock i op.redact = redactDone (d.call clock i op) := by
  have hprepared := op.prepare_redact clock
  rw [call_eq, call_eq]
  generalize op.prepare clock = x, op.redact.prepare clock = y at hprepared
  cases hprepared with
  | fault f => exact congrArg (Prod.mk _) (d.rest_redact i)
  | statement h => exact attempt_redact h

theorem sweep_redact (clock : Instant) : d.redact.sweep clock = redactDone (d.sweep clock) := by
  rw [sweep_eq, sweep_eq]
  refine attempt_redact fun s => ?_
  show sweepTask clock s.redact = (sweepTask clock s).map redactWritten
  unfold sweepTask
  rw [Store.sweepWatchers_redact]
  rfl

theorem replaceScope_redact (subscriber : Option Uuid) (scope : Scope) :
    d.redact.replaceScope i subscriber scope = redactDone (d.replaceScope i subscriber scope) := by
  rw [replaceScope_eq, replaceScope_eq, inTransaction_redact, lockedFor_redact, view_redact,
    Operation.scopeReplacement_redact, write_redact]
  cases d.inTransaction i with
  | false => rfl
  | true =>
    cases d.lockedFor i with
    | true => rfl
    | false =>
      cases Operation.scopeReplacement subscriber scope (d.view i) with
      | error f => rfl
      | ok p => exact congrArg (Prod.mk _) (d.put_redact i p.1)

theorem begin_redact : d.redact.begin i = redactDone (d.begin i) := by
  unfold begin
  rw [inTransaction_redact, enter_redact, apply_ite redactDone]
  rfl

end Database

/-! ## Steps -/

/-- The action without secrets. -/
def Action.redact : Action → Action
  | .call op => .call op.redact
  | action => action

theorem Action.run_redact (i : SessionId) (clock : Instant) (d : Database) (action : Action) :
    action.redact.run i clock d.redact = redactDone (action.run i clock d) := by
  cases action with
  | begin => exact Database.begin_redact
  | commit => exact congrArg (Prod.mk _) (d.commitAll_redact i)
  | rollback => exact congrArg (Prod.mk _) (d.close_redact i)
  | inTransaction =>
    unfold redact run
    rw [Database.inTransaction_redact]
    rfl
  | dump =>
    unfold redact run
    rw [Database.view_redact, Store.dump_redact]
    rfl
  | call op => exact Database.call_redact clock op
  | replaceScope subscriber scope => exact Database.replaceScope_redact subscriber scope

/-- The registry without secrets. -/
def Registry.redact (r : Registry) : Registry := r.withDatabase r.database.redact

theorem Registry.leave_redact (r : Registry) (i : SessionId) (fault : Option Fault) :
    r.redact.leave i fault = (r.leave i fault).redact := by
  cases fault with
  | none => exact congrArg r.withDatabase (r.database.release_redact i)
  | some f => exact congrArg r.withDatabase (r.database.undo_redact i)

mutual

/-- The step without secrets. -/
def Step.redact : Step → Step
  | .act i action => .act i action.redact
  | .unit i propagate thrown steps => .unit i propagate thrown (Step.redactAll steps)
  | step => step

/-- The steps without secrets. -/
def Step.redactAll : List Step → List Step
  | [] => []
  | step :: steps => step.redact :: Step.redactAll steps

end

mutual

/-- The report without secrets. -/
def Report.redact : Report → Report
  | .leaf outcome events => .leaf (outcome.map Answer.redact) events
  | .unit fault parts => .unit fault (Report.redactAll parts)

/-- The reports without secrets. -/
def Report.redactAll : List Report → List Report
  | [] => []
  | report :: reports => report.redact :: Report.redactAll reports

end

mutual

/-- All that a report shows but its answers: the events that each step logged and the fault that it
ended with, the parts of a unit before the unit. -/
def Report.outline : Report → List (List Event × Option Fault)
  | .leaf outcome events => [(events, (Report.leaf outcome events).fault?)]
  | .unit fault parts => Report.outlineAll parts ++ [([], fault)]

/-- The outlines of reports, one after the other. -/
def Report.outlineAll : List Report → List (List Event × Option Fault)
  | [] => []
  | report :: reports => report.outline ++ Report.outlineAll reports

end

theorem Report.ofReply_redact (reply : Except Fault Reply) :
    Report.ofReply (reply.map Reply.redact) = (Report.ofReply reply).redact := by
  cases reply <;> rfl

theorem Report.fault?_redact (report : Report) : report.redact.fault? = report.fault? := by
  cases report with
  | leaf outcome events => cases outcome <;> rfl
  | unit fault parts => rfl

mutual

/-- Only answers have secrets. -/
theorem Report.outline_redact : ∀ report : Report, report.redact.outline = report.outline
  | .leaf outcome events =>
    congrArg (fun f => [(events, f)]) (Report.fault?_redact (.leaf outcome events))
  | .unit fault parts => congrArg (· ++ [([], fault)]) (Report.outlineAll_redact parts)

theorem Report.outlineAll_redact : ∀ reports : List Report,
    Report.outlineAll (Report.redactAll reports) = Report.outlineAll reports
  | [] => rfl
  | report :: reports => by
    rw [redactAll, outlineAll, outlineAll, Report.outline_redact report,
      Report.outlineAll_redact reports]

end

mutual

/-- A redacted step, taken from a redacted registry, does what the step does, redacted. -/
theorem Step.run_redact (r : Registry) : ∀ step : Step,
    step.redact.run r.redact = ((step.run r).1.redact, (step.run r).2.redact)
  | .setClock time => by
    unfold Step.redact Step.run Registry.setClock
    cases time.toUtc <;> rfl
  | .act i action => by
    have haction : action.redact.run i r.redact.clock r.redact.database =
        redactDone (action.run i r.clock r.database) := action.run_redact i r.clock r.database
    unfold Step.redact Step.run
    rw [haction]
    exact congrArg (Prod.mk · _) (Report.ofReply_redact _)
  | .sweep => by
    have hsweep : r.redact.database.sweep r.redact.clock = redactDone (r.database.sweep r.clock) :=
      Database.sweep_redact r.clock
    unfold Step.redact Step.run
    rw [hsweep]
    exact congrArg (Prod.mk · _) (Report.ofReply_redact _)
  | .unit i propagate thrown steps => by
    have hall := Step.runAll_redact (r.withDatabase (r.database.enter i)) propagate steps
    have henter : r.redact.withDatabase (r.redact.database.enter i) =
        (r.withDatabase (r.database.enter i)).redact :=
      congrArg r.withDatabase (r.database.enter_redact i)
    unfold Step.redact Step.run
    rw [henter, hall]
    exact congrArg (Prod.mk _) (Registry.leave_redact _ i _)

/-- Redacted steps, taken from a redacted registry, do what the steps do, redacted. -/
theorem Step.runAll_redact (r : Registry) (propagate : Bool) : ∀ steps : List Step,
    Step.runAll r.redact propagate (Step.redactAll steps) =
      (Report.redactAll (Step.runAll r propagate steps).1, (Step.runAll r propagate steps).2.1,
        (Step.runAll r propagate steps).2.2.redact)
  | [] => rfl
  | step :: steps => by
    have hstep := Step.run_redact r step
    have hall := Step.runAll_redact (step.run r).2 propagate steps
    unfold Step.redactAll Step.runAll
    dsimp only
    rw [hstep]
    dsimp only
    rw [Report.fault?_redact, hall]
    cases propagate with
    | false => rfl
    | true => cases (step.run r).1.fault? <;> rfl

end

/-- The run of a redacted script from a redacted registry is the run of the script, redacted. -/
theorem Script.run_redact (r : Registry) (script : Script) :
    Script.run r.redact (Step.redactAll script) =
      (Report.redactAll (Script.run r script).1, (Script.run r script).2.redact) := by
  unfold Script.run
  dsimp only
  rw [Step.runAll_redact]

/-- **Secrets reach neither the log nor the control flow.** If two scripts are the same but for the
private keys of projects, the notify keys of subscribers and the symmetric keys of watchers, where
texts stand for texts, keys for keys as long as they are, and null for null, then their runs log the
same events at each step and end each step with the same fault or with none. Their answers, and what
they leave in the database, are the same but for these keys. -/
theorem Script.secrets_hidden (a b : Script) (clock : Instant)
    (h : Step.redactAll a = Step.redactAll b) :
    let x := Script.run (.start clock .empty) a
    let y := Script.run (.start clock .empty) b
    Report.outlineAll x.1 = Report.outlineAll y.1 ∧
      Report.redactAll x.1 = Report.redactAll y.1 ∧
      x.2.settled.dump.redact = y.2.settled.dump.redact := by
  intro x y
  have hx := Script.run_redact (.start clock .empty) a
  have hy := Script.run_redact (.start clock .empty) b
  rw [← h] at hy
  -- The two runs have one redacted run.
  have hxy : (Report.redactAll x.1, x.2.redact) = (Report.redactAll y.1, y.2.redact) :=
    hx.symm.trans hy
  have hreports : Report.redactAll x.1 = Report.redactAll y.1 := congrArg Prod.fst hxy
  have hstore : x.2.settled.redact = y.2.settled.redact :=
    congrArg (fun p => p.2.database.committed) hxy
  refine ⟨?_, hreports, ?_⟩
  · rw [← Report.outlineAll_redact x.1, hreports, Report.outlineAll_redact]
  · rw [← Store.dump_redact, hstore, Store.dump_redact]

/-- A project, a subscriber and a watcher with one set of keys, and with another. -/
theorem Script.secrets_hidden_keys :
    let i : SessionId := .caller "a"
    let t : Instant := ⟨0, by decide⟩
    let script (privateKey symKey : String) (byte : UInt8) : Script :=
      [.act i (.call (.upsertProject ⟨default, some "p", some "app", some "t",
          ⟨some (.text "k"), some (.text privateKey)⟩, ⟨some (.text "l"), some (.text privateKey)⟩⟩)),
        .act i (.call (.upsertSubscriber ⟨default, some default, some "account", .ofList [],
          List.replicate notifyKeyLength byte, some "t", none⟩)),
        .act i (.call (.upsertWatcher ⟨default, some "account", none, some "did", some symKey,
          some (.ofInstant t)⟩)),
        .act i .dump]
    let x := Script.run (.start t .empty) (script "x" "y" 1)
    let y := Script.run (.start t .empty) (script "u" "v" 2)
    Step.redactAll (script "x" "y" 1) = Step.redactAll (script "u" "v" 2) ∧
      (x.2.settled.watchers.map Watcher.symKey = ["y"] ∧
        y.2.settled.watchers.map Watcher.symKey = ["v"]) ∧
      Report.outlineAll x.1 = Report.outlineAll y.1 ∧
      Report.redactAll x.1 = Report.redactAll y.1 ∧
      x.2.settled.dump.redact = y.2.settled.dump.redact := by
  intro i t script x y
  have h : Step.redactAll (script "x" "y" 1) = Step.redactAll (script "u" "v" 2) := rfl
  have hx : x.2.settled.watchers.map Watcher.symKey = ["y"] := by decide +kernel
  have hy : y.2.settled.watchers.map Watcher.symKey = ["v"] := by decide +kernel
  exact ⟨h, ⟨hx, hy⟩, Script.secrets_hidden _ _ t h⟩

end SubscriptionRegistry
