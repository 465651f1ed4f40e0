import SubscriptionRegistry.Worker

/-!
# Scripts

A script is a list of steps that several sessions take, one after the other. A `unit` surrounds
steps with a level of a transaction: if it ends with a fault, the level is undone and the fault
surfaces as a registry error. A unit ends with the first fault of a step in it if it propagates
faults, or with the fault that its caller throws after the steps.

* `Step.run`, `Script.run`: one step, and a list of steps.
* `Report`: what a step answered, with the events that it logged and the reports of its parts.
-/

namespace SubscriptionRegistry

/-- The clock and the database. -/
structure Registry where
  clock : Instant
  database : Database

/-- What a session does in one step. -/
inductive Action where
  | begin
  | commit
  | rollback
  | inTransaction
  | dump
  | call (op : Operation)
  | replaceScope (subscriber : Option Uuid) (scope : Scope)

/-- A step of a script. -/
inductive Step where
  | setClock (time : Stamp)
  | act (session : SessionId) (action : Action)
  | sweep
  | unit (session : SessionId) (propagate : Bool) (thrown : Option Fault) (steps : List Step)

/-- A list of steps. -/
abbrev Script := List Step

/-- The report of a step; a unit also has the reports of the steps in it. -/
inductive Report where
  | leaf (outcome : Except Fault Answer) (events : List Event)
  | unit (fault : Option Fault) (parts : List Report)

namespace Report

/-- The fault that a step ended with. -/
def fault? : Report → Option Fault
  | leaf (.error f) _ => some f
  | leaf (.ok _) _ => none
  | unit f _ => f

/-- The report of a reply or a fault. -/
def ofReply : Except Fault Reply → Report
  | .ok r => leaf (.ok r.answer) r.events
  | .error f => leaf (.error f) []

end Report

/-- One action of a session. -/
def Action.run (i : SessionId) (clock : Instant) (d : Database) :
    Action → Except Fault Reply × Database
  | .begin => d.begin i
  | .commit => (.ok ⟨.done, []⟩, d.commitAll i)
  | .rollback => (.ok ⟨.done, []⟩, d.close i)
  | .inTransaction => (.ok ⟨.flag (d.inTransaction i), []⟩, d)
  | .dump => (.ok ⟨.dump (d.view i).dump, []⟩, d)
  | .call op => d.call clock i op
  | .replaceScope subscriber scope => d.replaceScope i subscriber scope

namespace Registry

/-- The registry with another database. -/
def withDatabase (r : Registry) (d : Database) : Registry := { r with database := d }

/-- Sets the clock. -/
def setClock (r : Registry) (time : Stamp) : Except Fault Reply × Registry :=
  match time.toUtc with
  | .ok t => (.ok ⟨.done, []⟩, { r with clock := t })
  | .error e => (.error (.rejected (.time e)), r)

/-- Leaves a unit of session `i` after its steps, which ended with the given fault or none. -/
def leave (r : Registry) (i : SessionId) : Option Fault → Registry
  | none => r.withDatabase (r.database.release i)
  | some _ => r.withDatabase (r.database.undo i)

end Registry

mutual

/-- Runs one step. -/
def Step.run (r : Registry) : Step → Report × Registry
  | .setClock time =>
    let (reply, r') := r.setClock time
    (.ofReply reply, r')
  | .act i action =>
    let (reply, d) := action.run i r.clock r.database
    (.ofReply reply, r.withDatabase d)
  | .sweep =>
    let (reply, d) := r.database.sweep r.clock
    (.ofReply reply, r.withDatabase d)
  | .unit i propagate thrown steps =>
    let (parts, fault, r') := Step.runAll (r.withDatabase (r.database.enter i)) propagate steps
    let fault := fault <|> thrown
    (.unit (fault.map Fault.surface) parts, r'.leave i fault)

/-- Runs steps one after the other, up to the first fault if `propagate` is set. -/
def Step.runAll (r : Registry) (propagate : Bool) :
    List Step → List Report × Option Fault × Registry
  | [] => ([], none, r)
  | step :: steps =>
    let (report, r') := step.run r
    match propagate, report.fault? with
    | true, some f => ([report], some f, r')
    | _, _ =>
      let (reports, fault, r'') := Step.runAll r' propagate steps
      (report :: reports, fault, r'')

end

/-- Runs a script from its first step to its last, whether steps fail or not. -/
def Script.run (r : Registry) (steps : Script) : List Report × Registry :=
  let (reports, _, r') := Step.runAll r false steps
  (reports, r')

/-- The store that is left when all sessions are closed: an open transaction is rolled back. -/
def Registry.settled (r : Registry) : Store :=
  r.database.committed

end SubscriptionRegistry
