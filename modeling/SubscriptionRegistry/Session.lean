import SubscriptionRegistry.Operation

/-!
# Sessions and transactions

A `Database` has a committed store and the open transactions of its sessions. A transaction works
on a store of its own from its first write on; until then it sees the committed store, as do all
other sessions. A savepoint remembers what the transaction had written when it was set.

* `Database.enter`: begins a transaction, or sets a savepoint in the one that is open.
* `Database.release`: ends the innermost level and keeps its work; the outermost one commits.
* `Database.undo`: ends the innermost level and discards its work.
* `Database.execute`: runs a statement. A write needs that no other session is writing, and makes
  its session the writer until its transaction ends, whether it succeeds or not. The writes of a
  routine are run one after the other; if one of them fails, what those before it have written stays
  in the transaction.
* `Database.call`: runs an operation as a unit of its own, and undoes what it wrote if it fails.
-/

namespace SubscriptionRegistry

/-- Who talks to the database: a caller's session, or the worker that sweeps in one of its own. -/
inductive SessionId where
  | caller (name : String)
  | worker
deriving DecidableEq, Repr

/-- An open transaction: its working store from the first write on, and what that was at each
savepoint, the innermost first. -/
structure Transaction where
  working : Option Store
  savepoints : List (Option Store)
deriving DecidableEq, Repr

/-- A committed store and the open transactions. -/
structure Database where
  committed : Store
  transactions : List (SessionId × Transaction)
deriving DecidableEq, Repr

namespace Database

/-- The database that holds `s` and that nobody uses. -/
def ofStore (s : Store) : Database := ⟨s, []⟩

/-- The open transaction of a session. -/
def transaction? (d : Database) (i : SessionId) : Option Transaction :=
  d.transactions.lookup i

/-- The open transactions without that of `i`. -/
def others (d : Database) (i : SessionId) : List (SessionId × Transaction) :=
  d.transactions.filter (·.1 ≠ i)

/-- The database in which `i` has the open transaction `t`. -/
def setTransaction (d : Database) (i : SessionId) (t : Transaction) : Database :=
  { d with transactions := (i, t) :: d.others i }

/-- The database in which `i` has no open transaction. -/
def close (d : Database) (i : SessionId) : Database :=
  { d with transactions := d.others i }

/-- Whether a session has a transaction open. -/
def inTransaction (d : Database) (i : SessionId) : Bool :=
  (d.transaction? i).isSome

/-- The store that a session sees. -/
def view (d : Database) (i : SessionId) : Store :=
  ((d.transaction? i).bind (·.working)).getD d.committed

/-- Whether a session is the writer. -/
def isWriter (d : Database) (i : SessionId) : Bool :=
  ((d.transaction? i).bind (·.working)).isSome

/-- Whether a session other than `i` is writing. -/
def lockedFor (d : Database) (i : SessionId) : Bool :=
  (d.others i).any (·.2.working.isSome)

/-! ## Levels of a transaction -/

/-- Begins a transaction, or sets a savepoint in the open one. -/
def enter (d : Database) (i : SessionId) : Database :=
  match d.transaction? i with
  | none => d.setTransaction i ⟨none, []⟩
  | some t => d.setTransaction i { t with savepoints := t.working :: t.savepoints }

/-- Makes the work of `i` the committed store and ends its transaction. -/
def commit (d : Database) (i : SessionId) : Database :=
  { d.close i with committed := d.view i }

/-- Ends the innermost level of the transaction of `i` and keeps its work. -/
def release (d : Database) (i : SessionId) : Database :=
  match d.transaction? i with
  | none => d
  | some t =>
    match t.savepoints with
    | [] => d.commit i
    | _ :: outer => d.setTransaction i { t with savepoints := outer }

/-- Ends the innermost level of the transaction of `i` and discards its work. A session that has
become the writer stays it, with the committed store to work on if it had written nothing. -/
def undo (d : Database) (i : SessionId) : Database :=
  match d.transaction? i with
  | none => d
  | some t =>
    match t.savepoints with
    | [] => d.close i
    | saved :: outer =>
      d.setTransaction i ⟨saved <|> t.working.map fun _ => d.committed, outer⟩

/-! ## Statements -/

/-- The database in which `i` has written `s`; outside a transaction nothing is written. -/
def write (d : Database) (i : SessionId) (s : Store) : Database :=
  match d.transaction? i with
  | none => d
  | some t => d.setTransaction i { t with working := some s }

/-- Runs one write in the transaction of `i`. -/
def executeOne (d : Database) (i : SessionId) (write : Store → Except Fault (Store × Reply)) :
    Except Fault Reply × Database :=
  if d.lockedFor i then (.error .locked, d)
  else
    match write (d.view i) with
    | .ok (s, reply) => (.ok reply, d.write i s)
    | .error f => (.error f, d.write i (d.view i))

/-- Runs the writes of a routine in the transaction of `i`, up to the first that fails. What those
before it have written stays. -/
def executeRoutine (d : Database) (i : SessionId) : Routine → Except Fault Reply × Database
  | .one write => d.executeOne i write
  | .next write rest =>
    match d.executeOne i write with
    | (.ok reply, d') => d'.executeRoutine i (rest reply.answer)
    | (.error f, d') => (.error f, d')

/-- Runs a statement in the transaction of `i`. -/
def execute (d : Database) (i : SessionId) : Statement → Except Fault Reply × Database
  | .read run => (run (d.view i), d)
  | .write routine => d.executeRoutine i routine

/-- Prepares an operation and runs its statement. -/
def perform (d : Database) (clock : Instant) (i : SessionId) (op : Operation) :
    Except Fault Reply × Database :=
  match op.prepare clock with
  | .error f => (.error f, d)
  | .ok statement => d.execute i statement

/-- Runs an operation as a unit: what it does is kept if it succeeds and undone if it fails, and a
fault of the store surfaces as a registry error. -/
def call (d : Database) (clock : Instant) (i : SessionId) (op : Operation) :
    Except Fault Reply × Database :=
  match (d.enter i).perform clock i op with
  | (.ok reply, d') => (.ok reply, d'.release i)
  | (.error f, d') => (.error f.surface, d'.undo i)

/-- Replaces the scope of a subscriber inside the open transaction of `i`, without a level of its
own. -/
def replaceScope (d : Database) (i : SessionId) (subscriber : Option Uuid) (scope : Scope) :
    Except Fault Reply × Database :=
  if d.inTransaction i then
    d.execute i (.write (Operation.scopeReplacement subscriber scope))
  else (.error (.rejected .scopeOutsideTransaction), d)

/-- Begins a transaction, unless one is open. -/
def begin (d : Database) (i : SessionId) : Except Fault Reply × Database :=
  if d.inTransaction i then (.error (.store .alreadyBegun), d)
  else (.ok ⟨.done, []⟩, d.enter i)

/-- Commits the transaction of `i` with all its levels; without one there is nothing to do. -/
def commitAll (d : Database) (i : SessionId) : Database :=
  if d.inTransaction i then d.commit i else d

end Database

end SubscriptionRegistry
