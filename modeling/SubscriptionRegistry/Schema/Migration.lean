import SubscriptionRegistry.Schema.Change
import SubscriptionRegistry.Schema.Revision

/-!
# Migrations

A migration takes a database from one revision of the schema to the next, and back. The database
remembers its revision in a table of one column.

* `Migration.script`: the statements of a move through the history, for a server to be run later.
* `Migration.perform`: the move of a new database that is at hand.
-/

namespace SubscriptionRegistry

/-- A revision of the schema, and the changes that lead to it and back. -/
structure Migration where
  name : String
  changes : List Change
  reversal : List Change

namespace Migration

/-- The migrations, the oldest first. -/
def all : List Migration :=
  [{ name := "0001_registry_schema"
     changes := Table.all.flatMap Change.creation
     reversal := Table.all.reverse.map .dropTable }]

/-- The names of the revisions. -/
def history : History := all.map (·.name)

/-- What a caller asks for: to move up, to move down, or to note a revision without a move. -/
inductive Move where
  | upgrade
  | downgrade
  | stamp
deriving DecidableEq, Repr

/-- A step: what it is called, the revisions before and after it, and its changes. -/
structure Step where
  title : String
  before : Option String
  after : Option String
  changes : List Change

/-- The name of the revision at a position. -/
def nameAt (p : Position) : Option String :=
  match p with
  | 0 => none
  | i + 1 => history[i]?

/-- The step from position `i` up to the next. -/
def stepUp (i : Nat) (m : Migration) : Step :=
  ⟨"upgrade", nameAt i, some m.name, m.changes⟩

/-- The step from the position after `i` down to it. -/
def stepDown (i : Nat) (m : Migration) : Step :=
  ⟨"downgrade", some m.name, nameAt i, m.reversal⟩

/-- The migrations between two positions, with their places in the history. -/
def between (low high : Position) : List (Nat × Migration) :=
  ((all.zipIdx.map fun (m, i) => (i, m)).take high).drop low

/-- The steps from one position to another. -/
def steps (m : Move) (start aim : Position) : List Step :=
  match m with
  | .upgrade => (between start aim).map fun (i, step) => stepUp i step
  | .downgrade => (between aim start).reverse.map fun (i, step) => stepDown i step
  | .stamp =>
    if start = aim then [] else [⟨"stamp_revision", nameAt start, nameAt aim, []⟩]

/-- The position that a move aims at. -/
def aim (m : Move) (current : Position) (target : String) : Except Revision.Error Position :=
  match m with
  | .upgrade => Revision.above history current target
  | .downgrade => Revision.below history current target
  | .stamp => Revision.find history target

/-! ## The table of the revision -/

/-- The table in which a database remembers its revision. -/
def versionTable : String := "alembic_version"

/-- The statement that makes it. -/
def versionTableScript : List String :=
  Change.tableScript versionTable
    ["version_num VARCHAR(32) NOT NULL",
      "CONSTRAINT " ++ versionTable ++ "_pkc PRIMARY KEY (version_num)"]

/-- The statement that puts the revision after a step in place of the one before it. -/
def versionScript : (before after : Option String) → List String
  | none, none => []
  | none, some new =>
    ["INSERT INTO " ++ versionTable ++ " (version_num) VALUES ('" ++ new ++ "') RETURNING " ++
      versionTable ++ ".version_num;"]
  | some old, none =>
    ["DELETE FROM " ++ versionTable ++ " WHERE " ++ versionTable ++ ".version_num = '" ++ old ++
      "';"]
  | some old, some new =>
    ["UPDATE " ++ versionTable ++ " SET version_num='" ++ new ++ "' WHERE " ++ versionTable ++
      ".version_num = '" ++ old ++ "';"]

/-! ## The script of a move -/

/-- The comment that announces a step; no blank ends it. -/
def Step.announcement (s : Step) : String :=
  "-- Running " ++ s.title ++ " " ++ s.before.getD "" ++ " ->" ++
    match s.after with
    | some name => " " ++ name
    | none => ""

/-- The statements of a step. The first step of a database without a revision makes the table of
the revision. -/
def Step.script (s : Step) : List String :=
  (if s.before = none then versionTableScript else []) ++ [s.announcement] ++
    s.changes.flatMap Change.script ++ versionScript s.before s.after

/-- The start and the target of a move that a caller names. A move down needs both. -/
def scriptEnds (m : Move) (revision : String) :
    Except Revision.Error (Option String × String) := do
  let ends ← Revision.ends revision
  if m = .downgrade ∧ ends.1 = none then .error .rangeMissing else .ok ends

/-- The statements of a move, as one transaction. -/
def script (m : Move) (revision : String) : Except Revision.Error (List String) := do
  let (start, target) ← scriptEnds m revision
  let current ← match start with
    | none => .ok 0
    | some name => Revision.find history name
  let goal ← aim m current target
  .ok (["BEGIN;"] ++ (steps m current goal).flatMap Step.script ++ ["COMMIT;"])

/-! ## The move of a database -/

/-- What a move printed, and the objects of the database after it. -/
structure Outcome where
  lines : List String
  objects : List SchemaObject

/-- How the revision at a position is shown; the newest is marked. -/
def shownAt (p : Position) : List String :=
  match nameAt p with
  | none => []
  | some name => [if p = history.length then name ++ " (head)" else name]

/-- Moves a new database, which is at no revision. After a stamp the revision is shown. -/
def perform (m : Move) (revision : String) : Except Revision.Error Outcome := do
  if m ≠ .stamp ∧ revision.toList.contains ':' then .error .rangeGiven
  else do
    let goal ← aim m 0 revision
    let changes := (steps m 0 goal).flatMap (·.changes)
    .ok
      { lines := if m = .stamp then shownAt goal else []
        objects := SchemaObject.sorted
          (changes.foldl Change.apply [⟨.table, versionTable, versionTable⟩]) }

end Migration

end SubscriptionRegistry
