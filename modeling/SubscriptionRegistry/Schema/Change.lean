import SubscriptionRegistry.Schema
import SubscriptionRegistry.Text.Pieces

/-!
# Changes of the schema

A change makes or drops a table, or makes an index. `Change.script` writes it in the words of a
database server, and `Change.apply` is what it does to the objects of a database.
-/

namespace SubscriptionRegistry

/-- A change of the schema. -/
inductive Change where
  | createTable (l : Layout)
  | createIndex (t : Table) (index : ColumnGroup)
  | dropTable (t : Table)
deriving DecidableEq, Repr

/-- The kinds of objects in a database. -/
inductive ObjectKind where
  | index
  | table
deriving DecidableEq, Repr

/-- The name of a kind. -/
def ObjectKind.name : ObjectKind → String
  | index => "index"
  | table => "table"

/-- An object of a database: a table, or an index of a table. -/
structure SchemaObject where
  kind : ObjectKind
  name : String
  table : String
deriving DecidableEq, Repr

/-- The objects by kind and name. -/
def SchemaObject.sorted (objects : List SchemaObject) : List SchemaObject :=
  objects.mergeSort fun a b => textPairLe (a.kind.name, a.name) (b.kind.name, b.name)

namespace Change

/-! ## The words of a change -/

/-- What the database puts into a column that an insertion leaves out. -/
def defaultWords (c : Column) : String :=
  if c.isKey then " DEFAULT gen_random_uuid()"
  else if c.stamped then " DEFAULT now()"
  else ""

/-- A column in the statement that makes its table. -/
def columnWords (c : Column) : String :=
  c.name ++ " " ++ c.type.words .postgresql ++ defaultWords c ++
    if c.nullable then "" else " NOT NULL"

/-- A unique key in the statement that makes its table. -/
def uniqueWords (g : ColumnGroup) : String :=
  "CONSTRAINT " ++ g.name ++ " UNIQUE (" ++ Text.joinWith ", " g.columns ++ ")"

/-- The reference of a column in the statement that makes its table. -/
def referenceWords (c : Column) : Option String :=
  c.references.map fun t =>
    "FOREIGN KEY(" ++ c.name ++ ") REFERENCES " ++ t.name ++ " (id) ON DELETE CASCADE"

/-- The parts of the statement that makes a table: its columns, its key, its unique keys and its
references. -/
def layoutWords (l : Layout) : List String :=
  l.columns.map columnWords ++
    ["PRIMARY KEY (" ++ Text.joinWith ", " ((l.columns.filter (·.isKey)).map (·.name)) ++ ")"] ++
    l.uniques.map uniqueWords ++ l.columns.filterMap referenceWords

/-- Parts on lines of their own, with a comma after each but the last. -/
def indentedParts : List String → List String
  | [] => []
  | [p] => ["    " ++ p]
  | p :: ps => ("    " ++ p ++ ",") :: indentedParts ps

/-- The statement that makes a table with the given parts. -/
def tableScript (name : String) (parts : List String) : List String :=
  ["CREATE TABLE " ++ name ++ " ("] ++ indentedParts parts ++ [");"]

/-- The statement of a change. -/
def script : Change → List String
  | createTable l => tableScript l.table.name (layoutWords l)
  | createIndex t index =>
    ["CREATE INDEX " ++ index.name ++ " ON " ++ t.name ++ " (" ++
      Text.joinWith ", " index.columns ++ ");"]
  | dropTable t => ["DROP TABLE " ++ t.name ++ ";"]

/-! ## The effect of a change -/

/-- The objects of a database after a change. The indexes of a table go with it. -/
def apply (objects : List SchemaObject) : Change → List SchemaObject
  | createTable l => objects ++ [⟨.table, l.table.name, l.table.name⟩]
  | createIndex t index => objects ++ [⟨.index, index.name, t.name⟩]
  | dropTable t => objects.filter (·.table ≠ t.name)

/-- The changes that make a table and its indexes. -/
def creation (t : Table) : List Change :=
  createTable t.layout :: t.layout.indexes.map (createIndex t)

end Change

end SubscriptionRegistry
