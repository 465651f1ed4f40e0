import SubscriptionRegistry.Engine
import SubscriptionRegistry.Store.Basic
import SubscriptionRegistry.View.Rows

/-!
# The schema

The tables of the registry as they are declared: their columns, the keys that no two rows share,
and the columns by which rows are found quickly. Rows go when the row that they refer to goes.

* `Table.layout`: the declaration of a table.
* `ColumnType.words`: the name of a type in a dialect.
-/

namespace SubscriptionRegistry

/-- What a column holds. -/
inductive ColumnType where
  | identifier
  | text
  | time
deriving DecidableEq, Repr

/-- The name of a type in a dialect. -/
def ColumnType.words : ColumnType → Dialect → String
  | identifier, .sqlite => "CHAR(32)"
  | identifier, .postgresql => "UUID"
  | text, _ => "TEXT"
  | time, .sqlite => "DATETIME"
  | time, .postgresql => "TIMESTAMP WITH TIME ZONE"

/-- A column. The database fills a `stamped` one with the time of insertion, and the registry
sets a `touched` one to the time of each change. -/
structure Column where
  name : String
  type : ColumnType
  nullable : Bool
  isKey : Bool
  references : Option Table
  stamped : Bool
  touched : Bool
deriving DecidableEq, Repr

namespace Column

/-- A required column of a type. -/
def required (name : String) (type : ColumnType) : Column :=
  ⟨name, type, false, false, none, false, false⟩

/-- A required text. -/
def text (name : String) : Column := .required name .text

/-- A required reference to the rows of a table. -/
def reference (name : String) (t : Table) : Column :=
  { Column.required name .identifier with references := some t }

/-- The same column, which may be empty. -/
def optional (c : Column) : Column := { c with nullable := true }

/-- The identifier of a row. -/
def key : Column := { Column.required "id" .identifier with isKey := true }

/-- When a row was inserted, and when it was last changed. -/
def timestamps : List Column :=
  let created := { Column.required "created_at" .time with stamped := true }
  [created, { created with name := "updated_at", touched := true }]

end Column

/-- A name for some columns of a table: a key that no two rows share, or an index. -/
structure ColumnGroup where
  name : String
  columns : List String
deriving DecidableEq, Repr

/-- The declaration of a table. -/
structure Layout where
  table : Table
  columns : List Column
  uniques : List ColumnGroup
  indexes : List ColumnGroup
deriving DecidableEq, Repr

/-- The tables; a table comes after those that it refers to. -/
def Table.all : List Table := [project, subscriber, subscriberScope, watcher]

/-- The table with a name. -/
def Table.named? (name : String) : Option Table :=
  Table.all.find? (·.name = name)

/-- The declaration of a table. -/
def Table.layout : Table → Layout
  | project =>
    { table := project
      columns := .key :: Column.timestamps ++
        [.text "project_id", .text "app_domain", .text "topic", .text "authentication_public_key",
          .text "authentication_private_key", .text "subscribe_public_key",
          .text "subscribe_private_key"]
      uniques := [⟨"project_project_id_key", ["project_id"]⟩,
        ⟨"project_app_domain_key", ["app_domain"]⟩]
      indexes := [⟨"idx_project_topic", ["topic"]⟩] }
  | subscriber =>
    { table := subscriber
      columns := .key :: Column.timestamps ++
        [.reference "project" project, .text "account", .text "sym_key", .text "topic",
          .required "expiry" .time]
      uniques := [⟨"subscriber_project_account_key", ["project", "account"]⟩]
      indexes := [⟨"idx_subscriber_project", ["project"]⟩,
        ⟨"idx_subscriber_account", ["account"]⟩, ⟨"idx_subscriber_topic", ["topic"]⟩] }
  | subscriberScope =>
    { table := subscriberScope
      columns := [.key, .reference "subscriber" subscriber, .text "name"]
      uniques := []
      indexes := [⟨"idx_subscriber_scope_subscriber", ["subscriber"]⟩] }
  | watcher =>
    { table := watcher
      columns := .key :: Column.timestamps ++
        [.text "account", (Column.reference "project" project).optional, .text "did_key",
          .text "sym_key", .required "expiry" .time]
      uniques := [⟨"subscription_watcher_did_key_key", ["did_key"]⟩]
      indexes := [⟨"idx_subscription_watcher_account", ["account"]⟩,
        ⟨"idx_subscription_watcher_expiry", ["expiry"]⟩] }

namespace Layout

/-- The columns by name. -/
def sortedColumns (l : Layout) : List Column := sortByText (·.name) l.columns

/-- The unique keys by name. -/
def sortedUniques (l : Layout) : List ColumnGroup := sortByText (·.name) l.uniques

/-- The indexes by name. -/
def sortedIndexes (l : Layout) : List ColumnGroup := sortByText (·.name) l.indexes

end Layout

end SubscriptionRegistry
