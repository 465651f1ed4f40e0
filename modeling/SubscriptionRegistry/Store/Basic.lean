import SubscriptionRegistry.Fault
import SubscriptionRegistry.KeyPair
import SubscriptionRegistry.Uuid

/-!
# The store

There are four tables: projects, their subscribers, the scope texts of subscribers, and watchers.
A scope text is stored as it is written, so that other programs may store texts that spell no
identifier. A `Store` holds the rows in the order in which they were inserted. A `Violation` is a
constraint of the tables that a write would break: a required column is null, a unique key is
taken, or a reference leads nowhere.
-/

namespace SubscriptionRegistry

/-! ## Rows -/

/-- A publisher of notifications. -/
structure Project where
  id : Uuid
  createdAt : Instant
  updatedAt : Instant
  projectId : String
  appDomain : String
  topic : String
  authentication : KeyPair
  subscription : KeyPair
deriving DecidableEq, Repr

/-- The subscription of an account to a project. -/
structure Subscriber where
  id : Uuid
  createdAt : Instant
  updatedAt : Instant
  project : Uuid
  account : String
  symKey : String
  topic : String
  expiry : Instant
deriving DecidableEq, Repr

/-- One entry of the scope of a subscriber. -/
structure ScopeEntry where
  subscriber : Uuid
  name : String
deriving DecidableEq, Repr

/-- A delegated session in which another device manages the subscriptions of an account; one
without a project covers every app. -/
structure Watcher where
  id : Uuid
  createdAt : Instant
  updatedAt : Instant
  account : String
  project : Option Uuid
  didKey : String
  symKey : String
  expiry : Instant
deriving DecidableEq, Repr

/-- The public keys of a project. -/
structure PublicKeys where
  authentication : String
  subscription : String
deriving DecidableEq, Repr

/-- The public keys of a stored project. -/
def Project.publicKeys (p : Project) : PublicKeys :=
  ⟨p.authentication.publicKey, p.subscription.publicKey⟩

/-! ## Tables -/

/-- The rows of the four tables. -/
structure Store where
  projects : List Project
  subscribers : List Subscriber
  scopes : List ScopeEntry
  watchers : List Watcher
deriving DecidableEq, Repr

/-- The store without rows. -/
def Store.empty : Store := ⟨[], [], [], []⟩

instance : Inhabited Store := ⟨.empty⟩

/-- The tables. -/
inductive Table where
  | project
  | subscriber
  | subscriberScope
  | watcher
deriving DecidableEq, Repr

/-- The name of a table in the database. -/
def Table.name : Table → String
  | project => "project"
  | subscriber => "subscriber"
  | subscriberScope => "subscriber_scope"
  | watcher => "subscription_watcher"

/-- A constraint that a write would break. -/
inductive Violation where
  | notNull (table : Table) (column : String)
  | unique (table : Table) (column : String)
  | foreignKey
deriving DecidableEq, Repr

namespace Violation

/-- The database's wording. -/
def message : Violation → String
  | notNull t c => "NOT NULL constraint failed: " ++ t.name ++ "." ++ c
  | unique t c => "UNIQUE constraint failed: " ++ t.name ++ "." ++ c
  | foreignKey => "FOREIGN KEY constraint failed"

/-- The fault that the driver reports. -/
def fault (v : Violation) : Fault :=
  .store (.driver ⟨.integrity, some ⟨"sqlite3.IntegrityError", v.message⟩, false⟩)

end Violation

/-- The value of a required column. -/
def required (t : Table) (column : String) : Option α → Except Violation α
  | some a => .ok a
  | none => .error (.notNull t column)

end SubscriptionRegistry
