import SubscriptionRegistry.Engine.Address
import SubscriptionRegistry.Settings

/-!
# Engines

An engine is what the registry uses to reach its database: a dialect, a driver that waits without
blocking, and how connections are kept. It follows from the settings. Connections to a server are
pooled within the limits that the settings give; a database in a file needs none.

`Engine.make` gives the engine, or says why there is none.
-/

namespace SubscriptionRegistry

/-- The dialects of the databases that the registry can reach. -/
inductive Dialect where
  | postgresql
  | sqlite
deriving DecidableEq, Repr

/-- The name of a dialect. -/
def Dialect.name : Dialect → String
  | postgresql => "postgresql"
  | sqlite => "sqlite"

/-- The bounds of a connection pool: how many connections it keeps, and how many more it opens
when all of them are in use. -/
structure PoolLimits where
  size : Int
  maxOverflow : Int
deriving DecidableEq, Repr

/-- The limits that the settings give. A pool of size zero is unbounded. -/
def PoolLimits.ofSettings (s : Settings) : PoolLimits :=
  ⟨s.poolSize, if s.poolSize = 0 then -1 else s.maxOverflow⟩

/-- How the registry reaches its database. -/
structure Engine where
  dialect : Dialect
  driver : String
  address : Address
  echo : Bool
  prePing : Bool
  pool : Option PoolLimits
  expireOnCommit : Bool
deriving DecidableEq, Repr

/-- What is there to speak a dialect through a driver. -/
inductive Support where
  | waiting (dialect : Dialect) (driver : String)
  | blocking (dialect : Dialect) (driver : String)
  | absent (package : String)
deriving DecidableEq, Repr

/-- Why there is no engine for an address. -/
inductive EngineError where
  | address (e : Address.Error)
  | crowdedScheme
  | unknownScheme (name : String)
  | noPackage (name : String)
  | remoteFile (a : Address)
  | blockingDriver (name : String)
deriving DecidableEq, Repr

/-- The wording of an error. -/
def EngineError.message : EngineError → String
  | address e => e.message
  | crowdedScheme => "too many values to unpack (expected 2)"
  | unknownScheme name => "Can't load plugin: sqlalchemy.dialects:" ++ name
  | noPackage name => "No module named '" ++ name ++ "'"
  | remoteFile a => "Invalid SQLite URL: " ++ a.shown
  | blockingDriver name =>
    "The asyncio extension requires an async driver to be used. The loaded '" ++ name ++
      "' is not async."

namespace Engine

/-- The driver of a scheme that names none. -/
def defaultDriver : String := "base"

/-- The drivers of each dialect. -/
def supports : List ((String × String) × Support) :=
  [(("postgresql", "asyncpg"), .waiting .postgresql "asyncpg"),
    (("postgresql", "base"), .absent "psycopg2"),
    (("postgresql", "psycopg2"), .absent "psycopg2"),
    (("postgresql", "psycopg2cffi"), .absent "psycopg2cffi"),
    (("postgresql", "psycopg"), .absent "psycopg"),
    (("postgresql", "psycopg_async"), .absent "psycopg"),
    (("postgresql", "pg8000"), .absent "pg8000"),
    (("sqlite", "aiosqlite"), .waiting .sqlite "aiosqlite"),
    (("sqlite", "base"), .blocking .sqlite "pysqlite"),
    (("sqlite", "pysqlite"), .blocking .sqlite "pysqlite"),
    (("sqlite", "pysqlcipher"), .absent "pysqlcipher3"),
    (("oracle", "base"), .absent "cx_Oracle"),
    (("oracle", "cx_oracle"), .absent "cx_Oracle"),
    (("oracle", "oracledb"), .absent "oracledb"),
    (("oracle", "oracledb_async"), .absent "oracledb"),
    (("mssql", "base"), .absent "pyodbc"),
    (("mssql", "pyodbc"), .absent "pyodbc"),
    (("mssql", "aioodbc"), .absent "aioodbc"),
    (("mssql", "pymssql"), .absent "pymssql")] ++
  ["mysql", "mariadb"].flatMap fun dialect =>
    [((dialect, "base"), .absent "MySQLdb"),
      ((dialect, "mysqldb"), .absent "MySQLdb"),
      ((dialect, "pymysql"), .absent "pymysql"),
      ((dialect, "aiomysql"), .absent "aiomysql"),
      ((dialect, "asyncmy"), .absent "asyncmy"),
      ((dialect, "cymysql"), .absent "cymysql"),
      ((dialect, "mariadbconnector"), .absent "mariadb"),
      ((dialect, "mysqlconnector"), .absent "mysql"),
      ((dialect, "pyodbc"), .absent "pyodbc")]

/-- The dialect and the driver that a scheme names, with a plus sign between them. -/
def schemeParts (scheme : String) : Except EngineError (String × String) :=
  match (Text.splitAt '+' scheme.toList).map String.ofList with
  | [dialect] => .ok (dialect, defaultDriver)
  | [dialect, driver] => .ok (dialect, driver)
  | _ => .error .crowdedScheme

/-- The support for a scheme. -/
def support (scheme : String) : Except EngineError Support := do
  let key ← schemeParts scheme
  match supports.lookup key with
  | some s => .ok s
  | none => .error (.unknownScheme (scheme.map fun c => if c == '+' then '.' else c))

/-- Refuses an address with a server for a database in a file. -/
def checkAddress (dialect : Dialect) (a : Address) : Except EngineError Unit :=
  if dialect = .sqlite ∧ a.isRemote then .error (.remoteFile a) else .ok ()

/-- The engine that the settings ask for. -/
def make (s : Settings) : Except EngineError Engine := do
  let address ← (Address.read s.databaseUrl).mapError .address
  match ← support address.scheme with
  | .absent package => .error (.noPackage package)
  | .blocking dialect driver => do
    checkAddress dialect address
    .error (.blockingDriver driver)
  | .waiting dialect driver => do
    checkAddress dialect address
    .ok
      { dialect, driver, address, echo := s.debug, prePing := true
        pool := if dialect = .postgresql then some (.ofSettings s) else none
        expireOnCommit := false }

/-- The dialect in which an engine writes its insertions. -/
def insertDialect (e : Engine) : Dialect :=
  if e.dialect = .sqlite then .sqlite else .postgresql

end Engine

end SubscriptionRegistry
