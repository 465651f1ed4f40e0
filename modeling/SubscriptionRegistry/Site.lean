import SubscriptionRegistry.Command
import SubscriptionRegistry.Engine
import SubscriptionRegistry.Log
import SubscriptionRegistry.Worker

/-!
# Sites

A `Site` is where the program runs: a clock, the directories in which it can make files, and the
databases in files that have the tables of the registry. `Site.run` runs the program once. It reads
its arguments, then its settings, then prepares its log and its engine, and ends at the first of
these that fails.
-/

namespace SubscriptionRegistry

/-- Where an engine leads to. -/
inductive Place where
  | memory
  | file (name : String)
  | server (host : String) (port : Int)
deriving DecidableEq, Repr

/-- The port of a server whose address names none. -/
def defaultPort : Int := 5432

/-- The number of the machine that runs the program. -/
def ownHost : String := "127.0.0.1"

/-- Where the engine leads to. A file without a name is in memory, as long as the engine. -/
def Engine.place (e : Engine) : Place :=
  match e.dialect with
  | .sqlite =>
    match e.address.database with
    | some name => if name = "" ∨ name = ":memory:" then .memory else .file name
    | none => .memory
  | .postgresql =>
    let host := e.address.host.getD ownHost
    .server (if host = "localhost" then ownHost else host) (e.address.port.getD defaultPort)

/-- No server answers. -/
def Fault.unreachable (host : String) (port : Int) : Fault :=
  .system (some 111) ("Connect call failed (" ++ Text.quote host ++ ", " ++ toString port ++ ")")

/-- The database file is not there and cannot be made. -/
def Fault.unopenable : Fault :=
  .store (.driver
    ⟨.operational, some ⟨"sqlite3.OperationalError", "unable to open database file"⟩, false⟩)

/-- A clock, the directories, each with a slash at its end, and the databases that have tables,
by their file names. The working directory has the empty name. -/
structure Site where
  clock : Instant
  directories : List String
  files : List (String × Store)

namespace Site

/-- The directory of a file: its name up to the last slash. -/
def directoryOf (name : String) : String :=
  String.ofList (name.toList.reverse.dropWhile (· != '/')).reverse

/-- Whether the program can open a file: its directory is there, and it is no directory itself. -/
def canOpen (s : Site) (name : String) : Bool :=
  s.directories.contains (directoryOf name) && !(s.directories.contains (name ++ "/")) &&
    directoryOf name != name

/-- The tables at a place, if they are there. -/
def tables? (s : Site) : Place → Except Fault (Option Store)
  | .memory => .ok none
  | .file name => if s.canOpen name then .ok (s.files.lookup name) else .error .unopenable
  | .server host port => .error (.unreachable host port)

/-- The site with the tables at a place. What is in memory is lost. -/
def keep (s : Site) (store : Store) : Place → Site
  | .file name => { s with files := Assignments.assign name store s.files }
  | _ => s

/-- What a command did: what it logged, and a number to be printed if there is one. -/
structure Effect where
  events : List Event
  count : Option Nat

/-- Makes the tables that are not there yet. -/
def initDb (s : Site) (p : Place) : Except Fault Effect × Site :=
  match s.tables? p with
  | .ok tables => (.ok ⟨[.schemaCreated], none⟩, s.keep (tables.getD .empty) p)
  | .error f => (.error f.surface, s)

/-- Removes expired watchers. -/
def sweep (s : Site) (p : Place) : Except Fault Effect × Site :=
  match s.tables? p with
  | .ok (some store) =>
    match (Database.ofStore store).sweep s.clock with
    | (.ok reply, d) =>
      let count := match reply.answer with
        | .count n => some n
        | _ => none
      (.ok ⟨reply.events, count⟩, s.keep d.committed p)
    | (.error f, _) => (.error f, s)
  | .ok none => (.error (Fault.noTable Table.watcher.name).surface, s)
  | .error f => (.error f.surface, s)

/-- Carries out a command. -/
def perform (s : Site) (p : Place) : Command → Except Fault Effect × Site
  | .initDb => s.initDb p
  | .sweep => s.sweep p

/-! ## Running the program -/

/-- What the program prints: log lines, and other lines. -/
inductive Output where
  | log (line : Log.Line)
  | text (line : String)

/-- What ends the program without an exit code. -/
inductive Escape where
  | settings (issues : Issues)
  | level (u : Level.Unknown)
  | engine (e : EngineError)
  | fault (f : Fault)

/-- How the program ends. -/
inductive Ending where
  | exit (code : Nat)
  | escaped (e : Escape)

/-- What the program printed, what it complained of, and how it ended. -/
structure Run where
  output : List Output
  complaints : List String
  ending : Ending

/-- A run that ends before anything is printed. -/
def Run.escaping (e : Escape) : Run := ⟨[], [], .escaped e⟩

/-- The run of a command that took effect. -/
def Run.ofEffect (log : Log) (time : String) (e : Effect) : Run where
  output := (e.events.flatMap fun event => (log.write time event.entry).map .log) ++
    (e.count.map fun n => .text (toString n)).toList
  complaints := []
  ending := .exit 0

/-- The run of a command that failed with a fault. -/
def Run.ofFault (log : Log) (time : String) (c : Command) : Fault → Run
  | .registry e =>
    { output := (log.write time (Event.commandFailed c.name e.kind.code).entry).map .log
      complaints := Text.lines ("Error: " ++ e.message)
      ending := .exit 1 }
  | f => .escaping (.fault f)

/-- Runs a command with the settings of the environment. -/
def runCommand (s : Site) (environment : List (String × String)) (time : String) (c : Command) :
    Run × Site :=
  match Settings.load ⟨[], environment, none⟩ with
  | .error issues => (.escaping (.settings issues), s)
  | .ok settings =>
    match Log.configure settings.logLevel settings.logFormat [] with
    | .error u => (.escaping (.level u), s)
    | .ok log =>
      match Engine.make settings with
      | .error e => (.escaping (.engine e), s)
      | .ok engine =>
        match s.perform engine.place c with
        | (.ok effect, s') => (.ofEffect log time effect, s')
        | (.error f, s') => (.ofFault log time c f, s')

/-- Runs the program once; `time` is the time that log lines show. -/
def run (s : Site) (environment : List (String × String)) (time : String)
    (arguments : List String) : Run × Site :=
  match Request.read arguments with
  | .help of => (⟨(Request.helpLines of).map .text, [], .exit 0⟩, s)
  | .refused of e => (⟨[], Request.errorLines of e, .exit 2⟩, s)
  | .run c => s.runCommand environment time c

end Site

end SubscriptionRegistry
