import Std.Time.DateTime.Timestamp
import SubscriptionRegistry.Site
import SubscriptionRegistry.Text.Upper

/-!
# The program

The program reads the clock and the environment, runs once, and prints what it has to say. Its
databases live as long as it does.
-/

namespace SubscriptionRegistry.Program

/-- The time now. -/
def now : IO Instant := do
  let t ← Std.Time.Timestamp.now
  match Instant.ofEpochMicros (t.toNanosecondsSinceUnixEpoch.val / 1000) with
  | .ok t => return t
  | .error e => throw (IO.userError e.message)

/-- The variables of the environment that name settings. -/
def environment : IO (List (String × String)) := do
  let names := Settings.fieldNames.map fun f => "NOTIFY_" ++ Text.upper f
  names.filterMapM fun name => do return (← IO.getEnv name).map fun v => (name, v)

/-- The directories in which databases may be. -/
def directories : List String := ["", "./", "/", "/tmp/"]

/-- The text of a line of output. -/
def printed : Site.Output → String
  | .log line => line.printed
  | .text line => line

/-- What ended the program without an exit code. -/
def escapeText : Site.Escape → String
  | .settings issues =>
    Text.joinWith ", " (issues.map fun i => i.1 ++ ": " ++ i.2.code)
  | .level u => u.message
  | .engine e => e.message
  | .fault f => f.text

/-- Runs the program once and gives its exit code. -/
def run (arguments : List String) : IO UInt32 := do
  let time ← now
  let (r, _) := (Site.mk time directories []).run (← environment) time.zuluText arguments
  for o in r.output do
    IO.println (printed o)
  for line in r.complaints do
    IO.eprintln line
  match r.ending with
  | .exit code => return code.toUInt32
  | .escaped e => do
    IO.eprintln (escapeText e)
    return 1

end SubscriptionRegistry.Program

/-- The entry point. -/
def main (arguments : List String) : IO UInt32 :=
  SubscriptionRegistry.Program.run arguments
