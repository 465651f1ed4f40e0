import SubscriptionRegistry.Session
import SubscriptionRegistry.Settings

/-!
# The worker

A worker sweeps expired watchers once an hour, at a minute that the settings give. It opens its
engine when it starts and closes it when it stops.

* `Worker.ofSettings`: what the worker runs, and when.
* `Database.sweep`: its task, in a session of its own.
-/

namespace SubscriptionRegistry

/-- A task that runs at a minute of some hour, or of every hour. -/
structure Schedule where
  task : String
  hour : Option Nat
  minute : Int
deriving DecidableEq, Repr

/-- What a worker runs, and when. -/
structure Worker where
  tasks : List String
  onStartup : String
  onShutdown : String
  schedule : Schedule
deriving DecidableEq, Repr

/-- The name of the task that sweeps expired watchers. -/
def Worker.sweepTask : String := "sweep_expired_watchers"

/-- The worker that the settings ask for. -/
def Worker.ofSettings (s : Settings) : Worker where
  tasks := [sweepTask]
  onStartup := "startup"
  onShutdown := "shutdown"
  schedule := ⟨sweepTask, none, s.sweepMinute⟩

/-- Removes expired watchers in the worker's own session, and reports the end of the sweep. -/
def Database.sweep (d : Database) (clock : Instant) : Except Fault Reply × Database :=
  match d.call clock .worker (.sweepWatchers none) with
  | (.ok reply, d') =>
    (.ok { reply with events := reply.events ++
      match reply.answer with
      | .count n => [.sweepFinished n]
      | _ => [] }, d')
  | (.error f, d') => (.error f, d')

end SubscriptionRegistry
