import SubscriptionRegistry.Log.Severity
import SubscriptionRegistry.Time.Instant
import SubscriptionRegistry.Uuid
import SubscriptionRegistry.Value
import SubscriptionRegistry.View.Rows

/-!
# Log events

What the registry reports of its work. An operation emits its event when its own unit has
succeeded; a read emits a warning for each scope text that it had to leave out. No event holds a
private key or a symmetric key.
-/

namespace SubscriptionRegistry

/-- An event of the registry. -/
inductive Event where
  | projectUpserted (projectId appDomain : String)
  | subscriberUpserted (subscriber : Uuid) (project : Uuid) (scopeSize : Nat)
  | subscriberUpdated (subscriber : Uuid) (scopeSize : Nat)
  | subscriberDeleted (subscriber : Option Uuid) (existed : Bool)
  | watcherUpserted (didKey : String) (project : Option Uuid) (expiry : Instant)
  | watchersSwept (count : Nat)
  | sweepFinished (count : Nat)
  | scopeDropped (value : Value)
  | schemaCreated
  | commandFailed (command : String) (code : String)

namespace Event

/-- The name of an event. -/
def name : Event → String
  | projectUpserted .. => "project.upserted"
  | subscriberUpserted .. => "subscriber.upserted"
  | subscriberUpdated .. => "subscriber.updated"
  | subscriberDeleted .. => "subscriber.deleted"
  | watcherUpserted .. => "watcher.upserted"
  | watchersSwept _ => "watcher.swept"
  | sweepFinished _ => "watcher_sweep.finished"
  | scopeDropped _ => "scope.invalid_dropped"
  | schemaCreated => "registry.schema_created"
  | commandFailed .. => "registry.command_failed"

/-- The severity of an event. -/
def severity : Event → Severity
  | scopeDropped _ => .warning
  | commandFailed .. => .error
  | _ => .info

/-- The text of an id in an event; a call without an id shows the word for nothing. -/
def idText : Option Uuid → String
  | some id => id.text
  | none => "None"

/-- The fields of an event. -/
def fields : Event → List (String × Value)
  | projectUpserted projectId appDomain =>
    [("project_id", .text projectId), ("app_domain", .text appDomain)]
  | subscriberUpserted id project size =>
    [("subscriber_id", .text id.text), ("project", .text project.text), ("scope_size", .int size)]
  | subscriberUpdated id size => [("subscriber_id", .text id.text), ("scope_size", .int size)]
  | subscriberDeleted id existed => [("subscriber_id", .text (idText id)), ("existed", .bool existed)]
  | watcherUpserted didKey project expiry =>
    [("did_key", .text didKey), ("project", .ofText? (project.map Uuid.text)),
     ("expiry", .text expiry.text)]
  | watchersSwept count => [("count", .int count)]
  | sweepFinished count => [("count", .int count)]
  | scopeDropped value => [("value", value)]
  | schemaCreated => []
  | commandFailed command code => [("command", .text command), ("error", .text code)]

/-- The text of a dropped value; scope entries are texts. -/
def droppedText : Value → String
  | .text s => s
  | _ => ""

/-- The warnings for the scope texts that a read left out, in ascending order. -/
def dropped (values : List Value) : List Event :=
  (sortByText droppedText values).map scopeDropped

end Event

end SubscriptionRegistry
