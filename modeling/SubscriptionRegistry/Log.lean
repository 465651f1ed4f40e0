import SubscriptionRegistry.Log.Event
import SubscriptionRegistry.Settings
import SubscriptionRegistry.Text.Pieces
import SubscriptionRegistry.Value

/-!
# Logs

A log writes an event as a record or as a line of text. Both show the time, the severity, the name
of the event, and its fields together with those of the context, of which the event's own win. The
line has the severity and the name in columns, and the other fields in the order of their names.

* `Log.configure`: the log with a level and a style.
* `Log.write`: what a log writes for an entry.
-/

namespace SubscriptionRegistry

/-! ## Entries and lines -/

/-- Something to be logged. -/
structure Log.Entry where
  severity : Severity
  event : String
  fields : List (String × Value)

/-- The entry of an event of the registry. -/
def Event.entry (e : Event) : Log.Entry := ⟨e.severity, e.name, e.fields⟩

/-- What a log writes for an entry: a record, or a line of text. -/
inductive Log.Line where
  | record (fields : List (String × Value))
  | text (s : String)

/-- A line as it is printed. -/
def Log.Line.printed : Log.Line → String
  | record fields => (Value.object fields).json
  | text s => s

/-- A log: which entries it shows, how, and the context that it adds to them. -/
structure Log where
  level : Level
  style : LogFormat
  context : List (String × Value)

/-! ## Writing -/

namespace Log

/-- The style with a name; every name but that of records means lines of text. -/
def styleNamed (name : String) : LogFormat :=
  if name = LogFormat.json.name then .json else .text

/-- The log with a level and a style. -/
def configure (level : String) (style : LogFormat) (context : List (String × Value)) :
    Except Level.Unknown Log := do
  let level ← Level.read level
  .ok ⟨level, style, context⟩

/-- The names of the fields that every entry has. -/
def ownFields : List String := ["event", "level", "timestamp"]

/-- The other fields of an entry: its own, and those of the context that it does not set. -/
def extraFields (l : Log) (e : Entry) : List (String × Value) :=
  (e.fields ++ l.context.filter fun c => !(e.fields.any (·.1 = c.1))).filter
    fun f => !(ownFields.contains f.1)

/-- An entry as a record. -/
def record (l : Log) (time : String) (e : Entry) : List (String × Value) :=
  l.extraFields e ++
    [("event", .text e.event), ("level", .text e.severity.name), ("timestamp", .text time)]

/-- A text that is filled up with spaces to a width. -/
def padded (width : Nat) (s : String) : String :=
  s ++ String.ofList (List.replicate (width - s.length) ' ')

/-- The width of the column of severities. -/
def levelWidth : Nat := 9

/-- The width of the column of event names. -/
def eventWidth : Nat := 30

/-- The fields that name the logger, which have columns of their own. -/
def loggerFields : List String := ["logger", "logger_name"]

/-- The columns that name the logger. -/
def loggerColumns (fields : List (String × Value)) : List String :=
  loggerFields.filterMap fun name => (fields.lookup name).map fun v => "[" ++ v.columnText ++ "]"

/-- The other fields, in the order of their names. -/
def fieldColumns (fields : List (String × Value)) : List String :=
  (sortByText (·.1) (fields.filter fun f => !(loggerFields.contains f.1))).map
    fun f => f.1 ++ "=" ++ f.2.fieldText

/-- An entry as a line of text. -/
def text (l : Log) (time : String) (e : Entry) : String :=
  let fields := l.extraFields e
  Text.joinWith " "
    ([time, "[" ++ padded levelWidth e.severity.name ++ "]", padded eventWidth e.event] ++
      loggerColumns fields ++ fieldColumns fields)

/-- The lines of a text without blanks at their ends. -/
def trimmedLines (s : String) : List String :=
  (Text.lines s).map fun t => String.ofList (Text.trimRight Text.isBlank t.toList)

/-- What the log writes for an entry at a time. -/
def write (l : Log) (time : String) (e : Entry) : List Line :=
  if l.level.shows e.severity then
    match l.style with
    | .json => [.record (l.record time e)]
    | .text => (trimmedLines (l.text time e)).map .text
  else []

end Log

end SubscriptionRegistry
