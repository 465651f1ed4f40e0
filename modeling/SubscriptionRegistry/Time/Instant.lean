import SubscriptionRegistry.Text.Digits
import SubscriptionRegistry.Time.Date

/-!
# Instants

An `Instant` is a microsecond of the years 1 to 9999 in universal time, counted from
0001-01-01T00:00:00. Its text has the date, the time of day, a fraction of six digits if there
is one, and the offset zero.
-/

namespace SubscriptionRegistry

/-- The microseconds of a day. -/
def microsPerDay : Nat := 86400000000

/-- A microsecond of universal time, counted from the first of the year 1. -/
structure Instant where
  micros : Nat
  inRange : micros < daysOfCalendar * microsPerDay
deriving DecidableEq, Repr

/-- Why a time is refused. -/
inductive TimeError where
  | outOfRange
deriving DecidableEq, Repr

namespace TimeError

/-- The wording of a time error. -/
def message : TimeError → String
  | outOfRange => "date value out of range"

end TimeError

namespace Instant

/-- The instant `n` microseconds after the first of the year 1, if it is in the calendar. -/
def ofMicros (n : Int) : Except TimeError Instant :=
  if h : 0 ≤ n ∧ n < (daysOfCalendar * microsPerDay : Nat) then
    .ok ⟨n.toNat, by omega⟩
  else .error .outOfRange

/-- The order of time. -/
instance : LT Instant := ⟨fun a b => a.micros < b.micros⟩

instance : LE Instant := ⟨fun a b => a.micros ≤ b.micros⟩

instance (a b : Instant) : Decidable (a < b) := inferInstanceAs (Decidable (a.micros < b.micros))

instance (a b : Instant) : Decidable (a ≤ b) := inferInstanceAs (Decidable (a.micros ≤ b.micros))

/-- The instant `d` microseconds later. -/
def add (t : Instant) (d : Nat) : Except TimeError Instant :=
  ofMicros (t.micros + d)

/-- The date in universal time. -/
def date (t : Instant) : Date :=
  Date.ofDayNumber (t.micros / microsPerDay)
    ((Nat.div_lt_iff_lt_mul (by decide)).2 t.inRange)

/-- The microseconds since midnight in universal time. -/
def timeOfDay (t : Instant) : Nat :=
  t.micros % microsPerDay

/-- A time of day: hours, minutes and seconds, and the microseconds unless they are zero. -/
def timeText (m : Nat) : List Char :=
  let s := m / 1000000
  Text.decimals 2 (s / 3600) ++ ':' :: Text.decimals 2 (s / 60 % 60) ++ ':' ::
    Text.decimals 2 (s % 60) ++
    if m % 1000000 = 0 then [] else '.' :: Text.decimals 6 (m % 1000000)

/-- A date: year, month and day. -/
def dateText (d : Date) : List Char :=
  Text.decimals 4 d.year ++ '-' :: Text.decimals 2 d.month ++ '-' :: Text.decimals 2 d.day

/-- The text of an instant. -/
def text (t : Instant) : String :=
  String.ofList (dateText t.date ++ 'T' :: timeText t.timeOfDay ++ ['+', '0', '0', ':', '0', '0'])

/-- The text of an instant with a letter for the offset zero. -/
def zuluText (t : Instant) : String :=
  String.ofList (dateText t.date ++ 'T' :: timeText t.timeOfDay ++ ['Z'])

/-- The days from the first of the year 1 to the first of the year 1970. -/
def epochDay : Nat := 719162

/-- The instant `n` microseconds after the first of the year 1970. -/
def ofEpochMicros (n : Int) : Except TimeError Instant :=
  ofMicros ((epochDay * microsPerDay : Nat) + n)

end Instant

end SubscriptionRegistry
