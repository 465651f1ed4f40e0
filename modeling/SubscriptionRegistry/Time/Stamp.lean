import SubscriptionRegistry.Time.Instant

/-!
# Time stamps

A `Stamp` is a date and time of day as a caller writes it, with the distance of its clock from
universal time, or without one if the clock shows universal time.

* `Stamp.read?`: `YYYY-MM-DDTHH:MM:SS`, a fraction after a point, an offset `±HH:MM`,
  `±HH:MM:SS` or `±HH:MM:SS.ffffff`.
* `Stamp.toUtc`: the instant that a stamp denotes; it fails outside the calendar.
-/

namespace SubscriptionRegistry

/-- A date, the microseconds since its midnight, and the offset of the clock in microseconds. -/
structure Stamp where
  date : Date
  time : Nat
  offset : Option Int
deriving DecidableEq, Repr

namespace Stamp

/-- The microseconds from the first of the year 1 to the stamp, in universal time. A stamp without
an offset is in universal time. -/
def micros (s : Stamp) : Int :=
  (s.date.dayNumber * microsPerDay + s.time : Nat) - s.offset.getD 0

/-- The instant that the stamp denotes. -/
def toUtc (s : Stamp) : Except TimeError Instant :=
  Instant.ofMicros s.micros

/-- The stamp of an instant, with the offset zero. -/
def ofInstant (t : Instant) : Stamp :=
  ⟨t.date, t.timeOfDay, some 0⟩

/-! ## Reading -/

/-- Reads `w` decimal digits, of which `n` is read already. -/
def readDigits? : (w n : Nat) → List Char → Option (Nat × List Char)
  | 0, n, cs => some (n, cs)
  | _ + 1, _, [] => none
  | w + 1, n, c :: cs => (Text.asciiDigit? c).bind fun d => readDigits? w (10 * n + d) cs

/-- Reads the character `c`. -/
def readChar? (c : Char) : List Char → Option (List Char)
  | [] => none
  | d :: cs => if d = c then some cs else none

/-- The digits at the start of a text. -/
def leadingDigits : List Char → List Nat × List Char
  | [] => ([], [])
  | c :: cs =>
    match Text.asciiDigit? c with
    | some d => (d :: (leadingDigits cs).1, (leadingDigits cs).2)
    | none => ([], c :: cs)

/-- The microseconds of a fraction with the given digits: six digits count, and missing ones are
zero. -/
def fractionMicros (ds : List Nat) : Nat :=
  Text.foldDigits 10 ((ds ++ List.replicate 6 0).take 6)

/-- Reads a fraction if one follows. -/
def readFraction? : List Char → Option (Nat × List Char)
  | '.' :: cs =>
    match leadingDigits cs with
    | ([], _) => none
    | (ds, rest) => some (fractionMicros ds, rest)
  | cs => some (0, cs)

/-- Reads a time of day: `HH:MM:SS` and a fraction. -/
def readTime? (cs : List Char) : Option (Nat × List Char) := do
  let (h, cs) ← readDigits? 2 0 cs
  let cs ← readChar? ':' cs
  let (m, cs) ← readDigits? 2 0 cs
  let cs ← readChar? ':' cs
  let (s, cs) ← readDigits? 2 0 cs
  let (f, cs) ← readFraction? cs
  if h < 24 ∧ m < 60 ∧ s < 60 then
    some (((h * 60 + m) * 60 + s) * 1000000 + f, cs)
  else none

/-- Reads the distance of an offset: `HH:MM`, and seconds with a fraction if they follow. -/
def readDistance? (cs : List Char) : Option Nat := do
  let (h, cs) ← readDigits? 2 0 cs
  let cs ← readChar? ':' cs
  let (m, cs) ← readDigits? 2 0 cs
  let (s, f, cs) ← match cs with
    | ':' :: cs => do
      let (s, cs) ← readDigits? 2 0 cs
      let (f, cs) ← readFraction? cs
      some (s, f, cs)
    | cs => some (0, 0, cs)
  if cs = [] ∧ h < 24 ∧ m < 60 ∧ s < 60 then
    some (((h * 60 + m) * 60 + s) * 1000000 + f)
  else none

/-- A distance of less than a second is read as none. -/
def wholeSeconds (n : Nat) : Int :=
  if n < 1000000 then 0 else n

/-- Reads an offset, or nothing. -/
def readOffset? : List Char → Option (Option Int)
  | [] => some none
  | '+' :: cs => (readDistance? cs).map fun n => some (wholeSeconds n)
  | '-' :: cs => (readDistance? cs).map fun n => some (-wholeSeconds n)
  | _ => none

/-- Reads a date: `YYYY-MM-DD`. -/
def readDate? (cs : List Char) : Option (Date × List Char) := do
  let (y, cs) ← readDigits? 4 0 cs
  let cs ← readChar? '-' cs
  let (m, cs) ← readDigits? 2 0 cs
  let cs ← readChar? '-' cs
  let (d, cs) ← readDigits? 2 0 cs
  let date ← Date.ofParts? y m d
  some (date, cs)

/-- The stamp that a text shows. -/
def read? (s : String) : Option Stamp := do
  let (date, cs) ← readDate? s.toList
  let cs ← readChar? 'T' cs
  let (time, cs) ← readTime? cs
  let offset ← readOffset? cs
  some ⟨date, time, offset⟩

end Stamp

end SubscriptionRegistry
