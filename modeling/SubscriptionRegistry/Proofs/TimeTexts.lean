import Mathlib.Algebra.Ring.Nat
import SubscriptionRegistry.Proofs.Calendar
import SubscriptionRegistry.Proofs.CanonicalText
import SubscriptionRegistry.Time.Stamp

/-!
# Texts of times

How a time is written, and that each such text is read as what it says.

* `Text.digitChars`: decimal digits as text. `Stamp.readDigits?_digitChars`,
  `Stamp.leadingDigits_digitChars`: they are read again. `Text.exists_digits`: the last digits of a
  number are such a text.
* `Stamp.fractionMicros_eq`: a fraction is read as the microseconds that it amounts to, rounded
  down.
* `Spelling`: a date and a time of day with a fraction, and the offset of its clock if it has one.
* `Spelling.read?_text`: its text is read as its stamp.
* `Instant.exists_spelling`: the text of an instant is such a text, with the offset zero.
-/

namespace SubscriptionRegistry

/-! ## Digits -/

namespace Text

/-- Decimal digits as text. -/
def digitChars (ds : List (Fin 10)) : List Char :=
  ds.map fun d => decimalDigit d.val

/-- The number with the decimal digits `ds`. -/
def digitsValue (ds : List (Fin 10)) : Nat :=
  foldDigits 10 (ds.map (·.val))

theorem foldl_digits (n : Nat) (ds : List Nat) :
    ds.foldl (fun n d => n * 10 + d) n = n * 10 ^ ds.length + foldDigits 10 ds := by
  induction ds generalizing n with
  | nil => simp [foldDigits]
  | cons d ds ih =>
    have hfirst : foldDigits 10 (d :: ds) = (0 * 10 + d) * 10 ^ ds.length + foldDigits 10 ds :=
      ih (0 * 10 + d)
    rw [List.foldl_cons, ih, hfirst, List.length_cons, Nat.pow_succ]
    grind

theorem foldDigits_append (ds es : List Nat) :
    foldDigits 10 (ds ++ es) = foldDigits 10 ds * 10 ^ es.length + foldDigits 10 es := by
  rw [foldDigits, List.foldl_append]
  exact foldl_digits _ es

theorem foldDigits_replicate_zero (k : Nat) : foldDigits 10 (List.replicate k 0) = 0 := by
  induction k with
  | zero => rfl
  | succ k ih =>
    rw [List.replicate_succ', foldDigits_snoc, ih]

theorem foldDigits_lt {ds : List Nat} (h : ∀ d ∈ ds, d < 10) : foldDigits 10 ds < 10 ^ ds.length := by
  induction ds with
  | nil => decide
  | cons d ds ih =>
    obtain ⟨hd, hds⟩ := List.forall_mem_cons.1 h
    have hrest := ih hds
    have hfirst := foldDigits_append [d] ds
    have hle : d * 10 ^ ds.length ≤ 9 * 10 ^ ds.length := Nat.mul_le_mul_right _ (by omega)
    rw [List.singleton_append] at hfirst
    rw [hfirst, List.length_cons, Nat.pow_succ]
    have hd' : foldDigits 10 [d] = d := Nat.zero_add d
    rw [hd']
    omega

/-- The last digits of a number, as text. -/
theorem exists_digits (w n : Nat) : ∃ ds : List (Fin 10), ds.length = w ∧
    decimals w n = digitChars ds ∧ digitsValue ds = n % 10 ^ w := by
  induction w generalizing n with
  | zero => exact ⟨[], rfl, rfl, (Nat.mod_one n).symm⟩
  | succ w ih =>
    obtain ⟨ds, hlength, htext, hvalue⟩ := ih (n / 10)
    refine ⟨ds ++ [⟨n % 10, Nat.mod_lt n (by decide)⟩], ?_, ?_, ?_⟩
    · rw [List.length_append, hlength]
      rfl
    · rw [decimals, htext, digitChars, digitChars, List.map_append]
      rfl
    · rw [digitsValue, List.map_append, List.map_singleton, foldDigits_snoc, ← digitsValue, hvalue,
        Nat.pow_succ', Nat.mod_mul]
      dsimp only
      omega

end Text

namespace Stamp

open Text

/-! ## Reading digits -/

theorem readDigits?_digitChars (ds : List (Fin 10)) (n : Nat) (rest : List Char) :
    readDigits? ds.length n (digitChars ds ++ rest) =
      some ((ds.map (·.val)).foldl (fun n d => n * 10 + d) n, rest) := by
  induction ds generalizing n with
  | nil => rfl
  | cons d ds ih =>
    show (asciiDigit? (decimalDigit d)).bind _ = _
    rw [asciiDigit?_decimalDigit d.isLt, Option.bind_some, Nat.mul_comm]
    exact ih _

/-- A number of a fixed width is read again. -/
theorem readDigits?_decimals {w n : Nat} (h : n < 10 ^ w) (rest : List Char) :
    readDigits? w 0 (decimals w n ++ rest) = some (n, rest) := by
  obtain ⟨ds, rfl, htext, hvalue⟩ := exists_digits w n
  rw [Nat.mod_eq_of_lt h] at hvalue
  rw [htext, readDigits?_digitChars]
  exact congrArg (fun n => some (n, rest)) hvalue

/-- The text does not go on with a digit or a point. -/
def Stops (rest : List Char) : Prop :=
  ∀ c ∈ rest.head?, c ≠ '.' ∧ asciiDigit? c = none

theorem stops_nil : Stops [] := nofun

theorem leadingDigits_digitChars (ds : List (Fin 10)) {rest : List Char} (h : Stops rest) :
    leadingDigits (digitChars ds ++ rest) = (ds.map (·.val), rest) := by
  induction ds with
  | nil =>
    cases rest with
    | nil => rfl
    | cons c rest =>
      show leadingDigits (c :: rest) = _
      rw [leadingDigits, (h c rfl).2]
      rfl
  | cons d ds ih =>
    show leadingDigits (decimalDigit d :: (digitChars ds ++ rest)) = _
    rw [leadingDigits, asciiDigit?_decimalDigit d.isLt, ih]
    rfl

/-- A fraction is read as the microseconds that it amounts to, rounded down. -/
theorem fractionMicros_eq (ds : List (Fin 10)) :
    fractionMicros (ds.map (·.val)) = digitsValue ds * 1000000 / 10 ^ ds.length := by
  have hlength : (ds.map (·.val)).length = ds.length := List.length_map _
  have hdigits : ∀ d ∈ ds.map (·.val), d < 10 := by
    intro d hd
    obtain ⟨e, -, rfl⟩ := List.mem_map.1 hd
    exact e.isLt
  unfold digitsValue fractionMicros
  rw [List.take_append, ← hlength]
  generalize ds.map (·.val) = l at hdigits
  by_cases hl : l.length ≤ 6
  · -- Missing digits are zeros.
    have hpow : 10 ^ (6 - l.length) * 10 ^ l.length = 1000000 := by
      rw [← Nat.pow_add, Nat.sub_add_cancel hl]
    rw [List.take_of_length_le hl, List.take_replicate, foldDigits_append, foldDigits_replicate_zero,
      List.length_replicate, Nat.min_eq_left (Nat.sub_le 6 _), ← hpow, ← Nat.mul_assoc,
      Nat.mul_div_cancel _ (Nat.pow_pos (by decide)), Nat.add_zero]
  · -- Of more than six digits the first six count.
    have hpow : 10 ^ l.length = 10 ^ (l.length - 6) * 1000000 := by
      rw [← Nat.pow_add 10 _ 6, Nat.sub_add_cancel (by omega)]
    have hlow : foldDigits 10 (l.drop 6) < 10 ^ (l.length - 6) := by
      rw [← List.length_drop]
      exact foldDigits_lt fun d hd => hdigits d (List.mem_of_mem_drop hd)
    have hsplit : foldDigits 10 l =
        foldDigits 10 (l.take 6) * 10 ^ (l.length - 6) + foldDigits 10 (l.drop 6) := by
      rw [← List.length_drop, ← foldDigits_append, List.take_append_drop]
    have hnone : 6 - l.length = 0 := by omega
    rw [hnone, List.take_zero, List.append_nil, hpow, Nat.mul_div_mul_right _ _ (by decide), hsplit,
      Nat.mul_comm, Nat.mul_add_div (Nat.pow_pos (by decide)), Nat.div_eq_of_lt hlow, Nat.add_zero]

end Stamp

/-! ## Written times -/

/-- A time of day as it is written: hours, minutes and seconds, and the digits of a fraction. -/
structure Spelling.Clock where
  hour : Fin 24
  minute : Fin 60
  second : Fin 60
  fraction : List (Fin 10)

/-- The distance of a clock from universal time as it is written, ahead of it or behind it. Seconds
may be left out. -/
structure Spelling.Offset where
  behind : Bool
  hour : Fin 24
  minute : Fin 60
  second : Option (Fin 60 × List (Fin 10))

/-- A time as it is written: a date, a time of day, and the offset of the clock, or none if it shows
universal time. -/
structure Spelling where
  date : Date
  clock : Spelling.Clock
  offset : Option Spelling.Offset

namespace Spelling

open Text

/-- A fraction as text. -/
def fractionText (ds : List (Fin 10)) : List Char :=
  if ds = [] then [] else '.' :: digitChars ds

/-- The microseconds that a fraction amounts to, rounded down. -/
def fractionMicros (ds : List (Fin 10)) : Nat :=
  digitsValue ds * 1000000 / 10 ^ ds.length

namespace Clock

/-- The text of a time of day. -/
def text (c : Clock) : List Char :=
  decimals 2 c.hour ++ ':' :: decimals 2 c.minute ++ ':' :: decimals 2 c.second ++
    fractionText c.fraction

/-- The microseconds since midnight. -/
def micros (c : Clock) : Nat :=
  ((c.hour * 60 + c.minute) * 60 + c.second) * 1000000 + fractionMicros c.fraction

end Clock

namespace Offset

/-- The text of an offset: its sign and its distance. -/
def text (o : Offset) : List Char :=
  (if o.behind then '-' else '+') :: decimals 2 o.hour ++ ':' :: decimals 2 o.minute ++
    match o.second with
    | none => []
    | some (second, fraction) => ':' :: decimals 2 second ++ fractionText fraction

/-- The distance from universal time in microseconds. -/
def distance (o : Offset) : Nat :=
  Clock.micros ⟨o.hour, o.minute, (o.second.map (·.1)).getD 0, (o.second.map (·.2)).getD []⟩

/-- How far the clock is ahead of universal time, in microseconds. -/
def micros (o : Offset) : Int :=
  if o.behind then -o.distance else o.distance

/-- How far ahead a clock is taken to be: one that is off by less than a second is taken to show
universal time. -/
def counted (o : Offset) : Int :=
  if o.distance < 1000000 then 0 else o.micros

end Offset

/-- The text of a time. -/
def text (w : Spelling) : String :=
  String.ofList (Instant.dateText w.date ++ 'T' :: w.clock.text ++
    match w.offset with
    | none => []
    | some o => o.text)

/-- The stamp that a written time is read as. -/
def stamp (w : Spelling) : Stamp :=
  ⟨w.date, w.clock.micros, w.offset.map Offset.counted⟩

end Spelling

/-! ## Reading times -/

namespace Stamp

open Text Spelling

theorem readChar?_cons (c : Char) (cs : List Char) : readChar? c (c :: cs) = some cs :=
  if_pos rfl

theorem readFraction?_fractionText (ds : List (Fin 10)) {rest : List Char} (h : Stops rest) :
    readFraction? (fractionText ds ++ rest) = some (Spelling.fractionMicros ds, rest) := by
  cases ds with
  | nil =>
    show readFraction? rest = some (0, rest)
    cases rest with
    | nil => rfl
    | cons c rest =>
      have hc := (h c rfl).1
      unfold readFraction?
      split
      · rename_i heq
        cases heq
        exact absurd rfl hc
      · rfl
  | cons d ds =>
    have hdigits := leadingDigits_digitChars (d :: ds) h
    show readFraction? ('.' :: (digitChars (d :: ds) ++ rest)) = _
    rw [readFraction?, hdigits]
    exact congrArg (fun n => some (n, rest)) (fractionMicros_eq (d :: ds))

theorem readTime?_text (c : Clock) {rest : List Char} (h : Stops rest) :
    readTime? (c.text ++ rest) = some (c.micros, rest) := by
  have hhour : c.hour.val < 10 ^ 2 := Nat.lt_trans c.hour.isLt (by decide)
  have hminute : c.minute.val < 10 ^ 2 := Nat.lt_trans c.minute.isLt (by decide)
  have hsecond : c.second.val < 10 ^ 2 := Nat.lt_trans c.second.isLt (by decide)
  unfold readTime? Clock.text
  simp only [List.append_assoc, List.cons_append, readDigits?_decimals hhour,
    readDigits?_decimals hminute, readDigits?_decimals hsecond, readChar?_cons,
    readFraction?_fractionText c.fraction h, Option.bind_eq_bind, Option.bind_some]
  exact if_pos ⟨c.hour.isLt, c.minute.isLt, c.second.isLt⟩

/-- The distance of an offset as it is written after the sign. -/
theorem readDistance?_text (o : Offset) : readDistance? (o.text.drop 1) = some o.distance := by
  obtain ⟨behind, hour, minute, second⟩ := o
  have hhour : hour.val < 10 ^ 2 := Nat.lt_trans hour.isLt (by decide)
  have hminute : minute.val < 10 ^ 2 := Nat.lt_trans minute.isLt (by decide)
  unfold readDistance? Offset.text
  simp only [List.drop_succ_cons, List.drop_zero, List.append_assoc, List.cons_append,
    readDigits?_decimals hhour, readDigits?_decimals hminute, readChar?_cons, Option.bind_eq_bind,
    Option.bind_some]
  cases second with
  | none =>
    have hzero : Spelling.fractionMicros [] = 0 := rfl
    have hdistance : Offset.distance ⟨behind, hour, minute, none⟩ =
        ((hour * 60 + minute) * 60 + 0) * 1000000 + 0 := by
      simp only [Offset.distance, Clock.micros, Option.map_none, Option.getD_none, hzero]
      rfl
    rw [hdistance]
    exact if_pos ⟨rfl, hour.isLt, minute.isLt, by decide⟩
  | some s =>
    obtain ⟨second, fraction⟩ := s
    have hsecond : second.val < 10 ^ 2 := Nat.lt_trans second.isLt (by decide)
    have hfraction := readFraction?_fractionText fraction stops_nil
    rw [List.append_nil] at hfraction
    simp only [readDigits?_decimals hsecond, hfraction, Option.bind_some]
    exact if_pos ⟨trivial, hour.isLt, minute.isLt, second.isLt⟩

theorem readOffset?_text (o : Offset) : readOffset? o.text = some (some o.counted) := by
  have hdistance := readDistance?_text o
  cases hbehind : o.behind with
  | true =>
    have htext : o.text = '-' :: o.text.drop 1 := by
      simp only [Offset.text, hbehind, if_true, List.cons_append, List.drop_succ_cons, List.drop_zero]
    have hcounted : o.counted = -wholeSeconds o.distance := by
      simp only [Offset.counted, Offset.micros, hbehind, if_true, wholeSeconds]
      split <;> rfl
    rw [htext, readOffset?, hdistance, hcounted, Option.map_some]
  | false =>
    have htext : o.text = '+' :: o.text.drop 1 := by
      simp only [Offset.text, hbehind, if_false, Bool.false_eq_true, List.cons_append,
        List.drop_succ_cons, List.drop_zero]
    have hcounted : o.counted = wholeSeconds o.distance := by
      simp only [Offset.counted, Offset.micros, hbehind, if_false, Bool.false_eq_true, wholeSeconds]
    rw [htext, readOffset?, hdistance, hcounted, Option.map_some]

theorem readDate?_dateText (d : Date) (rest : List Char) :
    readDate? (Instant.dateText d ++ rest) = some (d, rest) := by
  have hyear : d.year < 10 ^ 4 := Nat.lt_succ_of_le d.year_le
  have hmonth : d.month < 10 ^ 2 := Nat.lt_of_le_of_lt d.month_pos.2 (by decide)
  have hday : d.day < 10 ^ 2 :=
    Nat.lt_of_le_of_lt d.day_le (Nat.lt_trans (monthLength_lt d.year d.month) (by decide))
  have hdate : Date.ofParts? d.year d.month d.day = some d :=
    dif_pos ⟨d.year_pos, d.year_le, d.day_pos, d.day_le⟩
  unfold readDate? Instant.dateText
  simp only [List.append_assoc, List.cons_append, readDigits?_decimals hyear,
    readDigits?_decimals hmonth, readDigits?_decimals hday, readChar?_cons, hdate,
    Option.bind_eq_bind, Option.bind_some]

end Stamp

/-- An offset begins with its sign. -/
theorem Spelling.Offset.stops_text (o : Spelling.Offset) : Stamp.Stops o.text := by
  intro c hc
  have hsign : (if o.behind then '-' else '+') = c := Option.some_inj.1 hc
  subst hsign
  cases o.behind <;> decide

/-- What is written is read. -/
theorem Spelling.read?_text (w : Spelling) : Stamp.read? w.text = some w.stamp := by
  unfold Stamp.read? text
  rw [String.toList_ofList, List.append_assoc, Stamp.readDate?_dateText]
  simp only [List.cons_append, Stamp.readChar?_cons, Option.bind_eq_bind, Option.bind_some]
  cases hoffset : w.offset with
  | none =>
    rw [Stamp.readTime?_text w.clock Stamp.stops_nil]
    exact congrArg (fun offset => some (Stamp.mk w.date w.clock.micros (offset.map Offset.counted)))
      hoffset.symm
  | some o =>
    rw [Stamp.readTime?_text w.clock o.stops_text]
    simp only [Option.bind_some, Stamp.readOffset?_text]
    exact congrArg (fun offset => some (Stamp.mk w.date w.clock.micros (offset.map Offset.counted)))
      hoffset.symm

/-! ## Printed times -/

/-- A time of day is printed as it may be written. -/
theorem Spelling.Clock.exists_timeText {m : Nat} (h : m < microsPerDay) :
    ∃ c : Spelling.Clock, c.text = Instant.timeText m ∧ c.micros = m := by
  have hday : microsPerDay = 86400 * 1000000 := rfl
  have hhour : m / 1000000 / 3600 < 24 := by omega
  have hminute : m / 1000000 / 60 % 60 < 60 := Nat.mod_lt _ (by decide)
  have hsecond : m / 1000000 % 60 < 60 := Nat.mod_lt _ (by decide)
  obtain ⟨ds, hlength, htext, hvalue⟩ := Text.exists_digits 6 (m % 1000000)
  by_cases hzero : m % 1000000 = 0
  · refine ⟨⟨⟨_, hhour⟩, ⟨_, hminute⟩, ⟨_, hsecond⟩, []⟩, ?_, ?_⟩
    · simp only [text, Instant.timeText, hzero, if_true, fractionText]
    · have hnone : fractionMicros [] = 0 := rfl
      simp only [micros, hnone]
      omega
  · have hds : ds ≠ [] := fun hnil => by rw [hnil] at hlength; cases hlength
    refine ⟨⟨⟨_, hhour⟩, ⟨_, hminute⟩, ⟨_, hsecond⟩, ds⟩, ?_, ?_⟩
    · simp only [text, Instant.timeText, hzero, if_false, fractionText, hds, htext]
    · have hfraction : fractionMicros ds = m % 1000000 := by
        have hlt : m % 1000000 < 10 ^ 6 := Nat.mod_lt m (by decide)
        rw [fractionMicros, hvalue, hlength, Nat.mod_eq_of_lt hlt]
        exact Nat.mul_div_cancel _ (by decide)
      simp only [micros, hfraction]
      omega

/-- An instant is printed as it may be written, with the offset zero. -/
theorem Instant.exists_spelling (t : Instant) :
    ∃ w : Spelling, w.text = t.text ∧ w.stamp = Stamp.ofInstant t := by
  obtain ⟨c, htext, hmicros⟩ := Spelling.Clock.exists_timeText (Nat.mod_lt t.micros (by decide))
  refine ⟨⟨t.date, c, some ⟨false, 0, 0, none⟩⟩, ?_, ?_⟩
  · exact congrArg (fun cs => String.ofList (dateText t.date ++ 'T' :: cs ++ _)) htext
  · have hzero : Spelling.Offset.counted ⟨false, 0, 0, none⟩ = 0 := if_pos (by decide)
    rw [Spelling.stamp, Option.map_some, hzero, hmicros]
    rfl

/-- What is printed is read. -/
theorem Stamp.read?_text (t : Instant) : Stamp.read? t.text = some (.ofInstant t) := by
  obtain ⟨w, htext, hstamp⟩ := t.exists_spelling
  rw [← htext, w.read?_text, hstamp]

end SubscriptionRegistry
