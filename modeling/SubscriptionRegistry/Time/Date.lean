/-!
# Calendar dates

The Gregorian calendar, carried back to the year 1. `Date.dayNumber` counts the days since
0001-01-01, and `Date.ofDayNumber` is its inverse on the days up to 9999-12-31.

* `yearOf`: the year of a day number, and the day in that year.
* `monthOf`: the month of a day in a year, and the day in that month.
-/

namespace SubscriptionRegistry

/-- Every fourth year is a leap year, but of the full centuries only every fourth. -/
def isLeapYear (y : Nat) : Bool :=
  y % 4 == 0 && (y % 100 != 0 || y % 400 == 0)

/-- The lengths of the twelve months. -/
def monthLengths (leap : Bool) : List Nat :=
  [31, if leap then 29 else 28, 31, 30, 31, 30, 31, 31, 30, 31, 30, 31]

/-- The length of month `m` of year `y`; no other number is a month. -/
def monthLength (y m : Nat) : Nat :=
  if m = 0 then 0 else (monthLengths (isLeapYear y)).getD (m - 1) 0

/-- The days before the first day of year `y`. -/
def daysBeforeYear (y : Nat) : Nat :=
  365 * (y - 1) + (y - 1) / 4 - (y - 1) / 100 + (y - 1) / 400

/-- The days of some months. -/
def daysIn : (lengths : List Nat) → Nat
  | [] => 0
  | l :: ls => l + daysIn ls

/-- The days of year `y` before the first day of month `m`. -/
def daysBeforeMonth (y m : Nat) : Nat :=
  daysIn ((monthLengths (isLeapYear y)).take (m - 1))

/-- A day of the years 1 to 9999. -/
structure Date where
  year : Nat
  month : Nat
  day : Nat
  year_pos : 1 ≤ year
  year_le : year ≤ 9999
  day_pos : 1 ≤ day
  day_le : day ≤ monthLength year month
deriving DecidableEq, Repr

/-- The number of days from 0001-01-01 to 9999-12-31. -/
def daysOfCalendar : Nat := 3652059

/-- The year of day `n`, and the number of the day in it. A day is in its period of 400 years, in
that in its century, in that in its four years, and in those in its year; the last century and
the last year take the extra day of their period. -/
def yearOf (n : Nat) : Nat × Nat :=
  let q400 := n / 146097
  let r400 := n % 146097
  let q100 := min 3 (r400 / 36524)
  let r100 := r400 - 36524 * q100
  let q4 := r100 / 1461
  let r4 := r100 % 1461
  let q1 := min 3 (r4 / 365)
  (400 * q400 + 100 * q100 + 4 * q4 + q1 + 1, r4 - 365 * q1)

/-- The month with day `d` of a year, given the lengths of the months, and the day in it. -/
def monthOf : (lengths : List Nat) → (d : Nat) → Nat × Nat
  | [], d => (1, d + 1)
  | l :: ls, d =>
    if d < l then (1, d + 1)
    else ((monthOf ls (d - l)).1 + 1, (monthOf ls (d - l)).2)

/-- A day is day `r` of the year after `400 a + 100 b + 4 c + d` years. It has the number 365 only
if that year ends its four years, and its century as well unless that ends its 400 years. -/
theorem yearOf_parts (n : Nat) : ∃ a b c d r,
    n = 146097 * a + 36524 * b + 1461 * c + 365 * d + r ∧ b ≤ 3 ∧ c ≤ 24 ∧ d ≤ 3 ∧ r ≤ 365 ∧
      (r = 365 → d = 3 ∧ (c = 24 → b = 3)) ∧ yearOf n = (400 * a + 100 * b + 4 * c + d + 1, r) := by
  refine ⟨n / 146097, min 3 (n % 146097 / 36524),
    (n % 146097 - 36524 * min 3 (n % 146097 / 36524)) / 1461,
    min 3 ((n % 146097 - 36524 * min 3 (n % 146097 / 36524)) % 1461 / 365), _,
    ?_, ?_, ?_, ?_, ?_, ?_, rfl⟩
  all_goals omega

theorem daysBeforeYear_parts {a b c d : Nat} (hb : b ≤ 3) (hc : c ≤ 24) (hd : d ≤ 3) :
    daysBeforeYear (400 * a + 100 * b + 4 * c + d + 1) =
      146097 * a + 36524 * b + 1461 * c + 365 * d := by
  have h4 : (400 * a + 100 * b + 4 * c + d) / 4 = 100 * a + 25 * b + c := by omega
  have h100 : (400 * a + 100 * b + 4 * c + d) / 100 = 4 * a + b := by omega
  have h400 : (400 * a + 100 * b + 4 * c + d) / 400 = a := by omega
  simp only [daysBeforeYear, Nat.add_sub_cancel, h4, h100, h400]
  omega

theorem isLeapYear_parts {a b c d : Nat} (hb : b ≤ 3) (hc : c ≤ 24) (hd : d ≤ 3) :
    isLeapYear (400 * a + 100 * b + 4 * c + d + 1) = true ↔ d = 3 ∧ (c = 24 → b = 3) := by
  simp only [isLeapYear, Bool.and_eq_true, Bool.or_eq_true, beq_iff_eq, bne_iff_ne]
  omega

theorem yearOf_pos (n : Nat) : 1 ≤ (yearOf n).1 := by
  simp [yearOf]

theorem yearOf_le {n : Nat} (h : n < daysOfCalendar) : (yearOf n).1 ≤ 9999 := by
  obtain ⟨a, b, c, d, r, hn, hb, hc, hd, hr, hl, hy⟩ := yearOf_parts n
  rw [hy]
  simp only [daysOfCalendar] at h
  omega

theorem daysBeforeYear_yearOf (n : Nat) : daysBeforeYear (yearOf n).1 + (yearOf n).2 = n := by
  obtain ⟨a, b, c, d, r, hn, hb, hc, hd, -, -, hy⟩ := yearOf_parts n
  rw [hy, daysBeforeYear_parts hb hc hd, hn]

theorem yearOf_day_lt (n : Nat) :
    (yearOf n).2 < if isLeapYear (yearOf n).1 then 366 else 365 := by
  obtain ⟨a, b, c, d, r, -, hb, hc, hd, hr, hl, hy⟩ := yearOf_parts n
  rw [hy]
  by_cases h : isLeapYear (400 * a + 100 * b + 4 * c + d + 1) = true
  · simp only [h, if_true]
    omega
  · simp only [h]
    rw [isLeapYear_parts hb hc hd] at h
    have : r ≠ 365 := fun hr => h (hl hr)
    simp only [Bool.false_eq_true, if_false]
    omega

theorem daysIn_monthLengths (leap : Bool) :
    daysIn (monthLengths leap) = if leap then 366 else 365 := by
  cases leap <;> rfl

theorem monthOf_spec {ls : List Nat} {d : Nat} (h : d < daysIn ls) :
    1 ≤ (monthOf ls d).1 ∧ 1 ≤ (monthOf ls d).2 ∧
      (monthOf ls d).2 ≤ ls.getD ((monthOf ls d).1 - 1) 0 ∧
      daysIn (ls.take ((monthOf ls d).1 - 1)) + (monthOf ls d).2 = d + 1 := by
  induction ls generalizing d with
  | nil => simp [daysIn] at h
  | cons l ls ih =>
    unfold monthOf
    split
    · simp [daysIn]; omega
    · rename_i hl
      have hd : d - l < daysIn ls := by simp only [daysIn] at h; omega
      obtain ⟨h1, h2, h3, h4⟩ := ih hd
      obtain ⟨k, hk⟩ : ∃ k, (monthOf ls (d - l)).1 = k + 1 := ⟨_, (Nat.sub_add_cancel h1).symm⟩
      simp only [hk, Nat.add_sub_cancel] at h3 h4 ⊢
      refine ⟨by omega, h2, by simpa using h3, ?_⟩
      simp only [List.take_succ_cons, daysIn]
      omega

namespace Date

/-- The days from 0001-01-01 to `d`. -/
def dayNumber (d : Date) : Nat :=
  daysBeforeYear d.year + daysBeforeMonth d.year d.month + (d.day - 1)

/-- The date of day `n` since 0001-01-01. -/
def ofDayNumber (n : Nat) (h : n < daysOfCalendar) : Date :=
  have hd : (yearOf n).2 < daysIn (monthLengths (isLeapYear (yearOf n).1)) := by
    rw [daysIn_monthLengths]; exact yearOf_day_lt n
  { year := (yearOf n).1
    month := (monthOf (monthLengths (isLeapYear (yearOf n).1)) (yearOf n).2).1
    day := (monthOf (monthLengths (isLeapYear (yearOf n).1)) (yearOf n).2).2
    year_pos := yearOf_pos n
    year_le := yearOf_le h
    day_pos := (monthOf_spec hd).2.1
    day_le := by
      unfold monthLength
      rw [if_neg (Nat.ne_of_gt (monthOf_spec hd).1)]
      exact (monthOf_spec hd).2.2.1 }

theorem dayNumber_ofDayNumber (n : Nat) (h : n < daysOfCalendar) :
    (ofDayNumber n h).dayNumber = n := by
  have hd : (yearOf n).2 < daysIn (monthLengths (isLeapYear (yearOf n).1)) := by
    rw [daysIn_monthLengths]; exact yearOf_day_lt n
  have h2 := (monthOf_spec hd).2.1
  have h4 := (monthOf_spec hd).2.2.2
  have hy := daysBeforeYear_yearOf n
  simp only [dayNumber, ofDayNumber, daysBeforeMonth]
  omega

/-- The date with the given numbers, if there is one. -/
def ofParts? (y m d : Nat) : Option Date :=
  if h : 1 ≤ y ∧ y ≤ 9999 ∧ 1 ≤ d ∧ d ≤ monthLength y m then
    some ⟨y, m, d, h.1, h.2.1, h.2.2.1, h.2.2.2⟩
  else none

end Date

end SubscriptionRegistry
