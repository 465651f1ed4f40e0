import SubscriptionRegistry.Time.Date

/-!
# The calendar

The days of the years 1 to 9999 follow one another by the lengths of the months, and these by the
rule of leap years. Day numbers count them in this order, and no two days have the same number.

* `Date.first`, `Date.next?`: the first day, and the day after a day.
* `Date.later?`: the day some days later.
* `Date.next?_spec`: the day number goes up by one each day, to the end of the calendar.
* `Date.eq_of_dayNumber`: days have day numbers of their own. `Date.ofDayNumber_dayNumber`: a day is
  found by its number.
* `Date.later?_eq_some`: the day `n` days later is the one with a day number greater by `n`.
-/

namespace SubscriptionRegistry

/-! ## Months and years -/

theorem daysIn_take_succ (lengths : List Nat) (k : Nat) :
    daysIn (lengths.take (k + 1)) = daysIn (lengths.take k) + lengths.getD k 0 := by
  induction lengths generalizing k with
  | nil => simp [daysIn]
  | cons l lengths ih =>
    cases k with
    | zero => simp [daysIn]
    | succ k =>
      simp only [List.take_succ_cons, daysIn, List.getD_cons_succ]
      rw [ih k, Nat.add_assoc]

/-- A month begins where the one before it ends. -/
theorem daysBeforeMonth_succ (y : Nat) {m : Nat} (h : 1 ≤ m) :
    daysBeforeMonth y (m + 1) = daysBeforeMonth y m + monthLength y m := by
  obtain ⟨k, rfl⟩ : ∃ k, m = k + 1 := ⟨m - 1, by omega⟩
  have hmonth : monthLength y (k + 1) = (monthLengths (isLeapYear y)).getD k 0 :=
    if_neg (Nat.succ_ne_zero k)
  rw [hmonth]
  exact daysIn_take_succ _ k

theorem daysBeforeMonth_mono (y : Nat) {m n : Nat} (hm : 1 ≤ m) (h : m ≤ n) :
    daysBeforeMonth y m ≤ daysBeforeMonth y n := by
  induction h with
  | refl => exact Nat.le_refl _
  | step hn ih =>
    rw [daysBeforeMonth_succ y (Nat.le_trans hm hn)]
    exact Nat.le_add_right_of_le ih

/-- There are twelve months. -/
theorem monthLength_pos {y m : Nat} : 0 < monthLength y m ↔ 1 ≤ m ∧ m ≤ 12 := by
  have hlengths : ∀ (leap : Bool) (k : Fin 12), 0 < (monthLengths leap).getD k 0 := by decide
  unfold monthLength
  by_cases h0 : m = 0
  · simp [h0]
  · rw [if_neg h0]
    by_cases hm : m ≤ 12
    · have hpos := hlengths (isLeapYear y) ⟨m - 1, by omega⟩
      exact iff_of_true hpos ⟨by omega, hm⟩
    · have hnone : (monthLengths (isLeapYear y))[m - 1]? = none :=
        List.getElem?_eq_none (show 12 ≤ m - 1 by omega)
      rw [List.getD_eq_getElem?_getD, hnone]
      exact iff_of_false (Nat.lt_irrefl 0) fun h => hm h.2

/-- No month has more than 31 days. -/
theorem monthLength_lt (y m : Nat) : monthLength y m < 32 := by
  have hlengths : ∀ leap, ∀ l ∈ monthLengths leap, l < 32 := by decide
  unfold monthLength
  split
  · decide
  · rw [List.getD_eq_getElem?_getD]
    cases hl : (monthLengths (isLeapYear y))[m - 1]? with
    | none => decide
    | some l => exact hlengths _ l (List.mem_of_getElem? hl)

theorem daysBeforeMonth_end (y : Nat) :
    daysBeforeMonth y 13 = if isLeapYear y then 366 else 365 :=
  daysIn_monthLengths (isLeapYear y)

/-- A multiple of `k` is passed at each number that is one. -/
theorem div_eq_pred_div {y k : Nat} (hy : 1 ≤ y) :
    y / k = (y - 1) / k + if y % k = 0 then 1 else 0 := by
  obtain ⟨z, rfl⟩ : ∃ z, y = z + 1 := ⟨y - 1, by omega⟩
  rw [Nat.succ_div]
  simp only [Nat.dvd_iff_mod_eq_zero, Nat.add_sub_cancel]

/-- A year begins where the one before it ends. -/
theorem daysBeforeYear_succ {y : Nat} (hy : 1 ≤ y) :
    daysBeforeYear (y + 1) = daysBeforeYear y + daysBeforeMonth y 13 := by
  have hleap : isLeapYear y = true ↔ y % 4 = 0 ∧ (y % 100 ≠ 0 ∨ y % 400 = 0) := by
    simp only [isLeapYear, Bool.and_eq_true, Bool.or_eq_true, beq_iff_eq, bne_iff_ne]
  have hcentury : y % 100 = 0 → y % 4 = 0 := by omega
  have hperiod : y % 400 = 0 → y % 100 = 0 := by omega
  have hfewer : (y - 1) / 100 ≤ (y - 1) / 4 := Nat.div_le_div_left (by decide) (by decide)
  have hdays : 365 * y = 365 * (y - 1) + 365 := by omega
  rw [daysBeforeMonth_end]
  simp only [daysBeforeYear, Nat.add_sub_cancel, div_eq_pred_div hy, hdays, hleap]
  grind

theorem daysBeforeYear_mono {y z : Nat} (hy : 1 ≤ y) (h : y ≤ z) :
    daysBeforeYear y ≤ daysBeforeYear z := by
  induction h with
  | refl => exact Nat.le_refl _
  | step hz ih =>
    rw [daysBeforeYear_succ (Nat.le_trans hy hz)]
    exact Nat.le_add_right_of_le ih

namespace Date

variable {d e : Date} {n : Nat}

theorem month_pos (d : Date) : 1 ≤ d.month ∧ d.month ≤ 12 :=
  monthLength_pos.1 (Nat.lt_of_lt_of_le d.day_pos d.day_le)

/-! ## Day numbers -/

/-- A day lies in its month, and that in its year. -/
theorem dayNumber_bounds (d : Date) :
    daysBeforeYear d.year + daysBeforeMonth d.year d.month ≤ d.dayNumber ∧
      d.dayNumber < daysBeforeYear d.year + daysBeforeMonth d.year (d.month + 1) ∧
      daysBeforeYear d.year + daysBeforeMonth d.year (d.month + 1) ≤ daysBeforeYear (d.year + 1) := by
  obtain ⟨hpos, hle⟩ := d.month_pos
  have hday := d.day_pos
  have hlast := d.day_le
  have hend := daysBeforeMonth_mono d.year (n := 13) (Nat.le_succ_of_le hpos) (Nat.succ_le_succ hle)
  rw [daysBeforeYear_succ d.year_pos]
  rw [daysBeforeMonth_succ d.year hpos] at hend ⊢
  unfold dayNumber
  omega

theorem dayNumber_lt (d : Date) : d.dayNumber < daysOfCalendar := by
  obtain ⟨-, hmonth, hyear⟩ := d.dayNumber_bounds
  have hend : daysBeforeYear (d.year + 1) ≤ daysBeforeYear 10000 :=
    daysBeforeYear_mono (Nat.le_succ_of_le d.year_pos) (Nat.succ_le_succ d.year_le)
  have hcalendar : daysBeforeYear 10000 = daysOfCalendar := by decide
  omega

theorem year_eq_of_dayNumber (h : d.dayNumber = e.dayNumber) : d.year = e.year := by
  obtain ⟨hd, hd', hd''⟩ := d.dayNumber_bounds
  obtain ⟨he, he', he''⟩ := e.dayNumber_bounds
  rcases Nat.lt_trichotomy d.year e.year with hlt | heq | hlt
  · have hle : daysBeforeYear (d.year + 1) ≤ daysBeforeYear e.year :=
      daysBeforeYear_mono (Nat.le_succ_of_le d.year_pos) hlt
    omega
  · exact heq
  · have hle : daysBeforeYear (e.year + 1) ≤ daysBeforeYear d.year :=
      daysBeforeYear_mono (Nat.le_succ_of_le e.year_pos) hlt
    omega

theorem month_eq_of_dayNumber (h : d.dayNumber = e.dayNumber) (hy : d.year = e.year) :
    d.month = e.month := by
  obtain ⟨hd, hd', -⟩ := d.dayNumber_bounds
  obtain ⟨he, he', -⟩ := e.dayNumber_bounds
  rw [hy] at hd hd'
  rcases Nat.lt_trichotomy d.month e.month with hlt | heq | hlt
  · have hle : daysBeforeMonth e.year (d.month + 1) ≤ daysBeforeMonth e.year e.month :=
      daysBeforeMonth_mono e.year (Nat.le_succ_of_le d.month_pos.1) hlt
    omega
  · exact heq
  · have hle : daysBeforeMonth e.year (e.month + 1) ≤ daysBeforeMonth e.year d.month :=
      daysBeforeMonth_mono e.year (Nat.le_succ_of_le e.month_pos.1) hlt
    omega

/-- Days have day numbers of their own. -/
theorem eq_of_dayNumber (h : d.dayNumber = e.dayNumber) : d = e := by
  have hy := year_eq_of_dayNumber h
  have hm := month_eq_of_dayNumber h hy
  obtain ⟨y, m, a, _, _, ha, _⟩ := d
  obtain ⟨y', m', b, _, _, hb, _⟩ := e
  dsimp only at hy hm
  subst hy hm
  have hday : a = b := by
    simp only [dayNumber] at h
    omega
  subst hday
  rfl

theorem ofDayNumber_dayNumber (d : Date) : ofDayNumber d.dayNumber d.dayNumber_lt = d :=
  eq_of_dayNumber (dayNumber_ofDayNumber _ _)

/-! ## Days that follow one another -/

/-- The first day of the calendar. -/
def first : Date := ⟨1, 1, 1, by decide, by decide, by decide, by decide⟩

/-- The day after a day: the next one in the month, or the first one of the next month, or the first
one of the next year. -/
def next? (d : Date) : Option Date :=
  (ofParts? d.year d.month (d.day + 1)).or
    ((ofParts? d.year (d.month + 1) 1).or (ofParts? (d.year + 1) 1 1))

theorem dayNumber_first : first.dayNumber = 0 := rfl

theorem exists_ofParts? {y m n : Nat} (h : 1 ≤ y ∧ y ≤ 9999 ∧ 1 ≤ n ∧ n ≤ monthLength y m) :
    ∃ e, ofParts? y m n = some e ∧
      e.dayNumber = daysBeforeYear y + daysBeforeMonth y m + (n - 1) :=
  ⟨_, dif_pos h, rfl⟩

/-- After the last day of a month the next month begins. -/
theorem dayNumber_last (h : monthLength d.year d.month ≤ d.day) :
    d.dayNumber + 1 = daysBeforeYear d.year + daysBeforeMonth d.year (d.month + 1) := by
  have hday := d.day_pos
  have hlast : d.day = monthLength d.year d.month := Nat.le_antisymm d.day_le h
  rw [daysBeforeMonth_succ d.year d.month_pos.1, dayNumber]
  omega

/-- After the last day of December the next year begins. -/
theorem dayNumber_december (hm : d.month = 12) (h : monthLength d.year d.month ≤ d.day) :
    d.dayNumber + 1 = daysBeforeYear (d.year + 1) := by
  rw [dayNumber_last h, hm, daysBeforeYear_succ d.year_pos]

/-- The day number goes up by one from day to day, until the calendar ends. -/
theorem next?_spec (d : Date) :
    (∃ e, d.next? = some e ∧ e.dayNumber = d.dayNumber + 1) ∨
      (d.next? = none ∧ d.dayNumber + 1 = daysOfCalendar) := by
  have hday := d.day_pos
  by_cases h : d.day + 1 ≤ monthLength d.year d.month
  · -- Within a month.
    obtain ⟨e, he, hnumber⟩ := exists_ofParts? ⟨d.year_pos, d.year_le, Nat.le_add_left 1 d.day, h⟩
    refine .inl ⟨e, by rw [next?, he, Option.some_or], ?_⟩
    rw [hnumber, dayNumber]
    omega
  have hlast : monthLength d.year d.month ≤ d.day := Nat.le_of_lt_succ (Nat.not_le.1 h)
  have hnext : d.next? = (ofParts? d.year (d.month + 1) 1).or (ofParts? (d.year + 1) 1 1) := by
    rw [next?, show ofParts? d.year d.month (d.day + 1) = none from dif_neg fun hd => h hd.2.2.2,
      Option.none_or]
  by_cases hm : d.month = 12
  · have hnone : ofParts? d.year (d.month + 1) 1 = none :=
      dif_neg fun hd => absurd (monthLength_pos.1 hd.2.2.2).2 (by omega)
    rw [hnext, hnone, Option.none_or, dayNumber_december hm hlast]
    by_cases hy : d.year + 1 ≤ 9999
    · -- At the end of a year.
      have hjanuary : 1 ≤ monthLength (d.year + 1) 1 := monthLength_pos.2 (by decide)
      exact .inl (exists_ofParts? ⟨Nat.le_add_left 1 d.year, hy, Nat.le_refl 1, hjanuary⟩)
    · -- At the end of the calendar.
      have hcalendar : daysBeforeYear 10000 = daysOfCalendar := by decide
      have hyear : d.year + 1 = 10000 := by have := d.year_le; omega
      exact .inr ⟨dif_neg fun hd => hy hd.2.1, by rw [hyear, hcalendar]⟩
  · -- At the end of a month.
    have hmonth : 1 ≤ monthLength d.year (d.month + 1) :=
      monthLength_pos.2 ⟨Nat.le_add_left 1 d.month, by have := d.month_pos.2; omega⟩
    obtain ⟨e, he, hnumber⟩ := exists_ofParts? ⟨d.year_pos, d.year_le, Nat.le_refl 1, hmonth⟩
    refine .inl ⟨e, by rw [hnext, he, Option.some_or], ?_⟩
    rw [hnumber, dayNumber_last hlast, Nat.sub_self, Nat.add_zero]

/-- The day `n` days later. -/
def later? : Nat → Date → Option Date
  | 0, d => some d
  | n + 1, d => d.next?.bind (later? n)

/-- The day `n` days later is the one with a day number greater by `n`. -/
theorem later?_eq_some : d.later? n = some e ↔ e.dayNumber = d.dayNumber + n := by
  induction n generalizing d with
  | zero =>
    refine Option.some_inj.trans ⟨fun h => ?_, fun h => eq_of_dayNumber h.symm⟩
    rw [h, Nat.add_zero]
  | succ n ih =>
    rcases d.next?_spec with ⟨d', hnext, hd'⟩ | ⟨hnext, hd⟩
    · rw [later?, hnext, Option.bind_some, ih, hd']
      omega
    · rw [later?, hnext, Option.bind_none]
      have he := e.dayNumber_lt
      exact iff_of_false nofun (by omega)

end Date

end SubscriptionRegistry
