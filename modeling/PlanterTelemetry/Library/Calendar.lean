import Mathlib.Tactic.NormNum

/-! ### Dates of the proleptic Gregorian calendar -/

namespace Calendar

def is_leap (year : Nat) : Bool := year % 4 = 0 && (year % 100 ≠ 0 || year % 400 = 0)

def month_lengths (leap : Bool) : List Nat :=
  [31, if leap then 29 else 28, 31, 30, 31, 30, 31, 31, 30, 31, 30, 31]

def days_before_month (leap : Bool) (month : Nat) : Nat := ((month_lengths leap).take (month - 1)).sum

def days_before_year (year : Nat) : Nat :=
  (year - 1) * 365 + (year - 1) / 4 - (year - 1) / 100 + (year - 1) / 400

/-- A date that exists, from year 1 on. -/
structure Date where
  year : Nat
  month : Nat
  day : Nat
  year_range : 1 ≤ year
  month_range : 1 ≤ month ∧ month ≤ 12
  day_range : 1 ≤ day ∧ day ≤ (month_lengths (is_leap year)).getD (month - 1) 0

/-- Days since 0001-01-01. -/
def Date.ordinal (date : Date) : Nat :=
  days_before_year date.year + days_before_month (is_leap date.year) date.month + (date.day - 1)

theorem Date.day_le (date : Date) : date.day ≤ 31 := by
  have hlengths : ∀ leap, ∀ index, index < 12 → (month_lengths leap).getD index 0 ≤ 31 := by
    decide
  have hmonth := date.month_range
  exact date.day_range.2.trans (hlengths _ (date.month - 1) (by omega))

/-- The year of an ordinal and the days before it in that year. -/
def year_day (ordinal : Nat) : Nat × Nat :=
  let n400 := ordinal / 146097
  let n100 := ordinal % 146097 / 36524
  let n4 := ordinal % 146097 % 36524 / 1461
  let n1 := ordinal % 146097 % 36524 % 1461 / 365
  let year := n400 * 400 + n100 * 100 + n4 * 4 + n1 + 1
  if n1 = 4 ∨ n100 = 4 then (year - 1, 365)
  else (year, ordinal % 146097 % 36524 % 1461 % 365)

/-- The month of a day of the year, and the day of the month. -/
def month_day : List Nat → Nat → Nat × Nat
  | [], day => (1, day + 1)
  | length :: rest, day =>
    if day < length then (1, day + 1)
    else
      let (month, day) := month_day rest (day - length)
      (month + 1, day)

theorem is_leap_iff {year : Nat} :
    is_leap year = true ↔ year % 4 = 0 ∧ (year % 100 ≠ 0 ∨ year % 400 = 0) := by
  simp [is_leap]

/-- The days before a year of some cycles of 400, 100 and 4 years. -/
theorem days_before_year_cycles {a b c d : Nat} (hb : b ≤ 3) (hc : c ≤ 24) (hd : d ≤ 3) :
    days_before_year (a * 400 + b * 100 + c * 4 + d + 1) =
      a * 146097 + b * 36524 + c * 1461 + d * 365 := by
  have hfour : (a * 400 + b * 100 + c * 4 + d) / 4 = a * 100 + b * 25 + c := by omega
  have hhundred : (a * 400 + b * 100 + c * 4 + d) / 100 = a * 4 + b := by omega
  have hcycle : (a * 400 + b * 100 + c * 4 + d) / 400 = a := by omega
  unfold days_before_year
  rw [Nat.add_sub_cancel, hfour, hhundred, hcycle]
  omega

theorem year_day_spec (ordinal : Nat) :
    1 ≤ (year_day ordinal).1 ∧
      days_before_year (year_day ordinal).1 + (year_day ordinal).2 = ordinal ∧
      (year_day ordinal).2 < if is_leap (year_day ordinal).1 then 366 else 365 := by
  unfold year_day
  dsimp only
  have hordinal := Nat.div_add_mod ordinal 146097
  have hcycle := Nat.div_add_mod (ordinal % 146097) 36524
  have hhundred := Nat.div_add_mod (ordinal % 146097 % 36524) 1461
  have hfour := Nat.div_add_mod (ordinal % 146097 % 36524 % 1461) 365
  have hcycle_lt := Nat.mod_lt ordinal (by norm_num : 146097 > 0)
  have hhundred_lt := Nat.mod_lt (ordinal % 146097) (by norm_num : 36524 > 0)
  have hfour_lt := Nat.mod_lt (ordinal % 146097 % 36524) (by norm_num : 1461 > 0)
  have hyear_lt := Nat.mod_lt (ordinal % 146097 % 36524 % 1461) (by norm_num : 365 > 0)
  generalize ordinal / 146097 = a at *
  generalize ordinal % 146097 % 36524 % 1461 % 365 = e at *
  generalize ordinal % 146097 % 36524 % 1461 / 365 = d at *
  generalize ordinal % 146097 % 36524 % 1461 = four at *
  generalize ordinal % 146097 % 36524 / 1461 = c at *
  generalize ordinal % 146097 % 36524 = hundred at *
  generalize ordinal % 146097 / 36524 = b at *
  generalize ordinal % 146097 = cycle at *
  by_cases hlast : d = 4 ∨ b = 4
  · -- the last day of a leap year
    rw [if_pos hlast]
    obtain ⟨year, hyear, hdays, hleap⟩ : ∃ year, a * 400 + b * 100 + c * 4 + d + 1 - 1 = year ∧
        days_before_year year + 365 = ordinal ∧ is_leap year = true := by
      cases Nat.lt_or_ge b 4 with
      | inl hb =>
        refine ⟨a * 400 + b * 100 + c * 4 + 3 + 1, by omega, ?_, ?_⟩
        · rw [days_before_year_cycles (by omega) (by omega) (by omega)]
          omega
        · rw [is_leap_iff]
          omega
      | inr hb =>
        have hdays := @days_before_year_cycles a 3 24 3 (by omega) (by omega) (by omega)
        refine ⟨a * 400 + 3 * 100 + 24 * 4 + 3 + 1, by omega, by omega, ?_⟩
        rw [is_leap_iff]
        omega
    rw [hyear]
    exact ⟨by omega, hdays, by rw [if_pos hleap]; omega⟩
  · rw [if_neg hlast]
    refine ⟨by omega, ?_, ?_⟩
    · rw [days_before_year_cycles (by omega) (by omega) (by omega)]
      omega
    · split <;> omega

theorem month_day_spec (leap : Bool) {day : Nat} (h : day < if leap then 366 else 365) :
    (1 ≤ (month_day (month_lengths leap) day).1 ∧ (month_day (month_lengths leap) day).1 ≤ 12) ∧
      (1 ≤ (month_day (month_lengths leap) day).2 ∧ (month_day (month_lengths leap) day).2 ≤
        (month_lengths leap).getD ((month_day (month_lengths leap) day).1 - 1) 0) ∧
      days_before_month leap (month_day (month_lengths leap) day).1 +
        ((month_day (month_lengths leap) day).2 - 1) = day := by
  cases leap with
  | true =>
    revert day
    decide +kernel
  | false =>
    revert day
    decide +kernel

/-- The date of an ordinal. -/
def Date.of_ordinal (ordinal : Nat) : Date where
  year := (year_day ordinal).1
  month := (month_day (month_lengths (is_leap (year_day ordinal).1)) (year_day ordinal).2).1
  day := (month_day (month_lengths (is_leap (year_day ordinal).1)) (year_day ordinal).2).2
  year_range := (year_day_spec ordinal).1
  month_range := (month_day_spec _ (year_day_spec ordinal).2.2).1
  day_range := (month_day_spec _ (year_day_spec ordinal).2.2).2.1

theorem ordinal_of_ordinal (ordinal : Nat) : (Date.of_ordinal ordinal).ordinal = ordinal := by
  obtain ⟨-, hdays, hday⟩ := year_day_spec ordinal
  have hmonth := (month_day_spec (is_leap (year_day ordinal).1) hday).2.2
  unfold Date.ordinal Date.of_ordinal
  dsimp only
  rw [Nat.add_assoc, hmonth, hdays]

/-- The first 3652059 days are those of years 1 to 9999. -/
theorem year_of_ordinal_lt {ordinal : Nat} (h : ordinal < 3652059) :
    (Date.of_ordinal ordinal).year < 10000 := by
  obtain ⟨-, hdays, -⟩ := year_day_spec ordinal
  show (year_day ordinal).1 < 10000
  unfold days_before_year at hdays
  omega

end Calendar
