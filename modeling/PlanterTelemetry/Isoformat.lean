import PlanterTelemetry.Library.Calendar
import PlanterTelemetry.Library.Decimal
import PlanterTelemetry.Python

open Calendar

namespace planter_telemetry.python

/-- A `datetime`, naive without an offset. -/
@[ext]
structure Datetime where
  wall : Int
  utcoffset : Option { offset : Int // -day < offset ∧ offset < day }
  wall_range : Representable wall

instance : DecidableEq Datetime := fun _ _ => decidable_of_iff _ Datetime.ext_iff.symm

/-! ### `datetime.isoformat` -/

def fraction_text (micros : Nat) : List Char :=
  if micros = 0 then [] else '.' :: Decimal.digits 6 micros

/-- `HH:MM` of some seconds. -/
def hour_minute_text (seconds : Nat) : List Char :=
  Decimal.digits 2 (seconds / 3600) ++ ':' :: Decimal.digits 2 (seconds / 60 % 60)

/-- The time of day, with a fraction unless it is zero. -/
def clock_text (micros : Nat) : List Char :=
  hour_minute_text (micros / 1000000) ++ ':' :: Decimal.digits 2 (micros / 1000000 % 60) ++
    fraction_text (micros % 1000000)

/-- The magnitude of an offset, with its seconds unless they are zero. -/
def magnitude_text (micros : Nat) : List Char :=
  hour_minute_text (micros / 1000000) ++
    if micros / 1000000 % 60 = 0 ∧ micros % 1000000 = 0 then []
    else ':' :: Decimal.digits 2 (micros / 1000000 % 60) ++ fraction_text (micros % 1000000)

def offset_text (offset : Int) : List Char :=
  (if offset < 0 then '-' else '+') :: magnitude_text offset.natAbs

def date_text (date : Date) : List Char :=
  Decimal.digits 4 date.year ++ '-' :: Decimal.digits 2 date.month ++ '-' :: Decimal.digits 2 date.day

def day_micros : Nat := 86400000000

def Datetime.zone_text (value : Datetime) : List Char :=
  match value.utcoffset with
  | none => []
  | some offset => offset_text offset.val

def Datetime.isoformat (value : Datetime) : List Char :=
  date_text (Date.of_ordinal (value.wall.toNat / day_micros)) ++
    'T' :: clock_text (value.wall.toNat % day_micros) ++ value.zone_text

/-! ### `datetime.fromisoformat` -/

def take_digits (count : Nat) (text : List Char) : Option (Nat × List Char) :=
  if (text.take count).length = count ∧ (text.take count).all Char.isDigit then
    some (Decimal.value (text.take count), text.drop count)
  else none

/-- What follows a character. -/
def after (c : Char) : List Char → Option (List Char)
  | [] => none
  | d :: rest => if d = c then some rest else none

/-- What follows a separator, which the basic format leaves out. -/
def past (c : Char) (separated : Bool) (text : List Char) : Option (List Char) :=
  if separated then after c text else some text

/-- A fraction of a second in microseconds; digits beyond six are cut off. -/
def fraction : List Char → Option Nat
  | [] => some 0
  | mark :: digits =>
    if (mark = '.' ∨ mark = ',') ∧ digits ≠ [] ∧ digits.all Char.isDigit then
      some (Decimal.value (digits.take 6) * 10 ^ (6 - (digits.take 6).length))
    else none

/-- `HH[:?MM[:?SS[.ffffff]]]` in hours, minutes, seconds and microseconds. -/
def clock (text : List Char) : Option (Nat × Nat × Nat × Nat) := do
  let (hours, rest) ← take_digits 2 text
  let separated : Bool := rest.head? = some ':'
  if rest = [] then some (hours, 0, 0, 0)
  else do
    let rest ← past ':' separated rest
    let (minutes, rest) ← take_digits 2 rest
    if rest = [] then some (hours, minutes, 0, 0)
    else do
      let rest ← past ':' separated rest
      let (seconds, rest) ← take_digits 2 rest
      let micros ← fraction rest
      some (hours, minutes, seconds, micros)

def clock_micros (fields : Nat × Nat × Nat × Nat) : Nat :=
  ((fields.1 * 60 + fields.2.1) * 60 + fields.2.2.1) * 1000000 + fields.2.2.2

def time_of_day (text : List Char) : Option Nat := do
  let fields ← clock text
  if fields.1 < 24 ∧ fields.2.1 < 60 ∧ fields.2.2.1 < 60 then some (clock_micros fields) else none

/-- The offset of a time zone, which is less than a day. -/
def zone_offset : List Char → Option (Option { offset : Int // -day < offset ∧ offset < day })
  | [] => some none
  | sign :: text =>
    if sign = 'Z' then if text = [] then some (some ⟨0, utc_offset_range⟩) else none
    else do
      let fields ← clock text
      let offset : Int := if sign = '-' then -clock_micros fields else clock_micros fields
      if h : -day < offset ∧ offset < day then some (some ⟨offset, h⟩) else none

def zone_mark (c : Char) : Bool := c = '+' || c = '-' || c = 'Z'

def ordinal_of_date (year month day : Nat) : Option Nat :=
  if h : 1 ≤ year ∧ (1 ≤ month ∧ month ≤ 12) ∧
      1 ≤ day ∧ day ≤ (month_lengths (is_leap year)).getD (month - 1) 0 then
    some (Date.ordinal ⟨year, month, day, h.1, h.2.1, h.2.2⟩)
  else none

/-- Monday of the first week, which is the one of the first Thursday. -/
def isoweek1monday (year : Nat) : Nat :=
  let first := days_before_year year
  if 3 < first % 7 then first - first % 7 + 7 else first - first % 7

/-- A year has a 53rd week if it begins on a Thursday, or on a Wednesday and is a
    leap year. -/
def iso_weeks (year : Nat) : Nat :=
  let weekday := days_before_year year % 7
  if weekday = 3 ∨ weekday = 2 ∧ is_leap year then 53 else 52

def ordinal_of_week (year week day : Nat) : Option Nat :=
  if 1 ≤ year ∧ (1 ≤ week ∧ week ≤ iso_weeks year) ∧ 1 ≤ day ∧ day ≤ 7 then
    some (isoweek1monday year + ((week - 1) * 7 + (day - 1)))
  else none

/-- Where the date ends. A week date need not have a day: without dashes it has
    one if the digits after the week would not come in pairs otherwise, and a dash
    after the week belongs to the date unless a digit follows the next character. -/
def separator_location (text : List Char) : Option Nat :=
  let digits := ((text.drop 7).takeWhile Char.isDigit).length
  if text.length < 7 then none
  else if text.length = 7 then some 7
  else if text[4]? = some '-' then
    if text[5]? ≠ some 'W' then some 10
    else if text[8]? ≠ some '-' then some 8
    else if text.length = 9 then none
    else if text[10]?.any Char.isDigit then some 8
    else some 10
  else if text[4]? ≠ some 'W' then some 8
  else if digits < 2 then some (7 + digits)
  else if digits % 2 = 1 then some 7
  else some 8

/-- The day of `YYYY-?MM-?DD` or `YYYY-?Www[-?D]`. -/
def ordinal_of_text (text : List Char) : Option Nat := do
  let (year, rest) ← take_digits 4 text
  let separated : Bool := rest.head? = some '-'
  let rest ← past '-' separated rest
  if rest.head? = some 'W' then do
    let (week, rest) ← take_digits 2 rest.tail
    if rest = [] then ordinal_of_week year week 1
    else do
      let rest ← past '-' separated rest
      let (day, rest) ← take_digits 1 rest
      if rest = [] then ordinal_of_week year week day else none
  else do
    let (month, rest) ← take_digits 2 rest
    let rest ← past '-' separated rest
    let (day, rest) ← take_digits 2 rest
    if rest = [] then ordinal_of_date year month day else none

/-- The wall clock at a time of a day. -/
def wall_micros (ordinal micros : Nat) : Int := (day_micros * ordinal + micros : Nat)

/-- `datetime.fromisoformat` on the formats that Python documents. Any one
    character separates the date from the time. -/
def Datetime.fromisoformat (text : List Char) : Option Datetime := do
  let location ← separator_location text
  let ordinal ← ordinal_of_text (text.take location)
  let rest := text.drop location
  let micros ← if rest = [] then some 0 else time_of_day (rest.tail.takeWhile fun c => !zone_mark c)
  let utcoffset ← zone_offset (rest.tail.dropWhile fun c => !zone_mark c)
  if h : Representable (wall_micros ordinal micros) then some ⟨wall_micros ordinal micros, utcoffset, h⟩
  else none

/-! ### Reading back what `isoformat` writes -/

theorem take_digits_digits {width n : Nat} (h : n < 10 ^ width) (rest : List Char) :
    take_digits width (Decimal.digits width n ++ rest) = some (n, rest) := by
  have hlength := Decimal.length_digits h
  have hall : (Decimal.digits width n).all Char.isDigit = true :=
    List.all_eq_true.mpr fun c hc => Decimal.isDigit_of_mem hc
  unfold take_digits
  rw [List.take_left' hlength, List.drop_left' hlength, if_pos ⟨hlength, hall⟩, Decimal.value_digits]

@[simp] theorem past_cons (c : Char) (rest others : List Char) :
    past c (decide ((c :: others).head? = some c)) (c :: rest) = some rest := by
  simp [past, after]

theorem fraction_fraction_text {micros : Nat} (h : micros < 1000000) :
    fraction (fraction_text micros) = some micros := by
  unfold fraction_text
  by_cases hzero : micros = 0
  · rw [if_pos hzero, hzero]
    rfl
  · have hlength : (Decimal.digits 6 micros).length = 6 := Decimal.length_digits (by norm_num; exact h)
    have hall : (Decimal.digits 6 micros).all Char.isDigit = true :=
      List.all_eq_true.mpr fun c hc => Decimal.isDigit_of_mem hc
    have hsome : Decimal.digits 6 micros ≠ [] := by
      rintro hnil
      rw [hnil] at hlength
      cases hlength
    rw [if_neg hzero, fraction, if_pos ⟨.inl rfl, hsome, hall⟩, List.take_of_length_le (by omega),
      hlength, Decimal.value_digits, Nat.sub_self, pow_zero, Nat.mul_one]

theorem clock_hour_minute {seconds : Nat} (h : seconds < 360000) :
    clock (hour_minute_text seconds) = some (seconds / 3600, seconds / 60 % 60, 0, 0) := by
  unfold clock hour_minute_text
  have hminutes := take_digits_digits (by omega : seconds / 60 % 60 < 10 ^ 2) []
  rw [List.append_nil] at hminutes
  rw [take_digits_digits (by omega)]
  simp only [Option.bind_eq_bind, Option.bind_some, reduceCtorEq, if_false, past_cons, hminutes, if_true]

theorem clock_full {seconds micros : Nat} (h : seconds < 360000) (hmicros : micros < 1000000) :
    clock (hour_minute_text seconds ++ ':' :: Decimal.digits 2 (seconds % 60) ++ fraction_text micros) =
      some (seconds / 3600, seconds / 60 % 60, seconds % 60, micros) := by
  unfold clock hour_minute_text
  simp only [List.append_assoc, List.cons_append]
  rw [take_digits_digits (by omega)]
  simp only [Option.bind_eq_bind, Option.bind_some, reduceCtorEq, if_false, past_cons]
  rw [take_digits_digits (by omega)]
  simp only [Option.bind_some, reduceCtorEq, if_false, past_cons]
  rw [take_digits_digits (by omega)]
  simp only [Option.bind_some, fraction_fraction_text hmicros]

theorem time_of_day_clock_text {micros : Nat} (h : micros < day_micros) :
    time_of_day (clock_text micros) = some micros := by
  unfold day_micros at h
  unfold time_of_day clock_text
  rw [clock_full (by omega) (by omega), Option.bind_eq_bind, Option.bind_some]
  unfold clock_micros
  dsimp only
  rw [if_pos (by omega)]
  congr 1
  omega

theorem clock_magnitude_text {micros : Nat} (h : micros < day_micros) :
    ∃ fields, clock (magnitude_text micros) = some fields ∧ clock_micros fields = micros := by
  unfold day_micros at h
  unfold magnitude_text
  by_cases hwhole : micros / 1000000 % 60 = 0 ∧ micros % 1000000 = 0
  · rw [if_pos hwhole, List.append_nil]
    refine ⟨_, clock_hour_minute (by omega), ?_⟩
    unfold clock_micros
    dsimp only
    omega
  · rw [if_neg hwhole, ← List.append_assoc]
    refine ⟨_, clock_full (by omega) (by omega), ?_⟩
    unfold clock_micros
    dsimp only
    omega

theorem zone_offset_sign {sign : Char} {text : List Char} {fields : Nat × Nat × Nat × Nat}
    {offset : { offset : Int // -day < offset ∧ offset < day }} (hsign : sign ≠ 'Z')
    (hfields : clock text = some fields)
    (hoffset : (if sign = '-' then -clock_micros fields else clock_micros fields : Int) = offset.val) :
    zone_offset (sign :: text) = some (some offset) := by
  rw [zone_offset, if_neg hsign, hfields]
  simp only [Option.bind_eq_bind, Option.bind_some, hoffset]
  exact dif_pos offset.property

theorem zone_offset_offset_text (offset : { offset : Int // -day < offset ∧ offset < day }) :
    zone_offset (offset_text offset.val) = some (some offset) := by
  have hmagnitude : offset.val.natAbs < day_micros := by
    have hrange := offset.property
    unfold day second at hrange
    unfold day_micros
    omega
  obtain ⟨fields, hfields, hmicros⟩ := clock_magnitude_text hmagnitude
  by_cases hsign : offset.val < 0
  · have htext : offset_text offset.val = '-' :: magnitude_text offset.val.natAbs := by
      rw [offset_text, if_pos hsign]
    rw [htext]
    apply zone_offset_sign (by decide) hfields
    rw [if_pos rfl, hmicros]
    omega
  · have htext : offset_text offset.val = '+' :: magnitude_text offset.val.natAbs := by
      rw [offset_text, if_neg hsign]
    rw [htext]
    apply zone_offset_sign (by decide) hfields
    rw [if_neg (by decide), hmicros]
    omega

theorem digits_not_mark {width n : Nat} : ∀ c ∈ Decimal.digits width n, zone_mark c = false := by
  intro c hc
  have hdigit := Decimal.isDigit_of_mem hc
  by_contra hmark
  rw [Bool.not_eq_false] at hmark
  simp only [zone_mark, Bool.or_eq_true, decide_eq_true_eq] at hmark
  rcases hmark with (rfl | rfl) | rfl <;> cases hdigit

/-- Nothing in a time of day starts a time zone. -/
theorem clock_text_not_mark {micros : Nat} : ∀ c ∈ clock_text micros, (!zone_mark c) = true := by
  have hcolon : zone_mark ':' = false := by decide
  have hpoint : zone_mark '.' = false := by decide
  have hfraction : ∀ part, ∀ c ∈ fraction_text part, zone_mark c = false := by
    intro part c hc
    unfold fraction_text at hc
    split at hc
    · cases hc
    · rcases List.mem_cons.mp hc with rfl | hc
      · exact hpoint
      · exact digits_not_mark c hc
  intro c hc
  rw [Bool.not_eq_true']
  simp only [clock_text, hour_minute_text, List.mem_append, List.mem_cons] at hc
  rcases hc with ((hc | rfl | hc) | rfl | hc) | hc
  · exact digits_not_mark c hc
  · exact hcolon
  · exact digits_not_mark c hc
  · exact hcolon
  · exact digits_not_mark c hc
  · exact hfraction _ c hc

theorem digits_head_ne {width n : Nat} (hwidth : 0 < width) (h : n < 10 ^ width) {c : Char}
    (hc : c.isDigit = false) (rest : List Char) : (Decimal.digits width n ++ rest).head? ≠ some c := by
  intro hhead
  have hlength := Decimal.length_digits h
  cases hdigits : Decimal.digits width n with
  | nil =>
    rw [hdigits, List.length_nil] at hlength
    omega
  | cons d digits =>
    rw [hdigits, List.cons_append, List.head?_cons] at hhead
    have hdigit := Decimal.isDigit_of_mem (hdigits ▸ List.mem_cons_self : d ∈ Decimal.digits width n)
    rw [Option.some.inj hhead, hc] at hdigit
    cases hdigit

theorem length_date_text {date : Date} (h : date.year < 10000) : (date_text date).length = 10 := by
  have hday := date.day_le
  have hmonth := date.month_range
  unfold date_text
  rw [List.length_append, List.length_cons, List.length_append, List.length_cons,
    Decimal.length_digits (by omega), Decimal.length_digits (by omega), Decimal.length_digits (by omega)]

theorem ordinal_of_text_date_text {date : Date} (h : date.year < 10000) :
    ordinal_of_text (date_text date) = some date.ordinal := by
  have hday := date.day_le
  have hmonth := date.month_range
  have hlast := take_digits_digits (by omega : date.day < 10 ^ 2) []
  rw [List.append_nil] at hlast
  unfold ordinal_of_text date_text
  simp only [List.append_assoc, List.cons_append]
  rw [take_digits_digits (by omega)]
  simp only [Option.bind_eq_bind, Option.bind_some, past_cons]
  rw [if_neg (digits_head_ne Nat.two_pos (by omega) (by decide) _), take_digits_digits (by omega)]
  simp only [Option.bind_some, past_cons, hlast, if_true]
  exact dif_pos ⟨date.year_range, date.month_range, date.day_range⟩

/-- A date in the extended format ends after ten characters. -/
theorem separator_location_date_text {date : Date} (h : date.year < 10000) (c : Char) (rest : List Char) :
    separator_location (date_text date ++ c :: rest) = some 10 := by
  have hmonth := date.month_range
  have hyear : (Decimal.digits 4 date.year).length = 4 := Decimal.length_digits (by omega)
  have hlength : (date_text date ++ c :: rest).length = 11 + rest.length := by
    rw [List.length_append, length_date_text h, List.length_cons]
    omega
  have htext : date_text date ++ c :: rest = Decimal.digits 4 date.year ++ '-' ::
      (Decimal.digits 2 date.month ++ '-' :: (Decimal.digits 2 date.day ++ c :: rest)) := by
    simp only [date_text, List.append_assoc, List.cons_append]
  have hdash : (date_text date ++ c :: rest)[4]? = some '-' := by
    rw [htext, List.getElem?_append_right (by omega), hyear]
    rfl
  have hweek : (date_text date ++ c :: rest)[5]? ≠ some 'W' := by
    rw [htext, List.getElem?_append_right (by omega), hyear, List.getElem?_cons_succ, ← List.head?_eq_getElem?]
    exact digits_head_ne Nat.two_pos (by omega) (by decide) _
  unfold separator_location
  dsimp only
  rw [if_neg (by omega), if_neg (by omega), if_pos hdash, if_pos hweek]

/-- A time of day, and what tells its zone apart from it. -/
theorem clock_zone_split (micros : Nat) {zone : List Char}
    (h : zone = [] ∨ ∃ c rest, zone = c :: rest ∧ zone_mark c = true) :
    (clock_text micros ++ zone).takeWhile (fun c => !zone_mark c) = clock_text micros ∧
      (clock_text micros ++ zone).dropWhile (fun c => !zone_mark c) = zone := by
  rw [List.takeWhile_append_of_pos clock_text_not_mark, List.dropWhile_append_of_pos clock_text_not_mark]
  rcases h with rfl | ⟨c, rest, rfl, hc⟩
  · exact ⟨List.append_nil _, rfl⟩
  · rw [List.takeWhile_cons_of_neg (by simp [hc]), List.dropWhile_cons_of_neg (by simp [hc])]
    exact ⟨List.append_nil _, rfl⟩

theorem zone_text_head (value : Datetime) :
    value.zone_text = [] ∨ ∃ c rest, value.zone_text = c :: rest ∧ zone_mark c = true := by
  unfold Datetime.zone_text
  cases value.utcoffset with
  | none => exact .inl rfl
  | some offset =>
    refine .inr ⟨_, _, rfl, ?_⟩
    split <;> decide

theorem zone_offset_zone_text (value : Datetime) : zone_offset value.zone_text = some value.utcoffset := by
  unfold Datetime.zone_text
  cases value.utcoffset with
  | none => rfl
  | some offset => exact zone_offset_offset_text offset

theorem wall_day_lt (value : Datetime) : value.wall.toNat / day_micros < 3652059 := by
  have hrange := value.wall_range
  unfold Representable datetime_end day second at hrange
  unfold day_micros
  omega

/-- The day and the time of day make up the wall clock. -/
theorem wall_of_parts (value : Datetime) :
    wall_micros (value.wall.toNat / day_micros) (value.wall.toNat % day_micros) = value.wall := by
  have hrange := value.wall_range.1
  rw [wall_micros, Nat.div_add_mod]
  omega

/-- A text is read part by part. -/
theorem fromisoformat_parts {date : Date} (hyear : date.year < 10000) {c : Char} {time : List Char}
    {micros : Nat} {value : Datetime}
    (hmicros : time_of_day (time.takeWhile fun c => !zone_mark c) = some micros)
    (hzone : zone_offset (time.dropWhile fun c => !zone_mark c) = some value.utcoffset)
    (hwall : wall_micros date.ordinal micros = value.wall) :
    Datetime.fromisoformat (date_text date ++ c :: time) = some value := by
  obtain ⟨wall, utcoffset, hrange⟩ := value
  subst hwall
  dsimp only at hzone
  have hlength := length_date_text hyear
  unfold Datetime.fromisoformat
  rw [separator_location_date_text hyear, Option.bind_eq_bind, Option.bind_some, List.take_left' hlength,
    ordinal_of_text_date_text hyear, Option.bind_eq_bind, Option.bind_some, List.drop_left' hlength]
  dsimp only [List.tail_cons]
  rw [if_neg (List.cons_ne_nil c time), hmicros, Option.bind_some, hzone, Option.bind_some, dif_pos hrange]

/-- A date and a time are read back whatever text their zone has. -/
theorem fromisoformat_zone (value : Datetime) {zone : List Char}
    (hhead : zone = [] ∨ ∃ c rest, zone = c :: rest ∧ zone_mark c = true)
    (hoffset : zone_offset zone = some value.utcoffset) :
    Datetime.fromisoformat (date_text (Date.of_ordinal (value.wall.toNat / day_micros)) ++
      'T' :: clock_text (value.wall.toNat % day_micros) ++ zone) = some value := by
  have hmicros : value.wall.toNat % day_micros < day_micros := Nat.mod_lt _ (by norm_num [day_micros])
  have hyear := year_of_ordinal_lt (wall_day_lt value)
  have hwall := wall_of_parts value
  rw [← ordinal_of_ordinal (value.wall.toNat / day_micros)] at hwall
  obtain ⟨htime, hzone⟩ := clock_zone_split (value.wall.toNat % day_micros) hhead
  rw [List.append_assoc, List.cons_append]
  refine fromisoformat_parts hyear ?_ ?_ hwall
  · rw [htime]
    exact time_of_day_clock_text hmicros
  · rw [hzone]
    exact hoffset

theorem fromisoformat_isoformat (value : Datetime) :
    Datetime.fromisoformat value.isoformat = some value :=
  fromisoformat_zone value (zone_text_head value) (zone_offset_zone_text value)

end planter_telemetry.python
