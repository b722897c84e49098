import PlanterTelemetry.Contract
import PlanterTelemetry.Isoformat
import PlanterTelemetry.Library.Json.Ascii

open planter_telemetry.python Utf8

namespace planter_telemetry.contract

/-! ### Numbers in decimal notation -/

def decimal_text (places n : Nat) : List Char :=
  Decimal.digits 1 (n / 10 ^ places) ++ '.' :: Decimal.digits places (n % 10 ^ places)

/-- The number of some digits, with a point and more digits or without. -/
def decimal_value (text : List Char) : Option ℚ :=
  match text.dropWhile Char.isDigit with
  | [] => some (Decimal.value text)
  | mark :: fraction =>
    if mark = '.' ∧ fraction.all Char.isDigit then
      some (Decimal.value (text.takeWhile Char.isDigit) + Decimal.value fraction / 10 ^ fraction.length)
    else none

theorem digits_all (width n : Nat) : ∀ c ∈ Decimal.digits width n, c.isDigit = true :=
  fun _ hc => Decimal.isDigit_of_mem hc

theorem decimal_text_split (places n : Nat) :
    (decimal_text places n).takeWhile Char.isDigit = Decimal.digits 1 (n / 10 ^ places) ∧
      (decimal_text places n).dropWhile Char.isDigit = '.' :: Decimal.digits places (n % 10 ^ places) := by
  have hdot : Char.isDigit '.' = false := by decide
  unfold decimal_text
  rw [List.takeWhile_append_of_pos (digits_all 1 _), List.dropWhile_append_of_pos (digits_all 1 _),
    List.takeWhile_cons_of_neg (by simp [hdot]), List.dropWhile_cons_of_neg (by simp [hdot]), List.append_nil]
  exact ⟨rfl, rfl⟩

theorem decimal_value_decimal_text (places n : Nat) :
    decimal_value (decimal_text places n) = some (n / 10 ^ places : ℚ) := by
  obtain ⟨hwhole, hfraction⟩ := decimal_text_split places n
  have hlt : n % 10 ^ places < 10 ^ places := Nat.mod_lt _ (by positivity)
  have hall := List.all_eq_true.mpr (digits_all places (n % 10 ^ places))
  have hpositive : (10 ^ places : ℚ) ≠ 0 := by positivity
  rw [decimal_value, hfraction]
  simp only
  rw [if_pos ⟨trivial, hall⟩, hwhole, Decimal.value_digits, Decimal.value_digits, Decimal.length_digits hlt]
  congr 1
  field_simp
  exact_mod_cast Nat.div_add_mod' n (10 ^ places)

theorem is_number_decimal_text {places : Nat} (hplaces : 0 < places) (n : Nat) :
    Json.is_number (decimal_text places n) = true := by
  obtain ⟨hwhole, hfraction⟩ := decimal_text_split places n
  have hlt : n % 10 ^ places < 10 ^ places := Nat.mod_lt _ (by positivity)
  have hlength := Decimal.length_digits hlt
  have hdigits : (Decimal.digits places (n % 10 ^ places)).takeWhile Char.isDigit ≠ [] ∧
      (Decimal.digits places (n % 10 ^ places)).dropWhile Char.isDigit = [] := by
    rw [List.takeWhile_eq_self_iff.mpr (digits_all places _), List.dropWhile_eq_nil_iff.mpr (digits_all places _)]
    refine ⟨?_, rfl⟩
    intro hnil
    rw [hnil] at hlength
    exact absurd hlength (Nat.ne_of_lt hplaces)
  have hbody : Json.skip_sign ['-'] (decimal_text places n) = decimal_text places n := by
    rcases Decimal.digits_one_head (n / 10 ^ places) with hzero | ⟨c, rest, hdigits, -⟩
    · rw [decimal_text, hzero]
      rfl
    · have hc := digits_all 1 (n / 10 ^ places) c (hdigits ▸ List.mem_cons_self)
      rw [decimal_text, hdigits, List.cons_append, Json.skip_sign, if_neg]
      intro hsign
      rw [List.mem_singleton.mp hsign] at hc
      cases hc
  have hleading : Decimal.digits 1 (n / 10 ^ places) ≠ [] ∧ (Decimal.digits 1 (n / 10 ^ places) = ['0'] ∨
      (Decimal.digits 1 (n / 10 ^ places)).head? ≠ some '0') := by
    rcases Decimal.digits_one_head (n / 10 ^ places) with hzero | ⟨c, rest, hdigits, hc⟩
    · rw [hzero]
      exact ⟨List.cons_ne_nil _ _, .inl rfl⟩
    · rw [hdigits]
      exact ⟨List.cons_ne_nil _ _, .inr fun h => hc (Option.some.inj h)⟩
  unfold Json.is_number
  simp only [hbody, hwhole, hfraction, Json.is_fraction, if_true, hdigits.2, Json.is_exponent, Bool.and_true]
  simp [hleading, hdigits.1]

/-- The places that a number needs, one at least and three at most. -/
def decimal_places (value : ℚ) : Nat :=
  if (value * 10 ^ 1).den = 1 then 1 else if (value * 10 ^ 2).den = 1 then 2 else 3

theorem decimal_places_pos (value : ℚ) : 0 < decimal_places value := by
  unfold decimal_places
  split_ifs <;> omega

/-- A number as it is written in JSON, of three decimals at most. -/
def float_text (value : ℚ) : Json.Number :=
  ⟨decimal_text (decimal_places value) (value * 10 ^ decimal_places value).num.toNat,
    is_number_decimal_text (decimal_places_pos value) _⟩

theorem whole_of_places (thousandths : Nat) :
    (((thousandths : ℚ) / 1000) * 10 ^ decimal_places ((thousandths : ℚ) / 1000)).den = 1 := by
  unfold decimal_places
  split
  · next h => exact h
  · split
    · next h => exact h
    · have hwhole : (thousandths : ℚ) / 1000 * 10 ^ 3 = thousandths := by
        norm_num
      rw [hwhole]
      exact Rat.den_natCast thousandths

/-- Thousandths are read back from their text. -/
theorem decimal_value_float_text (thousandths : Nat) :
    decimal_value (float_text ((thousandths : ℚ) / 1000)).val = some ((thousandths : ℚ) / 1000) := by
  have hden := whole_of_places thousandths
  have hnonneg : 0 ≤ ((thousandths : ℚ) / 1000) * 10 ^ decimal_places ((thousandths : ℚ) / 1000) := by positivity
  have hnum := Rat.num_nonneg.mpr hnonneg
  have htoNat : ((((thousandths : ℚ) / 1000) * 10 ^ decimal_places ((thousandths : ℚ) / 1000)).num.toNat : ℚ) =
      ((thousandths : ℚ) / 1000) * 10 ^ decimal_places ((thousandths : ℚ) / 1000) := by
    conv_rhs => rw [← Rat.coe_int_num_of_den_eq_one hden]
    rw [← Int.cast_natCast, Int.toNat_of_nonneg hnum]
  rw [float_text, decimal_value_decimal_text, htoNat]
  congr 1
  exact mul_div_cancel_right₀ _ (by positivity)

/-! ### Datetimes in UTC -/

def datetime_text (at_time : UtcDatetime) : List Char :=
  date_text (Calendar.Date.of_ordinal (at_time.micros.toNat / day_micros)) ++
    'T' :: clock_text (at_time.micros.toNat % day_micros) ++ ['Z']

/-- An aware datetime, of a text in ISO format with a zone. -/
def aware_of_text (text : List Char) : Option AwareDatetime :=
  (Datetime.fromisoformat text).bind fun value =>
    value.utcoffset.map fun offset => ⟨value.wall, offset.val, value.wall_range, offset.property⟩

theorem aware_of_datetime_text (at_time : UtcDatetime) : ∃ value,
    aware_of_text (datetime_text at_time) = some value ∧ to_utc value = .ok at_time := by
  let value : Datetime := ⟨at_time.micros, some ⟨0, by decide⟩, at_time.range⟩
  have hread : Datetime.fromisoformat (datetime_text at_time) = some value :=
    fromisoformat_zone value (.inr ⟨'Z', [], rfl, rfl⟩) rfl
  have hzero : at_time.micros - 0 = at_time.micros := Int.sub_zero _
  refine ⟨⟨at_time.micros, 0, at_time.range, by decide⟩, ?_, ?_⟩
  · rw [aware_of_text, hread]
    rfl
  · rw [to_utc, AwareDatetime.astimezone_utc, dif_pos (by rw [hzero]; exact at_time.range)]
    exact congrArg Except.ok (UtcDatetime.ext hzero)

theorem digits_ascii (width n : Nat) : Ascii (Decimal.digits width n) := by
  intro c hc
  have hnine : c.toNat ≤ '9'.toNat := (Char.isDigit_iff_toNat.mp (digits_all width n c hc)).2
  exact lt_of_le_of_lt hnine (by decide)

theorem datetime_text_ascii (at_time : UtcDatetime) : Ascii (datetime_text at_time) := by
  have hfraction : ∀ micros, Ascii (fraction_text micros) := by
    intro micros
    unfold fraction_text
    split
    · decide
    · exact .cons (by decide) (digits_ascii _ _)
  have hdate : ∀ date, Ascii (date_text date) := fun date =>
    .append (.append (digits_ascii _ _) (.cons (by decide) (digits_ascii _ _))) (.cons (by decide) (digits_ascii _ _))
  have hclock : ∀ micros, Ascii (clock_text micros) := by
    intro micros
    have hminute : Ascii (hour_minute_text (micros / 1000000)) :=
      .append (digits_ascii _ _) (.cons (by decide) (digits_ascii _ _))
    exact .append (.append hminute (.cons (by decide) (digits_ascii _ _))) (hfraction _)
  exact .append (.append (hdate _) (.cons (by decide) (hclock _))) (by decide)

/-! ### The readers on JSON values -/

def json_reader : Externals where
  Json := Json.Value
  read_object payload :=
    match (decode_utf8 payload).bind Json.document with
    | some (.object members) => .ok fun name => members.reverse.lookup name.toList
    | some _ => .error "Input should be an object"
    | none => .error "Invalid JSON"
  read_literal_one
    | .number number => if number.val = ['1'] then .ok () else .error "Input should be 1"
    | _ => .error "Input should be 1"
  read_str
    | .text text => .ok (String.ofList text)
    | _ => .error "Input should be a valid string"
  read_aware_datetime
    | .text text =>
      match aware_of_text text with
      | some value => .ok value
      | none => .error "Input should be a valid datetime"
    | _ => .error "Input should be a valid datetime"
  read_float
    | .number number =>
      match decimal_value number.val with
      | some value => .ok (.finite value)
      | none => .error "Input should be a valid number"
    | _ => .error "Input should be a valid number"
  repr value := "'" ++ value ++ "'"

end planter_telemetry.contract
