import PlanterTelemetry.Contract

open planter_telemetry.python planter_telemetry.contract

namespace planter_telemetry.ingestion.core

def MAX_REASON_ERRORS : Nat := 3
def MAX_REASON_CHARS : Nat := 500

structure DeadLetter where
  topic : String
  payload : List UInt8
  reason : String
  deriving DecidableEq, Repr

inductive Outcome where
  | valid_reading (reading : TelemetryV1)
  | dead_letter (letter : DeadLetter)
  deriving DecidableEq

/-- One line of the reason: the field path, `payload` for the whole document,
    and the message. -/
def reason_part (error : ErrorDetails) : String :=
  let loc := ".".intercalate error.loc
  (if loc = "" then "payload" else loc) ++ ": " ++ error.msg

def reason (errors : List ErrorDetails) : String :=
  let parts := (errors.take MAX_REASON_ERRORS).map reason_part
  let more := if MAX_REASON_ERRORS < errors.length then
    ["(+" ++ toString (errors.length - MAX_REASON_ERRORS) ++ " more)"] else []
  String.ofList (("; ".intercalate (parts ++ more)).toList.take MAX_REASON_CHARS)

variable (externals : Externals)

def classify (topic : String) (payload : List UInt8) : Except PyError Outcome :=
  match device_id_from_topic topic with
  | none =>
    .ok (.dead_letter ⟨topic, payload,
      "topic does not match planter/v1/\x7bdevice_id\x7d/telemetry"⟩)
  | some topic_device_id =>
    match model_validate_json externals payload with
    | .error (.validation_error errors) =>
      .ok (.dead_letter ⟨topic, payload, "invalid payload: " ++ reason errors⟩)
    | .error (.raised error) => .error error
    | .ok reading =>
      if reading.device_id.val ≠ topic_device_id then
        .ok (.dead_letter ⟨topic, payload,
          "device_id mismatch: topic=" ++ externals.repr topic_device_id ++
          " payload=" ++ externals.repr reading.device_id.val⟩)
      else .ok (.valid_reading reading)

/-- The payload carries a `measured_at` that pydantic accepts as an aware
    datetime and whose UTC instant lies outside years 1 to 9999. -/
def MeasuredAtOverflows (payload : List UInt8) : Prop :=
  ∃ members value at', externals.read_object payload = .ok members ∧
    members "measured_at" = some value ∧ externals.read_aware_datetime value = .ok at' ∧
    ¬ Representable (at'.wall - at'.utcoffset)

variable {externals}

/-- A result that is a value or a validation error pydantic reports itself. -/
def NeverRaises {A : Type} (result : Except Rejection A) : Prop :=
  ∀ error, result ≠ .error (.raised error)

theorem both_raised_iff_right {A B : Type} {first : Except Rejection A}
    {second : Except Rejection B} {error : PyError} (hfirst : NeverRaises first) :
    both first second = .error (.raised error) ↔ second = .error (.raised error) := by
  cases first with
  | ok a => cases second <;> simp [both]
  | error rejection =>
    cases rejection with
    | raised e => exact absurd rfl (hfirst e)
    | validation_error errors =>
      cases second with
      | ok b => simp [both]
      | error other => cases other <;> simp [both, Rejection.and_then]

theorem both_raised_iff_left {A B : Type} {first : Except Rejection A}
    {second : Except Rejection B} {error : PyError} (hsecond : NeverRaises second) :
    both first second = .error (.raised error) ↔ first = .error (.raised error) := by
  cases second with
  | ok b => cases first <;> simp [both]
  | error rejection =>
    cases rejection with
    | raised e => exact absurd rfl (hsecond e)
    | validation_error errors =>
      cases first with
      | ok a => simp [both]
      | error other => cases other <;> simp [both, Rejection.and_then]

theorem NeverRaises.both {A B : Type} {first : Except Rejection A} {second : Except Rejection B}
    (hfirst : NeverRaises first) (hsecond : NeverRaises second) :
    NeverRaises (both first second) :=
  fun error h => hsecond error ((both_raised_iff_right hfirst).mp h)

theorem NeverRaises.bind {A B : Type} {first : Except Rejection A}
    {next : A → Except Rejection B} (hfirst : NeverRaises first)
    (hnext : ∀ a, NeverRaises (next a)) : NeverRaises (first >>= next) := by
  cases first with
  | ok a => exact hnext a
  | error rejection =>
    intro error h
    apply hfirst error
    simpa [Bind.bind, Except.bind] using h

theorem map_raised_iff {A B : Type} {f : A → B} {result : Except Rejection A} {error : PyError} :
    result.map f = .error (.raised error) ↔ result = .error (.raised error) := by
  cases result <;> simp [Except.map]

section Fields

variable (members : String → Option externals.Json)

theorem located_never_raises {A : Type} (name : String) (result : Except String A) :
    NeverRaises (located name result) := by
  intro error
  cases result <;> simp [located, invalid]

theorem required_never_raises {A : Type} (name : String)
    {validate : externals.Json → Except Rejection A}
    (hvalidate : ∀ value, NeverRaises (validate value)) :
    NeverRaises (required externals members name validate) := by
  unfold required
  cases members name with
  | none =>
    intro error
    simp [invalid]
  | some value => exact hvalidate value

theorem check_device_id_never_raises (name text : String) :
    NeverRaises (check_device_id name text) := by
  intro error
  unfold check_device_id
  split <;> simp [invalid]

theorem check_range_never_raises (name : String) (low high : ℚ) (low_text high_text : String)
    (x : PyFloat ℚ) : NeverRaises (check_range name low high low_text high_text x) := by
  intro error
  unfold check_range
  split
  · simp
  · split <;> simp [invalid]

theorem schema_version_field_never_raises :
    NeverRaises (schema_version_field externals members) := by
  intro error
  unfold schema_version_field
  cases members "schema_version" with
  | none => simp
  | some value => exact fun h => located_never_raises _ _ error (map_raised_iff.mp h)

theorem device_id_field_never_raises : NeverRaises (device_id_field externals members) :=
  required_never_raises members _ fun _ =>
    (located_never_raises _ _).bind fun _ => check_device_id_never_raises _ _

theorem water_level_field_never_raises : NeverRaises (water_level_field externals members) :=
  required_never_raises members _ fun _ =>
    (located_never_raises _ _).bind fun _ => check_range_never_raises _ _ _ _ _ _

theorem battery_voltage_field_never_raises :
    NeverRaises (battery_voltage_field externals members) :=
  required_never_raises members _ fun _ =>
    (located_never_raises _ _).bind fun _ => check_range_never_raises _ _ _ _ _ _

/-- Only the conversion to UTC can raise, and only out of the year range: its
    OverflowError is neither a ValueError nor an AssertionError. -/
theorem measured_at_field_raised_iff {error : PyError} :
    measured_at_field externals members = .error (.raised error) ↔
      error = out_of_range ∧ ∃ value at', members "measured_at" = some value ∧
        externals.read_aware_datetime value = .ok at' ∧
        ¬ Representable (at'.wall - at'.utcoffset) := by
  unfold measured_at_field required
  cases members "measured_at" with
  | none => simp [invalid]
  | some value =>
    cases hread : externals.read_aware_datetime value with
    | error msg => simp [located, invalid, bind, Except.bind, hread]
    | ok at' =>
      by_cases hrange : Representable (at'.wall - at'.utcoffset)
      · simp [located, after_validator, to_utc, AwareDatetime.astimezone_utc, bind, Except.bind,
          hread, hrange]
      · simp [located, after_validator, to_utc, AwareDatetime.astimezone_utc, bind, Except.bind,
          hread, hrange, out_of_range, eq_comm]

end Fields

/-- The one exception that validation lets through. Invalid values in other
    fields do not prevent it: they are collected, not raised. -/
theorem model_validate_json_raised_iff {payload : List UInt8} {error : PyError} :
    model_validate_json externals payload = .error (.raised error) ↔
      error = out_of_range ∧ MeasuredAtOverflows externals payload := by
  unfold model_validate_json MeasuredAtOverflows
  cases hobject : externals.read_object payload with
  | error msg => simp
  | ok members =>
    rw [map_raised_iff, both_raised_iff_right (schema_version_field_never_raises members),
      both_raised_iff_right (device_id_field_never_raises members),
      both_raised_iff_left ((water_level_field_never_raises members).both
        (battery_voltage_field_never_raises members)), measured_at_field_raised_iff]
    simp

/-- A dead letter keeps the raw message it stands for. -/
theorem classify_dead_letter {topic : String} {payload : List UInt8} {letter : DeadLetter}
    (h : classify externals topic payload = .ok (.dead_letter letter)) :
    letter.topic = topic ∧ letter.payload = payload := by
  unfold classify at h
  split at h
  · cases h
    exact ⟨rfl, rfl⟩
  · split at h
    · cases h
      exact ⟨rfl, rfl⟩
    · cases h
    · split at h
      · cases h
        exact ⟨rfl, rfl⟩
      · cases h

theorem classify_error_iff {topic : String} {payload : List UInt8} {error : PyError} :
    classify externals topic payload = .error error ↔
      (device_id_from_topic topic).isSome ∧ error = out_of_range ∧
        MeasuredAtOverflows externals payload := by
  unfold classify
  cases device_id_from_topic topic with
  | none => simp
  | some topic_device_id =>
    rw [← model_validate_json_raised_iff]
    cases hvalidate : model_validate_json externals payload with
    | error rejection =>
      cases rejection with
      | validation_error errors => simp
      | raised other => simp
    | ok reading =>
      simp only [Option.isSome_some, true_and, reduceCtorEq, iff_false]
      split <;> simp

/-- Classification is total exactly off one kind of payload: with a telemetry
    topic, a `measured_at` whose UTC instant a datetime cannot hold escapes as
    OverflowError, whatever the other fields are. -/
theorem classify_returns_iff (externals : Externals) (topic : String) (payload : List UInt8) :
    (∃ outcome, classify externals topic payload = .ok outcome ∧
      ∀ letter, outcome = .dead_letter letter → letter.topic = topic ∧ letter.payload = payload) ↔
    ¬ ((device_id_from_topic topic).isSome ∧ MeasuredAtOverflows externals payload) := by
  cases hclassify : classify externals topic payload with
  | ok outcome =>
    refine iff_of_true ⟨outcome, rfl, fun letter hletter => ?_⟩ ?_
    · exact classify_dead_letter (hletter ▸ hclassify)
    · rintro ⟨htopic, hoverflow⟩
      have herror := classify_error_iff.mpr ⟨htopic, rfl, hoverflow⟩
      rw [hclassify] at herror
      cases herror
  | error error =>
    obtain ⟨htopic, -, hoverflow⟩ := classify_error_iff.mp hclassify
    simp [htopic, hoverflow]

/-- 0001-01-01T00:00:00+01:00: a datetime of year 1, one hour before year 1 in
    UTC. -/
def first_hour_east : AwareDatetime where
  wall := 0
  utcoffset := hour
  wall_range := representable_zero
  offset_range := by decide

def first_hour_payload : List UInt8 :=
  ("\x7b\"device_id\":\"planter-00\",\"measured_at\":\"0001-01-01T00:00:00+01:00\"," ++
    "\"water_level\":50.0,\"battery_voltage\":3.7\x7d").toUTF8.toList

def first_hour_members : List (String × Scalar) :=
  [("device_id", .text "planter-00" none),
   ("measured_at", .text "0001-01-01T00:00:00+01:00" (some first_hour_east)),
   ("water_level", .number (.finite 50)), ("battery_voltage", .number (.finite (37 / 10)))]

def first_hour_reader : Externals := document_reader [(first_hour_payload, first_hour_members)]

/-- A well-formed reading on its own topic that classification does not
    survive. -/
theorem classify_first_hour_east_raises :
    ¬ ∀ (externals : Externals) (topic : String) (payload : List UInt8),
      ∃ outcome, classify externals topic payload = .ok outcome ∧
        ∀ letter, outcome = .dead_letter letter →
          letter.topic = topic ∧ letter.payload = payload := by
  intro hclaim
  obtain ⟨outcome, hreturns, -⟩ :=
    hclaim first_hour_reader "planter/v1/planter-00/telemetry" first_hour_payload
  have hread : first_hour_reader.read_object first_hour_payload =
      .ok (fun name => first_hour_members.lookup name) := by
    simp only [first_hour_reader, document_reader, List.lookup_cons_self]
  have hraises : classify first_hour_reader "planter/v1/planter-00/telemetry" first_hour_payload =
      .error out_of_range := by
    refine classify_error_iff.mpr ⟨by decide +kernel, rfl, ?_⟩
    exact ⟨_, _, first_hour_east, hread, rfl, rfl, by decide⟩
  rw [hraises] at hreturns
  cases hreturns

end planter_telemetry.ingestion.core
