import PlanterTelemetry.Python
import Mathlib.Data.Rat.Floor

open planter_telemetry.python

namespace planter_telemetry.contract

def SCHEMA_VERSION : Nat := 1

def telemetry_topic (device_id : String) : String :=
  "planter/v1/" ++ device_id ++ "/telemetry"

/-- `text.split("/")`. -/
def split_slash (text : String) : List String :=
  (text.toList.splitOn '/').map String.ofList

def device_id_from_topic (topic : String) : Option String :=
  match split_slash topic with
  | ["planter", "v1", device_id, "telemetry"] => if device_id ≠ "" then some device_id else none
  | _ => none

def lower_or_digit (c : Char) : Bool := ('a' ≤ c && c ≤ 'z') || ('0' ≤ c && c ≤ '9')

/-- The pattern of `DeviceId`: one lowercase letter or digit, then at most 31
    of these or `-` or `_`. -/
def matches_device_id (text : String) : Bool :=
  match text.toList with
  | [] => false
  | first :: rest =>
    lower_or_digit first && decide (rest.length ≤ 31) &&
      rest.all (fun c => lower_or_digit c || c == '_' || c == '-')

theorem matches_planter_00 : matches_device_id "planter-00" = true := by decide

abbrev DeviceId : Type := { text : String // matches_device_id text = true }

theorem device_id_chars (device_id : DeviceId) : ∀ c ∈ device_id.val.toList,
    (lower_or_digit c || c == '_' || c == '-') = true := by
  obtain ⟨text, htext⟩ := device_id
  unfold matches_device_id at htext
  dsimp only
  split at htext
  · cases htext
  · next first rest hchars =>
    simp only [Bool.and_eq_true, decide_eq_true_eq] at htext
    rw [hchars]
    refine List.forall_mem_cons.mpr ⟨?_, List.all_eq_true.mp htext.2⟩
    rw [htext.1.1]
    rfl

theorem split_slash_eq_singleton_iff {text segment : String} :
    split_slash text = [segment] ↔ '/' ∉ text.toList ∧ segment = text := by
  unfold split_slash
  constructor
  · intro hsplit
    obtain ⟨chars, hchars, rfl⟩ := List.map_eq_singleton_iff.mp hsplit
    have hmem : '/' ∉ text.toList := by
      intro hslash
      obtain ⟨before, after, htext⟩ := List.append_of_mem hslash
      have hlength := congrArg List.length hchars
      rw [htext, List.splitOn_append_cons_self, List.length_append, List.length_singleton] at hlength
      have hbefore := List.length_pos_of_ne_nil (List.splitOn_ne_nil '/' before)
      have hafter := List.length_pos_of_ne_nil (List.splitOn_ne_nil '/' after)
      omega
    refine ⟨hmem, ?_⟩
    rw [List.splitOn_eq_singleton hmem] at hchars
    rw [← List.singleton_inj.mp hchars, String.ofList_toList]
  · rintro ⟨hmem, rfl⟩
    rw [List.splitOn_eq_singleton hmem, List.map_singleton, String.ofList_toList]

/-- Splitting the topic of an id gives the segments of the id between the three others. -/
theorem split_slash_telemetry_topic (device_id : String) :
    split_slash (telemetry_topic device_id) =
      "planter" :: "v1" :: (split_slash device_id ++ ["telemetry"]) := by
  have htopic : (telemetry_topic device_id).toList =
      "planter".toList ++ '/' :: ("v1".toList ++ '/' :: (device_id.toList ++ '/' :: "telemetry".toList)) := by
    simp [telemetry_topic]
  unfold split_slash
  rw [htopic, List.splitOn_append_cons_self, List.splitOn_append_cons_self,
    List.splitOn_append_cons_self, List.map_append, List.map_append, List.map_append]
  rfl

/-- The segments of a topic say which topic it is. -/
theorem eq_telemetry_topic_of_split {topic device_id : String}
    (hsplit : split_slash topic = ["planter", "v1", device_id, "telemetry"]) :
    topic = telemetry_topic device_id := by
  have hchars : topic.toList.splitOn '/' =
      ["planter".toList, "v1".toList, device_id.toList, "telemetry".toList] := by
    have hsegments := congrArg (List.map String.toList) hsplit
    simpa [split_slash, List.map_map, Function.comp_def] using hsegments
  have htopic : ['/'].intercalate (topic.toList.splitOn '/') = topic.toList := List.intercalate_splitOn '/'
  rw [hchars] at htopic
  rw [← String.toList_inj, ← htopic]
  simp [telemetry_topic, List.intercalate_cons_cons]

/-- Only the topic of a device names the device. -/
theorem telemetry_topic_of_device_id_from_topic {topic device_id : String}
    (h : device_id_from_topic topic = some device_id) : topic = telemetry_topic device_id := by
  unfold device_id_from_topic at h
  split at h
  · next segment hsplit =>
    split at h
    · cases h
      exact eq_telemetry_topic_of_split hsplit
    · cases h
  · cases h

/-- The topic of a string names that string if it can be one segment, and
    nothing otherwise. -/
theorem device_id_from_printed_topic (device_id : String) :
    device_id_from_topic (telemetry_topic device_id) =
      if device_id ≠ "" ∧ '/' ∉ device_id.toList then some device_id else none := by
  split
  · next h =>
    have hsegment := split_slash_eq_singleton_iff.mpr ⟨h.2, rfl⟩
    rw [device_id_from_topic, split_slash_telemetry_topic, hsegment]
    exact if_pos h.1
  · next h =>
    refine Option.eq_none_iff_forall_ne_some.mpr fun other hother => h ?_
    unfold device_id_from_topic at hother
    split at hother
    · next segment hsplit =>
      rw [split_slash_telemetry_topic] at hsplit
      have hown : split_slash device_id = [segment] :=
        List.append_cancel_right (List.cons.inj (List.cons.inj hsplit).2).2
      obtain ⟨hslash, rfl⟩ := split_slash_eq_singleton_iff.mp hown
      split at hother
      · next hne => exact ⟨hne, hslash⟩
      · cases hother
    · cases hother

theorem device_id_segment (device_id : DeviceId) :
    device_id.val ≠ "" ∧ '/' ∉ device_id.val.toList := by
  constructor
  · intro hempty
    have hmatches := device_id.property
    rw [hempty] at hmatches
    revert hmatches
    decide
  · intro hmem
    have hchar := device_id_chars device_id '/' hmem
    revert hchar
    decide

/-- The topic of a device names the device. -/
theorem device_id_from_topic_telemetry_topic (device_id : DeviceId) :
    device_id_from_topic (telemetry_topic device_id.val) = some device_id.val :=
  (device_id_from_printed_topic device_id.val).trans (if_pos (device_id_segment device_id))

/-- The values that `Field(ge=low, le=high)` lets through: those that are at
    least `low` and at most `high`, of which `nan` is neither. -/
def InRange (low high : ℚ) (x : PyFloat ℚ) : Prop :=
  x.ge_bound low = true ∧ x.le_bound high = true

instance (low high : ℚ) (x : PyFloat ℚ) : Decidable (InRange low high x) :=
  inferInstanceAs (Decidable (_ ∧ _))

/-- The voltage of a charged battery. -/
theorem charged_in_range : InRange (5 / 2) (22 / 5) (.finite (37 / 10)) := by decide +kernel

abbrev RangedFloat (low high : ℚ) : Type := { x : PyFloat ℚ // InRange low high x }

/-- A float in range is a number: both infinities are out of any range. -/
theorem RangedFloat.isfinite {low high : ℚ} (x : RangedFloat low high) : x.val.isfinite = true := by
  obtain ⟨value, hlow, hhigh⟩ := x
  cases value with
  | finite value => rfl
  | nan => cases hlow
  | infinity => cases hhigh
  | neg_infinity => cases hlow

/-- One telemetry reading. An instance that fails the model's own constraints
    cannot be built, as pydantic checks them in the constructor too. -/
structure TelemetryV1 where
  schema_version : { version : Nat // version = SCHEMA_VERSION } := ⟨SCHEMA_VERSION, rfl⟩
  device_id : DeviceId
  measured_at : UtcDatetime
  water_level : RangedFloat 0 100
  battery_voltage : RangedFloat (5 / 2) (22 / 5)
  deriving DecidableEq

/-- The validator behind `UtcDatetime`. -/
def to_utc (value : AwareDatetime) : Except PyError UtcDatetime := value.astimezone_utc

/-! ### Validation of a JSON payload -/

/-- One entry of `ValidationError.errors()`. -/
structure ErrorDetails where
  loc : List String
  msg : String
  deriving DecidableEq, Repr

/-- How `model_validate_json` can fail: with pydantic's own error, or with an
    exception of a validator that pydantic does not catch. -/
inductive Rejection where
  | validation_error (errors : List ErrorDetails)
  | raised (error : PyError)
  deriving DecidableEq, Repr

/-- What the contract uses of pydantic-core and of the Python built-ins: the
    JSON reader, with the members of the payload's object by name, the readers
    of its field types, each rejecting with a message, and `repr` of a string. -/
structure Externals where
  Json : Type
  read_object : List UInt8 → Except String (String → Option Json)
  read_literal_one : Json → Except String Unit
  read_str : Json → Except String String
  read_aware_datetime : Json → Except String AwareDatetime
  read_float : Json → Except String (PyFloat ℚ)
  repr : String → String

def invalid {α : Type} (name msg : String) : Except Rejection α :=
  .error (.validation_error [⟨[name], msg⟩])

/-- A validated value, or the reader's message located at the field. -/
def located {α : Type} (name : String) : Except String α → Except Rejection α
  | .ok value => .ok value
  | .error msg => invalid name msg

/-- `AfterValidator(validate)`: only ValueError and AssertionError become a
    validation error, any other exception leaves pydantic unchanged. -/
def after_validator {α β : Type} (name : String) (validate : α → Except PyError β) (value : α) :
    Except Rejection β :=
  match validate value with
  | .ok result => .ok result
  | .error (.value_error message) => invalid name ("Value error, " ++ message)
  | .error (.assertion_error message) => invalid name ("Assertion failed, " ++ message)
  | .error (.overflow_error message) => .error (.raised (.overflow_error message))

/-- `StringConstraints(pattern=...)` of `DeviceId`. -/
def check_device_id (name text : String) : Except Rejection DeviceId :=
  if h : matches_device_id text = true then .ok ⟨text, h⟩
  else invalid name "String should match pattern '^[a-z0-9][a-z0-9_-]\x7b0,31\x7d$'"

/-- `Field(ge=low, le=high)`, with the two bounds as pydantic prints them. The
    upper one is looked at first. -/
def check_range (name : String) (low high : ℚ) (low_text high_text : String) (x : PyFloat ℚ) :
    Except Rejection (RangedFloat low high) :=
  if h : InRange low high x then .ok ⟨x, h⟩
  else if x.le_bound high then
    invalid name ("Input should be greater than or equal to " ++ low_text)
  else invalid name ("Input should be less than or equal to " ++ high_text)

/-- Two failures of one payload: pydantic goes on to the next field after a
    validation error and collects, and stops at any other exception. -/
def Rejection.and_then : Rejection → Rejection → Rejection
  | .raised error, _ => .raised error
  | .validation_error _, .raised error => .raised error
  | .validation_error errors, .validation_error more => .validation_error (errors ++ more)

/-- Both results, or the failures of both in field order. -/
def both {α β : Type} : Except Rejection α → Except Rejection β → Except Rejection (α × β)
  | .ok a, .ok b => .ok (a, b)
  | .error e, .ok _ => .error e
  | .ok _, .error e => .error e
  | .error e, .error f => .error (e.and_then f)

/-- The constructor `TelemetryV1(...)`, for a datetime in UTC. -/
def TelemetryV1.new (device_id : String) (measured_at : UtcDatetime)
    (water_level battery_voltage : PyFloat ℚ) : Except Rejection TelemetryV1 :=
  (both (check_device_id "device_id" device_id) <|
    both (check_range "water_level" 0 100 "0" "100" water_level)
      (check_range "battery_voltage" (5 / 2) (22 / 5) "2.5" "4.4" battery_voltage)).map
    fun (device_id, water_level, battery_voltage) =>
      { device_id, measured_at, water_level, battery_voltage }

theorem both_eq_ok_iff {α β : Type} {first : Except Rejection α} {second : Except Rejection β}
    {result : α × β} : both first second = .ok result ↔ first = .ok result.1 ∧ second = .ok result.2 := by
  obtain ⟨a, b⟩ := result
  cases first <;> cases second <;> simp [both]

theorem check_device_id_eq_ok_iff {name text : String} {device_id : DeviceId} :
    check_device_id name text = .ok device_id ↔ device_id.val = text := by
  unfold check_device_id
  split
  · next h => simp [Subtype.ext_iff, eq_comm]
  · next h =>
    simp only [invalid, reduceCtorEq, false_iff]
    exact fun heq => h (heq ▸ device_id.property)

theorem check_range_eq_ok_iff {name low_text high_text : String} {low high : ℚ} {x : PyFloat ℚ}
    {value : RangedFloat low high} :
    check_range name low high low_text high_text x = .ok value ↔ value.val = x := by
  unfold check_range
  split
  · next h => simp [Subtype.ext_iff, eq_comm]
  · next h =>
    have hne : value.val ≠ x := fun heq => h (heq ▸ value.property)
    split <;> simp [invalid, hne]

/-- The constructor succeeds exactly on the fields of a reading. -/
theorem TelemetryV1.new_eq_ok_iff {device_id : String} {measured_at : UtcDatetime}
    {water_level battery_voltage : PyFloat ℚ} {reading : TelemetryV1} :
    TelemetryV1.new device_id measured_at water_level battery_voltage = .ok reading ↔
      reading.device_id.val = device_id ∧ reading.measured_at = measured_at ∧
        reading.water_level.val = water_level ∧ reading.battery_voltage.val = battery_voltage := by
  unfold TelemetryV1.new
  constructor
  · intro h
    cases hfields : both (check_device_id "device_id" device_id)
        (both (check_range "water_level" 0 100 "0" "100" water_level)
          (check_range "battery_voltage" (5 / 2) (22 / 5) "2.5" "4.4" battery_voltage)) with
    | error rejection => simp [hfields, Except.map] at h
    | ok fields =>
      obtain ⟨hid, hvalues⟩ := both_eq_ok_iff.mp hfields
      obtain ⟨hwater, hbattery⟩ := both_eq_ok_iff.mp hvalues
      simp only [hfields, Except.map, Except.ok.injEq] at h
      subst h
      exact ⟨check_device_id_eq_ok_iff.mp hid, rfl, check_range_eq_ok_iff.mp hwater,
        check_range_eq_ok_iff.mp hbattery⟩
  · rintro ⟨hid, rfl, hwater, hbattery⟩
    have hid' : check_device_id "device_id" device_id = .ok reading.device_id :=
      check_device_id_eq_ok_iff.mpr hid
    have hwater' : check_range "water_level" 0 100 "0" "100" water_level = .ok reading.water_level :=
      check_range_eq_ok_iff.mpr hwater
    have hbattery' : check_range "battery_voltage" (5 / 2) (22 / 5) "2.5" "4.4" battery_voltage =
        .ok reading.battery_voltage := check_range_eq_ok_iff.mpr hbattery
    obtain ⟨⟨version, rfl⟩, own_id, own_at, own_level, own_voltage⟩ := reading
    rw [hid', hwater', hbattery']
    rfl

section Fields

variable (externals : Externals) (members : String → Option externals.Json)

/-- A field without a default. -/
def required {α : Type} (name : String) (validate : externals.Json → Except Rejection α) :
    Except Rejection α :=
  match members name with
  | none => invalid name "Field required"
  | some value => validate value

def schema_version_field : Except Rejection { version : Nat // version = SCHEMA_VERSION } :=
  match members "schema_version" with
  | none => .ok ⟨SCHEMA_VERSION, rfl⟩
  | some value => (located "schema_version" (externals.read_literal_one value)).map (fun _ => ⟨SCHEMA_VERSION, rfl⟩)

def device_id_field : Except Rejection DeviceId :=
  required externals members "device_id" fun value =>
    located "device_id" (externals.read_str value) >>= check_device_id "device_id"

def measured_at_field : Except Rejection UtcDatetime :=
  required externals members "measured_at" fun value =>
    located "measured_at" (externals.read_aware_datetime value) >>= after_validator "measured_at" to_utc

def water_level_field : Except Rejection (RangedFloat 0 100) :=
  required externals members "water_level" fun value =>
    located "water_level" (externals.read_float value) >>= check_range "water_level" 0 100 "0" "100"

def battery_voltage_field : Except Rejection (RangedFloat (5 / 2) (22 / 5)) :=
  required externals members "battery_voltage" fun value =>
    located "battery_voltage" (externals.read_float value) >>=
      check_range "battery_voltage" (5 / 2) (22 / 5) "2.5" "4.4"

end Fields

/-- `TelemetryV1.model_validate_json`. Members beyond the five fields are
    ignored. -/
def model_validate_json (externals : Externals) (payload : List UInt8) : Except Rejection TelemetryV1 :=
  match externals.read_object payload with
  | .error msg => .error (.validation_error [⟨[], msg⟩])
  | .ok members =>
    (both (schema_version_field externals members) <|
      both (device_id_field externals members) <|
      both (measured_at_field externals members) <|
      both (water_level_field externals members) (battery_voltage_field externals members)).map
        fun (schema_version, device_id, measured_at, water_level, battery_voltage) =>
          { schema_version, device_id, measured_at, water_level, battery_voltage }

/-- A JSON scalar as the typed readers see it: a string, with the datetime it
    spells if it spells one, or a number. -/
inductive Scalar where
  | text (value : String) (datetime : Option AwareDatetime)
  | number (value : PyFloat ℚ)

/-- The readers on a given finite list of documents. -/
def document_reader (documents : List (List UInt8 × List (String × Scalar))) : Externals where
  Json := Scalar
  read_object payload :=
    match documents.lookup payload with
    | some members => .ok (fun name => members.lookup name)
    | none => .error "Invalid JSON: expected value at line 1 column 1"
  read_literal_one
    | .number (.finite 1) => .ok ()
    | _ => .error "Input should be 1"
  read_str
    | .text value _ => .ok value
    | .number _ => .error "Input should be a valid string"
  read_aware_datetime
    | .text _ (some value) => .ok value
    | _ => .error "Input should be a valid datetime"
  read_float
    | .number value => .ok value
    | .text _ _ => .error "Input should be a valid number, unable to parse string as a number"
  repr value := "'" ++ value ++ "'"

end planter_telemetry.contract
