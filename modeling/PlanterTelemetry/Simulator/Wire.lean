import PlanterTelemetry.Contract
import PlanterTelemetry.Library.Json.Ascii

open planter_telemetry.python planter_telemetry.contract Utf8

namespace planter_telemetry.simulator.wire

inductive CorruptionMode where
  | truncated
  | wrong_type
  | missing_field
  deriving DecidableEq, Repr

/-- The texts of values that are written outside the repository: pydantic's of a
    finite float and of a datetime in UTC, and what `json.dumps` writes of the
    number that `json.loads` reads from a text. -/
structure Texts where
  float : ℚ → Json.Number
  datetime : UtcDatetime → List Char
  reread : Json.Number → Json.Value

variable (texts : Texts)

/-! ### `encode` -/

/-- pydantic writes a float that is no number as `null`. -/
def float_value : PyFloat ℚ → Json.Value
  | .finite value => .number (texts.float value)
  | .nan | .infinity | .neg_infinity => .null

/-- The text of `SCHEMA_VERSION`. -/
def version_number : Json.Number := ⟨['1'], by decide⟩

/-- The fields of a reading in their order. -/
def dump_members (reading : TelemetryV1) : List (List Char × Json.Value) :=
  [("schema_version".toList, .number version_number),
    ("device_id".toList, .text reading.device_id.val.toList),
    ("measured_at".toList, .text (texts.datetime reading.measured_at)),
    ("water_level".toList, float_value texts reading.water_level.val),
    ("battery_voltage".toList, float_value texts reading.battery_voltage.val)]

/-- pydantic writes compact JSON, in which text stays readable. -/
def model_dump_json (reading : TelemetryV1) : List Char :=
  Json.write ⟨false, false⟩ (.object (dump_members texts reading))

def encode (reading : TelemetryV1) : List UInt8 := encode_utf8 (model_dump_json texts reading)

/-! ### `corrupt` -/

/-- `name in obj`. -/
def has_item (obj : List (List Char × Json.Value)) (name : List Char) : Bool :=
  obj.any fun member => member.1 = name

/-- `obj[name] = value`. -/
def set_item (obj : List (List Char × Json.Value)) (name : List Char) (value : Json.Value) :
    List (List Char × Json.Value) :=
  if has_item obj name then obj.map fun member => if member.1 = name then (name, value) else member
  else obj ++ [(name, value)]

/-- The dict of some members: of one name the last counts, in the place of the
    first. -/
def dict (members : List (List Char × Json.Value)) : List (List Char × Json.Value) :=
  members.foldl (fun obj member => set_item obj member.1 member.2) []

mutual

/-- A value as `json.dumps` writes it once `json.loads` has read it. -/
def reread : Json.Value → Json.Value
  | .number number => texts.reread number
  | .array items => .array (reread_items items)
  | .object members => .object (dict (reread_members members))
  | value => value

def reread_items : List Json.Value → List Json.Value
  | [] => []
  | value :: items => reread value :: reread_items items

def reread_members : List (List Char × Json.Value) → List (List Char × Json.Value)
  | [] => []
  | (name, value) :: members => (name, reread value) :: reread_members members

end

/-- `json.loads(payload)`, of an object. -/
def loads (payload : List UInt8) : Option (List (List Char × Json.Value)) :=
  match (decode_utf8 payload).bind Json.document with
  | some (.object members) => some (dict (reread_members texts members))
  | _ => none

/-- `json.dumps(obj).encode()`. -/
def dumps (obj : List (List Char × Json.Value)) : List UInt8 :=
  encode_utf8 (Json.write ⟨true, true⟩ (.object obj))

/-- The damaged object; `none` for the `KeyError` of a missing name. -/
def damage (obj : List (List Char × Json.Value)) : CorruptionMode → Option (List (List Char × Json.Value))
  | .wrong_type => some (set_item obj "water_level".toList (.text "high".toList))
  | _ =>
    if has_item obj "device_id".toList then
      some (obj.filter fun member => member.1 ≠ "device_id".toList)
    else none

/-- `none` where the payload is no JSON object, or has no `device_id` to delete. -/
def corrupt (payload : List UInt8) (mode : CorruptionMode) : Option (List UInt8) :=
  if mode = .truncated then some (payload.take (payload.length / 2))
  else do
    let obj ← loads texts payload
    let damaged ← damage obj mode
    some (dumps damaged)

end planter_telemetry.simulator.wire
