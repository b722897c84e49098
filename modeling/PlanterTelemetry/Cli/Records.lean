import PlanterTelemetry.Isoformat
import PlanterTelemetry.Library.Base64
import PlanterTelemetry.Library.Json.Write
import PlanterTelemetry.Library.Utf8

open planter_telemetry.python Utf8

namespace planter_telemetry.cli

structure CapturedMessage where
  topic : List Char
  payload : List UInt8
  captured_at : Datetime
  deriving DecidableEq

inductive RecordError where
  | naive
  | invalid_json
  | long_integer
  | not_an_object
  | invalid_topic
  | missing_captured_at
  | invalid_captured_at
  | payload_or_payload_b64
  | payload_not_text
  | payload_not_utf8
  | payload_b64_not_text
  | payload_b64_not_ascii
  | invalid_payload_b64
  deriving DecidableEq

/-- What a `ValueError` says, without what another error adds to it. -/
def RecordError.text : RecordError → String
  | naive => "captured_at must be timezone-aware"
  | invalid_json => "invalid json: "
  | long_integer => "Exceeds the limit (4300 digits) for integer string conversion"
  | not_an_object => "record is not an object"
  | invalid_topic => "missing or invalid topic"
  | missing_captured_at => "missing or invalid captured_at"
  | invalid_captured_at => "invalid captured_at: "
  | payload_or_payload_b64 => "exactly one of payload/payload_b64 required"
  | payload_not_text => "payload must be a string"
  | payload_not_utf8 => "'utf-8' codec can't encode characters: surrogates not allowed"
  | payload_b64_not_text => "payload_b64 must be a string"
  | payload_b64_not_ascii => "string argument should contain only ASCII characters"
  | invalid_payload_b64 => "invalid payload_b64: "

/-! ### The codec -/

/-- The compact layout, in which text stays readable. -/
def compact : Json.Style where
  ensure_ascii := false
  spaced := false

/-- The payload as text if it is UTF-8, and in base64 otherwise. -/
def payload_member (payload : List UInt8) : List Char × Json.Value :=
  match decode_utf8 payload with
  | some text => ("payload".toList, .text text)
  | none => ("payload_b64".toList, .text (Base64.encode payload))

def record_members (message : CapturedMessage) : List (List Char × Json.Value) :=
  [("topic".toList, .text message.topic), ("captured_at".toList, .text message.captured_at.isoformat),
    payload_member message.payload]

def encode_record (message : CapturedMessage) : Except RecordError (List Char) :=
  if message.captured_at.utcoffset = none then .error .naive
  else .ok (Json.write compact (.object (record_members message)))

/-- `record.get(name)`. Of members of one name the last counts, and `null` is
    like none. -/
def get (record : List (List Char × Json.Value)) (name : List Char) : Json.Value :=
  (record.reverse.lookup name).getD .null

/-- The bytes of a record, from the one of its two members that it has. -/
def decode_payload (text encoded : Json.Value) : Except RecordError (List UInt8) :=
  match text, encoded with
  | .null, .null => .error .payload_or_payload_b64
  | .null, .text encoded =>
    if encoded.all fun c => c.toNat < 128 then
      match Base64.decode encoded with
      | some payload => .ok payload
      | none => .error .invalid_payload_b64
    else .error .payload_b64_not_ascii
  | .null, _ => .error .payload_b64_not_text
  | .text text, .null => .ok (encode_utf8 text)
  | _, .null => .error .payload_not_text
  | _, _ => .error .payload_or_payload_b64

def decode_captured_at (raw : Json.Value) : Except RecordError Datetime :=
  match raw with
  | .text raw =>
    match Datetime.fromisoformat raw with
    | some captured_at => if captured_at.utcoffset = none then .error .naive else .ok captured_at
    | none => .error .invalid_captured_at
  | _ => .error .missing_captured_at

mutual

/-- Whether all integers in a value are short enough for `json.loads` to read them. -/
def reads_integers : Json.Value → Bool
  | .number number => Json.integer_digits number ≤ MAX_STR_DIGITS
  | .array items => all_read_integers items
  | .object members => members_read_integers members
  | _ => true

def all_read_integers : List Json.Value → Bool
  | [] => true
  | item :: items => reads_integers item && all_read_integers items

def members_read_integers : List (List Char × Json.Value) → Bool
  | [] => true
  | (_, value) :: members => reads_integers value && members_read_integers members

end

def decode_object (record : List (List Char × Json.Value)) : Except RecordError CapturedMessage :=
  match get record "topic".toList with
  | .text topic =>
    if topic = [] then .error .invalid_topic
    else do
      let captured_at ← decode_captured_at (get record "captured_at".toList)
      let payload ← decode_payload (get record "payload".toList) (get record "payload_b64".toList)
      .ok { topic, payload, captured_at }
  | _ => .error .invalid_topic

/-- `decode_record` on a line whose arrays and objects nest less deep than the
    interpreter's recursion limit, and where no surrogate is escaped alone: in a
    payload that is `payload_not_utf8`. -/
def decode_record (line : List Char) : Except RecordError CapturedMessage :=
  match Json.document line with
  | none => .error .invalid_json
  | some value =>
    if reads_integers value then
      match value with
      | .object record => decode_object record
      | _ => .error .not_an_object
    else .error .long_integer

/-! ### A record is read back -/

theorem encode_record_eq_ok {message : CapturedMessage} (h : message.captured_at.utcoffset ≠ none) :
    encode_record message = .ok (Json.write compact (.object (record_members message))) :=
  if_neg h

theorem get_topic (message : CapturedMessage) :
    get (record_members message) "topic".toList = .text message.topic := by
  unfold record_members payload_member
  cases decode_utf8 message.payload <;> rfl

theorem get_captured_at (message : CapturedMessage) :
    get (record_members message) "captured_at".toList = .text message.captured_at.isoformat := by
  unfold record_members payload_member
  cases decode_utf8 message.payload <;> rfl

/-- Whichever member holds the payload, it is read back. -/
theorem decode_payload_member (message : CapturedMessage) :
    decode_payload (get (record_members message) "payload".toList)
      (get (record_members message) "payload_b64".toList) = .ok message.payload := by
  cases htext : decode_utf8 message.payload with
  | some text =>
    have hpayload : get (record_members message) "payload".toList = .text text := by
      rw [record_members, payload_member, htext]
      rfl
    have hencoded : get (record_members message) "payload_b64".toList = .null := by
      rw [record_members, payload_member, htext]
      rfl
    rw [hpayload, hencoded, decode_payload, encode_utf8_of_decode htext]
  | none =>
    have hpayload : get (record_members message) "payload".toList = .null := by
      rw [record_members, payload_member, htext]
      rfl
    have hencoded : get (record_members message) "payload_b64".toList =
        .text (Base64.encode message.payload) := by
      rw [record_members, payload_member, htext]
      rfl
    have hascii : (Base64.encode message.payload).all (fun c => c.toNat < 128) = true :=
      List.all_eq_true.mpr fun c hc => decide_eq_true (Base64.encode_ascii message.payload c hc)
    rw [hpayload, hencoded, decode_payload, if_pos hascii, Base64.decode_encode]

theorem record_reads_integers (message : CapturedMessage) :
    reads_integers (.object (record_members message)) = true := by
  unfold record_members payload_member
  cases decode_utf8 message.payload <;> rfl

theorem decode_captured_at_isoformat {captured_at : Datetime} (h : captured_at.utcoffset ≠ none) :
    decode_captured_at (.text captured_at.isoformat) = .ok captured_at := by
  unfold decode_captured_at
  simp only [fromisoformat_isoformat, if_neg h]

/-- A written record is read back from its line, white space at its end aside. -/
theorem decode_encode_record {message : CapturedMessage} (htopic : message.topic ≠ [])
    {line : List Char} (hline : encode_record message = .ok line) {space : List Char}
    (hspace : ∀ c ∈ space, Json.is_space c = true) : decode_record (line ++ space) = .ok message := by
  have haware : message.captured_at.utcoffset ≠ none := by
    intro hnaive
    rw [encode_record, if_pos hnaive] at hline
    cases hline
  rw [encode_record_eq_ok haware] at hline
  cases hline
  unfold decode_record
  rw [Json.document_write_space compact _ hspace]
  simp only [record_reads_integers, if_true, decode_object, get_topic, if_neg htopic, get_captured_at,
    decode_captured_at_isoformat haware, decode_payload_member, Except.bind, bind]

/-- A record is written on one line. -/
theorem encode_record_line {message : CapturedMessage} {line : List Char}
    (hline : encode_record message = .ok line) : Json.Printable line := by
  unfold encode_record at hline
  split at hline
  · cases hline
  · cases hline
    exact Json.write_printable compact _

end planter_telemetry.cli
