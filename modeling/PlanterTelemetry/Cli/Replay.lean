import PlanterTelemetry.Cli.Records
import PlanterTelemetry.Float
import PlanterTelemetry.Library.Iterator

open Iterator
open planter_telemetry.python

namespace planter_telemetry.cli

/-! ### Text streams -/

/-- Universal newlines: `\r\n` and `\r` end a line too. -/
def universal_newlines : List Char → List Char
  | [] => []
  | c :: rest =>
    if c = '\r' then
      match rest with
      | [] => ['\n']
      | d :: more => if d = '\n' then '\n' :: universal_newlines more else '\n' :: universal_newlines (d :: more)
    else c :: universal_newlines rest

/-- The lines of a text, each with the newline that ends it. -/
def split_lines : List Char → List (List Char)
  | [] => []
  | c :: rest =>
    if c = '\n' then [c] :: split_lines rest
    else
      match split_lines rest with
      | [] => [[c]]
      | line :: more => (c :: line) :: more

/-- `str.isspace` of one character. -/
def is_whitespace (c : Char) : Bool :=
  (9 ≤ c.toNat && c.toNat ≤ 13) || (28 ≤ c.toNat && c.toNat ≤ 32) || c.toNat = 0x85 || c.toNat = 0xa0 ||
    c.toNat = 0x1680 || (0x2000 ≤ c.toNat && c.toNat ≤ 0x200a) || c.toNat = 0x2028 || c.toNat = 0x2029 ||
    c.toNat = 0x202f || c.toNat = 0x205f || c.toNat = 0x3000

/-- `not line.strip()`. -/
def is_blank (line : List Char) : Bool := line.all is_whitespace

/-! ### `_decoded` -/

/-- A text stream: the number of its next line, and the lines from there on. -/
structure Source where
  number : Nat
  lines : List (List Char)

def Source.of_text (text : List Char) : Source where
  number := 1
  lines := split_lines (universal_newlines text)

/-- What decoding a line raises: a `ValueError`, or another exception by its
    text, such as the `RecursionError` of `json.loads` on a line that is nested too
    deeply for the interpreter. -/
inductive DecodeError where
  | value_error (error : RecordError)
  | other (text : String)
  deriving DecidableEq

/-- A decoder of lines: what the interpreter makes of `decode_record`. -/
abbrev Decoder : Type := List Char → Except DecodeError CapturedMessage

/-- `decode_record` where no line is nested too deeply. -/
def decode_line : Decoder := fun line => (decode_record line).mapError .value_error

inductive ReplayError where
  | line (number : Nat) (error : RecordError)
  | other (text : String)
  | speed
  deriving DecidableEq

def ReplayError.text : ReplayError → String
  | line number error => "line " ++ toString number ++ ": " ++ error.text
  | other text => text
  | speed => "speed must be positive"

/-- Only a `ValueError` gets the number of its line. -/
def DecodeError.at_line (number : Nat) : DecodeError → ReplayError
  | value_error error => .line number error
  | other text => .other text

def next_decoded (decode : Decoder) (number : Nat) : List (List Char) → Next Source CapturedMessage ReplayError
  | [] => .stop
  | line :: rest =>
    if is_blank line then next_decoded decode (number + 1) rest
    else
      match decode line with
      | .ok message => .item message { number := number + 1, lines := rest }
      | .error error => .raised (error.at_line number)

def Source.next (decode : Decoder) (source : Source) : Next Source CapturedMessage ReplayError :=
  next_decoded decode source.number source.lines

/-- All that `_decoded` yields of a text, and what ends it. -/
def decoded (text : List Char) : List CapturedMessage × Ending ReplayError :=
  let source := Source.of_text text
  let items := run (Source.next decode_line) (source.lines.length + 1) source
  (items.1.map Prod.fst, items.2)

/-! ### `replay_offsets` -/

/-- The microseconds from an earlier `datetime` to a later one; their offsets
    count if they have any. -/
def elapsed (later earlier : Datetime) : Int :=
  (later.wall - (later.utcoffset.map Subtype.val).getD 0) -
    (earlier.wall - (earlier.utcoffset.map Subtype.val).getD 0)

/-- The generator's own variables, with the records that it shares with the
    publisher. -/
structure Paced where
  records : Tee Source CapturedMessage
  offset : Rat
  previous : Option Datetime

/-- The offset after one more timestamp, each result rounded. -/
def next_offset (round : Rat → Rat) (speed offset : Rat) (previous : Option Datetime) (timestamp : Datetime) :
    Rat :=
  match previous with
  | none => offset
  | some previous =>
    round (offset + round (max 0 (rounded_seconds round (elapsed timestamp previous)) / speed))

def replay_offsets (decode : Decoder) (round : Rat → Rat) (speed : Rat) (state : Paced) :
    Next Paced Rat ReplayError :=
  if speed ≤ 0 then .raised .speed
  else
    match state.records.next_first (Source.next decode) with
    | .item message records =>
      let offset := next_offset round speed state.offset state.previous message.captured_at
      .item offset { records, offset, previous := some message.captured_at }
    | .stop => .stop
    | .raised error => .raised error

def Paced.next_record (decode : Decoder) (state : Paced) : Next Paced CapturedMessage ReplayError :=
  match state.records.next_second (Source.next decode) with
  | .item message records => .item message { state with records }
  | .stop => .stop
  | .raised error => .raised error

/-! ### `replay` -/

/-- A message published, the offset it waits for, and how many lines had been
    read when it was. -/
structure Publish where
  offset : Rat
  topic : List Char
  payload : List UInt8
  lines_read : Nat
  deriving DecidableEq

def publish (record : CapturedMessage) (offset : Rat) (source : Source) : Publish where
  offset := offset
  topic := record.topic
  payload := record.payload
  lines_read := source.number - 1

/-- `itertools.repeat(0.0)`. -/
def repeat_zero (source : Source) : Next Source Rat ReplayError := .item 0 source

/-- Everything a replay publishes, and what ends it; `none` is no delay. -/
def replay_with (decode : Decoder) (round : Rat → Rat) (text : List Char) (speed : Option Rat) :
    List Publish × Ending ReplayError :=
  let source := Source.of_text text
  match speed with
  | none =>
    let items := run (zip (Source.next decode) repeat_zero) (source.lines.length + 1) source
    (items.1.map fun item => publish item.1.1 item.1.2 item.2, items.2)
  | some speed =>
    let items := run (zip (Paced.next_record decode) (replay_offsets decode round speed))
      (source.lines.length + 1) { records := .of source, offset := 0, previous := none }
    (items.1.map fun item => publish item.1.1 item.1.2 item.2.records.source, items.2)

/-- A replay in exact arithmetic of lines that are not nested too deeply. -/
def replay (text : List Char) (speed : Option Rat) : List Publish × Ending ReplayError :=
  replay_with decode_line id text speed

/-! ### What is decoded, line by line -/

section

variable {decode : Decoder} {line : List Char}

theorem next_blank (h : is_blank line = true) (number : Nat) (rest : List (List Char)) :
    Source.next decode ⟨number, line :: rest⟩ = Source.next decode ⟨number + 1, rest⟩ := by
  rw [Source.next, next_decoded, if_pos h]
  rfl

theorem next_record {message : CapturedMessage} (hblank : is_blank line = false)
    (h : decode line = .ok message) (number : Nat) (rest : List (List Char)) :
    Source.next decode ⟨number, line :: rest⟩ = .item message ⟨number + 1, rest⟩ := by
  rw [Source.next, next_decoded, if_neg (by simp [hblank]), h]

theorem next_malformed {error : DecodeError} (hblank : is_blank line = false)
    (h : decode line = .error error) (number : Nat) (rest : List (List Char)) :
    Source.next decode ⟨number, line :: rest⟩ = .raised (error.at_line number) := by
  rw [Source.next, next_decoded, if_neg (by simp [hblank]), h]

theorem decode_line_eq_ok_iff {message : CapturedMessage} :
    decode_line line = .ok message ↔ decode_record line = .ok message :=
  mapError_eq_ok_iff

end

end planter_telemetry.cli
