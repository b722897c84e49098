import PlanterTelemetry.Cli.Capture
import PlanterTelemetry.Cli.Pacing
import PlanterTelemetry.Ingestion.Redelivery

open Iterator
open planter_telemetry.python

namespace planter_telemetry.cli

/-! ### `capture` -/

/-- A message as the client yields it, with what `datetime.now(UTC)` gives then.
    No topic is empty. -/
structure Received where
  topic : List Char
  payload : List UInt8
  now : Datetime
  has_topic : topic ≠ []
  now_utc : now.utcoffset = some ⟨0, utc_offset_range⟩

def Received.record (received : Received) : CapturedMessage where
  topic := received.topic
  payload := received.payload
  captured_at := received.now

/-- What `capture` waits for: a message, the end of its time, or the loss of the
    broker. -/
inductive Arrival where
  | message (received : Received)
  | timeout
  | mqtt_error

/-- How `capture` stands after some arrivals. -/
inductive Captured where
  | receiving (written : Nat)
  | returned (written : Nat)
  | mqtt_error
  | error (error : RecordError)
  deriving DecidableEq

/-- How `capture` ends after its last message: it returns, unless the broker is lost on leaving. -/
def disconnect (written : Nat) : List Arrival → Captured
  | .mqtt_error :: _ => .mqtt_error
  | _ => .returned written

/-- What is in the file after some arrivals, and how `capture` stands. -/
def capture (count : Option Nat) (written : Nat) (out : List Char) : List Arrival → List Char × Captured
  | [] => (out, .receiving written)
  | .timeout :: _ => (out, .returned written)
  | .mqtt_error :: _ => (out, .mqtt_error)
  | .message received :: rest =>
    match encode_record received.record with
    | .error error => (out, .error error)
    | .ok line =>
      let out := out ++ (line ++ ['\n'])
      let written := written + 1
      if count.any (· ≤ written) then (out, disconnect written rest) else capture count written out rest

/-- The messages that arrive before anything else. -/
def messages_of : List Arrival → List Received
  | .message received :: rest => received :: messages_of rest
  | _ => []

/-- The messages that a capture is to have: all that arrive, or so many. Of a
    count of zero one is written all the same. -/
def captured (count : Option Nat) (arrivals : List Arrival) : List Received :=
  count.elim (messages_of arrivals) fun count => (messages_of arrivals).take (max 1 count)

def Received.line (received : Received) : List Char :=
  Json.write compact (.object (record_members received.record))

theorem Received.aware (received : Received) : received.record.captured_at.utcoffset ≠ none := by
  rw [show received.record.captured_at = received.now from rfl, received.now_utc]
  exact Option.some_ne_none _

theorem Received.encode (received : Received) : encode_record received.record = .ok received.line :=
  encode_record_eq_ok received.aware

/-- The messages still to be written when some are. -/
def remaining (count : Option Nat) (written : Nat) (arrivals : List Arrival) : List Received :=
  count.elim (messages_of arrivals) fun count => (messages_of arrivals).take (max 1 (count - written))

theorem remaining_none {count : Option Nat} {before : Nat} {arrivals : List Arrival}
    (h : messages_of arrivals = []) : remaining count before arrivals = [] := by
  cases count with
  | none => exact h
  | some count => rw [remaining, Option.elim_some, h, List.take_nil]

theorem remaining_done {count : Option Nat} {before : Nat} {received : Received} {rest : List Arrival}
    (h : count.any (· ≤ before + 1) = true) :
    remaining count before (.message received :: rest) = [received] := by
  cases count with
  | none => cases h
  | some count =>
    have hdone : count ≤ before + 1 := of_decide_eq_true h
    have hone : max 1 (count - before) = 1 := by omega
    rw [remaining, Option.elim_some, hone]
    rfl

theorem remaining_more {count : Option Nat} {before : Nat} {received : Received} {rest : List Arrival}
    (h : count.any (· ≤ before + 1) = false) :
    remaining count before (.message received :: rest) = received :: remaining count (before + 1) rest := by
  cases count with
  | none => rfl
  | some count =>
    have hmore : ¬ count ≤ before + 1 := of_decide_eq_false h
    have hsucc : max 1 (count - before) = max 1 (count - (before + 1)) + 1 := by omega
    rw [remaining, remaining, Option.elim_some, Option.elim_some, hsucc]
    rfl

/-- What is written so far is followed by the lines of the messages to come, and
    what is returned counts them. -/
theorem capture_written (count : Option Nat) (before : Nat) (out : List Char) (arrivals : List Arrival) :
    (capture count before out arrivals).1 =
        out ++ written ((remaining count before arrivals).map Received.line) ∧
      ((capture count before out arrivals).2 = .receiving (before + (remaining count before arrivals).length) ∨
        (capture count before out arrivals).2 = .returned (before + (remaining count before arrivals).length) ∨
        (capture count before out arrivals).2 = .mqtt_error) := by
  induction arrivals generalizing before out with
  | nil =>
    have hnone : remaining count before [] = [] := remaining_none rfl
    rw [hnone]
    exact ⟨(List.append_nil out).symm, .inl rfl⟩
  | cons arrival rest ih =>
    cases arrival with
    | timeout =>
      have hnone : remaining count before (.timeout :: rest) = [] := remaining_none rfl
      rw [hnone]
      exact ⟨(List.append_nil out).symm, .inr (.inl rfl)⟩
    | mqtt_error =>
      have hnone : remaining count before (.mqtt_error :: rest) = [] := remaining_none rfl
      rw [hnone]
      exact ⟨(List.append_nil out).symm, .inr (.inr rfl)⟩
    | message received =>
      rw [capture, received.encode]
      dsimp only
      cases hcount : count.any (· ≤ before + 1) with
      | true =>
        rw [if_pos rfl, remaining_done hcount]
        refine ⟨by simp [written], ?_⟩
        cases rest with
        | nil => exact .inr (.inl rfl)
        | cons next rest =>
          cases next with
          | mqtt_error => exact .inr (.inr rfl)
          | message | timeout => exact .inr (.inl rfl)
      | false =>
        obtain ⟨htext, hends⟩ := ih (before + 1) (out ++ (received.line ++ ['\n']))
        rw [if_neg Bool.false_ne_true, remaining_more hcount]
        refine ⟨?_, ?_⟩
        · rw [htext, List.map_cons, written, written, List.flatMap_cons, List.append_assoc]
        · have hlength : before + (received :: remaining count (before + 1) rest).length =
              before + 1 + (remaining count (before + 1) rest).length := by
            rw [List.length_cons]
            omega
          rw [hlength]
          exact hends

theorem remaining_start (count : Option Nat) (arrivals : List Arrival) :
    remaining count 0 arrivals = captured count arrivals := by cases count <;> rfl

/-- What a capture writes of some arrivals. -/
def capture_text (count : Option Nat) (arrivals : List Arrival) : List Char := (capture count 0 [] arrivals).1

theorem capture_text_eq (count : Option Nat) (arrivals : List Arrival) :
    capture_text count arrivals = written ((captured count arrivals).map Received.line) := by
  rw [capture_text, (capture_written count 0 [] arrivals).1, remaining_start, List.nil_append]

/-! ### Replaying a capture -/

theorem Received.plain (received : Received) : '\n' ∉ received.line ∧ '\r' ∉ received.line :=
  plain_of_printable (encode_record_line received.encode)

/-- The lines of a capture, as a text stream splits it. -/
theorem capture_lines (messages : List Received) :
    split_lines (universal_newlines (written (messages.map Received.line))) =
      messages.map fun received => received.line ++ ['\n'] := by
  rw [lines_written (List.forall_mem_map.mpr fun received _ => received.plain), List.map_map]
  rfl

/-- All of them are records. -/
theorem capture_records (messages : List Received) :
    (∀ line ∈ messages.map fun received => received.line ++ ['\n'], malformed decode_line line = false) ∧
      records decode_line (messages.map fun received => received.line ++ ['\n']) =
        messages.map Received.record := by
  have hwritten : List.Forall₂ (fun message line => encode_record message = .ok line)
      (messages.map Received.record) (messages.map Received.line) :=
    List.forall₂_map_left_iff.mpr (List.forall₂_map_right_iff.mpr
      (List.forall₂_same.mpr fun received _ => received.encode))
  have hrecords := records_written (List.forall_mem_map.mpr fun received _ => received.has_topic) hwritten
  rw [List.map_map] at hrecords
  exact hrecords

/-- A replay that publishes these messages and no others, in their order; a paced
    one waits for the gaps between the times at which they were received. -/
structure PlaysBack (messages : List Received) (speed : Option Rat) (published : List Publish) : Prop where
  contents : published.map (fun own => (own.topic, own.payload)) =
    messages.map fun received => (received.topic, received.payload)
  paced : ∀ factor, speed = some factor →
    PacedBy factor (messages.map Received.now) (published.map Publish.offset)

theorem Replays.of_capture {messages : List Received} {published : List Publish} {ending : Ending ReplayError}
    (h : Replays decode_line (messages.map fun received => received.line ++ ['\n']) published ending) :
    published.map (fun own => (own.topic, own.payload)) =
        messages.map (fun received => (received.topic, received.payload)) ∧ ending = .stopped := by
  obtain ⟨hplain, hrecords⟩ := capture_records messages
  refine ⟨?_, ?_⟩
  · rw [h.messages, hrecords, List.map_map]
    rfl
  · rcases h.ending with ⟨-, hending⟩ | ⟨before, line, after, error, hlines, -, hblank, hdecoded, -⟩
    · exact hending
    · have hline := hplain line (hlines ▸ List.mem_append_right _ List.mem_cons_self)
      rw [malformed, hblank, hdecoded] at hline
      cases hline

theorem replay_plays_back (count : Option Nat) (arrivals : List Arrival) {speed : Option Rat}
    (hspeed : ∀ factor, speed = some factor → 0 < factor) :
    PlaysBack (captured count arrivals) speed (replay (capture_text count arrivals) speed).1 ∧
      (replay (capture_text count arrivals) speed).2 = .stopped := by
  have hlines : split_lines (universal_newlines (capture_text count arrivals)) =
      (captured count arrivals).map fun received => received.line ++ ['\n'] := by
    rw [capture_text_eq, capture_lines]
  cases speed with
  | none =>
    have hreplays := replay_firehose decode_line id (capture_text count arrivals)
    rw [hlines] at hreplays
    obtain ⟨hcontents, hending⟩ := hreplays.of_capture
    exact ⟨⟨hcontents, fun factor hfactor => by cases hfactor⟩, hending⟩
  | some factor =>
    have hreplays := (replay_paced decode_line id (capture_text count arrivals) (hspeed factor rfl)).1
    have hpaced := replay_paced_by decode_line (capture_text count arrivals) (hspeed factor rfl)
    rw [hlines] at hreplays hpaced
    obtain ⟨hcontents, hending⟩ := hreplays.of_capture
    refine ⟨⟨hcontents, fun own hown => ?_⟩, hending⟩
    cases hown
    rw [(capture_records _).2, List.map_map] at hpaced
    exact hpaced

/-- What a capture returns is how many messages it has written. -/
theorem capture_returned {count : Option Nat} {arrivals : List Arrival} {written : Nat}
    (h : (capture count 0 [] arrivals).2 = .returned written) :
    written = (captured count arrivals).length := by
  have hends := (capture_written count 0 [] arrivals).2
  rw [remaining_start, h] at hends
  rcases hends with hends | hends | hends
  · cases hends
  · cases hends
    exact Nat.zero_add _
  · cases hends

/-- Whatever arrives and however a capture ends, a replay of what it wrote
    publishes the messages that it was to have, byte for byte and in order, at
    any speed, and finds no fault with the file. -/
theorem capture_replays (count : Option Nat) (arrivals : List Arrival) {speed : Option Rat}
    (hspeed : ∀ factor, speed = some factor → 0 < factor) :
    PlaysBack (captured count arrivals) speed (replay (capture_text count arrivals) speed).1 ∧
      (replay (capture_text count arrivals) speed).2 = .stopped ∧
      ∀ written, (capture count 0 [] arrivals).2 = .returned written →
        written = (captured count arrivals).length := by
  obtain ⟨hplays, hending⟩ := replay_plays_back count arrivals hspeed
  exact ⟨hplays, hending, fun _ hreturned => capture_returned hreturned⟩

theorem telemetry_topic_chars : ingestion.service.noon_message.1.toList ≠ [] := by decide

/-- The noon message, received a minute and six seconds into the year one. -/
def noon_received : Received where
  topic := ingestion.service.noon_message.1.toList
  payload := ingestion.service.noon_message.2
  now := { wall := 66000000, utcoffset := some ⟨0, utc_offset_range⟩, wall_range := by decide }
  has_topic := telemetry_topic_chars
  now_utc := rfl

/-- It is written twice, and the third time the capture has what it is to have. -/
def noon_arrivals : List Arrival := List.replicate 3 (.message noon_received)

theorem capture_replays_noon :
    PlaysBack [noon_received, noon_received] (some 100)
        (replay (capture_text (some 2) noon_arrivals) (some 100)).1 ∧
      (replay (capture_text (some 2) noon_arrivals) (some 100)).2 = .stopped := by
  obtain ⟨hplays, hending, -⟩ := capture_replays (some 2) noon_arrivals
    (fun factor (hfactor : some 100 = some factor) => by cases hfactor; norm_num)
  exact ⟨hplays, hending⟩

/-! ### A replay is ingested -/

open planter_telemetry.contract planter_telemetry.migrations
open planter_telemetry.ingestion.service (Item State Deployed Stored SameTables)

/-- A message as ingestion receives it. -/
def Received.item (received : Received) : Item := (String.ofList received.topic, received.payload)

def Publish.item (own : Publish) : Item := (String.ofList own.topic, own.payload)

theorem PlaysBack.item {messages : List Received} {speed : Option Rat} {published : List Publish}
    (h : PlaysBack messages speed published) : published.map Publish.item = messages.map Received.item := by
  have hitems := congrArg (List.map fun content => (String.ofList content.1, content.2)) h.contents
  rw [List.map_map, List.map_map] at hitems
  exact hitems

/-- Once the valid readings of a capture are stored, a replay of it changes
    neither the telemetry nor the registry, in any state that ingestion reaches
    then: whatever of it is delivered, in whichever order and how often, and
    whatever fails or is started again meanwhile. -/
theorem replay_stores_nothing_new (externals : Externals) {count : Option Nat} {arrivals : List Arrival}
    {speed : Option Rat} {live state : State} (hspeed : ∀ factor, speed = some factor → 0 < factor)
    (hlive : Relation.ReflTransGen (Deployed externals) (ingestion.service.initial .fresh) live)
    (hheld : ∀ item, live.Holds item → Stored externals live.memory.db item)
    (hstored : ∀ received ∈ captured count arrivals, Stored externals live.memory.db received.item)
    (hrun : Relation.ReflTransGen (Deployed externals) live state)
    (hreplay : ∀ item ∈ live.acked_since state,
      item ∈ (replay (capture_text count arrivals) speed).1.map Publish.item) :
    SameTables live.memory.db state.memory.db := by
  have hplays := (replay_plays_back count arrivals hspeed).1
  refine (ingestion.service.still_run (fun row hrow => absurd hrow List.not_mem_nil) hlive hheld hrun
    fun item hitem => ?_).same
  have hpublished := hreplay item hitem
  rw [hplays.item] at hpublished
  obtain ⟨received, hreceived, rfl⟩ := List.mem_map.mp hpublished
  exact hstored received hreceived

/-- The noon message is stored; then it comes again, from the replay. -/
def noon_live : List ingestion.service.Action :=
  List.replicate 6 .proceed ++ .deliver ingestion.service.noon_message :: List.replicate 8 .proceed

def noon_again : List ingestion.service.Action :=
  .deliver ingestion.service.noon_message :: List.replicate 9 .proceed

theorem noon_item : noon_received.item = ingestion.service.noon_message :=
  Prod.ext (String.ofList_toList) rfl

theorem replay_stores_nothing_new_noon :
    ∃ live state : State, live.memory.db.telemetry.rows.length = 1 ∧
      state.memory.counters.deduplicated = 1 ∧ SameTables live.memory.db state.memory.db := by
  have hrun : (ingestion.service.steps ingestion.service.hourly_reader (fun _ _ => true) noon_live
      (ingestion.service.initial .fresh)).any (fun live =>
        (live.waiting = [] && live.pc.item = none && live.memory.db.telemetry.rows.length = 1 &&
          (ingestion.service.valid_reading ingestion.service.hourly_reader
            ingestion.service.noon_message).all fun reading =>
              (ingestion.db.reading_row reading).key ∈ live.memory.db.telemetry.keys) &&
        (ingestion.service.steps ingestion.service.hourly_reader (fun _ _ => true) noon_again live).any
          fun state => live.acked_since state = [ingestion.service.noon_message] &&
            state.memory.counters.deduplicated = 1) = true := by
    decide +kernel
  obtain ⟨live, hlive, hstate⟩ := (Option.any_eq_true _ _).mp hrun
  simp only [Bool.and_eq_true, decide_eq_true_eq] at hstate
  obtain ⟨⟨⟨⟨hwaiting, hidle⟩, hrows⟩, hstored⟩, hagain⟩ := hstate
  obtain ⟨state, hstate, hend⟩ := (Option.any_eq_true _ _).mp hagain
  simp only [Bool.and_eq_true, decide_eq_true_eq] at hend
  obtain ⟨hacked, hdeduplicated⟩ := hend
  have hkey : Stored ingestion.service.hourly_reader live.memory.db ingestion.service.noon_message :=
    fun reading hreading => of_decide_eq_true (Option.all_eq_true _ _ |>.mp hstored reading hreading)
  have hreached {first last : State} {actions : List ingestion.service.Action}
      (hsteps : ingestion.service.steps ingestion.service.hourly_reader (fun _ _ => true) actions first =
        some last) : Relation.ReflTransGen (Deployed ingestion.service.hourly_reader) first last :=
    (ingestion.service.reachable_of_steps hsteps).lift id fun _ _ hallowed => .inl (hallowed.imp fun _ h => h.2)
  have hspeed : ∀ factor : Rat, none = some factor → 0 < factor := fun factor hfactor => by cases hfactor
  have hreplay : ∀ item ∈ live.acked_since state,
      item ∈ (replay (capture_text (some 2) noon_arrivals) none).1.map Publish.item := by
    intro item hitem
    rw [hacked] at hitem
    rw [List.mem_singleton.mp hitem, ← noon_item, (replay_plays_back (some 2) noon_arrivals hspeed).1.item]
    exact List.mem_cons_self
  refine ⟨live, state, hrows, hdeduplicated, replay_stores_nothing_new ingestion.service.hourly_reader hspeed
    (hreached hlive) ?_ ?_ (hreached hstate) hreplay⟩
  · rintro item (hmem | hcall)
    · rw [hwaiting] at hmem
      exact absurd hmem List.not_mem_nil
    · rw [hidle] at hcall
      cases hcall
  · intro received hreceived
    obtain rfl : received = noon_received := by
      have hmem : received ∈ [noon_received, noon_received] := hreceived
      simpa using hmem
    rw [noon_item]
    exact hkey

end planter_telemetry.cli
