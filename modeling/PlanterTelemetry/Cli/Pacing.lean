import Mathlib.Algebra.Order.BigOperators.Group.List
import PlanterTelemetry.Cli.Capture

open Iterator
open planter_telemetry.python

namespace planter_telemetry.cli

/-! ### The records of some lines -/

section Lines

variable (decode : Decoder)

def record_of_line (line : List Char) : Option CapturedMessage :=
  if is_blank line then none else (decode line).toOption

def malformed (line : List Char) : Bool := !is_blank line && (decode line).toOption.isNone

/-- The records before the first malformed line. -/
def records (lines : List (List Char)) : List CapturedMessage :=
  (lines.takeWhile fun line => !malformed decode line).filterMap (record_of_line decode)

/-- What ends the reading of some lines: what the first malformed one raises, by
    its number if it is a `ValueError`. -/
def Ends (number : Nat) (lines : List (List Char)) (ending : Ending ReplayError) : Prop :=
  ((∀ line ∈ lines, malformed decode line = false) ∧ ending = .stopped) ∨
    ∃ before line after error, lines = before ++ line :: after ∧
      (∀ other ∈ before, malformed decode other = false) ∧ is_blank line = false ∧
      decode line = .error error ∧ ending = .raised (error.at_line (number + before.length))

/-- Of some lines so many were read that the last is the one with the record at
    this place. -/
def ReadUpTo (lines : List (List Char)) (index count : Nat) : Prop :=
  ∃ before line after message, lines = before ++ line :: after ∧ count = before.length + 1 ∧
    record_of_line decode line = some message ∧ (records decode lines)[index]? = some message ∧
    records decode before = (records decode lines).take index

end Lines

variable {decode : Decoder}

theorem records_blank {line : List Char} (h : is_blank line = true) (lines : List (List Char)) :
    malformed decode line = false ∧ records decode (line :: lines) = records decode lines := by
  have hplain : malformed decode line = false := by rw [malformed, h]; rfl
  have hnone : record_of_line decode line = none := if_pos h
  refine ⟨hplain, ?_⟩
  rw [records, List.takeWhile_cons_of_pos (by rw [hplain]; rfl), List.filterMap_cons_none hnone, records]

theorem records_record {line : List Char} {message : CapturedMessage} (h : record_of_line decode line = some message)
    (lines : List (List Char)) :
    malformed decode line = false ∧ records decode (line :: lines) = message :: records decode lines := by
  have hplain : malformed decode line = false := by
    unfold record_of_line at h
    unfold malformed
    split at h
    · cases h
    · rw [h, Option.isNone_some, Bool.and_false]
  refine ⟨hplain, ?_⟩
  rw [records, List.takeWhile_cons_of_pos (by rw [hplain]; rfl), List.filterMap_cons_some h, records]

theorem records_malformed {line : List Char} (h : malformed decode line = true) (lines : List (List Char)) :
    records decode (line :: lines) = [] := by
  rw [records, List.takeWhile_cons_of_neg (by rw [h]; decide), List.filterMap_nil]

/-- The lines of records that were written have these records. -/
theorem records_written {messages : List CapturedMessage} {lines : List (List Char)}
    (htopic : ∀ message ∈ messages, message.topic ≠ [])
    (hlines : List.Forall₂ (fun message line => encode_record message = .ok line) messages lines) :
    (∀ line ∈ lines.map fun line => line ++ ['\n'], malformed decode_line line = false) ∧
      records decode_line (lines.map fun line => line ++ ['\n']) = messages := by
  induction hlines with
  | nil => exact ⟨fun line hline => absurd hline List.not_mem_nil, rfl⟩
  | @cons message line messages lines hline hlines ih =>
    obtain ⟨hmessage, hmessages⟩ := List.forall_mem_cons.mp htopic
    have hread := decode_line_eq_ok_iff.mpr (decode_encode_record hmessage hline newline_space)
    have hrecord : record_of_line decode_line (line ++ ['\n']) = some message := by
      rw [record_of_line, encode_record_not_blank hline, hread]
      rfl
    obtain ⟨hplain, hrecords⟩ := records_record hrecord (lines.map fun line => line ++ ['\n'])
    obtain ⟨hall, hmore⟩ := ih hmessages
    rw [List.map_cons, hrecords, hmore]
    exact ⟨List.forall_mem_cons.mpr ⟨hplain, hall⟩, rfl⟩

/-- A line is blank, has a record or is malformed. -/
theorem line_cases (line : List Char) :
    is_blank line = true ∨
      (∃ message, is_blank line = false ∧ decode line = .ok message ∧
        record_of_line decode line = some message) ∨
      ∃ error, is_blank line = false ∧ decode line = .error error ∧ malformed decode line = true := by
  cases hblank : is_blank line with
  | true => exact .inl rfl
  | false =>
    cases hdecoded : decode line with
    | ok message =>
      refine .inr (.inl ⟨message, rfl, rfl, ?_⟩)
      rw [record_of_line, hblank, hdecoded]
      rfl
    | error error =>
      refine .inr (.inr ⟨error, rfl, rfl, ?_⟩)
      rw [malformed, hblank, hdecoded]
      rfl

/-! ### Reading line by line -/

/-- What a run over some lines is: their records in order, each decided when its
    line is the last one read. -/
structure Reads (decode : Decoder) (number : Nat) (lines : List (List Char))
    (items : List (CapturedMessage × Source) × Ending ReplayError) : Prop where
  records : items.1.map Prod.fst = records decode lines
  ending : Ends decode number lines items.2
  read : ∀ index item, items.1[index]? = some item →
    ReadUpTo decode lines index (item.2.number - number)

theorem Ends.skip {number : Nat} {line : List Char} {lines : List (List Char)} {ending : Ending ReplayError}
    (hline : malformed decode line = false) (h : Ends decode (number + 1) lines ending) :
    Ends decode number (line :: lines) ending := by
  rcases h with ⟨hplain, hending⟩ | ⟨before, bad, after, error, hlines, hplain, hblank, hdecoded, hending⟩
  · exact .inl ⟨List.forall_mem_cons.mpr ⟨hline, hplain⟩, hending⟩
  · refine .inr ⟨line :: before, bad, after, error, ?_, List.forall_mem_cons.mpr ⟨hline, hplain⟩, hblank,
      hdecoded, ?_⟩
    · rw [hlines, List.cons_append]
    · rw [hending, List.length_cons, Nat.add_right_comm, Nat.add_assoc]

/-- A line more before the others is one more to read. -/
theorem ReadUpTo.skip {line : List Char} {lines : List (List Char)} {index count : Nat}
    (hline : is_blank line = true) (h : ReadUpTo decode lines index count) :
    ReadUpTo decode (line :: lines) index (count + 1) := by
  obtain ⟨before, own, after, message, hlines, hcount, hown, hindex, htake⟩ := h
  refine ⟨line :: before, own, after, message, ?_, ?_, hown, ?_, ?_⟩
  · rw [hlines, List.cons_append]
  · rw [hcount, List.length_cons]
  · rw [(records_blank hline lines).2, hindex]
  · rw [(records_blank hline before).2, (records_blank hline lines).2, htake]

theorem ReadUpTo.next {line : List Char} {message : CapturedMessage} {lines : List (List Char)}
    {index count : Nat} (hline : record_of_line decode line = some message) (h : ReadUpTo decode lines index count) :
    ReadUpTo decode (line :: lines) (index + 1) (count + 1) := by
  obtain ⟨before, own, after, other, hlines, hcount, hown, hindex, htake⟩ := h
  refine ⟨line :: before, own, after, other, ?_, ?_, hown, ?_, ?_⟩
  · rw [hlines, List.cons_append]
  · rw [hcount, List.length_cons]
  · rw [(records_record hline lines).2, List.getElem?_cons_succ, hindex]
  · rw [(records_record hline before).2, (records_record hline lines).2, List.take_succ_cons, htake]

theorem ReadUpTo.first {line : List Char} {message : CapturedMessage}
    (hline : record_of_line decode line = some message) (lines : List (List Char)) :
    ReadUpTo decode (line :: lines) 0 1 := by
  refine ⟨[], line, lines, message, rfl, rfl, hline, ?_, rfl⟩
  rw [(records_record hline lines).2, List.getElem?_cons_zero]

theorem ReadUpTo.count_pos {lines : List (List Char)} {index count : Nat} (h : ReadUpTo decode lines index count) :
    0 < count := by
  obtain ⟨before, line, after, message, hlines, hcount, hmore⟩ := h
  omega

/-- Asking a stream for record after record reads its lines in order. -/
theorem source_reads (lines : List (List Char)) (number : Nat) {fuel : Nat} (hfuel : lines.length < fuel) :
    Reads decode number lines (run (Source.next decode) fuel ⟨number, lines⟩) := by
  induction lines generalizing number fuel with
  | nil =>
    obtain ⟨fuel, rfl⟩ := Nat.exists_eq_succ_of_ne_zero (Nat.ne_of_gt hfuel)
    exact ⟨rfl, .inl ⟨fun line hline => absurd hline List.not_mem_nil, rfl⟩, fun index item hitem => by cases hitem⟩
  | cons line lines ih =>
    obtain ⟨fuel, rfl⟩ := Nat.exists_eq_succ_of_ne_zero (Nat.ne_of_gt (Nat.zero_lt_of_lt hfuel))
    rw [List.length_cons] at hfuel
    rcases line_cases line with hblank | ⟨message, hblank, hdecoded, hline⟩ | ⟨error, hblank, hdecoded, hline⟩
    · have hrun : run (Source.next decode) (fuel + 1) ⟨number, line :: lines⟩ =
          run (Source.next decode) (fuel + 1) ⟨number + 1, lines⟩ := by
        rw [run, next_blank hblank, ← run]
      have hmore := ih (number + 1) (show lines.length < fuel + 1 by omega)
      obtain ⟨hplain, hrecords⟩ := records_blank hblank lines
      rw [Nat.succ_eq_add_one, hrun]
      refine ⟨hmore.records.trans hrecords.symm, hmore.ending.skip hplain, fun index item hitem => ?_⟩
      have hread := hmore.read index item hitem
      have hpos := hread.count_pos
      have hcount : item.2.number - number = item.2.number - (number + 1) + 1 := by omega
      rw [hcount]
      exact hread.skip hblank
    · have hmore := ih (number + 1) (show lines.length < fuel by omega)
      obtain ⟨hplain, hrecords⟩ := records_record hline lines
      rw [Nat.succ_eq_add_one, run, next_record hblank hdecoded]
      refine ⟨?_, hmore.ending.skip hplain, fun index item hitem => ?_⟩
      · rw [hrecords, List.map_cons, hmore.records]
      · cases index with
        | zero =>
          cases hitem
          have hone : number + 1 - number = 1 := by omega
          rw [hone]
          exact .first hline lines
        | succ index =>
          have hread := hmore.read index item hitem
          have hpos := hread.count_pos
          have hcount : item.2.number - number = item.2.number - (number + 1) + 1 := by omega
          rw [hcount]
          exact hread.next hline
    · rw [Nat.succ_eq_add_one, run, next_malformed hblank hdecoded]
      refine ⟨(records_malformed hline lines).symm, .inr ?_, fun index item hitem => by cases hitem⟩
      exact ⟨[], line, lines, error, rfl, fun other hother => absurd hother List.not_mem_nil, hblank, hdecoded, rfl⟩

/-! ### Both ways of replaying read alike -/

theorem firehose_alike (decode : Decoder) (source other : Source) (h : source = other) :
    Alike (· = ·) (fun item message => item.1 = message) (zip (Source.next decode) repeat_zero source)
      (Source.next decode other) := by
  subst h
  unfold zip
  cases hnext : source.next decode with
  | item message rest => exact .item rfl rfl
  | stop => exact .stop
  | raised error => exact .raised error

section

variable {round : Rat → Rat} {speed : Rat}

/-- In lockstep: a record for the publisher, then its offset. -/
theorem paced_next (hspeed : 0 < speed) (source : Source) (offset : Rat) (previous : Option Datetime) :
    zip (Paced.next_record decode) (replay_offsets decode round speed) ⟨.of source, offset, previous⟩ =
      match source.next decode with
      | .item message rest =>
        .item (message, next_offset round speed offset previous message.captured_at)
          ⟨.of rest, next_offset round speed offset previous message.captured_at, some message.captured_at⟩
      | .stop => .stop
      | .raised error => .raised error := by
  unfold zip Paced.next_record
  rw [Tee.next_second_of]
  cases source.next decode with
  | item message rest =>
    dsimp only
    rw [replay_offsets, if_neg (not_le.mpr hspeed), Tee.next_first_held]
  | stop => rfl
  | raised error => rfl

theorem paced_alike (decode : Decoder) (round : Rat → Rat) (hspeed : 0 < speed) (state : Paced)
    (source : Source) (h : state.records = .of source) :
    Alike (fun state source => state.records = .of source) (fun item message => item.1 = message)
      (zip (Paced.next_record decode) (replay_offsets decode round speed) state) (Source.next decode source) := by
  obtain ⟨records, offset, previous⟩ := state
  dsimp only at h
  rw [h, paced_next hspeed]
  cases source.next decode with
  | item message rest => exact .item rfl rfl
  | stop => exact .stop
  | raised error => exact .raised error

end

/-! ### The offsets -/

section Sums

variable (round : Rat → Rat) (speed : Rat)

/-- What the gap from one timestamp to the next adds to the offset. -/
def offset_step (earlier later : Datetime) : Rat :=
  round (max 0 (rounded_seconds round (elapsed later earlier)) / speed)

def offset_steps (times : List Datetime) : List Rat := List.zipWith (offset_step round speed) times times.tail

/-- Offsets of some timestamps: the steps before each, summed up from left to
    right. -/
structure SummedUp (times : List Datetime) (offsets : List Rat) : Prop where
  length : offsets.length = times.length
  offset : ∀ index offset, offsets[index]? = some offset →
    offset = rounded_sum round 0 ((offset_steps round speed times).take index)

end Sums

section Run

variable {round : Rat → Rat} {speed : Rat}

theorem offset_steps_cons (first next : Datetime) (times : List Datetime) :
    offset_steps round speed (first :: next :: times) =
      offset_step round speed first next :: offset_steps round speed (next :: times) := rfl

/-- After a first timestamp every offset adds the steps since then. -/
theorem paced_offsets (hspeed : 0 < speed) (fuel : Nat) (source : Source) (offset : Rat)
    (previous : Datetime) (index : Nat) (item : (CapturedMessage × Rat) × Paced)
    (hitem : (run (zip (Paced.next_record decode) (replay_offsets decode round speed)) fuel
      ⟨.of source, offset, some previous⟩).1[index]? = some item) :
    item.1.2 = rounded_sum round offset ((offset_steps round speed (previous ::
      (run (zip (Paced.next_record decode) (replay_offsets decode round speed)) fuel
        ⟨.of source, offset, some previous⟩).1.map fun item => item.1.1.captured_at)).take (index + 1)) := by
  induction fuel generalizing source offset previous index with
  | zero => cases hitem
  | succ fuel ih =>
    rw [run, paced_next hspeed] at hitem ⊢
    cases hnext : source.next decode with
    | stop =>
      rw [hnext] at hitem
      cases hitem
    | raised error =>
      rw [hnext] at hitem
      cases hitem
    | item message rest =>
      rw [hnext] at hitem
      dsimp only at hitem ⊢
      rw [List.map_cons, offset_steps_cons, List.take_succ_cons]
      cases index with
      | zero =>
        cases hitem
        rfl
      | succ index =>
        rw [List.getElem?_cons_succ] at hitem
        rw [ih rest _ message.captured_at index hitem]
        rfl

/-- The first offset is zero, and the others follow it. -/
theorem run_summed_up (decode : Decoder) (round : Rat → Rat) (hspeed : 0 < speed) (fuel : Nat)
    (source : Source) :
    SummedUp round speed
      ((run (zip (Paced.next_record decode) (replay_offsets decode round speed)) fuel ⟨.of source, 0, none⟩).1.map
        fun item => item.1.1.captured_at)
      ((run (zip (Paced.next_record decode) (replay_offsets decode round speed)) fuel ⟨.of source, 0, none⟩).1.map
        fun item => item.1.2) := by
  refine ⟨by rw [List.length_map, List.length_map], fun index offset hoffset => ?_⟩
  cases fuel with
  | zero => cases hoffset
  | succ fuel =>
    rw [run, paced_next hspeed] at hoffset ⊢
    cases hnext : source.next decode with
    | stop =>
      rw [hnext] at hoffset
      cases hoffset
    | raised error =>
      rw [hnext] at hoffset
      cases hoffset
    | item message rest =>
      rw [hnext] at hoffset
      dsimp only [next_offset] at hoffset ⊢
      cases index with
      | zero =>
        cases hoffset
        rfl
      | succ index =>
        rw [List.map_cons, List.getElem?_cons_succ, List.getElem?_map] at hoffset
        obtain ⟨item, hitem, rfl⟩ := Option.map_eq_some_iff.mp hoffset
        exact paced_offsets hspeed fuel rest 0 message.captured_at index item hitem

end Run

/-! ### Offsets however results are rounded -/

section Rounded

variable {round : Rat → Rat} {speed : Rat} {times : List Datetime} {offsets : List Rat}

theorem offset_step_nonneg (hround : Rounding round) (hspeed : 0 < speed) (earlier later : Datetime) :
    0 ≤ offset_step round speed earlier later :=
  hround.nonneg (div_nonneg (le_max_left _ _) hspeed.le)

theorem offset_steps_nonneg (hround : Rounding round) (hspeed : 0 < speed) (times : List Datetime) :
    ∀ step ∈ offset_steps round speed times, 0 ≤ step := by
  intro step hstep
  obtain ⟨index, hindex⟩ := List.mem_iff_getElem?.mp hstep
  obtain ⟨earlier, later, -, -, rfl⟩ := List.getElem?_zipWith_eq_some.mp hindex
  exact offset_step_nonneg hround hspeed earlier later

theorem SummedUp.starts (h : SummedUp round speed times offsets) {offset : Rat}
    (hoffset : offsets[0]? = some offset) : offset = 0 :=
  h.offset 0 offset hoffset

theorem SummedUp.never_decreases (h : SummedUp round speed times offsets) (hround : Rounding round)
    (hspeed : 0 < speed) {index later : Nat} {offset next : Rat} (hle : index ≤ later)
    (hoffset : offsets[index]? = some offset) (hnext : offsets[later]? = some next) : offset ≤ next := by
  rw [h.offset index offset hoffset, h.offset later next hnext]
  exact hround.rounded_sum_take_le hround.zero (offset_steps_nonneg hround hspeed times) hle

/-- The offsets of a paced replay, however results are rounded. -/
structure Scheduled (round : Rat → Rat) (speed : Rat) (times : List Datetime) (offsets : List Rat) : Prop where
  summed_up : SummedUp round speed times offsets
  starts : ∀ offset, offsets[0]? = some offset → offset = 0
  never_decreases : ∀ (index later : Nat) (offset next : Rat), index ≤ later →
    offsets[index]? = some offset → offsets[later]? = some next → offset ≤ next

theorem SummedUp.scheduled (h : SummedUp round speed times offsets) (hround : Rounding round)
    (hspeed : 0 < speed) : Scheduled round speed times offsets where
  summed_up := h
  starts := fun _ hoffset => h.starts hoffset
  never_decreases := fun _ _ _ _ hle hoffset hnext => h.never_decreases hround hspeed hle hoffset hnext

end Rounded

/-! ### Offsets in exact arithmetic -/

/-- The seconds from one timestamp to the next, if it is later. -/
def positive_gap (earlier later : Datetime) : Rat := max 0 (total_seconds (elapsed later earlier))

def positive_gaps (times : List Datetime) : List Rat := List.zipWith positive_gap times times.tail

/-- Offsets of some timestamps: the sum of the positive gaps before each, divided
    by the speed. -/
structure PacedBy (speed : Rat) (times : List Datetime) (offsets : List Rat) : Prop where
  length : offsets.length = times.length
  offset : ∀ index offset, offsets[index]? = some offset →
    offset = ((positive_gaps times).take index).sum / speed

/-- Without rounding the sum is divided by the speed as each gap is. -/
theorem rounded_sum_exact (speed : Rat) (times : List Datetime) (index : Nat) :
    rounded_sum id 0 ((offset_steps id speed times).take index) = ((positive_gaps times).take index).sum / speed := by
  have hsteps : offset_steps id speed times = (positive_gaps times).map (· / speed) := by
    rw [offset_steps, positive_gaps, List.map_zipWith]
    rfl
  rw [hsteps, rounded_sum_id, zero_add, ← List.map_take]
  generalize (positive_gaps times).take index = gaps
  induction gaps with
  | nil => exact (zero_div speed).symm
  | cons gap gaps ih => rw [List.map_cons, List.sum_cons, List.sum_cons, ih, add_div]

theorem SummedUp.paced {speed : Rat} {times : List Datetime} {offsets : List Rat}
    (h : SummedUp id speed times offsets) : PacedBy speed times offsets where
  length := h.length
  offset index offset hoffset := by rw [h.offset index offset hoffset, rounded_sum_exact]

theorem elapsed_trans (a b c : Datetime) : elapsed c a = elapsed b a + elapsed c b := by
  unfold elapsed
  omega

theorem total_seconds_trans (a b c : Datetime) :
    (total_seconds (elapsed c a) : Rat) = total_seconds (elapsed b a) + total_seconds (elapsed c b) := by
  rw [elapsed_trans a b c]
  unfold total_seconds
  push_cast
  ring

theorem total_seconds_self (a : Datetime) : (total_seconds (elapsed a a) : Rat) = 0 := by
  have hself : elapsed a a = 0 := by
    unfold elapsed
    omega
  rw [hself]
  unfold total_seconds
  norm_num

/-- The positive gaps up to a timestamp come to no less than the time since the
    first, and to exactly that if no timestamp goes back. -/
theorem gaps_since_first (times : List Datetime) (first own : Datetime) (index : Nat)
    (hown : (first :: times)[index]? = some own) :
    total_seconds (elapsed own first) ≤ ((positive_gaps (first :: times)).take index).sum ∧
      ((first :: times).IsChain (fun a b => 0 ≤ elapsed b a) →
        ((positive_gaps (first :: times)).take index).sum = total_seconds (elapsed own first)) := by
  induction index generalizing first times with
  | zero =>
    cases hown
    rw [List.take_zero, List.sum_nil, total_seconds_self]
    exact ⟨le_refl _, fun _ => rfl⟩
  | succ index ih =>
    rw [List.getElem?_cons_succ] at hown
    cases times with
    | nil => cases hown
    | cons next times =>
      obtain ⟨hle, heq⟩ := ih times next hown
      have hsum : ((positive_gaps (first :: next :: times)).take (index + 1)).sum =
          positive_gap first next + ((positive_gaps (next :: times)).take index).sum := by
        rw [positive_gaps, List.tail_cons, List.zipWith_cons_cons, List.take_succ_cons, List.sum_cons]
        rfl
      rw [hsum, total_seconds_trans first next own]
      refine ⟨add_le_add (le_max_right _ _) hle, fun hchain => ?_⟩
      obtain ⟨hlater, hrest⟩ := List.isChain_cons_cons.mp hchain
      have hgap : positive_gap first next = total_seconds (elapsed next first) := by
        apply max_eq_right
        unfold total_seconds
        exact div_nonneg (Int.cast_nonneg hlater) (by norm_num)
      rw [hgap, heq hrest]

section

variable {speed : Rat} {times : List Datetime} {offsets : List Rat}

theorem PacedBy.since_first (h : PacedBy speed times offsets) (hspeed : 0 < speed) {index : Nat}
    {offset : Rat} {first own : Datetime} (hoffset : offsets[index]? = some offset)
    (hfirst : times[0]? = some first) (hown : times[index]? = some own) :
    total_seconds (elapsed own first) / speed ≤ offset ∧
      (times.IsChain (fun a b => 0 ≤ elapsed b a) → offset = total_seconds (elapsed own first) / speed) := by
  cases times with
  | nil => cases hfirst
  | cons head rest =>
    cases hfirst
    obtain ⟨hle, heq⟩ := gaps_since_first rest first own index hown
    rw [h.offset index offset hoffset]
    refine ⟨div_le_div_of_nonneg_right hle (le_of_lt hspeed), fun hchain => ?_⟩
    rw [heq hchain]

end

/-! ### The replay of a text -/

/-- Which messages a replay publishes and what ends it, as the text has them. -/
structure Replays (decode : Decoder) (lines : List (List Char)) (published : List Publish)
    (ending : Ending ReplayError) : Prop where
  messages : published.map (fun own => (own.topic, own.payload)) =
    (records decode lines).map fun record => (record.topic, record.payload)
  ending : Ends decode 1 lines ending
  read : ∀ index own, published[index]? = some own → ReadUpTo decode lines index own.lines_read

/-- A run that steps like the reading of the lines replays them. -/
theorem replays_of_alike {σ : Type} {items : List ((CapturedMessage × Rat) × σ)}
    {reads : List (CapturedMessage × Source) × Ending ReplayError} (source : σ → Source)
    (R : σ → Source → Prop) (hsource : ∀ {state at_source}, R state at_source → source state = at_source)
    {lines : List (List Char)} (hreads : Reads decode 1 lines reads)
    (halike : List.Forall₂ (fun item read => item.1.1 = read.1 ∧ R item.2 read.2) items reads.1) :
    Replays decode lines (items.map fun item => publish item.1.1 item.1.2 (source item.2)) reads.2 ∧
      items.map (fun item => item.1.1.captured_at) = (records decode lines).map CapturedMessage.captured_at := by
  have hitems : items.map (fun item => item.1.1) = records decode lines := by
    rw [← hreads.records]
    clear hreads
    generalize reads.1 = own at halike
    induction halike with
    | nil => rfl
    | cons hitem _ ih => rw [List.map_cons, List.map_cons, hitem.1, ih]
  refine ⟨⟨?_, hreads.ending, fun index own hown => ?_⟩, ?_⟩
  · rw [← hitems, List.map_map, List.map_map]
    rfl
  · rw [List.getElem?_map] at hown
    obtain ⟨item, hitem, rfl⟩ := Option.map_eq_some_iff.mp hown
    obtain ⟨hindex, hitem⟩ := List.getElem?_eq_some_iff.mp hitem
    have hlength := halike.length_eq
    have hrelated := (List.forall₂_iff_get.mp halike).2 index hindex (by omega)
    have hbound : index < reads.1.length := by omega
    have hread := hreads.read index _ (List.getElem?_eq_getElem hbound)
    rw [List.get_eq_getElem, hitem] at hrelated
    rw [publish, hsource hrelated.2]
    exact hread
  · rw [← hitems, List.map_map]
    rfl

theorem reads_text (decode : Decoder) (text : List Char) :
    Reads decode 1 (split_lines (universal_newlines text))
      (run (Source.next decode) ((Source.of_text text).lines.length + 1) (Source.of_text text)) :=
  source_reads _ 1 (Nat.lt_succ_self _)

section Text

variable (decode : Decoder) (round : Rat → Rat) (text : List Char) {speed : Rat}

theorem replay_firehose : Replays decode (split_lines (universal_newlines text))
    (replay_with decode round text none).1 (replay_with decode round text none).2 := by
  obtain ⟨hitems, hending⟩ := run_alike (firehose_alike decode)
    ((Source.of_text text).lines.length + 1) (rfl : Source.of_text text = Source.of_text text)
  have hreplays := (replays_of_alike id (· = ·) (fun h => h) (reads_text decode text) hitems).1
  rw [← hending] at hreplays
  exact hreplays

/-- A paced replay publishes the records, each at the sum of the steps before it. -/
theorem replay_paced (hspeed : 0 < speed) :
    Replays decode (split_lines (universal_newlines text)) (replay_with decode round text (some speed)).1
        (replay_with decode round text (some speed)).2 ∧
      SummedUp round speed
        ((records decode (split_lines (universal_newlines text))).map CapturedMessage.captured_at)
        ((replay_with decode round text (some speed)).1.map Publish.offset) := by
  obtain ⟨hitems, hending⟩ := run_alike (paced_alike decode round hspeed)
    ((Source.of_text text).lines.length + 1)
    (rfl : (⟨.of (Source.of_text text), 0, none⟩ : Paced).records = .of (Source.of_text text))
  obtain ⟨hreplays, htimes⟩ := replays_of_alike (fun state : Paced => state.records.source)
    (fun state source => state.records = .of source) (fun h => congrArg Tee.source h) (reads_text decode text)
    hitems
  have hpaced := run_summed_up decode round hspeed
    ((Source.of_text text).lines.length + 1) (Source.of_text text)
  rw [htimes] at hpaced
  rw [← hending] at hreplays
  refine ⟨hreplays, ?_⟩
  have hoffsets : (replay_with decode round text (some speed)).1.map Publish.offset =
      (run (zip (Paced.next_record decode) (replay_offsets decode round speed))
        ((Source.of_text text).lines.length + 1) ⟨.of (Source.of_text text), 0, none⟩).1.map
          fun item => item.1.2 := by
    unfold replay_with
    rw [List.map_map]
    rfl
  rw [hoffsets]
  exact hpaced

/-- In exact arithmetic it waits for the gaps, divided by the speed. -/
theorem replay_paced_by (hspeed : 0 < speed) :
    PacedBy speed ((records decode (split_lines (universal_newlines text))).map CapturedMessage.captured_at)
      ((replay_with decode id text (some speed)).1.map Publish.offset) :=
  (replay_paced decode id text hspeed).2.paced

theorem replay_ends_alike (hspeed : 0 < speed) :
    (replay_with decode round text none).2 = (replay_with decode round text (some speed)).2 := by
  have hfirehose := (run_alike (firehose_alike decode) ((Source.of_text text).lines.length + 1)
    (rfl : Source.of_text text = Source.of_text text)).2
  have hpaced := (run_alike (paced_alike decode round hspeed)
    ((Source.of_text text).lines.length + 1)
    (rfl : (⟨.of (Source.of_text text), 0, none⟩ : Paced).records = .of (Source.of_text text))).2
  exact hfirehose.trans hpaced.symm

end Text

/-- The offsets of a paced replay in exact arithmetic. -/
structure ScheduledExactly (speed : Rat) (times : List Datetime) (offsets : List Rat) : Prop where
  paced : PacedBy speed times offsets
  since_first : ∀ (index : Nat) (offset : Rat) (first own : Datetime),
    offsets[index]? = some offset → times[0]? = some first → times[index]? = some own →
      total_seconds (elapsed own first) / speed ≤ offset ∧
        (times.IsChain (fun a b => 0 ≤ elapsed b a) → offset = total_seconds (elapsed own first) / speed)

/-- Whatever lines decode to and whatever the text and the speed, a paced replay
    publishes what an unpaced one does and ends as it does; only the offsets
    differ. -/
theorem replay_pacing (decode : Decoder) (text : List Char) {speed : Rat} (hspeed : 0 < speed) :
    Replays decode (split_lines (universal_newlines text)) (replay_with decode fl text none).1
        (replay_with decode fl text none).2 ∧
      Replays decode (split_lines (universal_newlines text)) (replay_with decode fl text (some speed)).1
        (replay_with decode fl text (some speed)).2 ∧
      (replay_with decode fl text none).2 = (replay_with decode fl text (some speed)).2 ∧
      Scheduled fl speed ((records decode (split_lines (universal_newlines text))).map CapturedMessage.captured_at)
        ((replay_with decode fl text (some speed)).1.map Publish.offset) ∧
      ScheduledExactly speed
        ((records decode (split_lines (universal_newlines text))).map CapturedMessage.captured_at)
        ((replay_with decode id text (some speed)).1.map Publish.offset) := by
  obtain ⟨hreplays, hsummed⟩ := replay_paced decode fl text hspeed
  have hpaced := (replay_paced decode id text hspeed).2.paced
  exact ⟨replay_firehose decode fl text, hreplays, replay_ends_alike decode fl text hspeed,
    hsummed.scheduled rounding_fl hspeed, hpaced, fun _ _ _ _ => hpaced.since_first hspeed⟩

/-- A blank line and a malformed one, at twice the speed. -/
theorem replay_pacing_malformed :
    Replays decode_line (split_lines (universal_newlines ['\n', 'x']))
        (replay_with decode_line fl ['\n', 'x'] none).1 (replay_with decode_line fl ['\n', 'x'] none).2 ∧
      Replays decode_line (split_lines (universal_newlines ['\n', 'x']))
        (replay_with decode_line fl ['\n', 'x'] (some 2)).1 (replay_with decode_line fl ['\n', 'x'] (some 2)).2 ∧
      (replay_with decode_line fl ['\n', 'x'] none).2 = (replay_with decode_line fl ['\n', 'x'] (some 2)).2 := by
  obtain ⟨hfirehose, hpaced, halike, -, -⟩ := replay_pacing decode_line ['\n', 'x'] (by norm_num : (0 : Rat) < 2)
  exact ⟨hfirehose, hpaced, halike⟩

example : replay ['\n', 'x'] (some 2) = ([], .raised (.line 2 .invalid_json)) := by decide +kernel

/-! ### Where a replay ends without a line, and where it runs ahead -/

/-- `decode_record` in an interpreter that lets so many arrays nest at the start of
    a line. -/
def decode_nested (limit : Nat) : Decoder := fun line =>
  if limit < (line.takeWhile (· = '[')).length then .error (.other "maximum recursion depth exceeded")
  else decode_line line

def brackets : List Char := List.replicate 100001 '['

theorem decode_nested_brackets :
    decode_nested 100000 (brackets ++ ['\n']) = .error (.other "maximum recursion depth exceeded") := by
  apply if_pos
  have hall : ∀ c ∈ brackets, decide (c = '[') = true := fun c hc => decide_eq_true (List.eq_of_mem_replicate hc)
  rw [List.takeWhile_append_of_pos hall, List.length_append, brackets, List.length_replicate]
  omega

/-- A line that is nested too deeply ends a replay with an exception that is no
    `ValueError`. -/
theorem replay_nested {speed : Rat} (hspeed : 0 < speed) :
    (replay_with (decode_nested 100000) fl (written [brackets]) (some speed)).2 =
      .raised (.other "maximum recursion depth exceeded") := by
  have hplain : ∀ line ∈ [brackets], '\n' ∉ line ∧ '\r' ∉ line := by
    refine List.forall_mem_singleton.mpr ⟨fun hmem => ?_, fun hmem => ?_⟩
    · exact absurd (List.eq_of_mem_replicate hmem) (by decide)
    · exact absurd (List.eq_of_mem_replicate hmem) (by decide)
  have hends := (replay_paced (decode_nested 100000) fl (written [brackets]) hspeed).1.ending
  rw [lines_written hplain, List.map_singleton] at hends
  have hblank : is_blank (brackets ++ ['\n']) = false := by
    rw [brackets, List.replicate_succ, List.cons_append, is_blank, List.all_cons]
    rfl
  rcases hends with ⟨hall, -⟩ | ⟨before, line, after, error, hlines, -, -, hdecoded, hending⟩
  · have hmalformed := hall _ (List.mem_singleton_self _)
    rw [malformed, hblank, decode_nested_brackets] at hmalformed
    cases hmalformed
  · obtain ⟨rfl, rfl, rfl⟩ : before = [] ∧ line = brackets ++ ['\n'] ∧ after = [] := by
      cases before with
      | nil =>
        obtain ⟨hline, hafter⟩ := List.cons.inj hlines
        exact ⟨rfl, hline.symm, hafter.symm⟩
      | cons first more =>
        have hnil := (List.cons.inj hlines).2
        exact absurd hnil.symm (by simp)
    rw [decode_nested_brackets] at hdecoded
    cases hdecoded
    exact hending

/-- A message captured so many seconds after the first midnight. -/
def captured_after (seconds : Fin 10) : CapturedMessage where
  topic := ['t']
  payload := []
  captured_at :=
    { wall := seconds.val * second, utcoffset := some ⟨0, utc_offset_range⟩,
      wall_range := by
        unfold Representable datetime_end day second
        omega }

def every_three_seconds : List CapturedMessage := [0, 3, 6, 9].map captured_after

/-- Three times the float 0.6 is less than 9 / 5. -/
theorem replay_runs_ahead :
    (¬ ∀ (decode : Decoder) (text : List Char) (speed : Rat), 0 < speed → ∀ error,
      (replay_with decode fl text (some speed)).2 = .raised error → ∃ number own, error = .line number own) ∧
    ¬ ∀ (text : List Char) (speed : Rat), 0 < speed → fl speed = speed →
      ∀ (index : Nat) (offset : Rat) (first own : CapturedMessage),
        ((replay_with decode_line fl text (some speed)).1.map Publish.offset)[index]? = some offset →
        (records decode_line (split_lines (universal_newlines text)))[0]? = some first →
        (records decode_line (split_lines (universal_newlines text)))[index]? = some own →
        total_seconds (elapsed own.captured_at first.captured_at) / speed ≤ offset := by
  refine ⟨fun hclaim => ?_, fun hclaim => ?_⟩
  · obtain ⟨number, own, herror⟩ := hclaim (decode_nested 100000) _ 1 (by norm_num) _
      (replay_nested (by norm_num))
    cases herror
  · have haware : ∀ message ∈ every_three_seconds, message.captured_at.utcoffset ≠ none := by decide
    obtain ⟨lines, hlines, hplain⟩ := lines_of_aware haware
    have hrecords := (records_written (by decide) hlines).2
    rw [← lines_written hplain] at hrecords
    have hsummed := (replay_paced decode_line fl (written lines) (by norm_num : (0 : Rat) < 5)).2
    rw [hrecords] at hsummed
    have hlength : 3 < ((replay_with decode_line fl (written lines) (some 5)).1.map Publish.offset).length := by
      rw [hsummed.length]
      decide
    have hoffset := hsummed.offset 3 _ (List.getElem?_eq_getElem hlength)
    have hlate := hclaim (written lines) 5 (by norm_num) (by decide +kernel) 3 _ (captured_after 0)
      (captured_after 9) (List.getElem?_eq_getElem hlength) (by rw [hrecords]; rfl) (by rw [hrecords]; rfl)
    rw [hoffset] at hlate
    exact absurd hlate (by decide +kernel)

end planter_telemetry.cli
