import PlanterTelemetry.Cli.Capture
import PlanterTelemetry.Cli.Pacing
import PlanterTelemetry.Library.Pacing

open planter_telemetry.python

namespace planter_telemetry.cli

/-! ### A replay by the clock -/

/-- What the clock makes of one message: how long it takes from publishing the
    one before to asking for the time, and how much longer `asyncio.sleep` takes
    than it was asked to. -/
structure Turn where
  busy : { seconds : Rat // 0 ≤ seconds }
  overslept : Rat

def Turn.slot (own : Publish) (turn : Turn) : Pacing.Slot Rat where
  due := own.offset
  busy := turn.busy.val
  overslept := turn.overslept

/-- When each message is published, in seconds since `start`. -/
def publish_times (decode : Decoder) (text : List Char) (speed : Option Rat) (turns : List Turn) : List Rat :=
  Pacing.sends 0 (List.zipWith Turn.slot (replay_with decode id text speed).1 turns)

/-- The work of some turns. -/
def work (turns : List Turn) : Rat := (turns.map fun turn => turn.busy.val).sum

/-- The busy times of the slots add up to the work of the turns. -/
theorem busy_slots {published : List Publish} {turns : List Turn} (h : turns.length ≤ published.length) :
    ((List.zipWith Turn.slot published turns).map Pacing.Slot.busy).sum = work turns := by
  rw [List.map_zipWith, work]
  congr 1
  induction turns generalizing published with
  | nil => rw [List.zipWith_nil_right, List.map_nil]
  | cons turn turns ih =>
    cases published with
    | nil => cases h
    | cons own published =>
      rw [List.zipWith_cons_cons, List.map_cons, ih (Nat.le_of_succ_le_succ h)]
      rfl

/-- Messages of offset zero are never waited for. -/
theorem foldl_send_zero {slots : List (Pacing.Slot Rat)} {clock : Rat} (hclock : 0 ≤ clock)
    (hslots : ∀ slot ∈ slots, slot.due = 0 ∧ 0 ≤ slot.busy) :
    slots.foldl Pacing.send clock = clock + (slots.map Pacing.Slot.busy).sum := by
  induction slots generalizing clock with
  | nil => exact (add_zero clock).symm
  | cons slot slots ih =>
    obtain ⟨⟨hdue, hbusy⟩, hrest⟩ := List.forall_mem_cons.mp hslots
    have hnow : 0 ≤ clock + slot.busy := add_nonneg hclock hbusy
    have hsend : Pacing.send clock slot = clock + slot.busy := by
      rw [Pacing.send_eq, hdue, if_neg (not_lt.mpr hnow)]
    rw [List.foldl_cons, hsend, ih hnow hrest, List.map_cons, List.sum_cons, add_assoc]

/-- The offsets of a replay without delay. -/
theorem firehose_offsets (decode : Decoder) (text : List Char) :
    ∀ own ∈ (replay_with decode id text none).1, own.offset = 0 := by
  intro own hown
  obtain ⟨item, hitem, rfl⟩ := List.mem_map.mp hown
  revert hitem
  generalize (Source.of_text text).lines.length + 1 = fuel
  generalize Source.of_text text = source
  intro hitem
  induction fuel generalizing source with
  | zero => cases hitem
  | succ fuel ih =>
    rw [Iterator.run, Iterator.zip] at hitem
    cases hnext : source.next decode with
    | item message rest =>
      simp only [hnext, repeat_zero] at hitem
      rcases List.mem_cons.mp hitem with rfl | hmem
      · rfl
      · exact ih rest hmem
    | stop => simp only [hnext, List.not_mem_nil] at hitem
    | raised error => simp only [hnext, List.not_mem_nil] at hitem

/-- When a message is published: at its offset, but for the sleep before it, or
    as late as the work since an earlier sleep has made it. -/
structure Timely (published : List Publish) (turns : List Turn) (index : Nat) (time : Rat) : Prop where
  due : ∃ own turn, published[index]? = some own ∧ turns[index]? = some turn ∧
    own.offset + min 0 turn.overslept ≤ time
  since : time = work (turns.take (index + 1)) ∨
    ∃ slept own turn, slept ≤ index ∧ published[slept]? = some own ∧ turns[slept]? = some turn ∧
      time = own.offset + turn.overslept + work ((turns.take (index + 1)).drop (slept + 1))

theorem timely_sends {published : List Publish} {turns : List Turn} {index : Nat} {time : Rat}
    (h : (Pacing.sends 0 (List.zipWith Turn.slot published turns))[index]? = some time) :
    Timely published turns index time := by
  have htime := Pacing.time_eq_foldl h
  obtain ⟨slot, hslot, hsend⟩ := Pacing.getElem?_sends h
  obtain ⟨own, turn, hown, hturn, rfl⟩ := List.getElem?_zipWith_eq_some.mp hslot
  refine ⟨⟨own, turn, hown, hturn, hsend ▸ Pacing.due_le_send _ (turn.slot own)⟩, ?_⟩
  obtain ⟨hpublished, -⟩ := List.getElem?_eq_some_iff.mp hown
  obtain ⟨hturns, -⟩ := List.getElem?_eq_some_iff.mp hturn
  rw [List.take_zipWith] at htime
  rcases Pacing.foldl_send_cases 0
      (List.zipWith Turn.slot (published.take (index + 1)) (turns.take (index + 1))) with
    hall | ⟨before, slept, after, hslots, hsince⟩
  · refine .inl ?_
    rw [htime, hall, zero_add, busy_slots]
    rw [List.length_take, List.length_take]
    omega
  · have hlength := congrArg List.length hslots
    rw [List.length_zipWith, List.length_take, List.length_take, List.length_append, List.length_cons] at hlength
    have hat : (List.zipWith Turn.slot (published.take (index + 1)) (turns.take (index + 1)))[before.length]? =
        some slept := by
      rw [hslots, List.getElem?_append_right (Nat.le_refl _), Nat.sub_self]
      rfl
    have hrest : after = List.zipWith Turn.slot ((published.take (index + 1)).drop (before.length + 1))
        ((turns.take (index + 1)).drop (before.length + 1)) := by
      rw [← List.drop_zipWith, hslots, List.drop_append, Nat.add_sub_cancel_left]
      simp
    obtain ⟨other, its, hother, hits, rfl⟩ := List.getElem?_zipWith_eq_some.mp hat
    rw [List.getElem?_take_of_lt (by omega)] at hother hits
    refine .inr ⟨before.length, other, its, by omega, hother, hits, ?_⟩
    rw [htime, hsince, hrest, busy_slots]
    · rfl
    · rw [List.length_drop, List.length_drop, List.length_take, List.length_take]
      omega

/-- However busy a replay is and however badly it sleeps: no message is published
    before the time that its `captured_at` puts between it and the first, at this
    speed, but for its own sleep; and a message is late by the work since the last
    sleep and by that sleep alone, so that jitter does not accumulate. Without
    delay there is nothing but the work. -/
theorem replay_keeps_time (decode : Decoder) (text : List Char) {factor : Rat} (hfactor : 0 < factor)
    (turns : List Turn) {index : Nat} {time : Rat} :
    ((publish_times decode text (some factor) turns)[index]? = some time →
      Timely (replay_with decode id text (some factor)).1 turns index time ∧
        ∃ first captured turn, (records decode (split_lines (universal_newlines text)))[0]? = some first ∧
          (records decode (split_lines (universal_newlines text)))[index]? = some captured ∧
          turns[index]? = some turn ∧
          total_seconds (elapsed captured.captured_at first.captured_at) / factor + min 0 turn.overslept ≤ time) ∧
      ((publish_times decode text none turns)[index]? = some time → time = work (turns.take (index + 1))) := by
  constructor
  · intro htime
    have htimely := timely_sends htime
    refine ⟨htimely, ?_⟩
    obtain ⟨⟨own, turn, hown, hturn, hdue⟩, -⟩ := htimely
    have hpaced := replay_paced_by decode text hfactor
    have hoffset : ((replay_with decode id text (some factor)).1.map Publish.offset)[index]? = some own.offset := by
      rw [List.getElem?_map, hown]
      rfl
    have hlength := hpaced.length
    obtain ⟨hbound, -⟩ := List.getElem?_eq_some_iff.mp hoffset
    rw [hlength] at hbound
    obtain ⟨captured, hcaptured⟩ : ∃ captured,
        (records decode (split_lines (universal_newlines text)))[index]? = some captured :=
      ⟨_, List.getElem?_eq_getElem (by rwa [List.length_map] at hbound)⟩
    obtain ⟨first, hfirst⟩ : ∃ first, (records decode (split_lines (universal_newlines text)))[0]? = some first :=
      ⟨_, List.getElem?_eq_getElem (by rw [List.length_map] at hbound; omega)⟩
    refine ⟨first, captured, turn, hfirst, hcaptured, hturn, ?_⟩
    have hmap {place : Nat} {record : CapturedMessage}
        (hrecord : (records decode (split_lines (universal_newlines text)))[place]? = some record) :
        ((records decode (split_lines (universal_newlines text))).map CapturedMessage.captured_at)[place]? =
          some record.captured_at := by
      rw [List.getElem?_map, hrecord]
      rfl
    have hsince := (hpaced.since_first hfactor hoffset (hmap hfirst) (hmap hcaptured)).1
    exact (add_le_add_left hsince _).trans hdue
  · intro htime
    obtain ⟨slot, hslot, -⟩ := Pacing.getElem?_sends htime
    obtain ⟨own, turn, hown, hturn, rfl⟩ := List.getElem?_zipWith_eq_some.mp hslot
    obtain ⟨hpublished, -⟩ := List.getElem?_eq_some_iff.mp hown
    obtain ⟨hturns, -⟩ := List.getElem?_eq_some_iff.mp hturn
    rw [Pacing.time_eq_foldl htime, foldl_send_zero (le_refl _), zero_add, List.take_zipWith, busy_slots]
    · rw [List.length_take, List.length_take]
      omega
    · intro slot hslot
      obtain ⟨place, hplace⟩ := List.mem_iff_getElem?.mp (List.mem_of_mem_take hslot)
      obtain ⟨own, turn, hown, -, rfl⟩ := List.getElem?_zipWith_eq_some.mp hplace
      exact ⟨firehose_offsets decode text own (List.mem_of_getElem? hown), turn.busy.property⟩

/-- Two messages, captured two hours and a microsecond apart. -/
def two_lines : List Char :=
  written ([text_message, bytes_message].map fun message => Json.write compact (.object (record_members message)))

theorem quarter_nonneg : (0 : Rat) ≤ 1 / 4 := by norm_num

/-- The broker takes a quarter of a second to connect, and every sleep is too
    long by a tenth. -/
def sleepy : List Turn := [⟨⟨1 / 4, quarter_nonneg⟩, 1 / 10⟩, ⟨⟨0, le_refl 0⟩, 1 / 10⟩]

theorem replay_keeps_time_two : ∃ time, (publish_times decode_line two_lines (some 7200) sleepy)[1]? = some time ∧
    Timely (replay_with decode_line id two_lines (some 7200)).1 sleepy 1 time := by
  have hlength : (publish_times decode_line two_lines (some 7200) sleepy).length = 2 := by decide +kernel
  have htime : (publish_times decode_line two_lines (some 7200) sleepy)[1]? = some _ :=
    List.getElem?_eq_getElem (by rw [hlength]; exact Nat.one_lt_two)
  exact ⟨_, htime, ((replay_keeps_time decode_line two_lines (by norm_num) sleepy).1 htime).1⟩

end planter_telemetry.cli
