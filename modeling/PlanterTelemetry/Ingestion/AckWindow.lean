import PlanterTelemetry.Ingestion.Run
import Mathlib.Data.List.Perm.Subperm
import Mathlib.Logic.Relation

open planter_telemetry.python planter_telemetry.contract planter_telemetry.migrations
open planter_telemetry.ingestion.core planter_telemetry.ingestion.db

namespace planter_telemetry.ingestion.service

variable (externals : Externals)

/-! ### What must not be lost -/

/-- Every acked message is recorded, waits in `pending` or is in the live
    buffer. -/
def Kept (state : State) : Prop :=
  ∀ item ∈ state.acked, recorded externals state.memory.db item = true ∨
    item ∈ state.pending ∨ item ∈ state.buffered

/-- When `run` returns, the acked messages that are not recorded are within the
    count it reported, each counted as often as it was acked. -/
def Accounted (state : State) : Prop :=
  state.pc = .returned →
    (state.acked.filter fun item => !recorded externals state.memory.db item).length ≤
      state.dropped.getD 0

/-- The steps that lose nothing. Stop is noticed before the cancelled `anext` has
    taken a message; the drain on stop pops the message it has just handled, which
    is so when `pending` was empty before; the client context is left with an empty
    buffer; and no exception of a message leaves `run`. -/
def sound (state : State) : Action → Bool
  | .proceed =>
    match state.pc with
    | .handling .drain item (.ret ()) => state.pending.head? = some item
    | .handling loop _ (.raise _) => loop = .flush
    | .exiting _ => state.buffered = []
    | _ => true
  | .mqtt_error =>
    match state.pc with
    | .exiting _ => state.buffered = []
    | _ => true
  | .halt dequeued => !dequeued
  | _ => true

/-- One step of the service or of its surroundings. -/
def Step (before after : State) : Prop := ∃ action, step externals before action = some after

/-- One step that meets the condition. -/
def SoundStep (before after : State) : Prop :=
  ∃ action, sound before action = true ∧ step externals before action = some after

/-! ### The invariant -/

/-- A message that is not recorded is held as often as it was acked. -/
def Retained (db : Database) (acked held : List Item) : Prop :=
  ∀ item, recorded externals db item = false → acked.count item ≤ held.count item

variable {externals} {db after : Database} {acked held : List Item} {item : Item}

theorem Retained.mono (h : Retained externals db acked held)
    (hkeep : ∀ item, recorded externals db item = true → recorded externals after item = true) :
    Retained externals after acked held := by
  intro item hitem
  refine h item (Bool.eq_false_iff.mpr fun hrecorded => ?_)
  rw [hkeep item hrecorded] at hitem
  cases hitem

theorem Retained.deliver (h : Retained externals db acked held) (item : Item) :
    Retained externals db (acked ++ [item]) (held ++ [item]) := by
  intro other hother
  rw [List.count_append, List.count_append]
  exact Nat.add_le_add_right (h other hother) _

/-- A recorded message may be let go of. -/
theorem Retained.release {kept : List Item} (h : Retained externals db acked (item :: kept))
    (hitem : recorded externals db item = true) : Retained externals db acked kept := by
  intro other hother
  have hne : item ≠ other := by
    rintro rfl
    rw [hitem] at hother
    cases hother
  have hcount := h other hother
  rwa [List.count_cons_of_ne hne] at hcount

/-- What a retained list holds covers the acked messages one by one. -/
theorem Retained.unrecorded_length_le (h : Retained externals db acked held) :
    (acked.filter fun item => !recorded externals db item).length ≤ held.length := by
  refine (List.subperm_ext_iff.mpr fun item hitem => ?_).length_le
  obtain ⟨-, hrecorded⟩ := List.mem_filter.mp hitem
  have hcount := h item (by simpa using hrecorded)
  exact (List.filter_sublist.count_le item).trans hcount

/-- Where the message being handled stands in `pending`: the oldest one in a
    replay or flush, the only one while new messages are consumed. The drain
    promises nothing. -/
def Loop.Holds (pending : List Item) (item : Item) : Loop → Prop
  | .replay | .flush => pending.head? = some item
  | .consume => pending = [item]
  | .drain => True

/-- What holds besides, by where `run` stands. A call in progress records its
    message if it completes. -/
def Control (externals : Externals) (state : State) : Prop :=
  match state.pc with
  | .handling loop item rest =>
    (∀ after, rest.run perform state.memory = (after, .ok ()) →
      recorded externals after.db item = true) ∧
    loop.Holds state.pending item ∧ (loop = .flush → state.buffer = none)
  | .consuming => state.pending = [] ∨ state.stop = true
  | .waiting => state.pending = []
  | .subscribing | .replaying | .draining | .salvaging => True
  | .exiting leaving => ∀ error, leaving ≠ .escaping error
  | .closing leaving => state.buffer = none ∧ ∀ error, leaving ≠ .escaping error
  | .flush_closing raised => state.buffer = none ∧ (raised = false → state.pending = [])
  | .returned => state.buffer = none ∧ state.pending.length ≤ state.dropped.getD 0
  | .crashed _ => False
  | _ => state.buffer = none

structure Invariant (externals : Externals) (state : State) : Prop where
  retained : Retained externals state.memory.db state.acked (state.pending ++ state.buffered)
  control : Control externals state

theorem Invariant.kept {state : State} (h : Invariant externals state) : Kept externals state := by
  intro item hitem
  cases hrecorded : recorded externals state.memory.db item with
  | true => exact .inl rfl
  | false =>
    have hcount := h.retained item hrecorded
    have hacked := List.count_pos_iff.mpr hitem
    have hheld : item ∈ state.pending ++ state.buffered :=
      List.count_pos_iff.mp (Nat.lt_of_lt_of_le hacked hcount)
    exact .inr (List.mem_append.mp hheld)

theorem Invariant.accounted {state : State} (h : Invariant externals state) :
    Accounted externals state := by
  intro hpc
  have hcontrol := h.control
  simp only [Control, hpc] at hcontrol
  obtain ⟨hbuffer, hdropped⟩ := hcontrol
  have hheld := h.retained.unrecorded_length_le
  simp only [State.buffered, hbuffer, Option.getD_none, List.append_nil] at hheld
  exact hheld.trans hdropped

theorem invariant_initial (db : Database) : Invariant externals (initial db) :=
  ⟨fun _ _ => Nat.le_refl _, rfl⟩

/-! ### One step -/

/-- What is held does not change when the oldest buffered message moves to the
    end of `pending`. -/
theorem held_take {state : State} {item : Item} {rest : List Item}
    (hbuffered : state.buffered = item :: rest) :
    (state.take item rest).pending ++ (state.take item rest).buffered =
      state.pending ++ state.buffered := by
  simp [State.take, State.buffered, ← hbuffered]

/-- Starting to handle the oldest pending item. -/
theorem control_handle {state : State} {loop : Loop} {item : Item}
    (hholds : loop.Holds state.pending item) (hbuffer : loop = .flush → state.buffer = none) :
    Control externals (state.handle externals loop item) :=
  ⟨fun _ hrun => recorded_of_run_ok hrun, hholds, hbuffer⟩

/-- Where `run` only goes on, nothing new has to hold: only a message of the
    final flush raises. -/
theorem control_turns {state : State} {pc pc' : Pc} (hat : state.pc = pc) (hturns : Turns state pc pc')
    (hcontrol : Control externals state)
    (hflush : ∀ loop item error, pc = .handling loop item (.raise error) → loop = .flush) :
    Control externals (state.goto pc') := by
  unfold Control at hcontrol
  rw [hat] at hcontrol
  cases hturns with
  | begin | end_loop | connected | waited | flush | flush_connected => exact hcontrol
  | closed | back_off | give_up => exact hcontrol.1
  | subscribed | drain => trivial
  | replayed hdone => exact hdone
  | wait hstop =>
    apply hcontrol.resolve_right
    rw [hstop]
    exact Bool.false_ne_true
  | drained | salvaged => exact fun error heq => by cases heq
  | raised loop item error =>
    obtain rfl := hflush loop item error rfl
    exact ⟨hcontrol.2.2 rfl, fun heq => by cases heq⟩
  | finish hpending => exact ⟨hcontrol, by simp [State.goto, hpending]⟩
  | flushed hpending => exact ⟨hcontrol, fun _ => hpending⟩
  | flush_closed => exact ⟨hcontrol.1, by simp [State.goto, hcontrol.2 rfl]⟩

/-- The oldest pending message is handled again, with no client in the flush. -/
theorem control_resumes {state : State} {loop : Loop} {item : Item} (hloop : loop.Resumes state.pc)
    (hcontrol : Control externals state) (hpending : state.pending.head? = some item) :
    Control externals (state.handle externals loop item) := by
  cases loop with
  | replay => exact control_handle hpending fun heq => by cases heq
  | flush =>
    generalize hat : state.pc = pc at hloop
    cases hloop
    simp only [Control, hat] at hcontrol
    exact control_handle hpending fun _ => hcontrol
  | consume | drain => cases hloop

/-- A message that the consumption takes is the only pending one. -/
theorem control_takes {state : State} {loop : Loop} {item : Item} {rest : List Item}
    (hloop : loop.Takes state.pc) (hcontrol : Control externals state) :
    Control externals ((state.take item rest).handle externals loop item) := by
  cases loop with
  | consume =>
    generalize hat : state.pc = pc at hloop
    cases hloop
    simp only [Control, hat] at hcontrol
    refine control_handle ?_ fun heq => by cases heq
    simp [Loop.Holds, State.take, hcontrol]
  | drain => exact control_handle trivial fun heq => by cases heq
  | replay | flush => cases hloop

theorem invariant_proceeds {state after : State} (h : Invariant externals state)
    (hsound : sound state .proceed = true) (hproceeds : Proceeds externals state after) :
    Invariant externals after := by
  obtain ⟨hretained, hcontrol⟩ := h
  cases hproceeds with
  | turned hat hturns =>
    refine ⟨hretained, control_turns hat hturns hcontrol ?_⟩
    rintro loop item error rfl
    simp only [sound, hat] at hsound
    cases loop with
    | flush => rfl
    | replay | consume | drain => cases hsound
  | entered hat =>
    simp only [Control, hat] at hcontrol
    refine ⟨?_, trivial⟩
    simpa [State.buffered, hcontrol] using hretained
  | resumed hloop hpending => exact ⟨hretained, control_resumes hloop hcontrol hpending⟩
  | took hloop hbuffered =>
    have hheld := held_take hbuffered
    rw [← hheld] at hretained
    exact ⟨hretained, control_takes hloop hcontrol⟩
  | salvaged hat hbuffered =>
    have hheld := held_take hbuffered
    rw [← hheld] at hretained
    refine ⟨hretained, ?_⟩
    simp only [Control, State.take, hat]
  | @handled loop item hat =>
    simp only [Control, hat] at hcontrol
    obtain ⟨hrecords, hholds, hbuffer⟩ := hcontrol
    -- the popped message is the one just handled: in the drain by the condition
    have hpopped : state.pending.head? = some item := by
      cases loop with
      | drain =>
        simp only [sound, hat] at hsound
        exact of_decide_eq_true hsound
      | replay | flush => exact hholds
      | consume => exact hholds ▸ rfl
    obtain ⟨tail, hpending⟩ := List.head?_eq_some_iff.mp hpopped
    have htail : state.pending.tail = tail := by rw [hpending, List.tail_cons]
    refine ⟨?_, ?_⟩
    · rw [hpending, List.cons_append] at hretained
      simp only [htail]
      exact hretained.release (hrecords _ rfl)
    · cases loop with
      | replay | drain => trivial
      | consume => exact .inl (by rw [hholds, List.tail_cons])
      | flush => exact hbuffer rfl
  | @executed loop item effect next hat =>
    simp only [Control, hat] at hcontrol
    obtain ⟨hrecords, hholds, hbuffer⟩ := hcontrol
    exact ⟨hretained.mono fun _ hkept => recorded_perform effect hkept, hrecords, hholds, hbuffer⟩
  | left hat =>
    simp only [Control, sound, hat] at hcontrol hsound
    refine ⟨?_, rfl, hcontrol⟩
    rw [of_decide_eq_true hsound] at hretained
    exact hretained
  | crashed hat =>
    simp only [Control, hat] at hcontrol
    exact absurd rfl (hcontrol.2 _)
  | dropped hat =>
    simp only [Control, hat] at hcontrol
    exact ⟨hretained, hcontrol.1, Nat.le_refl _⟩

/-- A delivery is held from the moment it is acked. -/
theorem invariant_delivered {state : State} {item : Item} {buffered : List Item}
    (h : Invariant externals state) (hbuffer : state.buffer = some buffered) :
    Invariant externals
      { state with buffer := some (buffered ++ [item]), acked := state.acked ++ [item] } := by
  obtain ⟨hretained, hcontrol⟩ := h
  refine ⟨?_, ?_⟩
  · have hdelivered := hretained.deliver item
    simpa [State.buffered, hbuffer] using hdelivered
  · -- only the places with a live client are left
    unfold Control at hcontrol ⊢
    cases hpc : state.pc <;> simp_all

theorem invariant_step {before after : State} (h : Invariant externals before)
    (hstep : SoundStep externals before after) : Invariant externals after := by
  obtain ⟨action, hsound, hstep⟩ := hstep
  have hcontrol := h.control
  unfold Control at hcontrol
  cases stepped externals hstep with
  | proceeded hproceeds => exact invariant_proceeds h hsound hproceeds
  | halted => exact ⟨h.retained, trivial⟩
  | halted_late => cases hsound
  | connect_failed hat =>
    rw [hat] at hcontrol
    exact ⟨h.retained, hcontrol, fun error heq => by cases heq⟩
  | @statement_failed took_effect loop item effect next hat hawaited =>
    rw [hat] at hcontrol
    refine ⟨h.retained.mono fun other hkept => ?_, ?_⟩
    · cases took_effect with
      | true => exact recorded_perform effect hkept
      | false => exact hkept
    · cases loop with
      | flush => exact ⟨hcontrol.2.2 rfl, fun heq => by cases heq⟩
      | replay | consume | drain => trivial
  | flush_failed hat =>
    refine ⟨h.retained, ?_, Nat.le_refl _⟩
    rcases hat with hat | ⟨raised, hat⟩
    · rw [hat] at hcontrol
      exact hcontrol
    · rw [hat] at hcontrol
      exact hcontrol.1
  | enter_failed hat =>
    rw [hat] at hcontrol
    exact ⟨h.retained, hcontrol, fun error heq => by cases heq⟩
  | subscribe_failed | disconnected_empty => exact ⟨h.retained, fun error heq => by cases heq⟩
  | exit_failed hat =>
    simp only [sound, hat] at hsound
    have hretained := h.retained
    rw [of_decide_eq_true hsound] at hretained
    exact ⟨hretained, rfl, fun error heq => by cases heq⟩
  | delivered hbuffer => exact invariant_delivered h hbuffer
  | disconnected => exact ⟨h.retained, h.control⟩
  | stop_set =>
    refine ⟨h.retained, ?_⟩
    have hcontrol := h.control
    unfold Control at hcontrol ⊢
    cases hpc : before.pc with
    | consuming => exact .inr rfl
    | _ => simp_all

/-! ### Runs -/

/-- In every run whose steps meet the condition, no acked message is lost in any
    state reached, and the ones unrecorded when `run` returns are within the
    count it reported. -/
theorem acked_messages_kept (externals : Externals) (db : Database) {state : State}
    (hrun : Relation.ReflTransGen (SoundStep externals) (initial db) state) :
    Kept externals state ∧ Accounted externals state := by
  have hinvariant : Invariant externals state := by
    induction hrun with
    | refl => exact invariant_initial db
    | tail _ hstep ih => exact invariant_step ih hstep
  exact ⟨hinvariant.kept, hinvariant.accounted⟩

/-- The run that takes the given actions, all of them allowed. -/
def steps (externals : Externals) (allowed : State → Action → Bool) :
    List Action → State → Option State
  | [], state => some state
  | action :: actions, state =>
    if allowed state action then
      (step externals state action).bind (steps externals allowed actions)
    else none

theorem reachable_of_steps {allowed : State → Action → Bool} {actions : List Action}
    {state final : State} (h : steps externals allowed actions state = some final) :
    Relation.ReflTransGen (fun before after => ∃ action, allowed before action = true ∧
      step externals before action = some after) state final := by
  induction actions generalizing state with
  | nil =>
    cases h
    exact .refl
  | cons action actions ih =>
    unfold steps at h
    split at h
    · next hallowed =>
      obtain ⟨after, hstep, hrest⟩ := Option.bind_eq_some_iff.mp h
      exact .head ⟨action, hallowed, hstep⟩ (ih hrest)
    · cases h

/-- A message that matches the topic filter and is a dead letter, whatever its
    payload. -/
def stray (byte : UInt8) : Item := ("planter/v1//telemetry", [byte])

/-- The database fails on the first message, the second is salvaged, and both
    are replayed after the reconnect. -/
def database_lost_once : List Action :=
  -- connect, subscribe, wait
  List.replicate 6 .proceed ++ [.deliver (stray 1), .deliver (stray 2), .proceed,
    .operational_error true] ++
  -- salvage, leave both contexts, back off, reconnect, replay, wait
  List.replicate 19 .proceed ++ [.set_stop, .halt false] ++
  -- nothing to drain, leave both contexts
  List.replicate 5 .proceed

/-- A run through salvage and replay to the end of `run`. -/
theorem acked_messages_kept_database_lost_once :
    ∃ state, state.pc = .returned ∧ state.acked = [stray 1, stray 2] ∧
      Kept (document_reader []) state ∧ Accounted (document_reader []) state := by
  have hrun : (steps (document_reader []) sound database_lost_once (initial .fresh)).any
      (fun state => (match state.pc with | .returned => true | _ => false) &&
        state.acked = [stray 1, stray 2]) = true := by decide +kernel
  obtain ⟨state, hsteps, hstate⟩ := (Option.any_eq_true _ _).mp hrun
  obtain ⟨hpc, hacked⟩ := Bool.and_eq_true_iff.mp hstate
  refine ⟨state, ?_, of_decide_eq_true hacked, acked_messages_kept (document_reader []) .fresh
    (reachable_of_steps hsteps)⟩
  split at hpc
  · next hreturned => exact hreturned
  · cases hpc

/-- The database fails on the first message and the second is salvaged. After
    the reconnect, stop arrives while the first is replayed, and a third
    message has been acked: the drain writes the third and pops the second. -/
def stop_during_replay : List Action :=
  -- connect, subscribe, wait
  List.replicate 6 .proceed ++ [.deliver (stray 1), .deliver (stray 2), .proceed,
    .operational_error false] ++
  -- salvage, leave both contexts, back off, reconnect, replay
  List.replicate 10 .proceed ++ [.set_stop, .deliver (stray 3)] ++
  -- finish the first message, skip to the drain, handle the third
  List.replicate 9 .proceed

/-- The second message of that run is acked and nowhere any more. -/
theorem stop_during_replay_loses_message :
    ¬ ∀ (externals : Externals) (db : Database) (state : State),
      Relation.ReflTransGen (Step externals) (initial db) state →
      Kept externals state ∧ Accounted externals state := by
  intro hclaim
  have hlost : (steps (document_reader []) (fun _ _ => true) stop_during_replay
      (initial .fresh)).any (fun state =>
        stray 2 ∈ state.acked ∧ recorded (document_reader []) state.memory.db (stray 2) = false ∧
        stray 2 ∉ state.pending ∧ stray 2 ∉ state.buffered) = true := by decide +kernel
  obtain ⟨state, hsteps, hstate⟩ := (Option.any_eq_true _ _).mp hlost
  obtain ⟨hacked, hrecorded, hpending, hbuffered⟩ := of_decide_eq_true hstate
  have hreached : Relation.ReflTransGen (Step (document_reader [])) (initial .fresh) state :=
    (reachable_of_steps hsteps).lift id fun _ _ ⟨action, _, hstep⟩ => ⟨action, hstep⟩
  obtain ⟨hkept, -⟩ := hclaim _ _ state hreached
  rcases hkept (stray 2) hacked with hfound | hfound | hfound
  · rw [hrecorded] at hfound
    cases hfound
  · exact hpending hfound
  · exact hbuffered hfound

end planter_telemetry.ingestion.service
