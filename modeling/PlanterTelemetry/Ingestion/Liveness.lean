import Mathlib.Data.Prod.Lex
import Mathlib.Order.WellFounded
import PlanterTelemetry.Ingestion.Survival
import PlanterTelemetry.Library.Machine

open planter_telemetry.python planter_telemetry.contract planter_telemetry.migrations
open planter_telemetry.ingestion.core planter_telemetry.ingestion.db

namespace planter_telemetry.ingestion.service

variable (externals : Externals)

/-- One step of the service by itself: nothing fails around it and nothing more
    arrives. -/
def Alone (before after : State) : Prop :=
  step externals before .proceed = some after ∨
    ∃ dequeued, step externals before (.halt dequeued) = some after

/-! ### What is left to do -/

/-- After a stop request the reconnect loop is left for good, and without one the
    service goes back to its beginning. -/
def loop_phase (stop : Bool) : Nat := if stop then 20 else 0

/-- The parts of `run`, by what can still come after them. -/
def State.phase (state : State) : Nat :=
  match state.pc with
  | .connecting => loop_phase state.stop + 9
  | .entering => loop_phase state.stop + 8
  | .subscribing => loop_phase state.stop + 7
  | .replaying | .handling .replay _ _ => loop_phase state.stop + 6
  | .consuming | .waiting | .handling .consume _ _ => loop_phase state.stop + 5
  | .draining | .handling .drain _ _ => 15
  | .salvaging => 14
  | .exiting .normally | .exiting .caught => 13
  | .closing .normally | .closing .caught => 12
  | .backoff => 11
  | .top => 10
  | .final => 4
  | .flush_connecting => 3
  | .flushing | .handling .flush _ _ | .exiting (.escaping _) => 2
  | .flush_closing _ | .closing (.escaping _) => 1
  | .returned | .crashed _ => 0

/-- The messages that a loop has still to start with. -/
def State.todo (state : State) : Nat :=
  match state.pc with
  | .replaying | .flushing => state.pending.length
  | .handling .replay _ _ | .handling .flush _ _ => state.pending.length - 1
  | .consuming | .waiting | .draining | .salvaging | .handling .consume _ _ | .handling .drain _ _ =>
    state.buffered.length
  | _ => 0

/-- What is left of the round of a loop. -/
def State.round (state : State) : Nat :=
  match state.pc with
  | .handling _ _ rest => rest.length perform state.memory + 2
  | .consuming => 1
  | _ => 0

def State.left (state : State) : Nat ×ₗ Nat ×ₗ Nat := toLex (state.phase, toLex (state.todo, state.round))

variable {externals} {before after : State}

theorem left_lt_of_phase (h : after.phase < before.phase) : after.left < before.left :=
  Prod.Lex.toLex_lt_toLex.mpr (.inl h)

theorem left_lt_of_todo (hphase : after.phase = before.phase) (h : after.todo < before.todo) :
    after.left < before.left :=
  Prod.Lex.toLex_lt_toLex.mpr (.inr ⟨hphase, Prod.Lex.toLex_lt_toLex.mpr (.inl h)⟩)

theorem left_lt_of_round (hphase : after.phase = before.phase) (htodo : after.todo = before.todo)
    (h : after.round < before.round) : after.left < before.left :=
  Prod.Lex.toLex_lt_toLex.mpr (.inr ⟨hphase, Prod.Lex.toLex_lt_toLex.mpr (.inr ⟨htodo, h⟩)⟩)

theorem Turns.left_lt {pc pc' : Pc} (h : Turns before pc pc') (hat : before.pc = pc) :
    (before.goto pc').left < before.left := by
  cases h with
  | wait hstop =>
    refine left_lt_of_round ?_ ?_ ?_
    · simp [State.phase, State.goto, hat]
    · simp [State.todo, State.goto, State.buffered, hat]
    · simp [State.round, State.goto, hat]
  | raised loop item error =>
    apply left_lt_of_phase
    cases loop <;> simp [State.phase, State.goto, Loop.on_error, hat]
  | begin hstop | end_loop hstop | drain hstop =>
    apply left_lt_of_phase
    simp [State.phase, State.goto, hat, loop_phase, hstop]
  | _ =>
    apply left_lt_of_phase
    simp [State.phase, State.goto, hat]

/-- Handling a message that the loop has still to start with. -/
theorem resumed_left {loop : Loop} {item : Item} (hloop : loop.Resumes before.pc)
    (hpending : before.pending.head? = some item) :
    (before.handle externals loop item).left < before.left := by
  obtain ⟨rest, hpending⟩ := List.head?_eq_some_iff.mp hpending
  generalize hat : before.pc = pc at hloop
  cases hloop with
  | replay | flush =>
    refine left_lt_of_todo ?_ ?_
    · simp [State.phase, State.goto, State.handle, hat]
    · simp [State.todo, State.goto, State.handle, hat, hpending]

theorem took_left {loop : Loop} {item : Item} {rest : List Item} (hloop : loop.Takes before.pc)
    (hbuffered : before.buffered = item :: rest) :
    ((before.take item rest).handle externals loop item).left < before.left := by
  generalize hat : before.pc = pc at hloop
  cases hloop with
  | consume | drain =>
    refine left_lt_of_todo ?_ ?_
    · simp [State.phase, State.goto, State.handle, State.take, hat]
    · simp only [State.todo, hat, hbuffered]
      exact Nat.lt_succ_self rest.length

theorem proceeds_left (h : Proceeds externals before after) : after.left < before.left := by
  cases h with
  | turned hat hturns => exact hturns.left_lt hat
  | entered hat =>
    apply left_lt_of_phase
    simp [State.phase, hat]
  | resumed hloop hpending => exact resumed_left hloop hpending
  | took hloop hbuffered => exact took_left hloop hbuffered
  | salvaged hat hbuffered =>
    refine left_lt_of_todo ?_ ?_
    · simp [State.phase, State.take, hat]
    · simp only [State.todo, State.take, hat, hbuffered]
      exact Nat.lt_succ_self _
  | @handled loop item hat =>
    refine left_lt_of_round ?_ ?_ ?_
    · cases loop <;> simp [State.phase, Loop.head, hat]
    · cases loop <;> simp [State.todo, State.buffered, Loop.head, hat]
    · cases loop <;> simp [State.round, Loop.head, hat]
  | @executed loop item effect next hat =>
    refine left_lt_of_round ?_ ?_ ?_
    · cases loop <;> simp [State.phase, hat]
    · cases loop <;> simp [State.todo, State.buffered, hat]
    · simp [State.round, Program.length, hat]
  | @left leaving hat =>
    apply left_lt_of_phase
    cases leaving <;> simp [State.phase, State.discard_client, hat]
  | crashed hat =>
    apply left_lt_of_phase
    simp [State.phase, hat]
  | dropped hat =>
    apply left_lt_of_phase
    simp [State.phase, State.report_dropped, hat]

/-- Noticing stop leads to the drain, whether or not a message was taken. -/
theorem halt_cases {dequeued : Bool} (h : step externals before (.halt dequeued) = some after) :
    before.pc = .waiting ∧ before.stop = true ∧ after.pc = .draining ∧ after.stop = before.stop ∧
      after.acked = before.acked := by
  cases stepped externals h with
  | halted hat hstop | halted_late hat hstop => exact ⟨hat, hstop, rfl, rfl, rfl⟩

/-- Every step of the service by itself leaves less to do. -/
theorem alone_left (h : Alone externals before after) : after.left < before.left := by
  rcases h with hproceed | ⟨dequeued, hhalt⟩
  · exact proceeds_left (proceeds externals hproceed)
  · obtain ⟨hat, hstop, hpc, hkept, -⟩ := halt_cases hhalt
    apply left_lt_of_phase
    simp [State.phase, hat, hpc, loop_phase, hstop]

theorem alone_terminates (externals : Externals) : WellFounded (flip (Alone externals)) :=
  Subrelation.wf (fun h => alone_left h) (InvImage.wf State.left wellFounded_lt)

/-! ### Where the service can come to rest -/

theorem at_rest_cases {state : State} (h : Rest.AtRest (Alone externals) state) :
    (state.pc = .waiting ∧ state.buffered = [] ∧ state.stop = false) ∨ state.pc = .returned ∨
      ∃ error, state.pc = .crashed error := by
  have hproceed : proceed externals state = none :=
    Option.eq_none_iff_forall_ne_some.mpr fun after hafter => h after (.inl hafter)
  unfold proceed at hproceed
  cases hpc : state.pc with
  | waiting =>
    refine .inl ⟨rfl, ?_, ?_⟩
    · simp only [hpc] at hproceed
      split at hproceed
      · cases hproceed
      · next hbuffered => exact hbuffered
    · refine Bool.eq_false_iff.mpr fun hstop => h (state.goto .draining) (.inr ⟨false, ?_⟩)
      simp only [step, halt, hpc, hstop, if_true, Bool.false_eq_true, if_false]
  | returned => exact .inr (.inl rfl)
  | crashed error => exact .inr (.inr ⟨error, rfl⟩)
  | replaying | draining | salvaging | flushing =>
    simp only [hpc] at hproceed
    split at hproceed <;> cases hproceed
  | handling loop item rest =>
    cases rest <;> simp [hpc] at hproceed
  | closing leaving =>
    cases leaving <;> simp [hpc] at hproceed
  | _ => simp [hpc] at hproceed

theorem alone_keeps (h : Alone externals before after) :
    after.stop = before.stop ∧ after.acked = before.acked := by
  rcases h with hproceed | ⟨dequeued, hhalt⟩
  · exact proceeds_keeps (proceeds externals hproceed)
  · exact (halt_cases hhalt).2.2.2

theorem Alone.deployed (h : Alone externals before after) : Deployed externals before after :=
  .inl (h.elim (fun hproceed => ⟨.proceed, hproceed⟩) fun ⟨dequeued, hhalt⟩ => ⟨.halt dequeued, hhalt⟩)

theorem alone_run_keeps {state final : State} (h : Relation.ReflTransGen (Alone externals) state final) :
    final.stop = state.stop ∧ final.acked = state.acked := by
  refine Rest.keeps (fun other => other.stop = state.stop ∧ other.acked = state.acked) ?_ h ⟨rfl, rfl⟩
  intro before after hstep hbefore
  obtain ⟨hstop, hacked⟩ := alone_keeps hstep
  exact ⟨hstop.trans hbefore.1, hacked.trans hbefore.2⟩

/-- The database is lost with two messages acked and neither of them written. -/
def database_lost : List Action :=
  -- connect, subscribe, wait
  List.replicate 6 .proceed ++ [.deliver (stray 1), .deliver (stray 2), .proceed,
    -- the second message is salvaged
    .operational_error false, .proceed]

theorem stray_readable (externals : Externals) (byte : UInt8) :
    ¬ ((device_id_from_topic (stray byte).1).isSome ∧ MeasuredAtOverflows externals (stray byte).2) := by
  have htopic : (device_id_from_topic "planter/v1//telemetry").isSome = false := by decide +kernel
  exact fun hoverflow => Bool.false_ne_true (htopic.symm.trans hoverflow.1)

/-- Left alone, the service never goes on forever: it comes to wait for a message,
    to return if that was requested, or to a message that it cannot read. -/
theorem comes_to_rest (externals : Externals) (db : Database) {state : State}
    (hrun : Relation.ReflTransGen (Deployed externals) (initial db) state) :
    Acc (flip (Alone externals)) state ∧
    ∀ final, Relation.ReflTransGen (Alone externals) state final → Rest.AtRest (Alone externals) final →
      (state.stop = false ∧ final.pc = .waiting ∧ final.buffered = []) ∨
      (state.stop = true ∧ final.pc = .returned) ∨
      final.pc = .crashed out_of_range ∧ ∃ item ∈ state.acked, (device_id_from_topic item.1).isSome ∧
        MeasuredAtOverflows externals item.2 := by
  refine ⟨(alone_terminates externals).apply state, fun final hfinal hrest => ?_⟩
  have hreached : Relation.ReflTransGen (Deployed externals) (initial db) final :=
    hrun.trans (hfinal.lift id fun _ _ h => Alone.deployed h)
  obtain ⟨hstop, hacked⟩ := alone_run_keeps hfinal
  rw [← hstop, ← hacked]
  rcases at_rest_cases hrest with ⟨hpc, hbuffered, hstop⟩ | hpc | ⟨error, hpc⟩
  · exact .inl ⟨hstop, hpc, hbuffered⟩
  · exact .inr (.inl ⟨returned_after_stop hreached hpc, hpc⟩)
  · obtain ⟨rfl, hitem⟩ := crash_blamed hreached hpc
    exact .inr (.inr ⟨hpc, hitem⟩)

/-- Stopped before it has reconnected, the service returns. -/
theorem comes_to_rest_stopped :
    ∃ state final : State, state.pending = [stray 1, stray 2] ∧ state.stop = true ∧
      Relation.ReflTransGen (Alone (document_reader [])) state final ∧ final.pc = .returned := by
  have hrun : (steps (document_reader []) (fun _ _ => true) (database_lost ++ [.set_stop])
      (initial .fresh)).any (fun state =>
        state.pending = [stray 1, stray 2] ∧ state.acked = [stray 1, stray 2] ∧ state.stop = true) =
      true := by
    decide +kernel
  obtain ⟨state, hsteps, hstate⟩ := (Option.any_eq_true _ _).mp hrun
  obtain ⟨hpending, hacked, hstop⟩ := of_decide_eq_true hstate
  have hreached : Relation.ReflTransGen (Deployed (document_reader [])) (initial .fresh) state :=
    (reachable_of_steps hsteps).lift id fun _ _ hallowed => .inl (hallowed.imp fun _ h => h.2)
  obtain ⟨hterminates, hrests⟩ := comes_to_rest (document_reader []) .fresh hreached
  obtain ⟨final, hfinal, hrest⟩ := Rest.exists_at_rest hterminates
  refine ⟨state, final, hpending, hstop, hfinal, ?_⟩
  rcases hrests final hfinal hrest with ⟨hrunning, -⟩ | ⟨-, hpc⟩ | ⟨-, item, hitem, hoverflow⟩
  · rw [hstop] at hrunning
    cases hrunning
  · exact hpc
  · rw [hacked] at hitem
    rcases List.mem_pair.mp hitem with rfl | rfl
    · exact absurd hoverflow (stray_readable _ 1)
    · exact absurd hoverflow (stray_readable _ 2)

/-! ### Catching up -/

/-- The client context is left with an empty buffer, or because a call raised. -/
theorem exiting_proceeds (h : Proceeds externals before after) {leaving : Leaving}
    (hpc : after.pc = .exiting leaving) :
    after.buffered = [] ∨ ∃ loop item error, before.pc = .handling loop item (.raise error) := by
  cases h with
  | turned hat hturns =>
    cases hturns with
    | drained hbuffered | salvaged hbuffered => exact .inl hbuffered
    | raised loop item error => exact .inr ⟨loop, item, error, hat⟩
    | _ => cases hpc
  | salvaged hat =>
    rw [State.take, hat] at hpc
    cases hpc
  | @handled loop => cases loop <;> cases hpc
  | entered | resumed | took | executed | left | crashed | dropped => cases hpc

variable (externals) in
/-- No stop is requested, no acked message is lost yet, none is about to be with
    the client, and all of them can be read. -/
structure CatchingUp (db : Database) (state : State) : Prop where
  reached : Relation.ReflTransGen (Deployed externals) (initial db) state
  stop : state.stop = false
  invariant : Invariant externals state
  leaving : ∀ leaving, state.pc = .exiting leaving → state.buffered = []
  readable : ∀ item ∈ state.acked, ¬ ((device_id_from_topic item.1).isSome ∧
    MeasuredAtOverflows externals item.2)

/-- No call raises. -/
theorem CatchingUp.not_raising {db : Database} (h : CatchingUp externals db before) {loop : Loop}
    {item : Item} {error : PyError} : before.pc ≠ .handling loop item (.raise error) := by
  intro hpc
  obtain ⟨progress, hprovenance⟩ := provenance_run h.reached
  have hitem : item ∈ before.acked := hprovenance.held item (.inr (by rw [hpc]; rfl))
  have hpoisons : Poisons externals item error := (blamed_run h.reached).call loop item _ hpc
  obtain ⟨htopic, -, hoverflow⟩ := classify_error_iff.mp hpoisons
  exact h.readable item hitem ⟨htopic, hoverflow⟩

theorem CatchingUp.sound {db : Database} (h : CatchingUp externals db before) :
    sound before .proceed = true := by
  have hserving := serving_run h.reached h.stop
  unfold service.sound
  simp only
  split
  · next item hpc =>
    rw [hpc] at hserving
    rcases hserving with hloop | hloop <;> cases hloop
  · next loop item error hpc => exact absurd hpc h.not_raising
  · next leaving hpc => exact decide_eq_true (h.leaving leaving hpc)
  · rfl

theorem CatchingUp.step {db : Database} (h : CatchingUp externals db before)
    (hstep : Alone externals before after) : CatchingUp externals db after where
  reached := h.reached.tail hstep.deployed
  stop := (alone_keeps hstep).1.trans h.stop
  invariant := by
    rcases hstep with hproceed | ⟨dequeued, hhalt⟩
    · exact invariant_step h.invariant ⟨.proceed, h.sound, hproceed⟩
    · have hstop := (halt_cases hhalt).2.1
      rw [h.stop] at hstop
      cases hstop
  leaving leaving hpc := by
    rcases hstep with hproceed | ⟨dequeued, hhalt⟩
    · exact (exiting_proceeds (proceeds externals hproceed) hpc).resolve_right
        fun ⟨_, _, _, hraise⟩ => h.not_raising hraise
    · rw [(halt_cases hhalt).2.2.1] at hpc
      cases hpc
  readable := (alone_keeps hstep).2 ▸ h.readable

theorem CatchingUp.run {db : Database} {state final : State} (h : CatchingUp externals db state)
    (hrun : Relation.ReflTransGen (Alone externals) state final) : CatchingUp externals db final :=
  Rest.keeps (CatchingUp externals db) (fun _ _ hstep hbefore => hbefore.step hstep) hrun h

/-- At rest nothing waits, and what was acked is recorded. -/
theorem CatchingUp.at_rest {db : Database} {state : State} (h : CatchingUp externals db state)
    (hrest : Rest.AtRest (Alone externals) state) :
    state.pc = .waiting ∧ state.pending = [] ∧ state.buffered = [] ∧
      ∀ item ∈ state.acked, recorded externals state.memory.db item = true := by
  have hcontrol := h.invariant.control
  rcases at_rest_cases hrest with ⟨hpc, hbuffered, -⟩ | hpc | ⟨error, hpc⟩
  · simp only [Control, hpc] at hcontrol
    refine ⟨hpc, hcontrol, hbuffered, fun item hitem => ?_⟩
    rcases h.invariant.kept item hitem with hrecorded | hpending | hheld
    · exact hrecorded
    · rw [hcontrol] at hpending
      cases hpending
    · rw [hbuffered] at hheld
      cases hheld
  · have hserving := serving_run h.reached h.stop
    rw [hpc] at hserving
    exact hserving.elim
  · simp only [Control, hpc] at hcontrol

/-- Once nothing fails any more, the service catches up whatever has failed before:
    left alone it comes to wait for messages with every acked message recorded. -/
theorem catches_up (externals : Externals) (db : Database) {state : State}
    (hrun : Relation.ReflTransGen (SoundStep externals) (initial db) state) (hstop : state.stop = false)
    (hleaving : ∀ leaving, state.pc = .exiting leaving → state.buffered = [])
    (hreadable : ∀ item ∈ state.acked, ¬ ((device_id_from_topic item.1).isSome ∧
      MeasuredAtOverflows externals item.2)) :
    Acc (flip (Alone externals)) state ∧
    ∀ final, Relation.ReflTransGen (Alone externals) state final → Rest.AtRest (Alone externals) final →
      final.pc = .waiting ∧ final.pending = [] ∧ final.buffered = [] ∧
        ∀ item ∈ state.acked, recorded externals final.memory.db item = true := by
  have hstart : CatchingUp externals db state :=
    { reached := hrun.lift id fun _ _ ⟨action, _, hstep⟩ => .inl ⟨action, hstep⟩
      stop := hstop
      invariant := Relation.ReflTransGen.rec (invariant_initial db)
        (fun _ hstep ih => invariant_step ih hstep) hrun
      leaving := hleaving
      readable := hreadable }
  refine ⟨(alone_terminates externals).apply state, fun final hfinal hrest => ?_⟩
  rw [← (alone_run_keeps hfinal).2]
  exact (hstart.run hfinal).at_rest hrest

theorem catches_up_database_lost :
    ∃ state final : State, state.pending = [stray 1, stray 2] ∧ state.memory.db.dead_letter = [] ∧
      Relation.ReflTransGen (Alone (document_reader [])) state final ∧ final.pc = .waiting ∧
      ∀ item ∈ state.acked, recorded (document_reader []) final.memory.db item = true := by
  have hrun : (steps (document_reader []) sound database_lost (initial .fresh)).any (fun state =>
      state.pending = [stray 1, stray 2] ∧ state.acked = [stray 1, stray 2] ∧ state.buffered = [] ∧
        state.memory.db.dead_letter = [] ∧ state.stop = false) = true := by decide +kernel
  obtain ⟨state, hsteps, hstate⟩ := (Option.any_eq_true _ _).mp hrun
  obtain ⟨hpending, hacked, hbuffered, hempty, hstop⟩ := of_decide_eq_true hstate
  have hreadable : ∀ item ∈ state.acked, ¬ ((device_id_from_topic item.1).isSome ∧
      MeasuredAtOverflows (document_reader []) item.2) := by
    intro item hitem
    rw [hacked] at hitem
    rcases List.mem_pair.mp hitem with rfl | rfl
    · exact stray_readable _ 1
    · exact stray_readable _ 2
  obtain ⟨hterminates, hcaught⟩ := catches_up (document_reader []) .fresh (reachable_of_steps hsteps) hstop
    (fun _ _ => hbuffered) hreadable
  obtain ⟨final, hfinal, hrest⟩ := Rest.exists_at_rest hterminates
  obtain ⟨hpc, -, -, hrecorded⟩ := hcaught final hfinal hrest
  exact ⟨state, final, hpending, hempty, hfinal, hpc, hrecorded⟩

end planter_telemetry.ingestion.service
