import PlanterTelemetry.Ingestion.Provenance
import PlanterTelemetry.Library.Interference

open planter_telemetry.python planter_telemetry.contract planter_telemetry.migrations
open planter_telemetry.ingestion.core planter_telemetry.ingestion.db

namespace planter_telemetry.ingestion.service

variable {externals : Externals} {before after : State} {action : Action} {item : Item} {db : Database}

/-! ### What a call can raise -/

variable (externals) in
/-- The exceptions that a message can cause. -/
def Poisons (item : Item) (error : PyError) : Prop := classify externals item.1 item.2 = .error error

theorem note_arrival_raises (condition : PyError → Prop) (reading : TelemetryV1) :
    (note_arrival reading).Raises condition := by
  intro newest
  simp only [Program.ret_bind]
  split
  · exact fun _ => trivial
  · exact fun _ => trivial

theorem store_reading_raises (condition : PyError → Prop) (reading : TelemetryV1) :
    (store_reading reading).Raises condition := by
  intro _ inserted
  cases inserted with
  | true => exact fun _ => trivial
  | false => exact fun _ _ => trivial

theorem handle_one_raises (externals : Externals) (item : Item) :
    (handle_one externals item).Raises (Poisons externals item) := by
  unfold handle_one
  match hclassify : classify externals item.1 item.2 with
  | .error error => exact hclassify
  | .ok (.valid_reading reading) =>
    exact (note_arrival_raises _ reading).bind fun _ => store_reading_raises _ reading
  | .ok (.dead_letter letter) => exact fun _ _ => trivial

/-! ### What comes from outside -/

/-- Where a step of the surroundings takes `run`, if anywhere: to the drain where
    stop is requested, out of a call or of its connections, or to the end of a
    flush. -/
inductive Diverts : State → State → Prop
  | stay {before after : State} (hpc : after.pc = before.pc) : Diverts before after
  | halted {before after : State} (hstop : after.stop = true) (hpc : after.pc = .draining) : Diverts before after
  | failed {before after : State} (loop : Loop) (item : Item) (rest : Handler Unit)
    (hbefore : before.pc = .handling loop item rest) (hpc : after.pc = loop.on_operational_error) :
    Diverts before after
  | exited {before after : State} (hpc : after.pc = .exiting .caught) : Diverts before after
  | closed {before after : State} (hpc : after.pc = .closing .caught) : Diverts before after
  | dropped {before after : State}
    (hbefore : before.pc = .flush_connecting ∨ ∃ raised, before.pc = .flush_closing raised)
    (hpc : after.pc = .returned) : Diverts before after

/-- Nothing from outside takes a stop request back. -/
theorem step_diverts (haction : action ≠ .proceed) (h : step externals before action = some after) :
    Diverts before after ∧ (after.stop = false → before.stop = false) := by
  cases stepped externals h with
  | proceeded => exact absurd rfl haction
  | halted hat hstop | halted_late hat hstop => exact ⟨.halted hstop rfl, id⟩
  -- the error of a disconnect takes the place of the one on its way out
  | connect_failed | enter_failed | exit_failed => exact ⟨.closed rfl, id⟩
  | statement_failed hat => exact ⟨.failed _ _ _ hat rfl, id⟩
  | flush_failed hat => exact ⟨.dropped hat rfl, id⟩
  | subscribe_failed | disconnected_empty => exact ⟨.exited rfl, id⟩
  | delivered | disconnected => exact ⟨.stay rfl, id⟩
  | stop_set => exact ⟨.stay rfl, fun hstop => by cases hstop⟩

/-! ### What leaves `run` -/

/-- The exception on its way out of `run`. -/
def Pc.escaping : Pc → Option PyError
  | .exiting (.escaping error) | .closing (.escaping error) | .crashed error => some error
  | _ => none

@[simp] theorem Loop.escaping_head (loop : Loop) : loop.head.escaping = none := by cases loop <;> rfl

@[simp] theorem Loop.escaping_on_operational_error (loop : Loop) :
    loop.on_operational_error.escaping = none := by
  cases loop <;> rfl

theorem Turns.escaping {state : State} {pc pc' : Pc} (h : Turns state pc pc') {error : PyError}
    (hescaping : pc'.escaping = some error) : ∃ loop item, pc = .handling loop item (.raise error) := by
  cases h with
  | raised loop item own =>
    cases loop with
    | flush => cases hescaping
    | replay | consume | drain =>
      cases hescaping
      exact ⟨_, item, rfl⟩
  | _ => cases hescaping

theorem escaping_proceeds (h : Proceeds externals before after) {error : PyError}
    (hescaping : after.pc.escaping = some error) :
    before.pc.escaping = some error ∨ ∃ loop item, before.pc = .handling loop item (.raise error) := by
  cases h with
  | turned hat hturns => exact .inr (hat ▸ hturns.escaping hescaping)
  | salvaged hat => exact .inl hescaping
  | handled hat =>
    rw [Loop.escaping_head] at hescaping
    cases hescaping
  | @left leaving hat =>
    rw [hat]
    cases leaving <;> exact .inl hescaping
  | crashed hat =>
    rw [hat]
    exact .inl hescaping
  | entered | resumed | took | executed | dropped => cases hescaping

/-- An exception is on its way out after a call has raised it, and otherwise not. -/
theorem escaping_step (h : step externals before action = some after) {error : PyError}
    (hescaping : after.pc.escaping = some error) :
    before.pc.escaping = some error ∨ ∃ loop item, before.pc = .handling loop item (.raise error) := by
  by_cases haction : action = .proceed
  · rw [haction] at h
    exact escaping_proceeds (proceeds externals h) hescaping
  · cases (step_diverts haction h).1 with
    | stay hpc => exact .inl (hpc ▸ hescaping)
    | failed loop item rest hbefore hpc =>
      rw [hpc, Loop.escaping_on_operational_error] at hescaping
      cases hescaping
    | halted _ hpc | exited hpc | closed hpc | dropped _ hpc =>
      rw [hpc] at hescaping
      cases hescaping

variable (externals) in
/-- The call in progress raises only what its message causes, and what is on its
    way out of `run` an acked message has caused. -/
structure Blamed (state : State) : Prop where
  call : ∀ loop item rest, state.pc = .handling loop item rest → rest.Raises (Poisons externals item)
  escaping : ∀ error, state.pc.escaping = some error → ∃ item ∈ state.acked, Poisons externals item error

theorem blamed_step (h : Blamed externals before)
    (hheld : ∀ item, before.Holds item → item ∈ before.acked)
    (hstep : step externals before action = some after) : Blamed externals after where
  call loop item rest hpc := by
    rcases step_cases hstep with ⟨_, _, _, _, hat, -, rfl⟩ | ⟨own, _, _, _, _, -, -, -, rfl⟩ |
      ⟨-, hsame | ⟨-, hbetween⟩⟩
    · cases hpc
      exact h.call _ _ _ hat _
    · cases own <;> cases hpc
    · exact h.call loop item rest (hsame ▸ hpc)
    · rw [hpc] at hbetween
      obtain rfl := hbetween
      exact handle_one_raises externals item
  escaping error hescaping := by
    rcases escaping_step hstep hescaping with hbefore | ⟨loop, item, hpc⟩
    · obtain ⟨item, hitem, hpoisons⟩ := h.escaping error hbefore
      exact ⟨item, acked_step hstep hitem, hpoisons⟩
    · have hitem : item ∈ before.acked := hheld item (.inr (by rw [hpc]; rfl))
      exact ⟨item, acked_step hstep hitem, h.call loop item _ hpc⟩

theorem blamed_idle {state : State} (hpc : state.pc = .top) : Blamed externals state where
  call loop item rest hhandling := by
    rw [hpc] at hhandling
    cases hhandling
  escaping error hescaping := by
    rw [hpc] at hescaping
    cases hescaping

theorem blamed_run {state : State}
    (hrun : Relation.ReflTransGen (Deployed externals) (initial db) state) : Blamed externals state := by
  induction hrun with
  | refl => exact blamed_idle rfl
  | tail hbefore hstep ih =>
    obtain ⟨progress, hprovenance⟩ := provenance_run hbefore
    rcases hstep with ⟨action, hstep⟩ | rfl
    · exact blamed_step ih hprovenance.held hstep
    · exact blamed_idle rfl

/-- What has ended `run` an acked message has caused. -/
theorem crash_blamed {state : State} {error : PyError}
    (hrun : Relation.ReflTransGen (Deployed externals) (initial db) state)
    (hpc : state.pc = .crashed error) :
    error = out_of_range ∧ ∃ item ∈ state.acked, (device_id_from_topic item.1).isSome ∧
      MeasuredAtOverflows externals item.2 := by
  have hescaping : state.pc.escaping = some error := by
    rw [hpc]
    rfl
  obtain ⟨item, hitem, hpoisons⟩ := (blamed_run hrun).escaping error hescaping
  obtain ⟨htopic, herror, hoverflow⟩ := classify_error_iff.mp hpoisons
  exact ⟨herror, item, hitem, htopic, hoverflow⟩

/-! ### Before a stop request -/

/-- Where `run` can stand before a stop request. -/
def Pc.Serving : Pc → Prop
  | .handling loop _ _ => loop = .replay ∨ loop = .consume
  | .exiting leaving | .closing leaving => leaving ≠ .normally
  | .draining | .final | .flush_connecting | .flushing | .flush_closing _ | .returned => False
  | _ => True

theorem Turns.serving {state : State} {pc pc' : Pc} (h : Turns state pc pc') (hstop : state.stop = false)
    (hserving : pc.Serving) : pc'.Serving := by
  cases h with
  | end_loop hset | drain hset | give_up hset =>
    rw [hstop] at hset
    cases hset
  | raised loop item error => rcases hserving with rfl | rfl <;> exact fun heq => by cases heq
  | salvaged => exact fun heq => by cases heq
  | closed => exact absurd rfl hserving
  | drained | finish | flush | flush_connected | flushed | flush_closed => exact hserving.elim
  | _ => trivial

theorem proceeds_serving (hstop : before.stop = false) (hserving : before.pc.Serving)
    (h : Proceeds externals before after) : after.pc.Serving := by
  cases h with
  | turned hat hturns => exact hturns.serving hstop (hat ▸ hserving)
  | entered | crashed => trivial
  | resumed hloop =>
    generalize before.pc = pc at hloop hserving
    cases hloop with
    | replay => exact .inl rfl
    | flush => exact hserving.elim
  | took hloop =>
    generalize before.pc = pc at hloop hserving
    cases hloop with
    | consume => exact .inr rfl
    | drain => exact hserving.elim
  | salvaged => exact hserving
  | handled hat =>
    rw [hat] at hserving
    rcases hserving with rfl | rfl <;> trivial
  | executed hat | left hat =>
    rw [hat] at hserving
    exact hserving
  | dropped hat =>
    rw [hat] at hserving
    exact hserving.elim

/-- Without a stop request the service stays on its way back to its messages,
    whatever fails. -/
theorem serving_step (hserving : before.stop = false → before.pc.Serving)
    (h : step externals before action = some after) : after.stop = false → after.pc.Serving := by
  intro hstop
  by_cases haction : action = .proceed
  · rw [haction] at h
    have hproceeds := proceeds externals h
    have hbefore : before.stop = false := (proceeds_keeps hproceeds).1 ▸ hstop
    exact proceeds_serving hbefore (hserving hbefore) hproceeds
  · obtain ⟨hdiverts, hkept⟩ := step_diverts haction h
    have hbefore := hserving (hkept hstop)
    cases hdiverts with
    | stay hpc =>
      rw [hpc]
      exact hbefore
    | halted hset _ =>
      rw [hset] at hstop
      cases hstop
    | failed loop item rest hat hpc =>
      rw [hat] at hbefore
      rw [hpc]
      rcases hbefore with rfl | rfl <;> trivial
    | exited hpc | closed hpc =>
      rw [hpc]
      exact fun heq => by cases heq
    | dropped hflush _ =>
      rcases hflush with hat | ⟨raised, hat⟩
      all_goals
        rw [hat] at hbefore
        exact hbefore.elim

theorem serving_run {state : State}
    (hrun : Relation.ReflTransGen (Deployed externals) (initial db) state) :
    state.stop = false → state.pc.Serving := by
  induction hrun with
  | refl => exact fun _ => trivial
  | tail _ hstep ih =>
    rcases hstep with ⟨action, hstep⟩ | rfl
    · exact serving_step ih hstep
    · exact fun _ => trivial

theorem returned_after_stop {state : State}
    (hrun : Relation.ReflTransGen (Deployed externals) (initial db) state) (hpc : state.pc = .returned) :
    state.stop = true := by
  cases hstop : state.stop with
  | true => rfl
  | false =>
    have hserving := serving_run hrun hstop
    rw [hpc] at hserving
    exact hserving.elim

/-! ### What ends the service -/

/-- However often the broker and the database fail, the service ends only when a
    stop is requested, or on an acked message whose `measured_at` no datetime of
    UTC can hold. -/
theorem ends_on_stop_or_overflow (externals : Externals) (db : Database) {state : State}
    (hrun : Relation.ReflTransGen (Deployed externals) (initial db) state) :
    (state.pc = .returned → state.stop = true) ∧
    ∀ error, state.pc = .crashed error → error = out_of_range ∧
      ∃ item ∈ state.acked, (device_id_from_topic item.1).isSome ∧ MeasuredAtOverflows externals item.2 :=
  ⟨returned_after_stop hrun, fun _ hpc => crash_blamed hrun hpc⟩

/-- The exception that has ended `run`. -/
def Pc.crash : Pc → Option PyError
  | .crashed error => some error
  | _ => none

theorem Pc.crash_eq_some {pc : Pc} {error : PyError} (h : pc.crash = some error) : pc = .crashed error := by
  unfold Pc.crash at h
  split at h
  · cases h
    rfl
  · cases h

/-- A dead letter, and then a reading of a device whose clock is at the start of
    the calendar. -/
def clock_at_the_start : List Action :=
  -- connect, subscribe, wait
  List.replicate 6 .proceed ++ [.deliver (stray 1),
    .deliver ("planter/v1/planter-00/telemetry", first_hour_payload)] ++
  -- handle the dead letter, start with the reading, leave both contexts
  List.replicate 9 .proceed

theorem ends_on_stop_or_overflow_clock :
    ∃ state : State, state.pc = .crashed out_of_range ∧ state.acked.length = 2 ∧
      ∃ item ∈ state.acked, (device_id_from_topic item.1).isSome ∧
        MeasuredAtOverflows first_hour_reader item.2 := by
  have hrun : (steps first_hour_reader (fun _ _ => true) clock_at_the_start (initial .fresh)).any
      (fun state => state.pc.crash.isSome && state.acked.length = 2) = true := by decide +kernel
  obtain ⟨state, hsteps, hstate⟩ := (Option.any_eq_true _ _).mp hrun
  obtain ⟨hcrash, hacked⟩ := Bool.and_eq_true_iff.mp hstate
  obtain ⟨error, hcrash⟩ := Option.isSome_iff_exists.mp hcrash
  have hpc := Pc.crash_eq_some hcrash
  have hreached : Relation.ReflTransGen (Deployed first_hour_reader) (initial .fresh) state :=
    (reachable_of_steps hsteps).lift id fun _ _ hallowed => .inl (hallowed.imp fun _ h => h.2)
  obtain ⟨rfl, hitem⟩ := (ends_on_stop_or_overflow first_hour_reader .fresh hreached).2 error hpc
  exact ⟨state, hpc, of_decide_eq_true hacked, hitem⟩

end planter_telemetry.ingestion.service
