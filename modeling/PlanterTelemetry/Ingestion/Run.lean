import PlanterTelemetry.Ingestion.Handle

open planter_telemetry.python planter_telemetry.contract planter_telemetry.migrations
open planter_telemetry.ingestion.core planter_telemetry.ingestion.db

namespace planter_telemetry.ingestion.service

/-- The loops that call `_handle_one`: the replay of `pending` after a
    reconnect, the consumption of new messages, the drain of the client's queue
    on stop, and the final flush. -/
inductive Loop where
  | replay
  | consume
  | drain
  | flush
  deriving DecidableEq

/-- How the client context and the writer are left: without an exception, with
    one the reconnect handler catches, or with any other. -/
inductive Leaving where
  | normally
  | caught
  | escaping (error : PyError)

/-- Where `run` stands. `handling` carries what is left of the call, and
    `flush_closing` whether the flush raised. -/
inductive Pc where
  | top
  | connecting
  | entering
  | subscribing
  | replaying
  | consuming
  | waiting
  | draining
  | handling (loop : Loop) (item : Item) (rest : Handler Unit)
  | salvaging
  | exiting (leaving : Leaving)
  | closing (leaving : Leaving)
  | backoff
  | final
  | flush_connecting
  | flushing
  | flush_closing (raised : Bool)
  | returned
  | crashed (error : PyError)

/-- A state of `run` and its surroundings. `memory` is what `_handle_one` reads and
    writes, `buffer` is the live client's FIFO
    of acked messages, `acked` every message acked so far, and `dropped` the
    count logged as `acked_messages_dropped`. -/
structure State where
  memory : Service
  pending : List Item
  buffer : Option (List Item)
  connected : Bool
  stop : Bool
  acked : List Item
  dropped : Option Nat
  pc : Pc

/-- The start of `run` on a given database. -/
def initial (db : Database) : State where
  memory := ⟨db, {}, fun _ => none⟩
  pending := []
  buffer := none
  connected := false
  stop := false
  acked := []
  dropped := none
  pc := .top

namespace State

/-- The messages in the live client's buffer. -/
def buffered (state : State) : List Item := state.buffer.getD []

def goto (state : State) (pc : Pc) : State := { state with pc := pc }

/-- Leaving the client context discards its buffer. -/
def discard_client (state : State) (leaving : Leaving) : State :=
  { state with buffer := none, connected := false, pc := .closing leaving }

/-- `logger.error("acked_messages_dropped", extra={"count": len(pending)})`. -/
def report_dropped (state : State) : State :=
  { state with dropped := some state.pending.length, pc := .returned }

end State

/-- The head of a loop, where it goes on after `pending.popleft()`. -/
def Loop.head : Loop → Pc
  | .replay => .replaying
  | .consume => .consuming
  | .drain => .draining
  | .flush => .flushing

/-- Where an exception of the database takes a loop. -/
def Loop.on_operational_error : Loop → Pc
  | .flush => .flush_closing true
  | _ => .salvaging

/-- Where an exception of the message takes a loop: nothing in `run` catches it
    but the `except Exception` of the final flush. -/
def Loop.on_error (error : PyError) : Loop → Pc
  | .flush => .flush_closing true
  | _ => .exiting (.escaping error)

/-- What can happen next: the service goes on, `_next_message` notices stop (the
    `anext` it cancels may have taken a message already), a statement or
    connection of the database fails (for the flush also by its timeout), the
    MQTT client raises, or something happens outside. -/
inductive Action where
  | proceed
  | halt (dequeued : Bool)
  | operational_error (took_effect : Bool)
  | mqtt_error
  | deliver (item : Item)
  | disconnect
  | set_stop

variable (externals : Externals)

/-- Start handling an item. -/
def State.handle (state : State) (loop : Loop) (item : Item) : State :=
  state.goto (.handling loop item (handle_one externals item))

/-- `message = await anext(messages)` and `pending.append(item)`, for the oldest
    message of the buffer. -/
def State.take (state : State) (item : Item) (rest : List Item) : State :=
  { state with buffer := some rest, pending := state.pending ++ [item] }

def proceed (state : State) : Option State :=
  match state.pc with
  | .top => some (state.goto (if state.stop then .final else .connecting))
  | .connecting => some (state.goto .entering)
  | .entering => some { state with buffer := some [], connected := true, pc := .subscribing }
  | .subscribing => some (state.goto .replaying)
  | .replaying =>
    match state.pending with
    | item :: _ =>
      some (if state.stop then state.goto .consuming else state.handle externals .replay item)
    | [] => some (state.goto .consuming)
  | .consuming => some (state.goto (if state.stop then .draining else .waiting))
  | .waiting =>
    match state.buffered with
    | item :: rest => some ((state.take item rest).handle externals .consume item)
    | [] => none
  | .draining =>
    match state.buffered with
    | item :: rest => some ((state.take item rest).handle externals .drain item)
    | [] => some (state.goto (.exiting .normally))
  | .handling loop _ (.ret ()) =>
    some { state with pending := state.pending.tail, pc := loop.head }
  | .handling loop _ (.raise error) => some (state.goto (loop.on_error error))
  | .handling loop item (.exec effect next) =>
    let (memory, response) := perform effect state.memory
    some { state with memory := memory, pc := .handling loop item (next response) }
  | .salvaging =>
    match state.buffered with
    | item :: rest => some (state.take item rest)
    | [] => some (state.goto (.exiting .caught))
  | .exiting leaving => some (state.discard_client leaving)
  | .closing .normally => some (state.goto .top)
  | .closing .caught => some (state.goto (if state.stop then .final else .backoff))
  -- the deque goes with the frame of `run`
  | .closing (.escaping error) => some { state with pending := [], pc := .crashed error }
  | .backoff => some (state.goto .top)
  | .final =>
    some (state.goto (if state.pending = [] then .returned else .flush_connecting))
  | .flush_connecting => some (state.goto .flushing)
  | .flushing =>
    match state.pending with
    | item :: _ => some (state.handle externals .flush item)
    | [] => some (state.goto (.flush_closing false))
  | .flush_closing raised => some (if raised then state.report_dropped else state.goto .returned)
  | .returned | .crashed _ => none

/-- `_next_message` returns `None`. A message that the cancelled `anext` has taken
    from the buffer by then goes nowhere. -/
def halt (dequeued : Bool) (state : State) : Option State :=
  match state.pc with
  | .waiting =>
    if state.stop then
      if dequeued then
        match state.buffered with
        | _ :: rest => some { state with buffer := some rest, pc := .draining }
        | [] => none
      else some (state.goto .draining)
    else none
  | _ => none

/-- `psycopg.OperationalError`, at the places that await the database. -/
def operational_error (took_effect : Bool) (state : State) : Option State :=
  match state.pc with
  | .connecting => some (state.goto (.closing .caught))
  | .handling loop _ (.exec effect _) =>
    if effect.awaited then
      let memory := if took_effect then (perform effect state.memory).1 else state.memory
      some { state with memory := memory, pc := loop.on_operational_error }
    else none
  | .flush_connecting | .flush_closing _ => some state.report_dropped
  | _ => none

/-- `aiomqtt.MqttError`, at the places that await the client. Iteration raises
    it only with an empty buffer. -/
def mqtt_error (state : State) : Option State :=
  match state.pc with
  | .entering => some (state.goto (.closing .caught))
  | .subscribing => some (state.goto (.exiting .caught))
  | .waiting =>
    if state.buffered = [] ∧ state.connected = false then some (state.goto (.exiting .caught))
    else none
  | .exiting _ => some (state.discard_client .caught)
  | _ => none

/-- One step. The broker may deliver at any point where a client is connected:
    a delivery between two awaits is one at the earlier of them. -/
def step (state : State) : Action → Option State
  | .proceed => proceed externals state
  | .halt dequeued => halt dequeued state
  | .operational_error took_effect => operational_error took_effect state
  | .mqtt_error => mqtt_error state
  | .deliver item =>
    match state.buffer with
    | some buffered =>
      if state.connected then
        some { state with buffer := some (buffered ++ [item]), acked := state.acked ++ [item] }
      else none
    | none => none
  | .disconnect => some { state with connected := false }
  | .set_stop => some { state with stop := true }

/-! ### What a step can do -/

/-- Where `run` goes on without doing anything else. -/
inductive Turns (state : State) : Pc → Pc → Prop
  | begin (hstop : state.stop = false) : Turns state .top .connecting
  | end_loop (hstop : state.stop = true) : Turns state .top .final
  | connected : Turns state .connecting .entering
  | subscribed : Turns state .subscribing .replaying
  | replayed (hdone : state.pending = [] ∨ state.stop = true) : Turns state .replaying .consuming
  | wait (hstop : state.stop = false) : Turns state .consuming .waiting
  | drain (hstop : state.stop = true) : Turns state .consuming .draining
  | drained (hbuffered : state.buffered = []) : Turns state .draining (.exiting .normally)
  | salvaged (hbuffered : state.buffered = []) : Turns state .salvaging (.exiting .caught)
  | raised (loop : Loop) (item : Item) (error : PyError) :
    Turns state (.handling loop item (.raise error)) (loop.on_error error)
  | closed : Turns state (.closing .normally) .top
  | back_off (hstop : state.stop = false) : Turns state (.closing .caught) .backoff
  | give_up (hstop : state.stop = true) : Turns state (.closing .caught) .final
  | waited : Turns state .backoff .top
  | finish (hpending : state.pending = []) : Turns state .final .returned
  | flush (hpending : state.pending ≠ []) : Turns state .final .flush_connecting
  | flush_connected : Turns state .flush_connecting .flushing
  | flushed (hpending : state.pending = []) : Turns state .flushing (.flush_closing false)
  | flush_closed : Turns state (.flush_closing false) .returned

/-- Where a loop over `pending` or over the buffer gets its next message. -/
inductive Loop.Resumes : Loop → Pc → Prop
  | replay : Loop.Resumes .replay .replaying
  | flush : Loop.Resumes .flush .flushing

inductive Loop.Takes : Loop → Pc → Prop
  | consume : Loop.Takes .consume .waiting
  | drain : Loop.Takes .drain .draining

/-- What the service does by itself. -/
inductive Proceeds (before : State) : State → Prop
  | turned {pc pc' : Pc} (hat : before.pc = pc) (hturns : Turns before pc pc') :
    Proceeds before (before.goto pc')
  | entered (hat : before.pc = .entering) :
    Proceeds before { before with buffer := some [], connected := true, pc := .subscribing }
  | resumed {loop : Loop} {item : Item} (hloop : loop.Resumes before.pc)
    (hpending : before.pending.head? = some item) :
    Proceeds before (before.handle externals loop item)
  | took {loop : Loop} {item : Item} {rest : List Item} (hloop : loop.Takes before.pc)
    (hbuffered : before.buffered = item :: rest) :
    Proceeds before ((before.take item rest).handle externals loop item)
  | salvaged {item : Item} {rest : List Item} (hat : before.pc = .salvaging)
    (hbuffered : before.buffered = item :: rest) : Proceeds before (before.take item rest)
  | handled {loop : Loop} {item : Item} (hat : before.pc = .handling loop item (.ret ())) :
    Proceeds before { before with pending := before.pending.tail, pc := loop.head }
  | executed {loop : Loop} {item : Item} {effect : Effect} {next : effect.Response → Handler Unit}
    (hat : before.pc = .handling loop item (.exec effect next)) :
    Proceeds before { before with
      memory := (perform effect before.memory).1
      pc := .handling loop item (next (perform effect before.memory).2) }
  | left {leaving : Leaving} (hat : before.pc = .exiting leaving) :
    Proceeds before (before.discard_client leaving)
  | crashed {error : PyError} (hat : before.pc = .closing (.escaping error)) :
    Proceeds before { before with pending := [], pc := .crashed error }
  | dropped (hat : before.pc = .flush_closing true) : Proceeds before before.report_dropped

theorem proceeds {before after : State} (h : proceed externals before = some after) :
    Proceeds externals before after := by
  unfold proceed at h
  cases hat : before.pc with
  | top =>
    simp only [hat, Option.some.injEq] at h
    subst h
    split
    · next hstop => exact .turned hat (.end_loop hstop)
    · next hstop => exact .turned hat (.begin (Bool.not_eq_true _ ▸ hstop))
  | connecting =>
    simp only [hat, Option.some.injEq] at h
    exact h ▸ .turned hat .connected
  | entering =>
    simp only [hat, Option.some.injEq] at h
    exact h ▸ .entered hat
  | subscribing =>
    simp only [hat, Option.some.injEq] at h
    exact h ▸ .turned hat .subscribed
  | replaying =>
    simp only [hat] at h
    split at h
    · next item rest hpending =>
      cases h
      split
      · next hstop => exact .turned hat (.replayed (.inr hstop))
      · exact .resumed (hat ▸ .replay) (hpending ▸ rfl)
    · next hpending =>
      cases h
      exact .turned hat (.replayed (.inl hpending))
  | consuming =>
    simp only [hat, Option.some.injEq] at h
    subst h
    split
    · next hstop => exact .turned hat (.drain hstop)
    · next hstop => exact .turned hat (.wait (Bool.not_eq_true _ ▸ hstop))
  | waiting =>
    simp only [hat] at h
    split at h
    · next item rest hbuffered =>
      cases h
      exact .took (hat ▸ .consume) hbuffered
    · cases h
  | draining =>
    simp only [hat] at h
    split at h
    · next item rest hbuffered =>
      cases h
      exact .took (hat ▸ .drain) hbuffered
    · next hbuffered =>
      cases h
      exact .turned hat (.drained hbuffered)
  | handling loop item rest =>
    cases rest with
    | ret value =>
      simp only [hat, Option.some.injEq] at h
      exact h ▸ .handled hat
    | raise error =>
      simp only [hat, Option.some.injEq] at h
      exact h ▸ .turned hat (.raised loop item error)
    | exec effect next =>
      simp only [hat, Option.some.injEq] at h
      exact h ▸ .executed hat
  | salvaging =>
    simp only [hat] at h
    split at h
    · next item rest hbuffered =>
      cases h
      exact .salvaged hat hbuffered
    · next hbuffered =>
      cases h
      exact .turned hat (.salvaged hbuffered)
  | exiting leaving =>
    simp only [hat, Option.some.injEq] at h
    exact h ▸ .left hat
  | closing leaving =>
    cases leaving with
    | normally =>
      simp only [hat, Option.some.injEq] at h
      exact h ▸ .turned hat .closed
    | caught =>
      simp only [hat, Option.some.injEq] at h
      subst h
      split
      · next hstop => exact .turned hat (.give_up hstop)
      · next hstop => exact .turned hat (.back_off (Bool.not_eq_true _ ▸ hstop))
    | escaping error =>
      simp only [hat, Option.some.injEq] at h
      exact h ▸ .crashed hat
  | backoff =>
    simp only [hat, Option.some.injEq] at h
    exact h ▸ .turned hat .waited
  | final =>
    simp only [hat, Option.some.injEq] at h
    subst h
    split
    · next hpending => exact .turned hat (.finish hpending)
    · next hpending => exact .turned hat (.flush hpending)
  | flush_connecting =>
    simp only [hat, Option.some.injEq] at h
    exact h ▸ .turned hat .flush_connected
  | flushing =>
    simp only [hat] at h
    split at h
    · next item rest hpending =>
      cases h
      exact .resumed (hat ▸ .flush) (hpending ▸ rfl)
    · next hpending =>
      cases h
      exact .turned hat (.flushed hpending)
  | flush_closing raised =>
    cases raised with
    | true =>
      simp only [hat, if_true, Option.some.injEq] at h
      exact h ▸ .dropped hat
    | false =>
      simp only [hat, Bool.false_eq_true, if_false, Option.some.injEq] at h
      exact h ▸ .turned hat .flush_closed
  | returned | crashed =>
    simp only [hat] at h
    cases h

/-- What any step can do. -/
inductive Stepped (before : State) : Action → State → Prop
  | proceeded {after : State} (hproceeds : Proceeds externals before after) : Stepped before .proceed after
  | halted (hat : before.pc = .waiting) (hstop : before.stop = true) :
    Stepped before (.halt false) (before.goto .draining)
  | halted_late {item : Item} {rest : List Item} (hat : before.pc = .waiting) (hstop : before.stop = true)
    (hbuffered : before.buffered = item :: rest) :
    Stepped before (.halt true) { before with buffer := some rest, pc := .draining }
  | connect_failed {took_effect : Bool} (hat : before.pc = .connecting) :
    Stepped before (.operational_error took_effect) (before.goto (.closing .caught))
  | statement_failed {took_effect : Bool} {loop : Loop} {item : Item} {effect : Effect}
    {next : effect.Response → Handler Unit} (hat : before.pc = .handling loop item (.exec effect next))
    (hawaited : effect.awaited = true) :
    Stepped before (.operational_error took_effect) { before with
      memory := if took_effect then (perform effect before.memory).1 else before.memory
      pc := loop.on_operational_error }
  | flush_failed {took_effect : Bool}
    (hat : before.pc = .flush_connecting ∨ ∃ raised, before.pc = .flush_closing raised) :
    Stepped before (.operational_error took_effect) before.report_dropped
  | enter_failed (hat : before.pc = .entering) : Stepped before .mqtt_error (before.goto (.closing .caught))
  | subscribe_failed (hat : before.pc = .subscribing) :
    Stepped before .mqtt_error (before.goto (.exiting .caught))
  | disconnected_empty (hat : before.pc = .waiting) (hbuffered : before.buffered = []) :
    Stepped before .mqtt_error (before.goto (.exiting .caught))
  | exit_failed {leaving : Leaving} (hat : before.pc = .exiting leaving) :
    Stepped before .mqtt_error (before.discard_client .caught)
  | delivered {item : Item} {buffered : List Item} (hbuffer : before.buffer = some buffered) :
    Stepped before (.deliver item)
      { before with buffer := some (buffered ++ [item]), acked := before.acked ++ [item] }
  | disconnected : Stepped before .disconnect { before with connected := false }
  | stop_set : Stepped before .set_stop { before with stop := true }

theorem stepped {before after : State} {action : Action} (h : step externals before action = some after) :
    Stepped externals before action after := by
  cases action with
  | proceed => exact .proceeded (proceeds externals h)
  | halt dequeued =>
    simp only [step, halt] at h
    split at h
    · next hat =>
      split at h
      · next hstop =>
        cases dequeued with
        | false =>
          cases h
          exact .halted hat hstop
        | true =>
          simp only [if_true] at h
          split at h
          · next item rest hbuffered =>
            cases h
            exact .halted_late hat hstop hbuffered
          · cases h
      · cases h
    · cases h
  | operational_error took_effect =>
    simp only [step, operational_error] at h
    split at h
    · next hat =>
      cases h
      exact .connect_failed hat
    · next loop item effect next hat =>
      split at h
      · next hawaited =>
        cases h
        exact .statement_failed hat hawaited
      · cases h
    · next hat =>
      cases h
      exact .flush_failed (.inl hat)
    · next raised hat =>
      cases h
      exact .flush_failed (.inr ⟨raised, hat⟩)
    · cases h
  | mqtt_error =>
    simp only [step, mqtt_error] at h
    split at h
    · next hat =>
      cases h
      exact .enter_failed hat
    · next hat =>
      cases h
      exact .subscribe_failed hat
    · next hat =>
      split at h
      · next hempty =>
        cases h
        exact .disconnected_empty hat hempty.1
      · cases h
    · next leaving hat =>
      cases h
      exact .exit_failed hat
    · cases h
  | deliver item =>
    simp only [step] at h
    split at h
    · next buffered hbuffer =>
      split at h
      · cases h
        exact .delivered hbuffer
      · cases h
    · cases h
  | disconnect =>
    cases h
    exact .disconnected
  | set_stop =>
    cases h
    exact .stop_set

end planter_telemetry.ingestion.service
