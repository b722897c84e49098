import PlanterTelemetry.Library.Trace
import PlanterTelemetry.Simulator.Agreement

open planter_telemetry.python planter_telemetry.contract
open planter_telemetry.simulator.stream planter_telemetry.simulator.wire

namespace planter_telemetry.simulator.publisher

/-! ### What `run` asks of its surroundings -/

/-- The settings of `run`: those of the streams, and where and how fast to publish
    them. -/
structure PublisherSettings extends SimulatorSettings where
  seed : Int
  acceleration : { factor : ℚ // 0 < factor }
  mqtt_host : String
  mqtt_port : { port : Nat // 1 ≤ port ∧ port ≤ 65535 }
  heartbeat_path : String

/-- A line of the log, with its `extra`. -/
inductive Line where
  | starting (device_count : Nat) (seed : Int) (acceleration interval_seconds : ℚ)
  | broker_wait (host : String) (port attempt attempts : Nat)
  | heartbeat_failed (path error : String)
  | publish_failed (topic error : String)
  | publish (topic : String) (emission : Emission)
  deriving DecidableEq

/-- A message as it is handed to the client, and why the client does not take it,
    if it does not. -/
structure Sent where
  time : ℚ
  topic : String
  payload : List UInt8
  error : Option String
  deriving DecidableEq

inductive Effect where
  | connect
  | loop_start
  | sleep (seconds : ℚ)
  | touch
  | get_heartbeat_warned
  | set_heartbeat_warned
  | log (line : Line)
  | wall_start
  | monotonic
  | publish (topic : String) (payload : List UInt8)
  | is_connected

/-- `connect` raises an OSError or not, and so does `touch`, with its text. Of a
    publish it is the `error_string` of its `rc`, unless that is success. -/
abbrev Effect.Response : Effect → Type
  | .connect | .get_heartbeat_warned | .is_connected => Bool
  | .touch | .publish _ _ => Option String
  | .wall_start | .monotonic => ℚ
  | .loop_start | .sleep _ | .set_heartbeat_warned | .log _ => Unit

/-- What can be observed of a run. -/
inductive Event where
  | connect (accepted : Bool)
  | touch (error : Option String)
  | log (line : Line)
  | wall_start (time : ℚ)
  | publish (sent : Sent)
  | is_connected (connected : Bool)
  deriving DecidableEq

structure World where
  clock : ℚ
  heartbeat_warned : Bool
  asked : Nat
  trace : List Event

def World.initial (clock : ℚ) : World := ⟨clock, false, 0, []⟩

/-- What comes of each thing asked: how long it takes, how much longer a sleep
    takes than it was asked to, and the answers of the broker, the client and the
    file system. -/
structure Surroundings where
  elapsed : Nat → { seconds : ℚ // 0 ≤ seconds }
  overslept : Nat → { seconds : ℚ // 0 ≤ seconds }
  connects : Nat → Bool
  touch_error : Nat → Option String
  publish_error : Nat → Option String
  connected : Nat → Bool

/-- Something was asked, and time has passed. -/
def World.pass (around : Surroundings) (world : World) : World :=
  { world with clock := world.clock + (around.elapsed world.asked).val, asked := world.asked + 1 }

def World.note (world : World) (event : Event) : World := { world with trace := world.trace ++ [event] }

def perform (around : Surroundings) : Program.Semantics Effect.Response World
  | .connect, world =>
    let accepted := around.connects world.asked
    ((world.pass around).note (.connect accepted), accepted)
  | .loop_start, world => (world.pass around, ())
  | .sleep seconds, world =>
    let passed := world.pass around
    ({ passed with clock := passed.clock + (seconds + (around.overslept world.asked).val) }, ())
  | .touch, world =>
    let error := around.touch_error world.asked
    ((world.pass around).note (.touch error), error)
  | .get_heartbeat_warned, world => (world, world.heartbeat_warned)
  | .set_heartbeat_warned, world => ({ world with heartbeat_warned := true }, ())
  | .log line, world => ((world.pass around).note (.log line), ())
  | .wall_start, world => ((world.pass around).note (.wall_start world.clock), world.clock)
  | .monotonic, world => (world.pass around, world.clock)
  | .publish topic payload, world =>
    let error := around.publish_error world.asked
    ((world.pass around).note (.publish ⟨world.clock, topic, payload, error⟩), error)
  | .is_connected, world =>
    let connected := around.connected world.asked
    ((world.pass around).note (.is_connected connected), connected)

inductive RunError where
  | os_error
  | unreachable
  | key_error
  deriving DecidableEq

abbrev Publisher := Program Effect.Response RunError

def connect : Publisher Bool := Program.perform Effect.connect
def loop_start : Publisher Unit := Program.perform Effect.loop_start
def sleep (seconds : ℚ) : Publisher Unit := Program.perform (Effect.sleep seconds)
def touch : Publisher (Option String) := Program.perform Effect.touch
def get_heartbeat_warned : Publisher Bool := Program.perform Effect.get_heartbeat_warned
def set_heartbeat_warned : Publisher Unit := Program.perform Effect.set_heartbeat_warned
def log (line : Line) : Publisher Unit := Program.perform (Effect.log line)
def read_wall_start : Publisher ℚ := Program.perform Effect.wall_start
def monotonic : Publisher ℚ := Program.perform Effect.monotonic
def is_connected : Publisher Bool := Program.perform Effect.is_connected

def publish (topic : String) (payload : List UInt8) : Publisher (Option String) :=
  Program.perform (Effect.publish topic payload)

/-! ### `connect_with_retry` and `run` -/

section Run

variable (settings : PublisherSettings) (texts : Texts)

/-- The turns of the loop of `connect_with_retry`. -/
def connect_attempts (attempts : Nat) (delay_seconds : ℚ) : List Nat → Publisher Unit
  | [] => .raise .unreachable
  | attempt :: rest => do
    if ← connect then loop_start
    else if attempt = attempts then .raise .os_error
    else do
      log (.broker_wait settings.mqtt_host settings.mqtt_port.val attempt attempts)
      sleep delay_seconds
      connect_attempts attempts delay_seconds rest

def connect_with_retry (attempts : Nat) (delay_seconds : ℚ) : Publisher Unit :=
  connect_attempts settings attempts delay_seconds ((List.range attempts).map (· + 1))

/-- An unwritable path logs once and never kills publishing. -/
def beat : Publisher Unit := do
  match ← touch with
  | none => .ret ()
  | some error =>
    if ← get_heartbeat_warned then .ret ()
    else do
      set_heartbeat_warned
      log (.heartbeat_failed settings.heartbeat_path error)

/-- When an emission is due, in seconds since `wall_start`. -/
def wall_target (anchor : UtcDatetime) (emission : Emission) : ℚ :=
  total_seconds (emission.publish_at.micros - anchor.micros) / settings.acceleration.val

/-- What the loop of `run` does with an emission that is due. -/
def hand_over (emission : Emission) : Publisher Unit := do
  let payload ← Program.lift ((published texts emission).elim (.error .key_error) .ok)
  let topic := telemetry_topic emission.reading.device_id.val
  match ← publish topic payload with
  | some error => log (.publish_failed topic error)
  | none =>
    if ← is_connected then beat settings
    log (.publish topic emission)

/-- The body of the loop of `run`. -/
def emit (anchor : UtcDatetime) (wall_start : ℚ) (emission : Emission) : Publisher Unit := do
  let now ← monotonic
  let sleep_for := wall_target settings anchor emission - (now - wall_start)
  if 0 < sleep_for then sleep sleep_for
  hand_over settings texts emission

/-- `run`, as far as the stream has gone when it is interrupted. -/
def run (anchor : UtcDatetime) (emissions : List Emission) : Publisher Unit := do
  log (.starting settings.device_count.val settings.seed settings.acceleration.val settings.interval_seconds.val)
  connect_with_retry settings 30 1
  beat settings
  let wall_start ← read_wall_start
  Program.forEach emissions (emit settings texts anchor wall_start)

end Run

/-! ### The phases of a run -/

def sent (trace : List Event) : List Sent :=
  trace.filterMap fun
    | .publish own => some own
    | _ => none

/-- A message is what the publisher makes of an emission. -/
structure Carries (texts : Texts) (emission : Emission) (own : Sent) : Prop where
  topic : own.topic = telemetry_topic emission.reading.device_id.val
  payload : published texts emission = some own.payload

/-- How often `connect` was tried. -/
def tries (trace : List Event) : Nat :=
  trace.countP fun
    | .connect _ => true
    | _ => false

/-- The loop of `run`: when it began, whether a failed heartbeat was logged, and how
    many emissions are dealt with. -/
structure Turn where
  wall_start : ℚ
  warned : Bool
  count : Nat

/-- Where a run stands between two events. -/
inductive Phase where
  | begun
  | connecting (tried : Nat)
  | refused (tried : Nat)
  | connected
  | missed (error : String)
  | ready (warned : Bool)
  | between (turn : Turn)
  | handed (turn : Turn) (own : Sent)
  | alive (turn : Turn) (own : Sent)
  | missing (turn : Turn) (own : Sent) (error : String)
  | told (turn : Turn) (own : Sent)

def Turn.warn (turn : Turn) : Turn := { turn with warned := true }
def Turn.next (turn : Turn) : Turn := { turn with count := turn.count + 1 }

/-- What can happen in each phase, and nothing else can. `connect` is tried thirty
    times, each failure but the last is logged, and then the heartbeat is touched
    once before the loop begins. In the loop the next message is the next emission
    when its time has come. If the client refuses it, that is logged; else the
    heartbeat is touched if the client is connected, and the message is logged. Of
    the touches that fail the first is logged. -/
inductive Step (settings : PublisherSettings) (texts : Texts) (anchor : UtcDatetime) (emissions : List Emission) :
    Phase → Event → Phase → Prop
  | starting : Step settings texts anchor emissions .begun
      (.log (.starting settings.device_count.val settings.seed settings.acceleration.val
        settings.interval_seconds.val)) (.connecting 0)
  | connect {tried : Nat} : tried < 30 →
      Step settings texts anchor emissions (.connecting tried) (.connect true) .connected
  | refuse {tried : Nat} : tried < 30 →
      Step settings texts anchor emissions (.connecting tried) (.connect false) (.refused (tried + 1))
  | wait {tried : Nat} : tried < 30 → Step settings texts anchor emissions (.refused tried)
      (.log (.broker_wait settings.mqtt_host settings.mqtt_port.val tried 30)) (.connecting tried)
  | first_beat : Step settings texts anchor emissions .connected (.touch none) (.ready false)
  | first_miss (error : String) :
      Step settings texts anchor emissions .connected (.touch (some error)) (.missed error)
  | first_warn {error : String} : Step settings texts anchor emissions (.missed error)
      (.log (.heartbeat_failed settings.heartbeat_path error)) (.ready true)
  | begin {warned : Bool} (wall_start : ℚ) : Step settings texts anchor emissions (.ready warned)
      (.wall_start wall_start) (.between ⟨wall_start, warned, 0⟩)
  | publish {turn : Turn} {emission : Emission} {own : Sent} : emissions[turn.count]? = some emission →
      Carries texts emission own → turn.wall_start + wall_target settings anchor emission ≤ own.time →
      Step settings texts anchor emissions (.between turn) (.publish own) (.handed turn own)
  | fail {turn : Turn} {own : Sent} {error : String} : own.error = some error →
      Step settings texts anchor emissions (.handed turn own) (.log (.publish_failed own.topic error))
        (.between turn.next)
  | online {turn : Turn} {own : Sent} : own.error = none →
      Step settings texts anchor emissions (.handed turn own) (.is_connected true) (.alive turn own)
  | offline {turn : Turn} {own : Sent} : own.error = none →
      Step settings texts anchor emissions (.handed turn own) (.is_connected false) (.told turn own)
  | beat {turn : Turn} {own : Sent} :
      Step settings texts anchor emissions (.alive turn own) (.touch none) (.told turn own)
  | miss_again {turn : Turn} {own : Sent} (error : String) : turn.warned = true →
      Step settings texts anchor emissions (.alive turn own) (.touch (some error)) (.told turn own)
  | miss {turn : Turn} {own : Sent} (error : String) : turn.warned = false →
      Step settings texts anchor emissions (.alive turn own) (.touch (some error)) (.missing turn own error)
  | warn {turn : Turn} {own : Sent} {error : String} : Step settings texts anchor emissions
      (.missing turn own error) (.log (.heartbeat_failed settings.heartbeat_path error)) (.told turn.warn own)
  | tell {turn : Turn} {own : Sent} {emission : Emission} : emissions[turn.count]? = some emission →
      Step settings texts anchor emissions (.told turn own) (.log (.publish own.topic emission))
        (.between turn.next)

/-- A trace that leads to a phase. -/
abbrev LeadsTo (settings : PublisherSettings) (texts : Texts) (anchor : UtcDatetime) (emissions : List Emission)
    (trace : List Event) (phase : Phase) : Prop :=
  Log.Path (Step settings texts anchor emissions) .begun trace phase

@[simp] theorem sent_snoc (trace : List Event) (event : Event) :
    sent (trace ++ [event]) = sent trace ++ sent [event] := List.filterMap_append

@[simp] theorem tries_snoc (trace : List Event) (event : Event) :
    tries (trace ++ [event]) = tries trace + tries [event] := List.countP_append

/-- Every emission has a payload: an encoded reading is an object with an id. -/
theorem published_some (texts : Texts) (emission : Emission) :
    ∃ payload, published texts emission = some payload := by
  unfold published
  cases emission.corruption with
  | none => exact ⟨_, rfl⟩
  | some mode =>
    cases mode with
    | truncated => exact ⟨_, if_pos rfl⟩
    | wrong_type | missing_field =>
      dsimp only
      rw [corrupt, if_neg (by decide), loads_encoded]
      exact ⟨_, rfl⟩

theorem perform_traces (around : Surroundings) : Program.Traces (perform around) World.trace := by
  intro effect world
  cases effect with
  | connect | touch | log | wall_start | publish | is_connected => exact List.prefix_append _ _
  | loop_start | sleep | get_heartbeat_warned | set_heartbeat_warned | monotonic => exact List.prefix_refl _

section Perform

variable {α : Type} (around : Surroundings) (world : World)

@[simp] theorem run_connect_bind (next : Bool → Publisher α) :
    (connect.bind next).run (perform around) world =
      (next (around.connects world.asked)).run (perform around)
        ((world.pass around).note (.connect (around.connects world.asked))) := rfl

@[simp] theorem run_log_bind (line : Line) (next : Unit → Publisher α) :
    ((log line).bind next).run (perform around) world =
      (next ()).run (perform around) ((world.pass around).note (.log line)) := rfl

@[simp] theorem run_sleep_bind (seconds : ℚ) (next : Unit → Publisher α) :
    ((sleep seconds).bind next).run (perform around) world =
      (next ()).run (perform around) { world.pass around with
        clock := (world.pass around).clock + (seconds + (around.overslept world.asked).val) } := rfl

@[simp] theorem run_touch_bind (next : Option String → Publisher α) :
    (touch.bind next).run (perform around) world =
      (next (around.touch_error world.asked)).run (perform around)
        ((world.pass around).note (.touch (around.touch_error world.asked))) := rfl

@[simp] theorem run_get_heartbeat_warned_bind (next : Bool → Publisher α) :
    (get_heartbeat_warned.bind next).run (perform around) world =
      (next world.heartbeat_warned).run (perform around) world := rfl

@[simp] theorem run_wall_start_bind (next : ℚ → Publisher α) :
    (read_wall_start.bind next).run (perform around) world =
      (next world.clock).run (perform around) ((world.pass around).note (.wall_start world.clock)) := rfl

@[simp] theorem run_monotonic_bind (next : ℚ → Publisher α) :
    (monotonic.bind next).run (perform around) world =
      (next world.clock).run (perform around) (world.pass around) := rfl

@[simp] theorem run_publish_bind (topic : String) (payload : List UInt8) (next : Option String → Publisher α) :
    ((publish topic payload).bind next).run (perform around) world =
      (next (around.publish_error world.asked)).run (perform around)
        ((world.pass around).note (.publish ⟨world.clock, topic, payload, around.publish_error world.asked⟩)) :=
  rfl

@[simp] theorem run_is_connected_bind (next : Bool → Publisher α) :
    (is_connected.bind next).run (perform around) world =
      (next (around.connected world.asked)).run (perform around)
        ((world.pass around).note (.is_connected (around.connected world.asked))) := rfl

end Perform

section Phases

variable {settings : PublisherSettings} {texts : Texts} {anchor : UtcDatetime} {emissions : List Emission}
  {around : Surroundings} {world : World} {phase after : Phase} {event : Event} {trace : List Event}

/-! ### What a phase says about the trace -/

/-- The messages handed over so far. -/
def Phase.handed_over : Phase → Nat
  | .begun | .connecting _ | .refused _ | .connected | .missed _ | .ready _ => 0
  | .between turn => turn.count
  | .handed turn _ | .alive turn _ | .missing turn _ _ | .told turn _ => turn.count + 1

/-- The messages of a run are the first so many emissions. -/
theorem messages_of_path (h : LeadsTo settings texts anchor emissions trace phase) :
    (sent trace).length = phase.handed_over ∧
      List.Forall₂ (Carries texts) (emissions.take (sent trace).length) (sent trace) := by
  induction h with
  | nil => exact ⟨rfl, .nil⟩
  | @snoc trace event before after hearlier hstep ih =>
    obtain ⟨hlength, hcarries⟩ := ih
    rw [sent_snoc]
    cases hstep with
    | @publish turn emission own hemission hown hdue =>
      have hcount : (sent trace ++ sent [.publish own]).length = (sent trace).length + 1 := List.length_append
      rw [hcount, hlength]
      refine ⟨rfl, ?_⟩
      rw [hlength] at hcarries
      rw [List.take_add_one, show emissions[(Phase.between turn).handed_over]? = some emission from hemission]
      exact List.rel_append hcarries (.cons hown .nil)
    | starting | connect | refuse | wait | first_beat | first_miss | first_warn | begin | fail | online
      | offline | beat | miss_again | miss | warn | tell =>
      rw [show sent [_] = [] from rfl, List.append_nil]
      exact ⟨hlength, hcarries⟩

/-- How often `connect` was tried, as far as a phase knows. -/
def Phase.Tried (tried : Nat) : Phase → Prop
  | .begun => tried = 0
  | .connecting own | .refused own => tried = own ∧ own ≤ 30
  | _ => tried ≤ 30

theorem tries_of_path (h : LeadsTo settings texts anchor emissions trace phase) : phase.Tried (tries trace) := by
  induction h with
  | nil => exact rfl
  | @snoc trace event before after hearlier hstep ih =>
    rw [tries_snoc]
    cases hstep with
    | starting => exact ⟨ih, Nat.zero_le 30⟩
    | connect htried =>
      show tries trace + 1 ≤ 30
      rw [ih.1]
      exact htried
    | refuse htried => exact ⟨congrArg (· + 1) ih.1, htried⟩
    | wait | first_beat | first_miss | first_warn | begin | publish | fail | online | offline | beat
      | miss_again | miss | warn | tell => exact ih

theorem Phase.Tried.le {tried : Nat} (h : phase.Tried tried) : tried ≤ 30 := by
  cases phase with
  | begun => exact h ▸ Nat.zero_le 30
  | connecting own | refused own => exact h.1 ▸ h.2
  | connected | missed | ready | between | handed | alive | missing | told => exact h

/-! ### A run goes from phase to phase -/

/-- The trace leads to a phase, and the flag tells whether a failed heartbeat has
    been logged. -/
structure At (settings : PublisherSettings) (texts : Texts) (anchor : UtcDatetime) (emissions : List Emission)
    (phase : Phase) (warned : Bool) (world : World) : Prop where
  path : LeadsTo settings texts anchor emissions world.trace phase
  flag : world.heartbeat_warned = warned

variable {warned : Bool}

theorem At.pass (h : At settings texts anchor emissions phase warned world) (around : Surroundings) :
    At settings texts anchor emissions phase warned (world.pass around) :=
  ⟨h.path, h.flag⟩

theorem At.note (h : At settings texts anchor emissions phase warned world)
    (hstep : Step settings texts anchor emissions phase event after) :
    At settings texts anchor emissions after warned (world.note event) :=
  ⟨h.path.snoc hstep, h.flag⟩

/-- A heartbeat that works, or that has failed before, goes to one phase; the first
    that fails is logged on the way to another. -/
theorem run_beat {beaten : Phase} {missing : String → Phase} {told : Phase} (around : Surroundings)
    (h : At settings texts anchor emissions phase warned world)
    (hbeat : Step settings texts anchor emissions phase (.touch none) beaten)
    (hagain : warned = true → ∀ error, Step settings texts anchor emissions phase (.touch (some error)) beaten)
    (hmiss : warned = false → ∀ error,
      Step settings texts anchor emissions phase (.touch (some error)) (missing error) ∧
        Step settings texts anchor emissions (missing error)
          (.log (.heartbeat_failed settings.heartbeat_path error)) told) :
    ∃ final, (beat settings).run (perform around) world = (final, .ok ()) ∧
      (At settings texts anchor emissions beaten warned final ∨
        At settings texts anchor emissions told true final) := by
  simp only [beat, Program.bind_eq, run_touch_bind]
  cases herror : around.touch_error world.asked with
  | none => exact ⟨_, rfl, .inl ((h.pass around).note hbeat)⟩
  | some error =>
    have hflag : ((world.pass around).note (.touch (some error))).heartbeat_warned = warned := h.flag
    simp only [run_get_heartbeat_warned_bind, hflag]
    cases hwarned : warned with
    | true =>
      rw [if_pos rfl]
      exact ⟨_, rfl, .inl (hwarned ▸ (h.pass around).note (hagain hwarned error))⟩
    | false =>
      obtain ⟨hmissing, htold⟩ := hmiss hwarned error
      have hmissed := (h.pass around).note hmissing
      rw [if_neg Bool.false_ne_true]
      exact ⟨_, rfl, .inr ⟨hmissed.path.snoc htold, rfl⟩⟩

/-- A turn of the loop is over: one emission more is dealt with. -/
def Dealt (settings : PublisherSettings) (texts : Texts) (anchor : UtcDatetime) (emissions : List Emission)
    (wall_start : ℚ) (count : Nat) (world : World) : Prop :=
  ∃ warned, At settings texts anchor emissions (.between ⟨wall_start, warned, count⟩) warned world

/-- What has become of a message is logged. -/
theorem At.tell {turn : Turn} {own : Sent} {emission : Emission}
    (h : At settings texts anchor emissions (.told turn own) turn.warned world)
    (hemission : emissions[turn.count]? = some emission) :
    ∃ final, (log (.publish own.topic emission)).run (perform around) world = (final, .ok ()) ∧
      Dealt settings texts anchor emissions turn.wall_start (turn.count + 1) final :=
  ⟨_, rfl, turn.warned, (h.pass around).note (.tell hemission)⟩

/-- An emission that is due is handed over, and no other. -/
theorem run_hand_over (turn : Turn) {emission : Emission}
    (h : At settings texts anchor emissions (.between turn) turn.warned world)
    (hemission : emissions[turn.count]? = some emission)
    (hdue : turn.wall_start + wall_target settings anchor emission ≤ world.clock) :
    ∃ final, (hand_over settings texts emission).run (perform around) world = (final, .ok ()) ∧
      Dealt settings texts anchor emissions turn.wall_start (turn.count + 1) final := by
  obtain ⟨payload, hpayload⟩ := published_some texts emission
  simp only [hand_over, hpayload, Option.elim_some, Program.bind_eq, Program.lift_ok, Program.ret_bind,
    run_publish_bind]
  obtain ⟨own, hown⟩ : ∃ own : Sent, own = ⟨world.clock, telemetry_topic emission.reading.device_id.val,
    payload, around.publish_error world.asked⟩ := ⟨_, rfl⟩
  have hcarries : Carries texts emission own := by
    subst hown
    exact ⟨rfl, hpayload⟩
  have htime : turn.wall_start + wall_target settings anchor emission ≤ own.time := by
    subst hown
    exact hdue
  have hhanded := (h.pass around).note (Step.publish hemission hcarries htime)
  rw [← hown]
  have htopic : telemetry_topic emission.reading.device_id.val = own.topic := by rw [hown]
  have herror : around.publish_error world.asked = own.error := by rw [hown]
  rw [htopic, herror]
  cases hrefused : own.error with
  | some error => exact ⟨_, rfl, turn.warned, (hhanded.pass around).note (.fail hrefused)⟩
  | none =>
    simp only [run_is_connected_bind]
    generalize around.connected ((world.pass around).note (.publish own)).asked = connected
    cases connected with
    | false =>
      rw [if_neg Bool.false_ne_true]
      exact ((hhanded.pass around).note (.offline hrefused)).tell hemission
    | true =>
      obtain ⟨beaten, hrun, hbeaten⟩ := run_beat around ((hhanded.pass around).note (.online hrefused)) .beat
        (fun hwarned error => .miss_again error hwarned) fun hwarned error => ⟨.miss error hwarned, .warn⟩
      rw [if_pos rfl, Program.run_bind_of_ok hrun]
      cases hbeaten with
      | inl hbeaten => exact hbeaten.tell hemission
      | inr hbeaten =>
        have htold : At settings texts anchor emissions (.told turn.warn own) turn.warn.warned beaten := hbeaten
        exact htold.tell hemission

/-- A turn of the loop waits until its emission is due. -/
theorem run_emit {wall_start : ℚ} {count : Nat} {emission : Emission}
    (h : Dealt settings texts anchor emissions wall_start count world)
    (hemission : emissions[count]? = some emission) :
    ∃ final, (emit settings texts anchor wall_start emission).run (perform around) world = (final, .ok ()) ∧
      Dealt settings texts anchor emissions wall_start (count + 1) final := by
  obtain ⟨warned, hbetween⟩ := h
  simp only [emit, Program.bind_eq, run_monotonic_bind]
  have hpassed := (around.elapsed world.asked).property
  split
  · next hearly =>
    rw [run_sleep_bind]
    refine run_hand_over ⟨wall_start, warned, count⟩ ⟨hbetween.path, hbetween.flag⟩ hemission ?_
    have hasleep := (around.elapsed (world.pass around).asked).property
    have hslept := (around.overslept (world.pass around).asked).property
    simp only [World.pass] at hasleep hslept ⊢
    linarith
  · next hlate =>
    refine run_hand_over ⟨wall_start, warned, count⟩ (hbetween.pass around) hemission ?_
    simp only [World.pass]
    linarith

theorem run_loop {wall_start : ℚ} (done : List Emission) {rest : List Emission}
    (hemissions : emissions = done ++ rest)
    (h : Dealt settings texts anchor emissions wall_start done.length world) :
    ∃ final, (Program.forEach rest (emit settings texts anchor wall_start)).run (perform around) world =
      (final, .ok ()) ∧ Dealt settings texts anchor emissions wall_start emissions.length final := by
  induction rest generalizing done world with
  | nil =>
    rw [List.append_nil] at hemissions
    exact ⟨world, rfl, hemissions ▸ h⟩
  | cons emission rest ih =>
    have hnext : emissions[done.length]? = some emission := by
      rw [hemissions, List.getElem?_append_right (Nat.le_refl _), Nat.sub_self]
      rfl
    obtain ⟨after, hrun, hafter⟩ := run_emit h hnext
    rw [Program.forEach, Program.run_bind_of_ok hrun]
    apply ih (done ++ [emission]) (by rw [hemissions, List.append_assoc]; rfl)
    rw [List.length_append]
    exact hafter

/-- `connect` is tried thirty times at most, then `OSError` is raised. -/
theorem run_connect_attempts (around : Surroundings) {tried : Nat} (left : Nat)
    (h : At settings texts anchor emissions (.connecting tried) false world) (hleft : tried + left = 30) :
    let result := (connect_attempts settings 30 1 (List.range' (tried + 1) left)).run (perform around) world
    (∃ phase, LeadsTo settings texts anchor emissions result.1.trace phase) ∧
      (result.2 = .ok () → At settings texts anchor emissions .connected false result.1) := by
  induction left generalizing tried world with
  | zero => exact ⟨⟨_, h.path⟩, fun hok => by cases hok⟩
  | succ left ih =>
    have htried : tried < 30 := by omega
    simp only [List.range'_succ, connect_attempts, Program.bind_eq, run_connect_bind]
    cases haccepted : around.connects world.asked with
    | true =>
      have hconnected := ((h.pass around).note (.connect htried)).pass around
      exact ⟨⟨_, hconnected.path⟩, fun _ => hconnected⟩
    | false =>
      have hrefused := (h.pass around).note (.refuse htried)
      rw [if_neg Bool.false_ne_true]
      split
      · exact ⟨⟨_, hrefused.path⟩, fun hok => by cases hok⟩
      · next hmore =>
        obtain ⟨hpath, hflag⟩ := ((hrefused.pass around).note (.wait (by omega))).pass around
        rw [run_log_bind, run_sleep_bind]
        exact ih ⟨hpath, hflag⟩ (by omega)

/-- A whole run goes from phase to phase, and one that ends has dealt with all
    emissions. -/
theorem phases_of_run (settings : PublisherSettings) (texts : Texts) (anchor : UtcDatetime)
    (emissions : List Emission) (around : Surroundings) (clock : ℚ) :
    let result := (run settings texts anchor emissions).run (perform around) (.initial clock)
    (∃ phase, LeadsTo settings texts anchor emissions result.1.trace phase) ∧
      (result.2 = .ok () → ∃ wall_start, Dealt settings texts anchor emissions wall_start emissions.length
        result.1) := by
  have hbegun : At settings texts anchor emissions .begun false (World.initial clock) := ⟨.nil, rfl⟩
  have hattempts := run_connect_attempts around 30 ((hbegun.pass around).note .starting) rfl
  have hrange : (List.range 30).map (· + 1) = List.range' 1 30 := by decide
  simp only [run, Program.bind_eq, run_log_bind, connect_with_retry, hrange]
  rw [Program.run_bind]
  generalize (connect_attempts settings 30 1 (List.range' 1 30)).run (perform around) _ = outcome at hattempts ⊢
  obtain ⟨opened, result⟩ := outcome
  cases result with
  | error error => exact ⟨hattempts.1, fun hok => by cases hok⟩
  | ok value =>
    obtain ⟨beaten, hbeat, hbeaten⟩ := run_beat around (hattempts.2 rfl) .first_beat
      (fun hwarned => by cases hwarned) fun _ error => ⟨.first_miss error, .first_warn⟩
    dsimp only
    rw [Program.run_bind_of_ok hbeat, run_wall_start_bind]
    have hdealt : Dealt settings texts anchor emissions beaten.clock 0
        ((beaten.pass around).note (.wall_start beaten.clock)) := by
      cases hbeaten with
      | inl hready => exact ⟨_, (hready.pass around).note (.begin _)⟩
      | inr hready => exact ⟨_, (hready.pass around).note (.begin _)⟩
    obtain ⟨final, hloop, hfinal⟩ := run_loop [] (List.nil_append emissions).symm hdealt
    obtain ⟨warned, hbetween⟩ := hfinal
    rw [hloop]
    exact ⟨⟨_, hbetween.path⟩, fun _ => ⟨_, warned, hbetween⟩⟩

/-- Wherever a run is interrupted, its trace leads to a phase. -/
theorem phase_of_reaches {clock : ℚ} {final : World}
    (h : Program.Reaches (perform around) (run settings texts anchor emissions) (.initial clock) final) :
    ∃ phase, LeadsTo settings texts anchor emissions final.trace phase := by
  obtain ⟨last, hpath⟩ := (phases_of_run settings texts anchor emissions around clock).1
  exact hpath.of_start ((perform_traces around).reaches h)

end Phases

/-- Wherever a publisher is interrupted, it has gone from phase to phase: in
    particular it has handed over the first so many emissions of the stream, each
    once and in order, and none before its time. A run that is not interrupted ends
    when all emissions are dealt with. -/
theorem publisher_follows_stream (settings : PublisherSettings) (texts : Texts) (anchor : UtcDatetime)
    (emissions : List Emission) (around : Surroundings) (clock : ℚ) :
    (∀ final, Program.Reaches (perform around) (run settings texts anchor emissions) (.initial clock) final →
      (∃ phase, LeadsTo settings texts anchor emissions final.trace phase) ∧ tries final.trace ≤ 30 ∧
        List.Forall₂ (Carries texts) (emissions.take (sent final.trace).length) (sent final.trace)) ∧
      ∀ final, (run settings texts anchor emissions).run (perform around) (.initial clock) = (final, .ok ()) →
        ∃ turn, LeadsTo settings texts anchor emissions final.trace (.between turn) ∧
          turn.count = emissions.length := by
  refine ⟨fun final hreaches => ?_, fun final hrun => ?_⟩
  · obtain ⟨phase, hphase⟩ := phase_of_reaches hreaches
    exact ⟨⟨phase, hphase⟩, (tries_of_path hphase).le, (messages_of_path hphase).2⟩
  · have hends := (phases_of_run settings texts anchor emissions around clock).2
    rw [hrun] at hends
    obtain ⟨wall_start, warned, hbetween⟩ := hends rfl
    exact ⟨_, hbetween.path, rfl⟩

theorem demo_acceleration : (0 : ℚ) < 180 := by norm_num

theorem mqtt_port_range : 1 ≤ 1883 ∧ 1883 ≤ 65535 := by decide

def malformed_publisher : PublisherSettings :=
  { malformed_settings with
    seed := 42
    acceleration := ⟨180, demo_acceleration⟩
    mqtt_host := "localhost"
    mqtt_port := ⟨1883, mqtt_port_range⟩
    heartbeat_path := "heartbeat" }

theorem no_time : (0 : ℚ) ≤ 0 := le_refl 0

/-- The broker is there at the second try, and the heartbeat cannot be written. -/
def read_only : Surroundings where
  elapsed _ := ⟨0, no_time⟩
  overslept _ := ⟨0, no_time⟩
  connects asked := asked ≠ 1
  touch_error _ := some "read-only file system"
  publish_error _ := none
  connected _ := true

/-- What two devices all of whose readings are corrupted emit at first. -/
def malformed_emissions : Option (List Emission) :=
  (build_streams malformed_settings first_moment staggered_draws).toOption.bind fun streams =>
    merged_emissions streams 3

theorem publisher_follows_stream_read_only : ∃ (emissions : List Emission) (final : World) (phase : Phase),
    (sent final.trace).length = 1 ∧ tries final.trace = 2 ∧ final.trace.length = 11 ∧
      LeadsTo malformed_publisher json_texts first_moment emissions final.trace phase := by
  have hrun : malformed_emissions.any (fun emissions =>
      let final := ((run malformed_publisher json_texts first_moment emissions).run (perform read_only)
        (.initial 0)).1
      (sent final.trace).length = 1 && tries final.trace = 2 && final.trace.length = 11) = true := by
    decide +kernel
  obtain ⟨emissions, -, hfinal⟩ := (Option.any_eq_true _ _).mp hrun
  simp only [Bool.and_eq_true, decide_eq_true_eq] at hfinal
  obtain ⟨⟨hsent, htries⟩, hlength⟩ := hfinal
  obtain ⟨phase, hphase⟩ := ((publisher_follows_stream malformed_publisher json_texts first_moment emissions
    read_only 0).1 _ (Program.Reaches.run _ _ _)).1
  exact ⟨emissions, _, phase, hsent, htries, hlength, hphase⟩

end planter_telemetry.simulator.publisher
