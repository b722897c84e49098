import PlanterTelemetry.Ingestion.AckWindow
import PlanterTelemetry.Library.Protocol

open planter_telemetry.python planter_telemetry.contract planter_telemetry.migrations
open planter_telemetry.ingestion.core planter_telemetry.ingestion.db

namespace planter_telemetry.ingestion.service

variable (externals : Externals)

/-! ### The order of the statements of one call -/

/-- How far a call is with its message: nothing is written that waits for more;
    the reading is in the table and not counted; its key was in the table
    before; the duplicate or the dead letter is recorded and not counted. -/
inductive Progress where
  | settled
  | inserted
  | present
  | recorded_dedupe
  | inserted_dead_letter
  deriving DecidableEq

/-- A bump of the one counter that no row stands for. -/
def CountsNoRow (bump : Counters → Counters) : Prop :=
  ∀ counters, (bump counters).ingested = counters.ingested ∧
    (bump counters).deduplicated = counters.deduplicated ∧
    (bump counters).dead_lettered = counters.dead_lettered

/-- What `_handle_one` does with a message, in which order: its statements are
    about the message's own reading or dead letter, and a row that is written is
    counted next. -/
def call_order (item : Item) : Protocol Effect.Response Progress where
  allowed
    | .settled, .get_latest _ | .settled, .set_latest _ _ => True
    | .settled, .count bump => CountsNoRow bump
    | .settled, .upsert_device reading | .settled, .insert_reading reading
    | .present, .record_dedupe reading => valid_reading externals item = some reading
    | .settled, .insert_dead_letter letter =>
      classify externals item.1 item.2 = .ok (.dead_letter letter)
    | .inserted, .count bump => bump = fun c => { c with ingested := c.ingested + 1 }
    | .recorded_dedupe, .count bump => bump = fun c => { c with deduplicated := c.deduplicated + 1 }
    | .inserted_dead_letter, .count bump =>
      bump = fun c => { c with dead_lettered := c.dead_lettered + 1 }
    | _, _ => False
  after
    | _, .insert_reading _, inserted => if inserted then .inserted else .present
    | _, .record_dedupe _, _ => .recorded_dedupe
    | _, .insert_dead_letter _, _ => .inserted_dead_letter
    | _, .count _, _ => .settled
    | progress, _, _ => progress

variable {externals} {item : Item} {reading : TelemetryV1}

theorem note_arrival_follows (reading : TelemetryV1) :
    (note_arrival reading).Follows (call_order externals item) .settled .settled := by
  refine ⟨trivial, fun newest => ?_⟩
  simp only [Program.ret_bind]
  split
  · exact ⟨fun _ => ⟨rfl, rfl, rfl⟩, fun _ => rfl⟩
  · exact ⟨trivial, fun _ => rfl⟩

theorem store_reading_follows (hvalid : valid_reading externals item = some reading) :
    (store_reading reading).Follows (call_order externals item) .settled .settled := by
  refine ⟨hvalid, fun _ => ⟨hvalid, fun inserted => ?_⟩⟩
  cases inserted with
  | true => exact ⟨rfl, fun _ => rfl⟩
  | false => exact ⟨hvalid, fun _ => ⟨rfl, fun _ => rfl⟩⟩

theorem handle_one_follows (externals : Externals) (item : Item) :
    (handle_one externals item).Follows (call_order externals item) .settled .settled := by
  unfold handle_one
  match hclassify : classify externals item.1 item.2 with
  | .error error => exact rfl
  | .ok (.valid_reading reading) =>
    have hvalid : valid_reading externals item = some reading := by rw [valid_reading, hclassify]
    exact (note_arrival_follows reading).bind fun _ => store_reading_follows hvalid
  | .ok (.dead_letter letter) => exact ⟨hclassify, fun _ => ⟨rfl, fun _ => rfl⟩⟩

/-! ### What a step does to the call in progress -/

/-- The call in progress has a statement to execute. -/
def Pc.executing : Pc → Bool
  | .handling _ _ (.exec _ _) => true
  | _ => false

/-- No call is in progress, or one is about to start. -/
def Pc.BetweenCalls (externals : Externals) : Pc → Prop
  | .handling _ item rest => rest = handle_one externals item
  | _ => True

variable {before after : State} {action : Action}

theorem Turns.executing {state : State} {pc pc' : Pc} (h : Turns state pc pc') : pc.executing = false := by
  cases h <;> rfl

theorem Turns.between {state : State} {pc pc' : Pc} (h : Turns state pc pc') :
    pc'.BetweenCalls externals := by
  cases h with
  | raised loop item error => cases loop <;> trivial
  | _ => trivial

/-- A step executes the next statement of the call, or fails at it, or leaves
    the memory alone: then the call goes no further, or there is none. -/
theorem step_cases (h : step externals before action = some after) :
    (∃ loop item effect next, before.pc = .handling loop item (.exec effect next) ∧
      action = .proceed ∧ after = { before with
        memory := (perform effect before.memory).1
        pc := .handling loop item (next (perform effect before.memory).2) }) ∨
    (∃ loop item effect next took_effect, before.pc = .handling loop item (.exec effect next) ∧
      effect.awaited = true ∧ action = .operational_error took_effect ∧ after = { before with
        memory := if took_effect then (perform effect before.memory).1 else before.memory
        pc := loop.on_operational_error }) ∨
    (after.memory = before.memory ∧
      (after.pc = before.pc ∨ before.pc.executing = false ∧ after.pc.BetweenCalls externals)) := by
  -- from a known place to one without a call
  have hidle {pc : Pc} {after : State} (hat : before.pc = pc) (hpc : pc.executing = false)
      (hmemory : after.memory = before.memory) (hbetween : after.pc.BetweenCalls externals) :
      after.memory = before.memory ∧
        (after.pc = before.pc ∨ before.pc.executing = false ∧ after.pc.BetweenCalls externals) :=
    ⟨hmemory, .inr ⟨hat ▸ hpc, hbetween⟩⟩
  cases stepped externals h with
  | proceeded hproceeds =>
    cases hproceeds with
    | turned hat hturns => exact .inr (.inr (hidle hat hturns.executing rfl hturns.between))
    | entered hat | left hat | crashed hat | dropped hat => exact .inr (.inr (hidle hat rfl rfl trivial))
    | resumed hloop | took hloop =>
      refine .inr (.inr (hidle rfl ?_ rfl rfl))
      generalize before.pc = pc at hloop ⊢
      cases hloop <;> rfl
    | salvaged hat => exact .inr (.inr ⟨rfl, .inl rfl⟩)
    | @handled loop item hat =>
      refine .inr (.inr (hidle hat rfl rfl ?_))
      cases loop <;> trivial
    | @executed loop item effect next hat => exact .inl ⟨loop, item, effect, next, hat, rfl, rfl⟩
  | halted hat | halted_late hat | connect_failed hat | enter_failed hat | subscribe_failed hat
  | disconnected_empty hat | exit_failed hat =>
    exact .inr (.inr (hidle hat rfl rfl trivial))
  | @statement_failed took_effect loop item effect next hat hawaited =>
    exact .inr (.inl ⟨loop, item, effect, next, took_effect, hat, hawaited, rfl, rfl⟩)
  | flush_failed hat =>
    rcases hat with hat | ⟨raised, hat⟩
    · exact .inr (.inr (hidle hat rfl rfl trivial))
    · exact .inr (.inr (hidle hat rfl rfl trivial))
  | delivered | disconnected | stop_set => exact .inr (.inr ⟨rfl, .inl rfl⟩)

section Order

variable {Phase : Type} {order : Item → Protocol Effect.Response Phase} {idle phase : Phase}

/-- How far the call in progress is in the order of its statements, if there is
    one. -/
def Pc.Follows (order : Item → Protocol Effect.Response Phase) (idle phase : Phase) : Pc → Prop
  | .handling _ item rest => rest.Follows (order item) idle phase
  | _ => phase = idle

theorem Pc.Follows.eq_idle {pc : Pc} (h : pc.Follows order idle phase) (hpc : pc.executing = false) :
    phase = idle := by
  unfold Pc.Follows at h
  split at h
  · next loop item rest =>
    cases rest with
    | ret | raise => exact h
    | exec => cases hpc
  · exact h

theorem Pc.BetweenCalls.follows {pc : Pc} (h : pc.BetweenCalls externals)
    (hcall : ∀ item, (handle_one externals item).Follows (order item) idle idle) :
    pc.Follows order idle idle := by
  unfold Pc.BetweenCalls at h
  split at h
  · next loop item rest =>
    obtain rfl := h
    exact hcall item
  · next hpc =>
    unfold Pc.Follows
    split
    · next loop item rest => exact absurd rfl (hpc loop item rest)
    · rfl

/-- An execution moves the call on, a failure ends it, and nothing else changes
    how far it is. -/
theorem step_follows (hcall : ∀ item, (handle_one externals item).Follows (order item) idle idle)
    (hpc : before.pc.Follows order idle phase) (h : step externals before action = some after) :
    (∃ loop item rest effect rest', before.pc = .handling loop item rest ∧
      (order item).allowed phase effect ∧ action = .proceed ∧
      after.memory = (perform effect before.memory).1 ∧ after.pc = .handling loop item rest' ∧
      after.pc.Follows order idle
        ((order item).after phase effect (perform effect before.memory).2)) ∨
    (∃ loop item rest effect took_effect, before.pc = .handling loop item rest ∧
      (order item).allowed phase effect ∧ effect.awaited = true ∧
      action = .operational_error took_effect ∧
      after.memory = (if took_effect then (perform effect before.memory).1 else before.memory) ∧
      after.pc.Follows order idle idle) ∨
    (after.memory = before.memory ∧ after.pc.Follows order idle phase ∧
      (after.pc = before.pc ∨ phase = idle)) := by
  rcases step_cases h with ⟨loop, item, effect, next, hat, haction, rfl⟩ |
    ⟨loop, item, effect, next, took_effect, hat, hawaited, haction, rfl⟩ |
    ⟨hmemory, hsame | ⟨hexecuting, hbetween⟩⟩
  · rw [hat] at hpc
    exact .inl ⟨loop, item, _, effect, _, hat, hpc.1, haction, rfl, rfl, hpc.2 _⟩
  · rw [hat] at hpc
    refine .inr (.inl ⟨loop, item, _, effect, took_effect, hat, hpc.1, hawaited, haction, rfl, ?_⟩)
    cases loop <;> exact rfl
  · exact .inr (.inr ⟨hmemory, hsame ▸ hpc, .inl hsame⟩)
  · obtain rfl := hpc.eq_idle hexecuting
    exact .inr (.inr ⟨hmemory, hbetween.follows hcall, .inr rfl⟩)

end Order

/-- How far the call in progress is, if there is one. -/
def Pc.InProgress (externals : Externals) (progress : Progress) (pc : Pc) : Prop :=
  pc.Follows (call_order externals) .settled progress

variable {progress : Progress}

theorem step_progress (hpc : before.pc.InProgress externals progress)
    (h : step externals before action = some after) :
    (∃ loop item rest effect rest', before.pc = .handling loop item rest ∧
      (call_order externals item).allowed progress effect ∧ action = .proceed ∧
      after.memory = (perform effect before.memory).1 ∧ after.pc = .handling loop item rest' ∧
      after.pc.InProgress externals
        ((call_order externals item).after progress effect (perform effect before.memory).2)) ∨
    (∃ loop item rest effect took_effect, before.pc = .handling loop item rest ∧
      (call_order externals item).allowed progress effect ∧ effect.awaited = true ∧
      action = .operational_error took_effect ∧
      after.memory = (if took_effect then (perform effect before.memory).1 else before.memory) ∧
      after.pc.InProgress externals .settled) ∨
    (after.memory = before.memory ∧ after.pc.InProgress externals progress ∧
      (after.pc = before.pc ∨ progress = .settled)) :=
  step_follows (handle_one_follows externals) hpc h

end planter_telemetry.ingestion.service
