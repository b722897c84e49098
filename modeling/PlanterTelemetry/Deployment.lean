import PlanterTelemetry.Analytics.Delivery
import PlanterTelemetry.Analytics.Sources
import PlanterTelemetry.Ingestion.Confluence
import PlanterTelemetry.Ingestion.Provenance

open planter_telemetry.python planter_telemetry.contract planter_telemetry.migrations
open planter_telemetry.analytics.model planter_telemetry.analytics.config

namespace planter_telemetry.ingestion.service

/-! ### Ingestion does not see what analytics writes -/

theorem no_alert_rows : ∀ row ∈ (KeyedTable.empty : KeyedTable AlertEventRow.key).rows, row.id < 1 :=
  fun _ hrow => absurd hrow List.not_mem_nil

/-- The database before analytics has written anything. -/
def without_analytics (db : Database) : Database :=
  { db with forecasts := .empty, alert_events := .empty, next_id := 1, ids_issued := no_alert_rows }

def State.without_analytics (state : State) : State :=
  { state with memory := { state.memory with db := service.without_analytics state.memory.db } }

/-- What another process has made of the database. -/
def State.with_db (state : State) (db : Database) : State :=
  { state with memory := { state.memory with db := db } }

variable {externals : Externals} {before after : State} {action : Action}

theorem perform_without_analytics (effect : Effect) (service : Service) :
    perform effect { service with db := without_analytics service.db } =
      ({ (perform effect service).1 with db := without_analytics (perform effect service).1.db },
        (perform effect service).2) := by
  cases effect with
  | get_latest | set_latest | count | upsert_device | insert_reading | record_dedupe
  | insert_dead_letter => rfl

theorem proceed_without_analytics (state : State) :
    proceed externals state.without_analytics =
      (proceed externals state).map State.without_analytics := by
  obtain ⟨memory, pending, buffer, connected, stop, acked, dropped, pc⟩ := state
  cases pc with
  | handling loop item rest =>
    cases rest with
    | exec effect next =>
      dsimp only [proceed, State.without_analytics]
      rw [perform_without_analytics]
      rfl
    | ret | raise => rfl
  | replaying =>
    cases pending with
    | nil => rfl
    | cons item items =>
      cases stop with
      | true => rfl
      | false => rfl
  | flushing =>
    cases pending with
    | nil => rfl
    | cons item items => rfl
  | waiting | draining | salvaging =>
    cases buffer with
    | none => rfl
    | some buffered =>
      cases buffered with
      | nil => rfl
      | cons item items => rfl
  | closing leaving =>
    cases leaving with
    | normally | caught | escaping => rfl
  | flush_closing raised =>
    cases raised with
    | true => rfl
    | false => rfl
  | top | connecting | entering | subscribing | consuming | exiting | backoff | final | flush_connecting
  | returned | crashed => rfl

theorem step_without_analytics (action : Action) (state : State) :
    step externals state.without_analytics action =
      (step externals state action).map State.without_analytics := by
  cases action with
  | proceed => exact proceed_without_analytics state
  | halt dequeued =>
    obtain ⟨memory, pending, buffer, connected, stop, acked, dropped, pc⟩ := state
    cases pc with
    | waiting =>
      cases stop with
      | true =>
        cases dequeued with
        | true => rcases buffer with _ | _ | _ <;> rfl
        | false => rfl
      | false => rfl
    | _ => rfl
  | operational_error took_effect =>
    obtain ⟨memory, pending, buffer, connected, stop, acked, dropped, pc⟩ := state
    cases pc with
    | handling loop item rest =>
      cases rest with
      | exec effect next =>
        dsimp only [step, operational_error, State.without_analytics]
        cases effect.awaited with
        | false => rfl
        | true =>
          cases took_effect with
          | false => rfl
          | true =>
            simp only [perform_without_analytics]
            rfl
      | ret | raise => rfl
    | _ => rfl
  | mqtt_error =>
    obtain ⟨memory, pending, buffer, connected, stop, acked, dropped, pc⟩ := state
    cases pc with
    | waiting =>
      rcases buffer with _ | _ | _
      all_goals
        cases connected with
        | true => rfl
        | false => rfl
    | _ => rfl
  | deliver item =>
    obtain ⟨memory, pending, buffer, connected, stop, acked, dropped, pc⟩ := state
    cases buffer with
    | none => rfl
    | some buffered =>
      cases connected with
      | true => rfl
      | false => rfl
  | disconnect | set_stop => rfl

theorem with_db_without_analytics {state : State} {db : Database}
    (h : without_analytics db = without_analytics state.memory.db) :
    (state.with_db db).without_analytics = state.without_analytics := by
  unfold State.with_db State.without_analytics
  rw [h]

/-- What ingestion does to the database, a step does by one of its statements. -/
theorem deployed_writes (h : Deployed externals before after) :
    after.memory.db = before.memory.db ∨ ∃ effect : Effect,
      after.memory.db = effect.write before.memory.db := by
  rcases h with ⟨action, hstep⟩ | rfl
  · rcases step_cases hstep with ⟨_, _, effect, _, -, -, rfl⟩ | ⟨_, _, effect, _, took_effect, -, -, -, rfl⟩ |
      ⟨hmemory, -⟩
    · exact .inr ⟨effect, perform_db effect before.memory⟩
    · cases took_effect with
      | false => exact .inl rfl
      | true => exact .inr ⟨effect, perform_db effect before.memory⟩
    · exact .inl (congrArg Service.db hmemory)
  · exact .inl rfl

end planter_telemetry.ingestion.service

namespace planter_telemetry.analytics.service

/-- What another process has made of the database. -/
def State.with_db (state : State) (db : Database) : State :=
  { state with world := { state.world with db := db } }

open planter_telemetry.ingestion.service (without_analytics)

variable {around : Surroundings} {before after : State} {action : Action}

theorem perform_keeps (around : Surroundings) (effect : Effect) (world : World) :
    without_analytics (perform around effect world).1.db = without_analytics world.db := by
  cases effect with
  | data_now | load_window | latest_alert_states | insert_forecast | insert_alert_event | post_ntfy
  | mark_notified | count | set_devices_forecast => rfl

/-- Analytics writes nothing that ingestion does. -/
theorem step_keeps (hown : ∀ effect, action ≠ .commit effect) (hstep : step around before action = some after) :
    without_analytics after.world.db = without_analytics before.world.db := by
  cases stepped hstep with
  | executed => exact perform_keeps around _ before.world
  | failed took_effect =>
    cases took_effect with
    | false => rfl
    | true => exact perform_keeps around _ before.world
  | closed | not_connected | not_closed => rw [settle_world]
  | commit effect => exact absurd rfl (hown effect)
  | _ => rfl

end planter_telemetry.analytics.service

namespace planter_telemetry.deployment

open planter_telemetry.ingestion.service (Deployed valid_reading)
open planter_telemetry.analytics.service (Surroundings Notification Receipt Delivered notification_of)

/-- The two services at work on one database. Each has its own process, and every
    statement takes effect on its own. -/
structure Deployment where
  ingestion : ingestion.service.State
  analytics : analytics.service.State

/-- Both services on the same database, before their first step. -/
def Deployment.initial (settings : RunSettings) (db : Database) (clock : ℚ) : Deployment where
  ingestion := ingestion.service.initial db
  analytics := analytics.service.started settings db [] clock

variable (externals : Externals) (around : Surroundings)

/-- One step of one of the services, or of its surroundings, restarts included. -/
inductive Deployment.Step : Deployment → Deployment → Prop
  | ingest {deployment : Deployment} {after : ingestion.service.State}
      (hstep : Deployed externals deployment.ingestion after) :
    Step deployment ⟨after, deployment.analytics.with_db after.memory.db⟩
  | analyse {deployment : Deployment} {action : analytics.service.Action}
      {after : analytics.service.State} (hown : ∀ effect, action ≠ .commit effect)
      (hstep : analytics.service.step around deployment.analytics action = some after) :
    Step deployment ⟨deployment.ingestion.with_db after.world.db, after⟩

variable {externals around} {settings : RunSettings} {db : Database} {clock : ℚ}
  {before after deployment : Deployment}

/-! ### Each service on its own -/

theorem shared_step (hstep : Deployment.Step externals around before after) :
    after.ingestion.memory.db = after.analytics.world.db := by
  cases hstep with
  | ingest | analyse => rfl

theorem analytics_step (hshared : before.ingestion.memory.db = before.analytics.world.db)
    (hstep : Deployment.Step externals around before after) :
    Relation.ReflTransGen (analytics.service.Step around) before.analytics after.analytics := by
  cases hstep with
  | ingest hstep =>
    rcases ingestion.service.deployed_writes hstep with hsame | ⟨effect, hwrite⟩
    · rw [hsame, hshared]
      exact .refl
    · rw [hwrite, hshared]
      exact .single ⟨.commit effect, rfl⟩
  | analyse _ hstep => exact .single ⟨_, hstep⟩

theorem ingestion_step (hshared : before.ingestion.memory.db = before.analytics.world.db)
    (hstep : Deployment.Step externals around before after) :
    Relation.ReflTransGen (Deployed externals) before.ingestion.without_analytics
      after.ingestion.without_analytics := by
  cases hstep with
  | ingest hstep =>
    rcases hstep with ⟨action, hstep⟩ | rfl
    · refine .single (.inl ⟨action, ?_⟩)
      rw [ingestion.service.step_without_analytics, hstep]
      rfl
    · exact .single (.inr rfl)
  | analyse hown hstep =>
    have hkeeps := analytics.service.step_keeps hown hstep
    rw [← hshared] at hkeeps
    rw [ingestion.service.with_db_without_analytics hkeeps]

section Run

variable (hrun : Relation.ReflTransGen (Deployment.Step externals around) (.initial settings db clock)
  deployment)
include hrun

theorem shared_run : deployment.ingestion.memory.db = deployment.analytics.world.db := by
  cases hrun with
  | refl => rfl
  | tail _ hstep => exact shared_step hstep

theorem ingestion_run : Relation.ReflTransGen (Deployed externals)
    (ingestion.service.initial (ingestion.service.without_analytics db))
    deployment.ingestion.without_analytics := by
  induction hrun with
  | refl => exact .refl
  | tail hbefore hstep ih => exact ih.trans (ingestion_step (shared_run hbefore) hstep)

theorem analytics_run : Relation.ReflTransGen (analytics.service.Step around)
    (analytics.service.started settings db [] clock) deployment.analytics := by
  induction hrun with
  | refl => exact .refl
  | tail hbefore hstep ih => exact ih.trans (analytics_step (shared_run hbefore) hstep)

end Run

/-! ### A dry planter -/

/-- One step, by the service that takes it. -/
def Deployment.next (externals : Externals) (around : Surroundings) (deployment : Deployment) :
    ingestion.service.Action ⊕ analytics.service.Action → Option Deployment
  | .inl action => (ingestion.service.step externals deployment.ingestion action).map fun after =>
      ⟨after, deployment.analytics.with_db after.memory.db⟩
  | .inr (.commit _) => none
  | .inr action => (analytics.service.step around deployment.analytics action).map fun after =>
      ⟨deployment.ingestion.with_db after.world.db, after⟩

theorem step_of_next {action : ingestion.service.Action ⊕ analytics.service.Action}
    (h : before.next externals around action = some after) :
    Deployment.Step externals around before after := by
  unfold Deployment.next at h
  split at h
  · next action =>
    obtain ⟨ingestion, hstep, rfl⟩ := Option.map_eq_some_iff.mp h
    exact .ingest (.inl ⟨action, hstep⟩)
  · cases h
  · next action hown =>
    obtain ⟨analytics, hstep, rfl⟩ := Option.map_eq_some_iff.mp h
    exact .analyse hown hstep

theorem reached_of_nexts {actions : List (ingestion.service.Action ⊕ analytics.service.Action)}
    (h : actions.foldlM (Deployment.next externals around) before = some after) :
    Relation.ReflTransGen (Deployment.Step externals around) before after := by
  induction actions generalizing before with
  | nil =>
    cases h
    exact .refl
  | cons action actions ih =>
    rw [List.foldlM_cons] at h
    obtain ⟨between, hstep, hrest⟩ := Option.bind_eq_some_iff.mp h
    exact .head (step_of_next hstep) (ih hrest)

theorem noon_range : 12 < 24 := by decide

def dry_document :=
  ingestion.service.reading_document "2026-03-01T12:00:00Z" (ingestion.service.march_first ⟨12, noon_range⟩) 5 "5.0"

/-- The message of a dry planter. -/
def dry_message : ingestion.service.Item := ("planter/v1/planter-00/telemetry", dry_document.1)

/-- The reading is stored and not yet counted when a pass reads it and posts. -/
def dry_planter : List (ingestion.service.Action ⊕ analytics.service.Action) :=
  List.replicate 6 (.inl .proceed) ++ .inl (.deliver dry_message) ::
    List.replicate 5 (.inl .proceed) ++ List.replicate 10 (.inr .proceed)

/-- The deployment in which it is posted. -/
theorem dry_planter_posted :
    ∃ deployment : Deployment, Relation.ReflTransGen
        (Deployment.Step (document_reader [dry_document]) analytics.service.first_of_ties)
        (.initial { ntfy_url := "ntfy" } .fresh 0) deployment ∧
      deployment.ingestion.memory.counters.ingested = 0 ∧ deployment.analytics.world.sent.length = 1 := by
  have hrun : (dry_planter.foldlM
      (Deployment.next (document_reader [dry_document]) analytics.service.first_of_ties)
      (.initial { ntfy_url := "ntfy" } .fresh 0)).any (fun deployment =>
        deployment.ingestion.memory.counters.ingested = 0 &&
          deployment.analytics.world.sent.length = 1) = true := by
    decide +kernel
  obtain ⟨deployment, hsteps, hstate⟩ := (Option.any_eq_true _ _).mp hrun
  obtain ⟨hingested, hsent⟩ := Bool.and_eq_true_iff.mp hstate
  exact ⟨deployment, reached_of_nexts hsteps, of_decide_eq_true hingested, of_decide_eq_true hsent⟩

/-! ### Both at once -/

/-- Neither service can tell that the other one is there: what ingestion does is
    a run of ingestion on a database that analytics never writes to, and what
    analytics does is a run of analytics between single statements of ingestion. -/
theorem services_run_alone (externals : Externals) (around : Surroundings) (settings : RunSettings)
    (db : Database) (clock : ℚ)
    (hrun : Relation.ReflTransGen (Deployment.Step externals around) (.initial settings db clock) deployment) :
    deployment.ingestion.memory.db = deployment.analytics.world.db ∧
      Relation.ReflTransGen (Deployed externals)
        (ingestion.service.initial (ingestion.service.without_analytics db))
        deployment.ingestion.without_analytics ∧
      Relation.ReflTransGen (analytics.service.Step around)
        (analytics.service.started settings db [] clock) deployment.analytics :=
  ⟨shared_run hrun, ingestion_run hrun, analytics_run hrun⟩

theorem services_run_alone_dry_planter :
    ∃ deployment : Deployment, deployment.analytics.world.sent.length = 1 ∧
      Relation.ReflTransGen (Deployed (document_reader [dry_document]))
        (ingestion.service.initial (ingestion.service.without_analytics .fresh))
        deployment.ingestion.without_analytics := by
  obtain ⟨deployment, hrun, -, hsent⟩ := dry_planter_posted
  exact ⟨deployment, hsent, (services_run_alone (document_reader [dry_document])
    analytics.service.first_of_ties { ntfy_url := "ntfy" } .fresh 0 hrun).2.1⟩

/-! ### From the message to the notification -/

variable (externals) in
/-- A message was acked that carries a valid reading of this device at this time. -/
def Deployment.Heard (deployment : Deployment) (device_id : String) (time : UtcDatetime) : Prop :=
  ∃ item ∈ deployment.ingestion.acked, ∃ reading, valid_reading externals item = some reading ∧
    reading.device_id.val = device_id ∧ reading.measured_at = time

theorem heard_of_stored
    (hrun : Relation.ReflTransGen (Deployment.Step externals around) (.initial settings .fresh clock)
      deployment) {device_id : String} {time : UtcDatetime}
    (hstored : analytics.service.stored deployment.analytics.world.db (device_id, time)) :
    deployment.Heard externals device_id time := by
  obtain ⟨progress, hprovenance⟩ := ingestion.service.provenance_run (ingestion_run hrun)
  rw [← shared_run hrun] at hstored
  obtain ⟨row, hrow, hkey⟩ := KeyedTable.mem_keys.mp hstored
  rcases hprovenance.attested.telemetry row hrow with hstart | ⟨reading, ⟨item, hitem, hvalid⟩, rfl⟩
  · exact absurd hstart List.not_mem_nil
  · exact ⟨item, hitem, reading, hvalid, congrArg Prod.fst hkey, congrArg Prod.snd hkey⟩

/-- In any run of the two services, whatever fails and however often each of them
    is killed, every forecast and every notification goes back to a message that
    was acked: a notification to the decision it is for, and this to a reading of
    its device. -/
theorem notifications_go_back_to_messages (externals : Externals) (around : Surroundings)
    (settings : RunSettings) (clock : ℚ)
    (hrun : Relation.ReflTransGen (Deployment.Step externals around) (.initial settings .fresh clock)
      deployment) :
    (∀ row ∈ deployment.analytics.world.db.forecasts.rows,
      deployment.Heard externals row.device_id row.as_of) ∧
    ∀ notification ∈ deployment.analytics.world.sent,
      ∃ row ∈ deployment.analytics.world.db.alert_events.rows, row.state = .firing ∧
        notification = notification_of row.toAlertDecision ∧
        deployment.Heard externals row.device_id row.as_of := by
  have hgrounded := analytics.service.grounded_run (analytics_run hrun)
  constructor
  · intro row hrow
    exact heard_of_stored hrun (hgrounded.tables.forecasts row hrow)
  · intro notification hnotification
    obtain ⟨actions, hsteps⟩ := analytics.service.reached_iff_steps.mp (analytics_run hrun)
    obtain ⟨receipts, phase, hdelivery, -⟩ := analytics.service.delivery_steps
      (analytics.service.delivery_start around settings clock) rfl hsteps
    rw [hdelivery.sent] at hnotification
    obtain ⟨receipt, hreceipt, rfl⟩ := List.mem_map.mp hnotification
    obtain ⟨row, hrow, -, hfiring, htext⟩ := hdelivery.decided receipt hreceipt
    exact ⟨row, hrow, hfiring, htext, heard_of_stored hrun (hgrounded.tables.alert_events row hrow)⟩

theorem notifications_go_back_to_messages_dry_planter :
    ∃ deployment : Deployment, deployment.analytics.world.sent.length = 1 ∧
      ∀ notification ∈ deployment.analytics.world.sent,
        ∃ row ∈ deployment.analytics.world.db.alert_events.rows, row.state = .firing ∧
          notification = notification_of row.toAlertDecision ∧
          deployment.Heard (document_reader [dry_document]) row.device_id row.as_of := by
  obtain ⟨deployment, hrun, -, hsent⟩ := dry_planter_posted
  exact ⟨deployment, hsent, (notifications_go_back_to_messages (document_reader [dry_document])
    analytics.service.first_of_ties { ntfy_url := "ntfy" } 0 hrun).2⟩

end planter_telemetry.deployment
