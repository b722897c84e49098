import PlanterTelemetry.Ingestion.Confluence
import Mathlib.Logic.Relation
import Mathlib.Order.Bounds.Basic

open planter_telemetry.python planter_telemetry.contract planter_telemetry.migrations
open planter_telemetry.ingestion.core planter_telemetry.ingestion.db

namespace planter_telemetry.ingestion.service

/-! ### Calls of `_handle_one`, statement by statement -/

/-- A run of calls: what they share, the call in progress with what is left of
    it, every message a call was made for, and those a call returned for. -/
structure Calls where
  memory : Service
  current : Option (Item × Handler Unit)
  delivered : List Item
  handled : List Item

/-- No calls yet, on an empty database. -/
def Calls.fresh : Calls := ⟨.fresh, none, [], []⟩

/-- A message is handled, for the first time or again; the call goes on with its
    next effect or its end; or a statement fails, after or before it took effect. -/
inductive CallAction where
  | call (item : Item)
  | proceed
  | operational_error (took_effect : Bool)

variable (externals : Externals)

def Calls.step (calls : Calls) : CallAction → Option Calls
  | .call item =>
    match calls.current with
    | none => some { calls with current := some (item, handle_one externals item)
                                delivered := calls.delivered ++ [item] }
    | some _ => none
  | .proceed =>
    match calls.current with
    | none => none
    | some (item, .ret ()) => some { calls with current := none, handled := calls.handled ++ [item] }
    | some (_, .raise _) => some { calls with current := none }
    | some (item, .exec effect next) =>
      let (memory, response) := perform effect calls.memory
      some { calls with memory := memory, current := some (item, next response) }
  | .operational_error took_effect =>
    match calls.current with
    | some (_, .exec effect _) =>
      if effect.awaited then
        let memory := if took_effect then (perform effect calls.memory).1 else calls.memory
        some { calls with memory := memory, current := none }
      else none
    | _ => none

def CallStep (before after : Calls) : Prop := ∃ action, before.step externals action = some after

/-! ### Where one call can be cut -/

/-- The two tables that only valid readings write. -/
def SameTables (before after : Database) : Prop :=
  after.telemetry = before.telemetry ∧ after.devices = before.devices

section Cut

variable {externals} {item : Item} {service final : Service}

theorem reaches_note_arrival {reading : TelemetryV1}
    (h : Program.Reaches perform (note_arrival reading) service final) : final.db = service.db := by
  have honly : (note_arrival reading).Only fun effect => effect.awaited = false := by
    refine ⟨rfl, fun newest => ?_⟩
    simp only [Program.ret_bind]
    split
    · exact ⟨rfl, fun _ => trivial⟩
    · exact ⟨rfl, fun _ => trivial⟩
  refine honly.invariant (fun state => state.db = service.db) ?_ h rfl
  intro effect state hawaited hstate
  cases effect with
  | get_latest | set_latest | count => exact hstate
  | upsert_device | insert_reading | record_dedupe | insert_dead_letter => cases hawaited

theorem reaches_store_reading {reading : TelemetryV1}
    (h : Program.Reaches perform (store_reading reading) service final) :
    SameTables service.db final.db ∨
      (final.db.devices = (upsert_device service.db reading).devices ∧
        (final.db.telemetry = service.db.telemetry ∨
          final.db.telemetry = service.db.telemetry.insertIgnore (reading_row reading))) := by
  rcases Program.reaches_exec_iff.mp h with rfl | h
  · exact .inl ⟨rfl, rfl⟩
  · right
    rcases Program.reaches_exec_iff.mp h with rfl | h
    · exact ⟨rfl, .inl rfl⟩
    · -- the response of the insert only decides what is counted and logged
      refine ⟨?_, .inr ?_⟩
      all_goals
        simp only [Program.ret_bind] at h
        split at h
        · rcases Program.reaches_exec_iff.mp h with rfl | h
          · rfl
          · rw [Program.reaches_ret_iff.mp h]
            rfl
        · rcases Program.reaches_exec_iff.mp h with rfl | h
          · rfl
          · rcases Program.reaches_exec_iff.mp h with rfl | h
            · rfl
            · rw [Program.reaches_ret_iff.mp h]
              rfl

/-- A cut of a call leaves both tables as they were, or it handles a valid
    reading, the registry covers it, and it may be stored. -/
theorem reaches_handle_one (h : Program.Reaches perform (handle_one externals item) service final) :
    SameTables service.db final.db ∨
      ∃ reading, valid_reading externals item = some reading ∧
        final.db.devices = (upsert_device service.db reading).devices ∧
        (final.db.telemetry = service.db.telemetry ∨
          final.db.telemetry = service.db.telemetry.insertIgnore (reading_row reading)) := by
  unfold handle_one at h
  match hclassify : classify externals item.1 item.2 with
  | .error error =>
    simp only [hclassify, Program.lift_error, Program.bind_eq, Program.raise_bind] at h
    rw [Program.reaches_raise_iff.mp h]
    exact .inl ⟨rfl, rfl⟩
  | .ok (.valid_reading reading) =>
    have hvalid : valid_reading externals item = some reading := by simp [valid_reading, hclassify]
    simp only [hclassify, Program.lift_ok, Program.bind_eq, Program.ret_bind] at h
    rcases Program.reaches_bind h with hnote | ⟨noted, _, hnote, hstore⟩
    · rw [reaches_note_arrival hnote]
      exact .inl ⟨rfl, rfl⟩
    · have hdb : noted.db = service.db := by
        obtain ⟨after, hrun, hdb⟩ := run_note_arrival reading service
        rw [hrun] at hnote
        cases hnote
        exact hdb
      rw [← hdb]
      exact (reaches_store_reading hstore).imp_right fun hcut => ⟨reading, hvalid, hcut⟩
  | .ok (.dead_letter letter) =>
    simp only [hclassify, Program.lift_ok, Program.bind_eq, Program.ret_bind] at h
    left
    rcases Program.reaches_exec_iff.mp h with rfl | h
    · exact ⟨rfl, rfl⟩
    · rcases Program.reaches_exec_iff.mp h with rfl | h
      · exact ⟨rfl, rfl⟩
      · rw [Program.reaches_ret_iff.mp h]
        exact ⟨rfl, rfl⟩

end Cut

/-! ### What the registry says about the telemetry -/

/-- A delivered valid reading of the device was measured at this time. -/
def DeliveredAt (delivered : List Item) (device_id : String) (time : UtcDatetime) : Prop :=
  ∃ item ∈ delivered, ∃ reading, valid_reading externals item = some reading ∧
    reading.device_id.val = device_id ∧ reading.measured_at = time

/-- The registry covers every stored reading and says nothing that was not
    delivered. -/
structure RegistryCovers (delivered : List Item) (db : Database) : Prop where
  covers : ∀ row ∈ db.telemetry.rows, ∃ device, db.devices.lookup row.device_id = some device ∧
    device.first_seen ≤ row.measured_at ∧ row.measured_at ≤ device.last_seen
  seen : ∀ device_id device, db.devices.lookup device_id = some device →
    DeliveredAt externals delivered device_id device.first_seen ∧
      DeliveredAt externals delivered device_id device.last_seen

/-- The times of a device's telemetry rows. -/
def device_times (db : Database) (device_id : String) : Set UtcDatetime :=
  { time | ∃ row ∈ db.telemetry.rows, row.device_id = device_id ∧ row.measured_at = time }

/-- The registry is the exact span of every device's telemetry. -/
def RegistryExact (db : Database) : Prop :=
  ∀ device_id device, db.devices.lookup device_id = some device →
    IsLeast (device_times db device_id) device.first_seen ∧
      IsGreatest (device_times db device_id) device.last_seen

/-- A valid message is stored once its key is in the telemetry. -/
def Stored (db : Database) (item : Item) : Prop :=
  ∀ reading, valid_reading externals item = some reading → (reading_row reading).key ∈ db.telemetry.keys

section Covers

variable {externals} {delivered : List Item} {before after : Database} {reading : TelemetryV1}

theorem RegistryCovers.same (h : RegistryCovers externals delivered before)
    (hsame : SameTables before after) : RegistryCovers externals delivered after := by
  obtain ⟨htelemetry, hdevices⟩ := hsame
  refine ⟨?_, ?_⟩
  · rw [htelemetry, hdevices]
    exact h.covers
  · rw [hdevices]
    exact h.seen

theorem DeliveredAt.append {device_id : String} {time : UtcDatetime} (item : Item)
    (h : DeliveredAt externals delivered device_id time) :
    DeliveredAt externals (delivered ++ [item]) device_id time := by
  obtain ⟨other, hother, rest⟩ := h
  exact ⟨other, List.mem_append_left _ hother, rest⟩

theorem RegistryCovers.deliver (h : RegistryCovers externals delivered before) (item : Item) :
    RegistryCovers externals (delivered ++ [item]) before where
  covers := h.covers
  seen device_id device hdevice :=
    ⟨(h.seen device_id device hdevice).1.append item, (h.seen device_id device hdevice).2.append item⟩

/-- The upsert widens the row of the reading's device, so that it covers the
    reading and whatever it covered before. -/
theorem covers_upsert (h : RegistryCovers externals delivered before) (reading : TelemetryV1) :
    (∃ device, (upsert_device before reading).devices.lookup reading.device_id.val = some device ∧
      device.first_seen ≤ reading.measured_at ∧ reading.measured_at ≤ device.last_seen) ∧
    ∀ row ∈ before.telemetry.rows, ∃ device,
      (upsert_device before reading).devices.lookup row.device_id = some device ∧
        device.first_seen ≤ row.measured_at ∧ row.measured_at ≤ device.last_seen := by
  constructor
  · rw [lookup_upsert_device, if_pos rfl]
    cases before.devices.lookup reading.device_id.val with
    | none => exact ⟨_, rfl, le_refl _, le_refl _⟩
    | some device => exact ⟨_, rfl, min_le_right _ _, le_max_right _ _⟩
  · intro row hrow
    obtain ⟨device, hlookup, hfirst, hlast⟩ := h.covers row hrow
    rw [lookup_upsert_device, hlookup]
    split
    · exact ⟨_, rfl, (min_le_left _ _).trans hfirst, hlast.trans (le_max_left _ _)⟩
    · exact ⟨device, rfl, hfirst, hlast⟩

theorem RegistryCovers.upsert (h : RegistryCovers externals delivered before)
    (hdelivered : DeliveredAt externals delivered reading.device_id.val reading.measured_at)
    (hdevices : after.devices = (upsert_device before reading).devices)
    (htelemetry : after.telemetry = before.telemetry ∨
      after.telemetry = before.telemetry.insertIgnore (reading_row reading)) :
    RegistryCovers externals delivered after := by
  obtain ⟨hreading, hrows⟩ := covers_upsert h reading
  refine ⟨fun row hrow => ?_, fun device_id device hdevice => ?_⟩
  · rw [hdevices]
    cases htelemetry with
    | inl hsame => exact hrows row (hsame ▸ hrow)
    | inr hinsert =>
      rw [hinsert, KeyedTable.mem_insertIgnore] at hrow
      rcases hrow with hold | ⟨-, rfl⟩
      · exact hrows row hold
      · exact hreading
  · rw [hdevices, lookup_upsert_device] at hdevice
    split at hdevice
    · next hown =>
      subst hown
      cases hlookup : before.devices.lookup reading.device_id.val with
      | none =>
        simp only [hlookup, Option.elim_none, Option.some.injEq] at hdevice
        exact hdevice ▸ ⟨hdelivered, hdelivered⟩
      | some old =>
        simp only [hlookup, Option.elim_some, Option.some.injEq] at hdevice
        obtain ⟨hfirst, hlast⟩ := h.seen _ old hlookup
        subst hdevice
        refine ⟨?_, ?_⟩
        · cases min_choice old.first_seen reading.measured_at with
          | inl hmin => simpa only [widen, hmin] using hfirst
          | inr hmin => simpa only [widen, hmin] using hdelivered
        · cases max_choice old.last_seen reading.measured_at with
          | inl hmax => simpa only [widen, hmax] using hlast
          | inr hmax => simpa only [widen, hmax] using hdelivered
    · exact h.seen device_id device hdevice

/-- Wherever a call for a delivered message is cut, the registry still covers. -/
theorem RegistryCovers.cut {item : Item} {service final : Service}
    (h : RegistryCovers externals delivered service.db) (hitem : item ∈ delivered)
    (hcut : Program.Reaches perform (handle_one externals item) service final) :
    RegistryCovers externals delivered final.db := by
  rcases reaches_handle_one hcut with hsame | ⟨reading, hvalid, hdevices, htelemetry⟩
  · exact h.same hsame
  · exact h.upsert ⟨item, hitem, reading, hvalid, rfl, rfl⟩ hdevices htelemetry

/-- A call that returns has stored its message. -/
theorem stored_of_run_ok {item : Item} {service final : Service}
    (h : (handle_one externals item).run perform service = (final, .ok ())) :
    Stored externals final.db item := by
  intro reading hvalid
  have htelemetry : (after_handling externals service item).db.telemetry = _ :=
    after_handling_telemetry service item
  rw [hvalid] at htelemetry
  unfold after_handling at htelemetry
  rw [h] at htelemetry
  simp only at htelemetry
  rw [htelemetry, KeyedTable.mem_keys_insertIgnore]
  exact .inr rfl

/-- Once every delivered message is stored, the bounds of the registry are
    readings of the telemetry. -/
theorem RegistryCovers.exact (h : RegistryCovers externals delivered before)
    (hstored : ∀ item ∈ delivered, Stored externals before item) : RegistryExact before := by
  have hmem : ∀ device_id time, DeliveredAt externals delivered device_id time →
      time ∈ device_times before device_id := by
    rintro device_id time ⟨item, hitem, reading, hvalid, rfl, rfl⟩
    obtain ⟨row, hrow, hkey⟩ := KeyedTable.mem_keys.mp (hstored item hitem reading hvalid)
    obtain ⟨hdevice, htime⟩ := Prod.mk.inj hkey
    exact ⟨row, hrow, hdevice, htime⟩
  intro device_id device hlookup
  obtain ⟨hfirst, hlast⟩ := h.seen device_id device hlookup
  have hbounds : ∀ time ∈ device_times before device_id,
      device.first_seen ≤ time ∧ time ≤ device.last_seen := by
    rintro time ⟨row, hrow, rfl, rfl⟩
    obtain ⟨covering, hcovering, hbetween⟩ := h.covers row hrow
    obtain rfl : device = covering := Option.some.inj (hlookup.symm.trans hcovering)
    exact hbetween
  exact ⟨⟨hmem _ _ hfirst, fun time htime => (hbounds time htime).1⟩,
    hmem _ _ hlast, fun time htime => (hbounds time htime).2⟩

end Covers

/-! ### Runs of calls -/

/-- What holds of a call in progress, by what is left of it: it can be cut
    anywhere, it stores its message if it returns, and it leaves both tables
    alone unless its message is valid. -/
structure Going (delivered : List Item) (memory : Service) (item : Item) (rest : Handler Unit) :
    Prop where
  cut : ∀ final, Program.Reaches perform rest memory final →
    RegistryCovers externals delivered final.db
  returns : ∀ final, rest.run perform memory = (final, .ok ()) → Stored externals final.db item
  invalid : valid_reading externals item = none → ∀ final, Program.Reaches perform rest memory final →
    SameTables memory.db final.db

structure CallsInvariant (calls : Calls) : Prop where
  covers : RegistryCovers externals calls.delivered calls.memory.db
  stored : ∀ item ∈ calls.handled, Stored externals calls.memory.db item
  going : ∀ item rest, calls.current = some (item, rest) →
    Going externals calls.delivered calls.memory item rest

section Invariant

variable {externals} {calls after : Calls}

theorem invariant_fresh : CallsInvariant externals Calls.fresh where
  covers := ⟨by simp [Calls.fresh, Service.fresh, Database.fresh], by
    intro device_id device hdevice
    simp [Calls.fresh, Service.fresh, Database.fresh, KeyedTable.lookup] at hdevice⟩
  stored := by simp [Calls.fresh]
  going := by simp [Calls.fresh]

theorem stored_perform {service : Service} {item : Item} (effect : Effect)
    (h : Stored externals service.db item) : Stored externals (perform effect service).1.db item := by
  intro reading hvalid
  have hkey := h reading hvalid
  cases effect with
  | get_latest | set_latest | count | upsert_device | record_dedupe | insert_dead_letter => exact hkey
  | insert_reading other => exact KeyedTable.mem_keys_insertIgnore.mpr (.inl hkey)

theorem Going.handle_one {delivered : List Item} {memory : Service}
    (h : RegistryCovers externals delivered memory.db) {item : Item} (hitem : item ∈ delivered) :
    Going externals delivered memory item (handle_one externals item) where
  cut _ hcut := h.cut hitem hcut
  returns _ hrun := stored_of_run_ok hrun
  invalid hinvalid _ hcut := by
    rcases reaches_handle_one hcut with hsame | ⟨reading, hvalid, -⟩
    · exact hsame
    · rw [hinvalid] at hvalid
      cases hvalid

theorem Going.exec {delivered : List Item} {memory : Service} {item : Item} {effect : Effect}
    {next : effect.Response → Handler Unit}
    (h : Going externals delivered memory item (.exec effect next)) :
    Going externals delivered (perform effect memory).1 item (next (perform effect memory).2) where
  cut _ hcut := h.cut _ (.next hcut)
  returns _ hrun := h.returns _ hrun
  invalid hinvalid _ hcut := by
    have hnow := h.invalid hinvalid _ (.next (.here _ _))
    have hlater := h.invalid hinvalid _ (.next hcut)
    exact ⟨hlater.1.trans hnow.1.symm, hlater.2.trans hnow.2.symm⟩

theorem invariant_calls_step {action : CallAction} (h : CallsInvariant externals calls)
    (hstep : calls.step externals action = some after) : CallsInvariant externals after := by
  cases action with
  | call item =>
    simp only [Calls.step] at hstep
    split at hstep
    · cases hstep
      have hcovers := h.covers.deliver item
      refine ⟨hcovers, h.stored, fun other rest hcurrent => ?_⟩
      obtain ⟨rfl, rfl⟩ := Prod.mk.inj (Option.some.inj hcurrent)
      exact Going.handle_one hcovers (by simp)
    · cases hstep
  | proceed =>
    simp only [Calls.step] at hstep
    split at hstep
    · cases hstep
    · next item hcurrent =>
      cases hstep
      refine ⟨h.covers, fun other hother => ?_, fun _ _ hnone => by cases hnone⟩
      cases List.mem_append.mp hother with
      | inl hearlier => exact h.stored other hearlier
      | inr hlast =>
        rw [List.mem_singleton.mp hlast]
        exact (h.going _ _ hcurrent).returns _ rfl
    · cases hstep
      exact ⟨h.covers, h.stored, fun _ _ hnone => by cases hnone⟩
    · next item effect next hcurrent =>
      cases hstep
      have hgoing := h.going _ _ hcurrent
      refine ⟨hgoing.cut _ (.next (.here _ _)), fun other hother => ?_, fun other rest hrest => ?_⟩
      · exact stored_perform effect (h.stored other hother)
      · obtain ⟨rfl, rfl⟩ := Prod.mk.inj (Option.some.inj hrest)
        exact hgoing.exec
  | operational_error took_effect =>
    simp only [Calls.step] at hstep
    split at hstep
    · next item effect next hcurrent =>
      split at hstep
      · cases hstep
        cases took_effect with
        | false => exact ⟨h.covers, h.stored, fun _ _ hnone => by cases hnone⟩
        | true =>
          refine ⟨(h.going _ _ hcurrent).cut _ (.next (.here _ _)), fun other hother => ?_,
            fun _ _ hnone => by cases hnone⟩
          exact stored_perform effect (h.stored other hother)
      · cases hstep
    · cases hstep

/-- Each step of a call for an invalid message leaves both tables as they are. -/
theorem invalid_calls_step (h : CallsInvariant externals calls) {item : Item} {rest : Handler Unit}
    (hcurrent : calls.current = some (item, rest)) (hinvalid : valid_reading externals item = none)
    (hstep : CallStep externals calls after) : SameTables calls.memory.db after.memory.db := by
  have hsame : SameTables calls.memory.db calls.memory.db := ⟨rfl, rfl⟩
  obtain ⟨action, hstep⟩ := hstep
  cases action with
  | call other =>
    simp [Calls.step, hcurrent] at hstep
  | proceed =>
    simp only [Calls.step] at hstep
    cases rest with
    | ret value =>
      simp only [hcurrent, Option.some.injEq] at hstep
      exact hstep ▸ hsame
    | raise error =>
      simp only [hcurrent, Option.some.injEq] at hstep
      exact hstep ▸ hsame
    | exec effect next =>
      simp only [hcurrent, Option.some.injEq] at hstep
      exact hstep ▸ (h.going _ _ hcurrent).invalid hinvalid _ (.next (.here _ _))
  | operational_error took_effect =>
    simp only [Calls.step] at hstep
    cases rest with
    | ret value => simp [hcurrent] at hstep
    | raise error => simp [hcurrent] at hstep
    | exec effect next =>
      simp only [hcurrent] at hstep
      split at hstep
      · cases took_effect with
        | false =>
          cases hstep
          exact hsame
        | true =>
          cases hstep
          exact (h.going _ _ hcurrent).invalid hinvalid _ (.next (.here _ _))
      · cases hstep

end Invariant

/-- In every state of every run of calls from an empty database, each of them
    stopped anywhere and repeated any number of times, the registry covers the
    telemetry and only speaks of delivered readings; no step for an invalid
    message touches either table; and once a call has returned for every valid
    message delivered, the registry is the exact span of the telemetry. -/
theorem registry_covers_telemetry (externals : Externals) {calls : Calls}
    (h : Relation.ReflTransGen (CallStep externals) Calls.fresh calls) :
    RegistryCovers externals calls.delivered calls.memory.db ∧
      (∀ item rest after, calls.current = some (item, rest) → valid_reading externals item = none →
        CallStep externals calls after → SameTables calls.memory.db after.memory.db) ∧
      ((∀ item ∈ calls.delivered, (valid_reading externals item).isSome → item ∈ calls.handled) →
        RegistryExact calls.memory.db) := by
  have hinvariant : CallsInvariant externals calls := by
    induction h with
    | refl => exact invariant_fresh
    | tail _ hlast ih =>
      obtain ⟨action, hstep⟩ := hlast
      exact invariant_calls_step ih hstep
  refine ⟨hinvariant.covers, ?_, fun hhandled => ?_⟩
  · intro item rest after hcurrent hinvalid hstep
    exact invalid_calls_step hinvariant hcurrent hinvalid hstep
  · apply hinvariant.covers.exact
    intro item hitem reading hvalid
    exact hinvariant.stored item (hhandled item hitem (by rw [hvalid]; rfl)) reading hvalid

/-- A run by its actions. -/
def Calls.steps (externals : Externals) : List CallAction → Calls → Option Calls
  | [], calls => some calls
  | action :: actions, calls => (calls.step externals action).bind (Calls.steps externals actions)

theorem reachable_of_call_steps {externals : Externals} {actions : List CallAction}
    {calls final : Calls} (h : Calls.steps externals actions calls = some final) :
    Relation.ReflTransGen (CallStep externals) calls final := by
  induction actions generalizing calls with
  | nil =>
    cases h
    exact .refl
  | cons action actions ih =>
    obtain ⟨after, hstep, hrest⟩ := Option.bind_eq_some_iff.mp h
    exact .head ⟨action, hstep⟩ (ih hrest)

/-- The one o'clock message loses its insert after the registry was written,
    the noon message goes through, and the first is handled again. -/
def insert_lost_once : List CallAction :=
  [.call one_message, .proceed, .proceed, .proceed, .operational_error false] ++
    .call noon_message :: List.replicate 6 .proceed ++
    .call one_message :: List.replicate 6 .proceed

theorem registry_covers_telemetry_insert_lost_once :
    ∃ calls : Calls, calls.delivered = [one_message, noon_message, one_message] ∧
      calls.handled = [noon_message, one_message] ∧
      RegistryCovers hourly_reader calls.delivered calls.memory.db ∧
      RegistryExact calls.memory.db := by
  have hrun : (Calls.steps hourly_reader insert_lost_once Calls.fresh).any (fun calls =>
      calls.delivered = [one_message, noon_message, one_message] ∧
        calls.handled = [noon_message, one_message]) = true := by decide +kernel
  obtain ⟨calls, hsteps, hcalls⟩ := (Option.any_eq_true _ _).mp hrun
  obtain ⟨hdelivered, hhandled⟩ := of_decide_eq_true hcalls
  obtain ⟨hcovers, -, hexact⟩ := registry_covers_telemetry hourly_reader (reachable_of_call_steps hsteps)
  refine ⟨calls, hdelivered, hhandled, hcovers, hexact fun item hitem _ => ?_⟩
  rw [hdelivered] at hitem
  rw [hhandled]
  simp only [List.mem_cons, List.not_mem_nil, or_false] at hitem ⊢
  tauto

end planter_telemetry.ingestion.service
