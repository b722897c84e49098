import Mathlib.Data.List.Infix
import PlanterTelemetry.Ingestion.Provenance

open planter_telemetry.python planter_telemetry.contract planter_telemetry.migrations
open planter_telemetry.ingestion.core planter_telemetry.ingestion.db

namespace planter_telemetry.ingestion.service

variable (externals : Externals)

/-! ### The registry is written first -/

/-- The order of the statements of a call by whether the registry covers its
    reading: only then is the reading inserted. -/
def registry_order (item : Item) : Protocol Effect.Response Bool where
  allowed
    | _, .upsert_device reading => valid_reading externals item = some reading
    | covered, .insert_reading reading | covered, .record_dedupe reading =>
      covered = true ∧ valid_reading externals item = some reading
    | _, _ => True
  after
    | _, .upsert_device _, _ => true
    | _, .count _, _ => false
    | covered, _, _ => covered

variable {externals} {item : Item} {reading : TelemetryV1}

theorem note_arrival_registry (reading : TelemetryV1) :
    (note_arrival reading).Follows (registry_order externals item) false false := by
  refine ⟨trivial, fun newest => ?_⟩
  simp only [Program.ret_bind]
  split
  · exact ⟨trivial, fun _ => rfl⟩
  · exact ⟨trivial, fun _ => rfl⟩

theorem store_reading_registry (hvalid : valid_reading externals item = some reading) :
    (store_reading reading).Follows (registry_order externals item) false false := by
  refine ⟨hvalid, fun _ => ⟨⟨rfl, hvalid⟩, fun inserted => ?_⟩⟩
  cases inserted with
  | true => exact ⟨trivial, fun _ => rfl⟩
  | false => exact ⟨⟨rfl, hvalid⟩, fun _ => ⟨trivial, fun _ => rfl⟩⟩

theorem handle_one_registry (externals : Externals) (item : Item) :
    (handle_one externals item).Follows (registry_order externals item) false false := by
  unfold handle_one
  match hclassify : classify externals item.1 item.2 with
  | .error error => exact rfl
  | .ok (.valid_reading reading) =>
    have hvalid : valid_reading externals item = some reading := by rw [valid_reading, hclassify]
    exact (note_arrival_registry reading).bind fun _ => store_reading_registry hvalid
  | .ok (.dead_letter letter) => exact ⟨trivial, fun _ => ⟨trivial, fun _ => rfl⟩⟩

/-! ### The registry covers what is stored -/

/-- The registry spans this time of the device. -/
def Spanned (db : Database) (device_id : String) (time : UtcDatetime) : Prop :=
  ∃ device, db.devices.lookup device_id = some device ∧ device.first_seen ≤ time ∧ time ≤ device.last_seen

variable {db : Database} {service : Service} {effect : Effect} {device_id : String} {time : UtcDatetime}

theorem spanned_own (db : Database) (reading : TelemetryV1) :
    Spanned (upsert_device db reading) reading.device_id.val reading.measured_at := by
  unfold Spanned
  rw [lookup_upsert_device, if_pos rfl]
  cases db.devices.lookup reading.device_id.val with
  | none => exact ⟨_, rfl, le_refl _, le_refl _⟩
  | some device => exact ⟨_, rfl, min_le_right _ _, le_max_right _ _⟩

/-- A span only widens. -/
theorem spanned_upsert (h : Spanned db device_id time) (reading : TelemetryV1) :
    Spanned (upsert_device db reading) device_id time := by
  obtain ⟨device, hlookup, hfirst, hlast⟩ := h
  unfold Spanned
  rw [lookup_upsert_device, hlookup]
  split
  · exact ⟨_, rfl, (min_le_left _ _).trans hfirst, hlast.trans (le_max_left _ _)⟩
  · exact ⟨device, rfl, hfirst, hlast⟩

/-- The registry covers every stored reading. -/
def Covers (db : Database) : Prop :=
  ∀ row ∈ db.telemetry.rows, Spanned db row.device_id row.measured_at

/-- The registry covers what is stored, and the reading of the call in progress
    once the call has been there. -/
structure Covered (externals : Externals) (covered : Bool) (state : State) : Prop where
  covers : Covers state.memory.db
  reading : covered = true → ∀ item, state.pc.item = some item → ∀ reading,
    valid_reading externals item = some reading →
      Spanned state.memory.db reading.device_id.val reading.measured_at
  pc : state.pc.Follows (registry_order externals) false covered

variable {before after : State} {action : Action} {covered : Bool}

theorem covers_perform (h : Covers service.db)
    (hallowed : (registry_order externals item).allowed covered effect)
    (hreading : covered = true → ∀ reading, valid_reading externals item = some reading →
      Spanned service.db reading.device_id.val reading.measured_at) :
    Covers (perform effect service).1.db := by
  cases effect with
  | insert_reading reading =>
    obtain ⟨hcovered, hvalid⟩ := hallowed
    intro row hrow
    rcases KeyedTable.mem_insertIgnore.mp hrow with hold | ⟨-, rfl⟩
    · exact h row hold
    · exact hreading hcovered reading hvalid
  | upsert_device reading => exact fun row hrow => spanned_upsert (h row hrow) reading
  | get_latest | set_latest | count | record_dedupe | insert_dead_letter => exact h

/-- After a statement the registry covers the reading if it is to. -/
theorem reading_perform (hallowed : (registry_order externals item).allowed covered effect)
    (hreading : covered = true → ∀ reading, valid_reading externals item = some reading →
      Spanned service.db reading.device_id.val reading.measured_at)
    (hafter : (registry_order externals item).after covered effect (perform effect service).2 = true) :
    ∀ reading, valid_reading externals item = some reading →
      Spanned (perform effect service).1.db reading.device_id.val reading.measured_at := by
  intro reading hvalid
  cases effect with
  | upsert_device own =>
    obtain rfl : own = reading := Option.some.inj (Eq.trans (Eq.symm hallowed) hvalid)
    exact spanned_own service.db own
  | count => cases hafter
  | get_latest | set_latest | insert_reading | record_dedupe | insert_dead_letter =>
    exact hreading hafter reading hvalid

theorem covered_step (h : Covered externals covered before)
    (hstep : step externals before action = some after) :
    ∃ covered', Covered externals covered' after := by
  obtain ⟨hcovers, hreading, hpc⟩ := h
  rcases step_follows (handle_one_registry externals) hpc hstep with
    ⟨loop, item, rest, effect, rest', hat, hallowed, -, hmemory, hat', hpc'⟩ |
    ⟨loop, item, rest, effect, took_effect, hat, hallowed, -, -, hmemory, hpc'⟩ | ⟨hmemory, hpc', hsame⟩
  · have hitem : before.pc.item = some item := by rw [hat]; rfl
    refine ⟨_, ?_, fun hafter other hother => ?_, hpc'⟩
    · rw [hmemory]
      exact covers_perform hcovers hallowed fun hcovered => hreading hcovered item hitem
    · rw [hat'] at hother
      cases hother
      rw [hmemory]
      exact reading_perform hallowed (fun hcovered => hreading hcovered item hitem) hafter
  · have hitem : before.pc.item = some item := by rw [hat]; rfl
    refine ⟨false, ?_, (fun hafter => by cases hafter), hpc'⟩
    rw [hmemory]
    cases took_effect with
    | true => exact covers_perform hcovers hallowed fun hcovered => hreading hcovered item hitem
    | false => exact hcovers
  · refine ⟨covered, hmemory ▸ hcovers, fun hcovered other hother => ?_, hpc'⟩
    rw [hmemory]
    cases hsame with
    | inl hsame => exact hreading hcovered other (hsame ▸ hother)
    | inr hidle =>
      rw [hidle] at hcovered
      cases hcovered

theorem covers_run {state : State} (hcovers : Covers db)
    (hrun : Relation.ReflTransGen (Deployed externals) (initial db) state) : Covers state.memory.db := by
  suffices hcovered : ∃ covered, Covered externals covered state from hcovered.elim fun _ h => h.covers
  induction hrun with
  | refl => exact ⟨false, hcovers, (fun h => by cases h), rfl⟩
  | tail _ hstep ih =>
    obtain ⟨covered, hbefore⟩ := ih
    rcases hstep with ⟨action, hstep⟩ | rfl
    · exact covered_step hbefore hstep
    · exact ⟨false, hbefore.covers, (fun h => by cases h), rfl⟩

/-! ### What is stored already changes nothing -/

theorem upsert_of_spanned (h : Spanned db reading.device_id.val reading.measured_at) :
    (upsert_device db reading).devices = db.devices := by
  obtain ⟨device, hlookup, hfirst, hlast⟩ := h
  exact KeyedTable.upsert_eq_self hlookup (DeviceRow.ext rfl (min_eq_left hfirst) (max_eq_left hlast))

theorem Covers.spanned (h : Covers db) (hstored : Stored externals db item)
    (hvalid : valid_reading externals item = some reading) :
    Spanned db reading.device_id.val reading.measured_at := by
  obtain ⟨row, hrow, hkey⟩ := KeyedTable.mem_keys.mp (hstored reading hvalid)
  obtain ⟨hdevice, htime⟩ := Prod.mk.inj hkey
  have hspanned := h row hrow
  rw [hdevice, htime] at hspanned
  exact hspanned

variable {progress : Progress}

/-- No statement for a stored message touches the telemetry or the registry. -/
theorem same_tables_perform (hcovers : Covers service.db) (hstored : Stored externals service.db item)
    (hallowed : (call_order externals item).allowed progress effect) :
    SameTables service.db (perform effect service).1.db := by
  cases effect with
  | get_latest | set_latest | count | record_dedupe | insert_dead_letter => exact ⟨rfl, rfl⟩
  | upsert_device reading =>
    cases progress with
    | settled => exact ⟨rfl, upsert_of_spanned (hcovers.spanned hstored hallowed)⟩
    | _ => exact hallowed.elim
  | insert_reading reading =>
    cases progress with
    | settled => exact ⟨KeyedTable.insertIgnore_of_mem (hstored reading hallowed), rfl⟩
    | _ => exact hallowed.elim

theorem SameTables.trans {first second third : Database} (h : SameTables first second)
    (h' : SameTables second third) : SameTables first third :=
  ⟨h'.1.trans h.1, h'.2.trans h.2⟩

theorem SameTables.stored {first second : Database} (h : SameTables first second)
    (hstored : Stored externals first item) : Stored externals second item := by
  unfold Stored
  rw [h.1]
  exact hstored

/-- The messages acked since an earlier state of a run. -/
def State.acked_since (live state : State) : List Item := state.acked.drop live.acked.length

/-- Since then only stored messages were held, and both tables are as they were. -/
structure Still (externals : Externals) (live state : State) : Prop where
  same : SameTables live.memory.db state.memory.db
  held : ∀ item, state.Holds item → Stored externals live.memory.db item
  since : live.acked <+: state.acked

variable {live state : State}

theorem still_step (h : Still externals live before) (hcovers : Covers before.memory.db)
    (hpc : before.pc.InProgress externals progress) (hstep : step externals before action = some after)
    (hacked : ∀ item ∈ live.acked_since after, Stored externals live.memory.db item) :
    Still externals live after := by
  have hheld : ∀ item, after.Holds item → Stored externals live.memory.db item := by
    intro item hitem
    cases holds_step hstep hitem with
    | inl hold => exact h.held item hold
    | inr hnew =>
      apply hacked item
      rw [State.acked_since, hnew, List.drop_append_of_le_length h.since.length_le]
      exact List.mem_append_right _ (List.mem_singleton_self item)
  have hperform {loop : Loop} {item : Item} {rest : Handler Unit} {effect : Effect}
      (hat : before.pc = .handling loop item rest)
      (hallowed : (call_order externals item).allowed progress effect) :
      SameTables live.memory.db (perform effect before.memory).1.db := by
    have hitem : before.Holds item := .inr (by rw [hat]; rfl)
    exact h.same.trans (same_tables_perform hcovers (h.same.stored (h.held item hitem)) hallowed)
  refine ⟨?_, hheld, h.since.trans (acked_grows hstep)⟩
  rcases step_progress hpc hstep with
    ⟨loop, item, rest, effect, rest', hat, hallowed, -, hmemory, -⟩ |
    ⟨loop, item, rest, effect, took_effect, hat, hallowed, -, -, hmemory, -⟩ | ⟨hmemory, -⟩
  · rw [hmemory]
    exact hperform hat hallowed
  · rw [hmemory]
    cases took_effect with
    | true => exact hperform hat hallowed
    | false => exact h.same
  · rw [hmemory]
    exact h.same

/-- From any state reached that holds no message but stored ones, as long as only
    stored messages are acked. -/
theorem still_run (hcovers : Covers db)
    (hlive : Relation.ReflTransGen (Deployed externals) (initial db) live)
    (hheld : ∀ item, live.Holds item → Stored externals live.memory.db item)
    (hrun : Relation.ReflTransGen (Deployed externals) live state)
    (hacked : ∀ item ∈ live.acked_since state, Stored externals live.memory.db item) :
    Still externals live state := by
  induction hrun with
  | refl => exact ⟨⟨rfl, rfl⟩, hheld, List.prefix_refl _⟩
  | tail hbefore hstep ih =>
    obtain ⟨progress, hprovenance⟩ := provenance_run (hlive.trans hbefore)
    rcases hstep with ⟨action, hstep⟩ | rfl
    · have hsubset := (List.IsPrefix.drop (acked_grows hstep) live.acked.length).subset
      exact still_step (ih fun item hitem => hacked item (hsubset hitem))
        (covers_run hcovers (hlive.trans hbefore)) hprovenance.pc hstep hacked
    · obtain ⟨hsame, -, hsince⟩ := ih hacked
      refine ⟨hsame, ?_, hsince⟩
      rintro item (hwaiting | hcall)
      · exact absurd hwaiting List.not_mem_nil
      · cases hcall

end planter_telemetry.ingestion.service
