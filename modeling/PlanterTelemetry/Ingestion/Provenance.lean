import PlanterTelemetry.Ingestion.Progress
import PlanterTelemetry.Ingestion.Registry

open planter_telemetry.python planter_telemetry.contract planter_telemetry.migrations
open planter_telemetry.ingestion.core planter_telemetry.ingestion.db

namespace planter_telemetry.ingestion.service

variable (externals : Externals)

/-! ### Where messages are held -/

/-- The message of the call in progress. -/
def Pc.item : Pc → Option Item
  | .handling _ item _ => some item
  | _ => none

/-- The messages that wait in the service. -/
def State.waiting (state : State) : List Item := state.pending ++ state.buffered

/-- A message waits, or is being handled. -/
def State.Holds (state : State) (item : Item) : Prop :=
  item ∈ state.waiting ∨ state.pc.item = some item

variable {externals} {before after : State} {action : Action} {item : Item}

@[simp] theorem Loop.item_head (loop : Loop) : loop.head.item = none := by cases loop <;> rfl

@[simp] theorem Loop.item_on_error (loop : Loop) (error : PyError) :
    (loop.on_error error).item = none := by
  cases loop <;> rfl

@[simp] theorem Loop.item_on_operational_error (loop : Loop) : loop.on_operational_error.item = none := by
  cases loop <;> rfl

/-- Where no new message waits and the one handled was held, nothing new is held. -/
theorem State.Holds.of_subset (h : after.Holds item) (hwaiting : after.waiting ⊆ before.waiting)
    (hitem : ∀ item, after.pc.item = some item → before.Holds item) : before.Holds item :=
  h.elim (fun hmem => .inl (hwaiting hmem)) (hitem item)

/-- Without a call in progress only the queues matter. -/
theorem State.Holds.of_idle (h : after.Holds item) (hwaiting : after.waiting ⊆ before.waiting)
    (hidle : after.pc.item = none) : before.Holds item := by
  apply h.of_subset hwaiting
  intro other hother
  rw [hidle] at hother
  cases hother

theorem waiting_of_pending {state : State} (h : item ∈ state.pending) : item ∈ state.waiting :=
  List.mem_append_left _ h

theorem waiting_of_buffered {state : State} {rest : List Item} (h : state.buffered = item :: rest) :
    item ∈ state.waiting :=
  List.mem_append_right _ (h ▸ List.mem_cons_self)

theorem waiting_take_subset {state : State} {rest : List Item} (h : state.buffered = item :: rest) :
    (state.take item rest).waiting ⊆ state.waiting := by
  have hsame : (state.take item rest).waiting = state.waiting := held_take h
  rw [hsame]
  exact List.Subset.refl _

theorem pending_tail_subset (state : State) : state.pending.tail ++ state.buffered ⊆ state.waiting :=
  List.append_subset.mpr ⟨fun _ h => waiting_of_pending (List.mem_of_mem_tail h),
    List.subset_append_right _ _⟩

theorem Turns.item_eq_none {state : State} {pc pc' : Pc} (h : Turns state pc pc') : pc'.item = none := by
  cases h with
  | raised loop item error => exact loop.item_on_error error
  | _ => rfl

/-- Without the buffer only `pending` is held. -/
theorem pending_subset (state : State) : state.pending ++ [] ⊆ state.waiting :=
  List.append_subset.mpr ⟨List.subset_append_left _ _, List.nil_subset _⟩

/-- Where `run` goes on by itself it comes to hold no new message. -/
theorem holds_proceeds (h : Proceeds externals before after) (hitem : after.Holds item) :
    before.Holds item := by
  cases h with
  | turned hat hturns => exact hitem.of_idle (List.Subset.refl _) hturns.item_eq_none
  -- the new client has nothing buffered
  | entered hat => exact hitem.of_idle (pending_subset before) rfl
  | resumed hloop hpending =>
    refine hitem.of_subset (List.Subset.refl _) fun other hother => .inl ?_
    cases hother
    exact waiting_of_pending (List.mem_of_head? hpending)
  | took hloop hbuffered =>
    refine hitem.of_subset (waiting_take_subset hbuffered) fun other hother => .inl ?_
    cases hother
    exact waiting_of_buffered hbuffered
  | salvaged hat hbuffered =>
    apply hitem.of_idle (waiting_take_subset hbuffered)
    rw [State.take, hat]
    rfl
  | @handled loop own hat => exact hitem.of_idle (pending_tail_subset before) loop.item_head
  | executed hat =>
    refine hitem.of_subset (List.Subset.refl _) fun other hother => .inr ?_
    rw [hat]
    exact hother
  | left hat => exact hitem.of_idle (pending_subset before) rfl
  | crashed hat =>
    refine hitem.of_idle ?_ rfl
    exact List.append_subset.mpr ⟨List.nil_subset _, List.subset_append_right _ _⟩
  | dropped hat => exact hitem.of_idle (List.Subset.refl _) rfl

/-- A step comes to hold no message but the one that is acked then. -/
theorem holds_step (h : step externals before action = some after) (hitem : after.Holds item) :
    before.Holds item ∨ after.acked = before.acked ++ [item] := by
  cases stepped externals h with
  | proceeded hproceeds => exact .inl (holds_proceeds hproceeds hitem)
  | halted | connect_failed | flush_failed | enter_failed | subscribe_failed | disconnected_empty =>
    exact .inl (hitem.of_idle (List.Subset.refl _) rfl)
  | @halted_late taken rest hat hstop hbuffered =>
    refine .inl (hitem.of_idle ?_ rfl)
    have hrest : before.pending ++ rest ⊆ (before.take taken rest).waiting := by
      simp only [State.waiting, State.take, State.buffered, Option.getD_some, List.append_assoc]
      exact List.append_subset.mpr ⟨List.subset_append_left _ _,
        List.Subset.trans (List.subset_append_right _ _) (List.subset_append_right _ _)⟩
    exact List.Subset.trans hrest (waiting_take_subset hbuffered)
  | @statement_failed took_effect loop own effect next hat hawaited =>
    exact .inl (hitem.of_idle (List.Subset.refl _) loop.item_on_operational_error)
  | exit_failed hat => exact .inl (hitem.of_idle (pending_subset before) rfl)
  | @delivered delivered buffered hbuffer =>
    cases hitem with
    | inl hwaiting =>
      have hmem : item ∈ before.waiting ++ [delivered] := by
        simpa [State.waiting, State.buffered, hbuffer] using hwaiting
      cases List.mem_append.mp hmem with
      | inl hold => exact .inl (.inl hold)
      | inr hnew => exact .inr (List.mem_singleton.mp hnew ▸ rfl)
    | inr hcall => exact .inl (.inr hcall)
  | disconnected | stop_set => exact .inl hitem

theorem proceeds_keeps (h : Proceeds externals before after) :
    after.stop = before.stop ∧ after.acked = before.acked := by
  cases h <;> exact ⟨rfl, rfl⟩

/-- Messages are acked one by one. -/
theorem acked_grows (h : step externals before action = some after) : before.acked <+: after.acked := by
  cases stepped externals h with
  | proceeded hproceeds => exact (proceeds_keeps hproceeds).2 ▸ List.prefix_refl _
  | delivered => exact List.prefix_append _ _
  | _ => exact List.prefix_refl _

/-- What is acked stays acked. -/
theorem acked_step (h : step externals before action = some after) : before.acked ⊆ after.acked :=
  (acked_grows h).subset

/-! ### What is stored was acked -/

variable (externals)

/-- The valid reading of an acked message. -/
def AckedReading (acked : List Item) (reading : TelemetryV1) : Prop :=
  ∃ item ∈ acked, valid_reading externals item = some reading

/-- One end of a registry row is what it was at the start, or the device time of
    an acked reading. -/
def Seen (start : Database) (acked : List Item) (seen : DeviceRow → UtcDatetime) (row : DeviceRow) : Prop :=
  (∃ old ∈ start.devices.rows, old.device_id = row.device_id ∧ seen old = seen row) ∨
    ∃ reading, AckedReading externals acked reading ∧ reading.device_id.val = row.device_id ∧
      reading.measured_at = seen row

/-- All that was written since the start stands for acked messages, and the
    tables of the forecasts were left alone. -/
structure Attested (start : Database) (acked : List Item) (db : Database) : Prop where
  telemetry : ∀ row ∈ db.telemetry.rows, row ∈ start.telemetry.rows ∨
    ∃ reading, AckedReading externals acked reading ∧ row = reading_row reading
  kept : start.telemetry.rows ⊆ db.telemetry.rows
  devices : ∀ row ∈ db.devices.rows, Seen externals start acked DeviceRow.first_seen row ∧
    Seen externals start acked DeviceRow.last_seen row
  dead_letter : ∃ letters, db.dead_letter = start.dead_letter ++ letters ∧
    ∀ letter ∈ letters, ∃ item ∈ acked, classify externals item.1 item.2 = .ok (.dead_letter letter) ∧
      letter.topic = item.1 ∧ letter.payload = item.2
  ingest_events : ∃ events, db.ingest_events = start.ingest_events ++ events ∧
    ∀ event ∈ events, ∃ reading, AckedReading externals acked reading ∧
      event = ⟨"deduplicated", reading.device_id.val, reading.measured_at⟩ ∧
      (reading_row reading).key ∈ db.telemetry.keys
  forecasts : db.forecasts = start.forecasts
  alert_events : db.alert_events = start.alert_events

variable {externals} {start db : Database} {acked acked' : List Item} {reading : TelemetryV1}

theorem AckedReading.mono (h : AckedReading externals acked reading) (hacked : acked ⊆ acked') :
    AckedReading externals acked' reading := by
  obtain ⟨item, hitem, hvalid⟩ := h
  exact ⟨item, hacked hitem, hvalid⟩

theorem Seen.mono {seen : DeviceRow → UtcDatetime} {row : DeviceRow}
    (h : Seen externals start acked seen row) (hacked : acked ⊆ acked') :
    Seen externals start acked' seen row :=
  h.imp_right fun hreading => hreading.imp fun _ h => ⟨h.1.mono hacked, h.2⟩

theorem Attested.mono (h : Attested externals start acked db) (hacked : acked ⊆ acked') :
    Attested externals start acked' db where
  telemetry row hrow := (h.telemetry row hrow).imp_right fun hreading =>
    hreading.imp fun _ h => ⟨h.1.mono hacked, h.2⟩
  kept := h.kept
  devices row hrow := ⟨(h.devices row hrow).1.mono hacked, (h.devices row hrow).2.mono hacked⟩
  dead_letter := by
    obtain ⟨letters, heq, hletters⟩ := h.dead_letter
    refine ⟨letters, heq, fun letter hletter => ?_⟩
    obtain ⟨item, hitem, hmore⟩ := hletters letter hletter
    exact ⟨item, hacked hitem, hmore⟩
  ingest_events := by
    obtain ⟨events, heq, hevents⟩ := h.ingest_events
    refine ⟨events, heq, fun event hevent => ?_⟩
    obtain ⟨reading, hreading, hmore⟩ := hevents event hevent
    exact ⟨reading, hreading.mono hacked, hmore⟩
  forecasts := h.forecasts
  alert_events := h.alert_events

theorem attested_start (externals : Externals) (start : Database) : Attested externals start [] start where
  telemetry _ hrow := .inl hrow
  kept := List.Subset.refl _
  devices row hrow := ⟨.inl ⟨row, hrow, rfl, rfl⟩, .inl ⟨row, hrow, rfl, rfl⟩⟩
  dead_letter := ⟨[], (List.append_nil _).symm, fun _ hletter => absurd hletter List.not_mem_nil⟩
  ingest_events := ⟨[], (List.append_nil _).symm, fun _ hevent => absurd hevent List.not_mem_nil⟩
  forecasts := rfl
  alert_events := rfl

/-- A widened end stays, or is the time that widened it. -/
theorem Seen.widen {seen : DeviceRow → UtcDatetime} {old : DeviceRow}
    (h : Seen externals start acked seen old) (hreading : AckedReading externals acked reading)
    (hdevice : old.device_id = reading.device_id.val)
    (hseen : seen (widen reading.measured_at old) = seen old ∨
      seen (widen reading.measured_at old) = reading.measured_at) :
    Seen externals start acked seen (widen reading.measured_at old) := by
  cases hseen with
  | inl hsame =>
    unfold Seen at h ⊢
    rw [hsame]
    exact h
  | inr htime => exact .inr ⟨reading, hreading, hdevice.symm, htime.symm⟩

/-- The registry row of a device stays, is widened to an acked time, or opens at
    one. -/
theorem Attested.upsert_device (h : Attested externals start acked db)
    (hreading : AckedReading externals acked reading) :
    Attested externals start acked (upsert_device db reading) where
  telemetry := h.telemetry
  kept := h.kept
  devices row hrow := by
    rcases KeyedTable.mem_upsert.mp hrow with ⟨hold, -⟩ | ⟨old, hold, hdevice, rfl⟩ | ⟨-, rfl⟩
    · exact h.devices row hold
    · obtain ⟨hfirst, hlast⟩ := h.devices old hold
      exact ⟨hfirst.widen hreading hdevice (min_choice _ _), hlast.widen hreading hdevice (max_choice _ _)⟩
    · exact ⟨.inr ⟨reading, hreading, rfl, rfl⟩, .inr ⟨reading, hreading, rfl, rfl⟩⟩
  dead_letter := h.dead_letter
  ingest_events := h.ingest_events
  forecasts := h.forecasts
  alert_events := h.alert_events

theorem Attested.insert_reading (h : Attested externals start acked db)
    (hreading : AckedReading externals acked reading) :
    Attested externals start acked (insert_reading db reading).1 where
  telemetry row hrow := by
    rcases KeyedTable.mem_insertIgnore.mp hrow with hold | ⟨-, rfl⟩
    · exact h.telemetry row hold
    · exact .inr ⟨reading, hreading, rfl⟩
  kept := List.Subset.trans h.kept KeyedTable.rows_subset_insertIgnore
  devices := h.devices
  dead_letter := h.dead_letter
  ingest_events := by
    obtain ⟨events, heq, hevents⟩ := h.ingest_events
    refine ⟨events, heq, fun event hevent => ?_⟩
    obtain ⟨other, hother, hevent, hkey⟩ := hevents event hevent
    exact ⟨other, hother, hevent, KeyedTable.mem_keys_insertIgnore.mpr (.inl hkey)⟩
  forecasts := h.forecasts
  alert_events := h.alert_events

theorem Attested.record_dedupe (h : Attested externals start acked db)
    (hreading : AckedReading externals acked reading)
    (hkey : (reading_row reading).key ∈ db.telemetry.keys) :
    Attested externals start acked (record_dedupe db reading) where
  telemetry := h.telemetry
  kept := h.kept
  devices := h.devices
  dead_letter := h.dead_letter
  ingest_events := by
    obtain ⟨events, heq, hevents⟩ := h.ingest_events
    refine ⟨events ++ [⟨"deduplicated", reading.device_id.val, reading.measured_at⟩], ?_, ?_⟩
    · rw [← List.append_assoc, ← heq]
      rfl
    · intro event hevent
      cases List.mem_append.mp hevent with
      | inl hold => exact hevents event hold
      | inr hnew => exact ⟨reading, hreading, List.mem_singleton.mp hnew, hkey⟩
  forecasts := h.forecasts
  alert_events := h.alert_events

theorem Attested.insert_dead_letter {letter : DeadLetter} (h : Attested externals start acked db)
    (hitem : item ∈ acked) (hletter : classify externals item.1 item.2 = .ok (.dead_letter letter)) :
    Attested externals start acked (insert_dead_letter db letter) where
  telemetry := h.telemetry
  kept := h.kept
  devices := h.devices
  dead_letter := by
    obtain ⟨letters, heq, hletters⟩ := h.dead_letter
    refine ⟨letters ++ [letter], ?_, ?_⟩
    · rw [← List.append_assoc, ← heq]
      rfl
    · intro other hother
      cases List.mem_append.mp hother with
      | inl hold => exact hletters other hold
      | inr hnew =>
        rw [List.mem_singleton.mp hnew]
        exact ⟨item, hitem, hletter, classify_dead_letter hletter⟩
  ingest_events := h.ingest_events
  forecasts := h.forecasts
  alert_events := h.alert_events

/-! ### Over a run -/

/-- The rows are those of acked messages, only acked messages are held, and where
    a key is known to be stored it is. -/
structure Provenance (externals : Externals) (start : Database) (progress : Progress) (state : State) :
    Prop where
  attested : Attested externals start state.acked state.memory.db
  held : ∀ item, state.Holds item → item ∈ state.acked
  present : progress = .present → ∀ item, state.pc.item = some item → ∀ reading,
    valid_reading externals item = some reading →
      (reading_row reading).key ∈ state.memory.db.telemetry.keys
  pc : state.pc.InProgress externals progress

variable {progress : Progress} {effect : Effect} {service : Service}

/-- An allowed statement writes what its acked message stands for. -/
theorem attested_perform (h : Attested externals start acked service.db) (hitem : item ∈ acked)
    (hallowed : (call_order externals item).allowed progress effect)
    (hpresent : progress = .present → ∀ reading, valid_reading externals item = some reading →
      (reading_row reading).key ∈ service.db.telemetry.keys) :
    Attested externals start acked (perform effect service).1.db := by
  cases effect with
  | get_latest | set_latest | count => exact h
  | upsert_device reading =>
    cases progress with
    | settled => exact h.upsert_device ⟨item, hitem, hallowed⟩
    | _ => exact hallowed.elim
  | insert_reading reading =>
    cases progress with
    | settled => exact h.insert_reading ⟨item, hitem, hallowed⟩
    | _ => exact hallowed.elim
  | record_dedupe reading =>
    cases progress with
    | present => exact h.record_dedupe ⟨item, hitem, hallowed⟩ (hpresent rfl reading hallowed)
    | _ => exact hallowed.elim
  | insert_dead_letter letter =>
    cases progress with
    | settled => exact h.insert_dead_letter hitem hallowed
    | _ => exact hallowed.elim

/-- The insert that stores nothing found the key. -/
theorem present_perform (hallowed : (call_order externals item).allowed progress effect)
    (hafter : (call_order externals item).after progress effect (perform effect service).2 = .present) :
    ∀ reading, valid_reading externals item = some reading →
      (reading_row reading).key ∈ (perform effect service).1.db.telemetry.keys := by
  cases effect with
  | insert_reading own =>
    cases progress with
    | settled =>
      intro reading hreading
      obtain rfl : own = reading := Option.some.inj (Eq.trans (Eq.symm hallowed) hreading)
      exact KeyedTable.mem_keys_insertIgnore.mpr (.inr rfl)
    | _ => exact hallowed.elim
  | get_latest | set_latest | upsert_device =>
    obtain rfl : progress = .present := hafter
    exact hallowed.elim
  | count | record_dedupe | insert_dead_letter => cases hafter

theorem provenance_step (h : Provenance externals start progress before)
    (hstep : step externals before action = some after) :
    ∃ progress', Provenance externals start progress' after := by
  obtain ⟨hattested, hheld, hpresent, hpc⟩ := h
  have hacked := acked_step hstep
  have hheld' : ∀ item, after.Holds item → item ∈ after.acked := fun item hitem =>
    (holds_step hstep hitem).elim (fun hold => hacked (hheld item hold)) fun hnew => by simp [hnew]
  rcases step_progress hpc hstep with
    ⟨loop, item, rest, effect, rest', hat, hallowed, -, hmemory, hat', hpc'⟩ |
    ⟨loop, item, rest, effect, took_effect, hat, hallowed, -, -, hmemory, hpc'⟩ | ⟨hmemory, hpc', hsame⟩
  · have hitem : before.pc.item = some item := by rw [hat]; rfl
    have hmem := hheld item (.inr hitem)
    refine ⟨_, ?_, hheld', fun hafter other hother => ?_, hpc'⟩
    · rw [hmemory]
      refine (attested_perform hattested hmem hallowed fun hprogress => ?_).mono hacked
      exact hpresent hprogress item hitem
    · rw [hat'] at hother
      cases hother
      rw [hmemory]
      exact present_perform hallowed hafter
  · have hitem : before.pc.item = some item := by rw [hat]; rfl
    have hmem := hheld item (.inr hitem)
    refine ⟨.settled, ?_, hheld', (fun hafter => by cases hafter), hpc'⟩
    rw [hmemory]
    cases took_effect with
    | true =>
      refine (attested_perform hattested hmem hallowed fun hprogress => ?_).mono hacked
      exact hpresent hprogress item hitem
    | false => exact hattested.mono hacked
  · refine ⟨progress, ?_, hheld', fun hprogress other hother => ?_, hpc'⟩
    · rw [hmemory]
      exact hattested.mono hacked
    · rw [hmemory]
      cases hsame with
      | inl hsame => exact hpresent hprogress other (hsame ▸ hother)
      | inr hsettled =>
        rw [hsettled] at hprogress
        cases hprogress

/-- The process is killed, wherever it stands, and started again: all it had in
    memory is gone. -/
def State.restarted (state : State) : State := { initial state.memory.db with acked := state.acked }

/-- One step of the service or of its surroundings, or a restart. -/
def Deployed (externals : Externals) (before after : State) : Prop :=
  Step externals before after ∨ after = before.restarted

theorem provenance_run {state : State}
    (hrun : Relation.ReflTransGen (Deployed externals) (initial db) state) :
    ∃ progress, Provenance externals db progress state := by
  have hidle (acked : List Item) (other : Database) (hattested : Attested externals db acked other) :
      Provenance externals db .settled { initial other with acked := acked } := by
    refine ⟨hattested, ?_, (fun hpresent => by cases hpresent), rfl⟩
    rintro item (hwaiting | hcall)
    · exact absurd hwaiting List.not_mem_nil
    · cases hcall
  induction hrun with
  | refl => exact ⟨.settled, hidle [] db (attested_start externals db)⟩
  | tail _ hstep ih =>
    obtain ⟨progress, hbefore⟩ := ih
    rcases hstep with ⟨action, hstep⟩ | rfl
    · exact provenance_step hbefore hstep
    · exact ⟨.settled, hidle _ _ hbefore.attested⟩

/-- Every row that ingestion stores, in any run and over any restarts, stands for
    a message that a client has acked. -/
theorem stored_was_acked (externals : Externals) (db : Database) {state : State}
    (hrun : Relation.ReflTransGen (Deployed externals) (initial db) state) :
    Attested externals db state.acked state.memory.db := by
  obtain ⟨progress, hprovenance⟩ := provenance_run hrun
  exact hprovenance.attested

/-- A run whose database fails once records two messages, one of them twice. -/
theorem stored_was_acked_lost_once :
    ∃ state : State, state.memory.db.dead_letter.map DeadLetter.payload = [[1], [1], [2]] ∧
      Attested (document_reader []) Database.fresh state.acked state.memory.db := by
  have hrun : (steps (document_reader []) (fun _ _ => true) database_lost_once (initial .fresh)).any
      (fun state => state.memory.db.dead_letter.map DeadLetter.payload = [[1], [1], [2]]) = true := by
    decide +kernel
  obtain ⟨state, hsteps, hstate⟩ := (Option.any_eq_true _ _).mp hrun
  have hreached : Relation.ReflTransGen (Deployed (document_reader [])) (initial .fresh) state :=
    (reachable_of_steps hsteps).lift id fun _ _ hallowed => .inl (hallowed.imp fun _ h => h.2)
  exact ⟨state, of_decide_eq_true hstate, stored_was_acked (document_reader []) .fresh hreached⟩

end planter_telemetry.ingestion.service
