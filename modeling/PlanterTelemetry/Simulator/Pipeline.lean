import PlanterTelemetry.Ingestion.Counting
import PlanterTelemetry.Ingestion.Provenance
import PlanterTelemetry.Simulator.Publisher

open planter_telemetry.python planter_telemetry.contract planter_telemetry.migrations
open planter_telemetry.ingestion.core planter_telemetry.ingestion.db planter_telemetry.ingestion.service
open planter_telemetry.simulator.dynamics planter_telemetry.simulator.wire planter_telemetry.simulator.stream

namespace planter_telemetry.simulator.publisher

/-! ### The readings of a fleet -/

section Fleet

variable {settings : SimulatorSettings} {start : UtcDatetime} {interval : Int} {draws : String → DeviceDraws}
  {streams : List (Nat → Except Rejection (List Emission))} {steps : Nat} {emissions : List Emission}

/-- An emission is of a device of the fleet, and of one of its wakes. -/
theorem merged_reading (hinterval : timedelta_seconds settings.interval_seconds.val = .ok interval)
    (h : build_streams settings start draws = .ok streams)
    (hmerged : merged_emissions streams steps = some emissions) {emission : Emission}
    (hemission : emission ∈ emissions) :
    ∃ index readings wake, fleet_readings settings start interval (draws (device_id index)) (device_id index) =
      .ok readings ∧ readings wake = .ok emission.reading := by
  obtain ⟨state, hrun, rfl⟩ := merged_emissions_eq_some_iff.mp hmerged
  obtain ⟨⟨index, own⟩, hout, rfl⟩ := List.mem_map.mp hemission
  obtain ⟨hindex, wake, burst, hburst, hmem⟩ := (Merging.run_from_source Emission.publish_at hrun).given_out _ hout
  rw [length_streams h] at hindex
  obtain ⟨readings, hreadings, -⟩ := stream_of_device hinterval h hindex
  have hburst_mem : own ∈ (bursts streams index wake).getD [] := by
    rw [hburst]
    exact hmem
  obtain ⟨-, -, -, earlier, hearlier⟩ := burst_cases hinterval h hindex hreadings hburst_mem
  exact ⟨index, readings, earlier, hreadings, hearlier⟩

/-- The key of a reading tells which reading of the fleet it is. -/
theorem reading_of_key (hinterval : timedelta_seconds settings.interval_seconds.val = .ok interval)
    (hpositive : 1 ≤ interval) (h : build_streams settings start draws = .ok streams)
    (hmerged : merged_emissions streams steps = some emissions) {first second : Emission}
    (hfirst : first ∈ emissions) (hsecond : second ∈ emissions)
    (hkey : (reading_row first.reading).key = (reading_row second.reading).key) :
    first.reading = second.reading := by
  obtain ⟨index, readings, wake, hreadings, hread⟩ := merged_reading hinterval h hmerged hfirst
  obtain ⟨index', readings', wake', hreadings', hread'⟩ := merged_reading hinterval h hmerged hsecond
  obtain ⟨hdevice, htime⟩ := Prod.mk.inj hkey
  obtain rfl : index = index' := device_id_injective
    (((fleet_readings_device hreadings hread).symm.trans hdevice).trans (fleet_readings_device hreadings' hread'))
  obtain rfl : readings = readings' := Except.ok.inj (hreadings.symm.trans hreadings')
  have htimes : first.reading.measured_at = second.reading.measured_at := htime
  rcases lt_trichotomy wake wake' with hlt | rfl | hlt
  · exact absurd (fleet_readings_increasing hpositive hreadings hlt hread hread') (htimes ▸ lt_irrefl _)
  · exact Except.ok.inj (hread.symm.trans hread')
  · exact absurd (fleet_readings_increasing hpositive hreadings hlt hread' hread) (htimes ▸ lt_irrefl _)

end Fleet

/-! ### From the planter to the table -/

/-- A database with nothing in it but what a fleet has emitted. The rows of the
    telemetry are readings of emissions that were not corrupted, and each key has
    the values that its device has measured; the registry has seen times that such
    readings have; and the dead letters are the corrupted payloads. -/
structure Simulated (texts : Texts) (emissions : List Emission) (db : Database) : Prop where
  telemetry : ∀ row ∈ db.telemetry.rows,
    ∃ emission ∈ emissions, emission.corruption = none ∧ row = reading_row emission.reading
  values : ∀ emission ∈ emissions, (reading_row emission.reading).key ∈ db.telemetry.keys →
    reading_row emission.reading ∈ db.telemetry.rows
  devices : ∀ row ∈ db.devices.rows, ∀ time, time = row.first_seen ∨ time = row.last_seen →
    ∃ emission ∈ emissions, emission.corruption = none ∧ emission.reading.device_id.val = row.device_id ∧
      emission.reading.measured_at = time
  dead_letter : ∀ letter ∈ db.dead_letter, ∃ emission ∈ emissions, emission.corruption ≠ none ∧
    letter.topic = telemetry_topic emission.reading.device_id.val ∧
    published texts emission = some letter.payload

/-- A message as the broker passes it on. -/
def Sent.item (own : Sent) : Item := (own.topic, own.payload)

theorem carries_of_mem {texts : Texts} {emissions : List Emission} {messages : List Sent}
    (h : List.Forall₂ (Carries texts) emissions messages) {own : Sent} (hown : own ∈ messages) :
    ∃ emission ∈ emissions, Carries texts emission own := by
  induction h with
  | nil => cases hown
  | cons hcarries _ ih =>
    rcases List.mem_cons.mp hown with rfl | hmem
    · exact ⟨_, List.mem_cons_self, hcarries⟩
    · obtain ⟨emission, hemission, hcarries⟩ := ih hmem
      exact ⟨emission, List.mem_cons_of_mem _ hemission, hcarries⟩

section Ingested

variable {externals : Externals} {of_value : Json.Value → externals.Json} {texts : Texts}
  {emissions : List Emission} {emission : Emission} {own : Sent} {acked : List Item}

/-- What ingestion makes of a message is what it makes of the emission. -/
theorem outcome_of_carries (hagrees : Agrees externals texts emission) (hcarries : Carries texts emission own)
    {outcome : Outcome} (h : classify externals own.topic own.payload = .ok outcome) :
    (outcome = .valid_reading emission.reading ↔ emission.corruption = none) ∧
      ∀ mode, emission.corruption = some mode → ∃ letter, outcome = .dead_letter letter := by
  obtain ⟨payload, found, hpayload, hclassify, hvalid, hletter⟩ := hagrees.classified
  obtain rfl : own.payload = payload := Option.some.inj (hcarries.payload.symm.trans hpayload)
  rw [hcarries.topic, hclassify] at h
  cases h
  exact ⟨hvalid, hletter⟩

theorem valid_of_carries (hagrees : Agrees externals texts emission) (hcarries : Carries texts emission own)
    {reading : TelemetryV1} (h : classify externals own.topic own.payload = .ok (.valid_reading reading)) :
    emission.corruption = none ∧ emission.reading = reading := by
  obtain ⟨hvalid, hletter⟩ := outcome_of_carries hagrees hcarries h
  cases hcorruption : emission.corruption with
  | none =>
    have heq := hvalid.mpr hcorruption
    cases heq
    exact ⟨rfl, rfl⟩
  | some mode =>
    obtain ⟨letter, hletter⟩ := hletter mode hcorruption
    cases hletter

theorem corrupted_of_carries (hagrees : Agrees externals texts emission) (hcarries : Carries texts emission own)
    {letter : DeadLetter} (h : classify externals own.topic own.payload = .ok (.dead_letter letter)) :
    emission.corruption ≠ none := by
  intro hcorruption
  have heq := (outcome_of_carries hagrees hcarries h).1.mpr hcorruption
  cases heq

/-- A valid reading that was acked is what its device has measured. -/
theorem emission_of_acked (hagree : ∀ emission ∈ emissions, Agrees externals texts emission)
    (hcarried : ∀ item ∈ acked, ∃ emission ∈ emissions, ∃ own, Carries texts emission own ∧ item = own.item)
    {reading : TelemetryV1} (h : AckedReading externals acked reading) :
    ∃ emission ∈ emissions, emission.corruption = none ∧ emission.reading = reading := by
  obtain ⟨item, hitem, hvalid⟩ := h
  obtain ⟨emission, hemission, own, hcarries, rfl⟩ := hcarried item hitem
  exact ⟨emission, hemission,
    valid_of_carries (hagree emission hemission) hcarries (classify_of_valid_reading hvalid)⟩

theorem simulated_of_attested {db : Database} (h : Attested externals .fresh acked db)
    (hagree : ∀ emission ∈ emissions, Agrees externals texts emission)
    (hcarried : ∀ item ∈ acked, ∃ emission ∈ emissions, ∃ own, Carries texts emission own ∧ item = own.item)
    (hkeys : ∀ first ∈ emissions, ∀ second ∈ emissions,
      (reading_row first.reading).key = (reading_row second.reading).key → first.reading = second.reading) :
    Simulated texts emissions db := by
  have hrows : ∀ row ∈ db.telemetry.rows,
      ∃ emission ∈ emissions, emission.corruption = none ∧ row = reading_row emission.reading := by
    intro row hrow
    rcases h.telemetry row hrow with hstart | ⟨reading, hreading, rfl⟩
    · exact absurd hstart List.not_mem_nil
    · obtain ⟨emission, hemission, hintact, rfl⟩ := emission_of_acked hagree hcarried hreading
      exact ⟨emission, hemission, hintact, rfl⟩
  refine ⟨hrows, fun emission hemission hkey => ?_, fun row hrow time htime => ?_, fun letter hletter => ?_⟩
  · obtain ⟨row, hrow, hrow_key⟩ := KeyedTable.mem_keys.mp hkey
    obtain ⟨other, hother, -, rfl⟩ := hrows row hrow
    rwa [← hkeys other hother emission hemission hrow_key]
  · have hseen : ∀ {seen : DeviceRow → UtcDatetime}, Seen externals .fresh acked seen row → time = seen row →
        ∃ emission ∈ emissions, emission.corruption = none ∧
          emission.reading.device_id.val = row.device_id ∧ emission.reading.measured_at = time := by
      rintro seen (⟨old, hold, -⟩ | ⟨reading, hreading, hdevice, hmeasured⟩) htime
      · exact absurd hold List.not_mem_nil
      · obtain ⟨emission, hemission, hintact, rfl⟩ := emission_of_acked hagree hcarried hreading
        exact ⟨emission, hemission, hintact, hdevice, hmeasured.trans htime.symm⟩
    exact htime.elim (hseen (h.devices row hrow).1) (hseen (h.devices row hrow).2)
  · obtain ⟨letters, hletters, hclassified⟩ := h.dead_letter
    rw [hletters] at hletter
    obtain ⟨item, hitem, hclassify, htopic, hpayload⟩ := hclassified letter hletter
    obtain ⟨emission, hemission, own, hcarries, rfl⟩ := hcarried item hitem
    refine ⟨emission, hemission, corrupted_of_carries (hagree emission hemission) hcarries hclassify, ?_, ?_⟩
    · rw [htopic]
      exact hcarries.topic
    · rw [hpayload]
      exact hcarries.payload

end Ingested

/-- From the planters to the tables: whenever the simulator is interrupted and
    whatever fails in ingestion or is started again, as long as the broker makes
    nothing up, the tables hold nothing but what the fleet has emitted, and of each
    reading the values that were measured. -/
theorem tables_hold_emissions {externals : Externals} {of_value : Json.Value → externals.Json} {texts : Texts}
    {settings : PublisherSettings} {anchor : UtcDatetime} {draws : String → DeviceDraws} {interval : Int}
    {streams : List (Nat → Except Rejection (List Emission))} {steps : Nat} {emissions : List Emission}
    {around : Surroundings} {clock : ℚ} {final : World} {state : State}
    (hreads : ReadsJson externals of_value) (hback : ReadsBack externals of_value texts)
    (hinterval : timedelta_seconds settings.interval_seconds.val = .ok interval) (hpositive : 1 ≤ interval)
    (hbuilt : build_streams settings.toSimulatorSettings anchor draws = .ok streams)
    (hmerged : merged_emissions streams steps = some emissions)
    (hpublished : Program.Reaches (perform around) (run settings texts anchor emissions) (.initial clock) final)
    (hingested : Relation.ReflTransGen (Deployed externals) (ingestion.service.initial .fresh) state)
    (hbroker : ∀ item ∈ state.acked, ∃ own ∈ sent final.trace, item = own.item) :
    Simulated texts emissions state.memory.db := by
  obtain ⟨phase, hphase⟩ := phase_of_reaches hpublished
  have hmessages := (messages_of_path hphase).2
  obtain ⟨progress, hprovenance⟩ := provenance_run hingested
  refine simulated_of_attested hprovenance.attested (fun emission hemission => ?_) (fun item hitem => ?_)
    fun first hfirst second hsecond => reading_of_key hinterval hpositive hbuilt hmerged hfirst hsecond
  · exact agrees_of_thousandths hreads hback (merged_in_thousandths hbuilt hmerged emission hemission)
  · obtain ⟨own, hown, rfl⟩ := hbroker item hitem
    obtain ⟨emission, hemission, hcarries⟩ := carries_of_mem hmessages hown
    exact ⟨emission, List.mem_of_mem_take hemission, own, hcarries, rfl⟩

theorem two_devices : 1 ≤ 2 := by decide

def steady_publisher : PublisherSettings :=
  { malformed_publisher with toSimulatorSettings := steady_settings ⟨2, two_devices⟩ }

/-- Two steady devices, until the publisher is through with some emissions. -/
def steady_run (emissions : List Emission) : World :=
  ((run steady_publisher json_texts first_moment emissions).run (perform read_only) (.initial 0)).1

/-- The message is delivered and handled. -/
def ingest_one (own : Sent) : Option State :=
  ingestion.service.steps json_reader (fun _ _ => true)
    (List.replicate 6 .proceed ++ .deliver own.item :: List.replicate 8 .proceed)
    (ingestion.service.initial .fresh)

theorem tables_hold_emissions_steady : ∃ (emissions : List Emission) (state : State),
    state.memory.db.telemetry.rows.length = 1 ∧ Simulated json_texts emissions state.memory.db := by
  have hrun : (build_streams steady_publisher.toSimulatorSettings first_moment staggered_draws).toOption.any
      (fun streams => (merged_emissions streams 3).any fun emissions =>
        (sent (steady_run emissions).trace).head?.any fun own => (ingest_one own).any fun state =>
          state.acked = [own.item] && state.memory.db.telemetry.rows.length = 1) = true := by
    decide +kernel
  have hinterval : timedelta_seconds steady_publisher.interval_seconds.val = .ok (1800 * second) := by
    decide +kernel
  cases hbuilt : build_streams steady_publisher.toSimulatorSettings first_moment staggered_draws with
  | error error =>
    rw [hbuilt] at hrun
    cases hrun
  | ok streams =>
    rw [hbuilt, Except.toOption, Option.any_some] at hrun
    obtain ⟨emissions, hmerged, hsent⟩ := (Option.any_eq_true _ _).mp hrun
    obtain ⟨own, hown, hingested⟩ := (Option.any_eq_true _ _).mp hsent
    obtain ⟨state, hsteps, hstate⟩ := (Option.any_eq_true _ _).mp hingested
    obtain ⟨hacked, hrows⟩ := Bool.and_eq_true_iff.mp hstate
    have hreached : Relation.ReflTransGen (Deployed json_reader) (ingestion.service.initial .fresh) state :=
      (reachable_of_steps hsteps).lift id fun _ _ hallowed => .inl (hallowed.imp fun _ h => h.2)
    refine ⟨emissions, state, of_decide_eq_true hrows, tables_hold_emissions json_reader_reads
      json_texts_read_back hinterval (by decide) hbuilt hmerged
      (Program.Reaches.run (perform read_only) _ (.initial 0)) hreached fun item hitem => ?_⟩
    rw [of_decide_eq_true hacked, List.mem_singleton] at hitem
    exact ⟨own, List.mem_of_head? hown, hitem⟩

end planter_telemetry.simulator.publisher
