import PlanterTelemetry.Simulator.Stream

open planter_telemetry.python planter_telemetry.contract
open planter_telemetry.simulator.dynamics planter_telemetry.simulator.wire

namespace planter_telemetry.simulator.stream

/-! ### The emissions of a wake -/

section Wake

variable {settings : SimulatorSettings} {draws : ImperfectionDraws} {wake : Nat}
  {own : TelemetryV1} {state : EmitterState} {emission : Emission}

/-- A wake emits, at its own time, its own reading and readings that were
    deferred; what stays deferred is of the same kind. -/
theorem wake_emissions_cases :
    (∀ emission ∈ (wake_emissions settings draws wake own state).1,
      emission.publish_at = own.measured_at ∧
        (emission.reading = own ∨ ∃ held ∈ state.deferred, held.2.reading = emission.reading)) ∧
      ∀ held ∈ (wake_emissions settings draws wake own state).2.deferred,
        held.2.reading = own ∨ held ∈ state.deferred := by
  have hlate : ∀ late ∈ (state.deferred.takeWhile fun held => held.1 ≤ wake).map
      (fun held => (⟨own.measured_at, held.2.reading, held.2.corruption, .late⟩ : Emission)),
      late.publish_at = own.measured_at ∧
        (late.reading = own ∨ ∃ held ∈ state.deferred, held.2.reading = late.reading) := by
    intro late hmem
    obtain ⟨held, hheld, rfl⟩ := List.mem_map.mp hmem
    exact ⟨rfl, .inr ⟨held, (List.takeWhile_sublist _).subset hheld, rfl⟩⟩
  have hkept : ∀ held ∈ state.deferred.dropWhile fun held => held.1 ≤ wake,
      held.2.reading = own ∨ held ∈ state.deferred :=
    fun held hmem => .inr ((List.dropWhile_sublist _).subset hmem)
  unfold wake_emissions
  split
  · exact ⟨hlate, hkept⟩
  · split
    · refine ⟨hlate, fun held hmem => ?_⟩
      cases List.mem_append.mp hmem with
      | inl hold => exact hkept held hold
      | inr hnew =>
        rw [List.mem_singleton.mp hnew]
        exact .inl rfl
    · split
      · refine ⟨fun emission hmem => ?_, hkept⟩
        cases List.mem_append.mp hmem with
        | inl hold => exact hlate emission hold
        | inr hnew =>
          simp only [List.mem_cons, List.not_mem_nil, or_false] at hnew
          obtain rfl | rfl := hnew
          · exact ⟨rfl, .inl rfl⟩
          · exact ⟨rfl, .inl rfl⟩
      · refine ⟨fun emission hmem => ?_, hkept⟩
        cases List.mem_append.mp hmem with
        | inl hold => exact hlate emission hold
        | inr hnew =>
          rw [List.mem_singleton.mp hnew]
          exact ⟨rfl, .inl rfl⟩

end Wake

/-! ### The emissions of a device -/

section Device

variable {settings : SimulatorSettings} {draws : Nat → ImperfectionDraws}
  {readings : Nat → Except Rejection TelemetryV1} {wake : Nat} {state after : EmitterState}
  {burst : List Emission}

theorem emitter_at_succ_eq_ok_iff :
    emitter_at settings draws readings (wake + 1) = .ok after ↔
      ∃ state reading, emitter_at settings draws readings wake = .ok state ∧
        readings wake = .ok reading ∧
        after = (wake_emissions settings (draws wake) wake reading state).2 := by
  simp only [emitter_at, bind_eq_ok_iff, Except.ok.injEq, eq_comm (a := after),
    exists_and_left]

theorem device_emissions_eq_ok_iff : device_emissions settings draws readings wake = .ok burst ↔
    ∃ state reading, emitter_at settings draws readings wake = .ok state ∧
      readings wake = .ok reading ∧
      burst = (wake_emissions settings (draws wake) wake reading state).1 := by
  simp only [device_emissions, bind_eq_ok_iff, Except.ok.injEq, eq_comm (a := burst),
    exists_and_left]

/-- A device emits each of its wakes at the time of the wake, and only readings
    of its own. -/
theorem device_emissions_cases (h : device_emissions settings draws readings wake = .ok burst) :
    ∃ own, readings wake = .ok own ∧ ∀ emission ∈ burst, emission.publish_at = own.measured_at ∧
      ∃ earlier, readings earlier = .ok emission.reading := by
  have hdeferred : ∀ wake state, emitter_at settings draws readings wake = .ok state →
      ∀ held ∈ state.deferred, ∃ earlier, readings earlier = .ok held.2.reading := by
    intro wake
    induction wake with
    | zero =>
      intro state hstate held hheld
      cases hstate
      cases hheld
    | succ wake ih =>
      intro after hafter held hheld
      obtain ⟨state, own, hstate, hown, rfl⟩ := emitter_at_succ_eq_ok_iff.mp hafter
      cases wake_emissions_cases.2 held hheld with
      | inl heq => exact ⟨wake, heq ▸ hown⟩
      | inr hold => exact ih state hstate held hold
  obtain ⟨state, own, hstate, hown, rfl⟩ := device_emissions_eq_ok_iff.mp h
  refine ⟨own, hown, fun emission hmem => ?_⟩
  obtain ⟨hat, hreading⟩ := wake_emissions_cases.1 emission hmem
  refine ⟨hat, ?_⟩
  rcases hreading with heq | ⟨held, hheld, heq⟩
  · exact ⟨wake, heq ▸ hown⟩
  · obtain ⟨earlier, hearlier⟩ := hdeferred wake state hstate held hheld
    exact ⟨earlier, heq ▸ hearlier⟩

/-- The number of devices plays no part in what one of them emits. -/
theorem device_emissions_device_count (count : { count : Nat // 1 ≤ count }) :
    device_emissions { settings with device_count := count } draws readings =
      device_emissions settings draws readings := by
  have hstate : ∀ wake, emitter_at { settings with device_count := count } draws readings wake =
      emitter_at settings draws readings wake := by
    intro wake
    induction wake with
    | zero => rfl
    | succ wake ih =>
      rw [emitter_at, emitter_at, ih]
      rfl
  funext wake
  unfold device_emissions
  rw [hstate wake]
  rfl

end Device

/-! ### The streams of a fleet -/

theorem device_id_injective : Function.Injective device_id := by
  intro first second h
  unfold device_id at h
  have hlist := congrArg String.toList h
  simp only [String.toList_append, String.toList_ofList] at hlist
  exact Decimal.digits_injective 2 (List.append_cancel_left hlist)

/-- What a stream has emitted by some wake. -/
def emitted (streams : List (Nat → Except Rejection (List Emission))) (index wakes : Nat) :
    List Emission :=
  Merging.taken (bursts streams) index wakes

/-- A stream has not raised by some wake. -/
def Runs (streams : List (Nat → Except Rejection (List Emission))) (index wakes : Nat) : Prop :=
  ∀ wake, wake < wakes → (bursts streams index wake).isSome

def of_device (index : Nat) (emissions : List Emission) : List Emission :=
  emissions.filter fun emission => emission.reading.device_id.val = device_id index

def of_first_devices (count : Nat) (emissions : List Emission) : List Emission :=
  emissions.filter fun emission =>
    decide (∃ index, index < count ∧ emission.reading.device_id.val = device_id index)

section Fleet

variable {settings : SimulatorSettings} {start : UtcDatetime} {interval : Int}
  {draws : String → DeviceDraws} {streams : List (Nat → Except Rejection (List Emission))}
  {readings : Nat → Except Rejection TelemetryV1} {own : DeviceDraws} {id : String} {index : Nat}

theorem fleet_readings_eq_ok_iff : fleet_readings settings start interval own id = .ok readings ↔
    ∃ phase first_at, timedelta_seconds (own.phase.val * settings.interval_seconds.val) = .ok phase ∧
      start.add phase = .ok first_at ∧
      readings = device_readings id (draw_device_params own.params) interval
        (DeviceState.initial own.first first_at) own.wakes := by
  simp only [fleet_readings, bind_eq_ok_iff, Except.ok.injEq, eq_comm (a := readings),
    exists_and_left]

theorem fleet_readings_device (h : fleet_readings settings start interval own id = .ok readings)
    {wake : Nat} {reading : TelemetryV1} (hreading : readings wake = .ok reading) :
    reading.device_id.val = id := by
  obtain ⟨phase, first_at, -, -, rfl⟩ := fleet_readings_eq_ok_iff.mp h
  obtain ⟨state, -, hyields⟩ := device_readings_eq_ok_iff.mp hreading
  exact (reading_eq_ok_iff.mp hyields).1

/-- The readings of a device are strictly increasing in time. -/
theorem fleet_readings_increasing (hinterval : 1 ≤ interval)
    (h : fleet_readings settings start interval own id = .ok readings) {earlier later : Nat}
    {first second : TelemetryV1} (hlt : earlier < later) (hfirst : readings earlier = .ok first)
    (hsecond : readings later = .ok second) : first.measured_at < second.measured_at := by
  obtain ⟨phase, first_at, -, -, rfl⟩ := fleet_readings_eq_ok_iff.mp h
  obtain ⟨before, hbefore, hyields⟩ := device_readings_eq_ok_iff.mp hfirst
  obtain ⟨after, hafter, hyields'⟩ := device_readings_eq_ok_iff.mp hsecond
  have hparams : 0 ≤ (draw_device_params own.params).jitter_seconds :=
    (uniform_range (by norm_num) own.params.jitter_seconds).1
  rw [(reading_eq_ok_iff.mp hyields).2.1, (reading_eq_ok_iff.mp hyields').2.1]
  exact state_at_increasing hinterval hparams hlt hbefore hafter

/-- Each stream is built from the draws of its own device. -/
theorem build_streams_eq_ok_iff : build_streams settings start draws = .ok streams ↔
    ∃ interval, timedelta_seconds settings.interval_seconds.val = .ok interval ∧
      List.Forall₂ (fun index stream => ∃ readings,
        fleet_readings settings start interval (draws (device_id index)) (device_id index) = .ok readings ∧
          stream = device_emissions settings (draws (device_id index)).imperfections readings)
        (List.range settings.device_count.val) streams := by
  simp only [build_streams, fleet_stream, bind_eq_ok_iff, mapM_eq_ok_iff, Except.ok.injEq,
    eq_comm (b := device_emissions _ _ _)]

/-- The stream of a device, and the readings it emits. -/
theorem stream_of_device (hinterval : timedelta_seconds settings.interval_seconds.val = .ok interval)
    (h : build_streams settings start draws = .ok streams) (hindex : index < settings.device_count.val) :
    ∃ readings, fleet_readings settings start interval (draws (device_id index)) (device_id index) =
      .ok readings ∧
        streams[index]? = some
          (device_emissions settings (draws (device_id index)).imperfections readings) := by
  obtain ⟨own, hown, hstreams⟩ := build_streams_eq_ok_iff.mp h
  obtain rfl : interval = own := Except.ok.inj (hinterval.symm.trans hown)
  obtain ⟨hlength, hget⟩ := List.forall₂_iff_get.mp hstreams
  rw [List.length_range] at hlength
  have hstream := hget index (by rwa [List.length_range]) (by omega)
  simp only [List.get_eq_getElem, List.getElem_range] at hstream
  obtain ⟨readings, hreadings, heq⟩ := hstream
  exact ⟨readings, hreadings, by rw [List.getElem?_eq_getElem (by omega), heq]⟩

theorem length_streams (h : build_streams settings start draws = .ok streams) :
    streams.length = settings.device_count.val := by
  obtain ⟨interval, -, hstreams⟩ := build_streams_eq_ok_iff.mp h
  rw [← hstreams.length_eq, List.length_range]

/-- What a device emits in a wake. -/
theorem burst_cases (hinterval : timedelta_seconds settings.interval_seconds.val = .ok interval)
    (h : build_streams settings start draws = .ok streams) (hindex : index < settings.device_count.val)
    {readings : Nat → Except Rejection TelemetryV1}
    (hreadings : fleet_readings settings start interval (draws (device_id index)) (device_id index) =
      .ok readings)
    {wake : Nat} {emission : Emission} (hmem : emission ∈ (bursts streams index wake).getD []) :
    ∃ own, readings wake = .ok own ∧ emission.publish_at = own.measured_at ∧
      ∃ earlier, readings earlier = .ok emission.reading := by
  obtain ⟨same, hsame, hstream⟩ := stream_of_device hinterval h hindex
  obtain rfl : readings = same := Except.ok.inj (hreadings.symm.trans hsame)
  unfold bursts at hmem
  rw [List.getD_eq_getElem?_getD, hstream, Option.getD_some] at hmem
  cases hburst : device_emissions settings (draws (device_id index)).imperfections readings wake with
  | error rejection =>
    rw [hburst] at hmem
    cases hmem
  | ok burst =>
    rw [hburst] at hmem
    obtain ⟨own, hown, hburst⟩ := device_emissions_cases hburst
    exact ⟨own, hown, hburst emission hmem⟩

/-- A device emits under its own id alone. -/
theorem emitted_device (hinterval : timedelta_seconds settings.interval_seconds.val = .ok interval)
    (h : build_streams settings start draws = .ok streams) (hindex : index < settings.device_count.val)
    {wakes : Nat} {emission : Emission} (hmem : emission ∈ emitted streams index wakes) :
    emission.reading.device_id.val = device_id index := by
  obtain ⟨readings, hreadings, -⟩ := stream_of_device hinterval h hindex
  obtain ⟨wake, -, hburst⟩ := List.mem_flatMap.mp hmem
  obtain ⟨-, -, -, earlier, hearlier⟩ := burst_cases hinterval h hindex hreadings hburst
  exact fleet_readings_device hreadings hearlier

/-- Every device emits in the order of publication. -/
theorem emitted_ordered (hinterval : timedelta_seconds settings.interval_seconds.val = .ok interval)
    (hpositive : 1 ≤ interval) (h : build_streams settings start draws = .ok streams) :
    Merging.Sorted Emission.publish_at settings.device_count.val (bursts streams) := by
  intro index hindex wakes
  obtain ⟨readings, hreadings, -⟩ := stream_of_device hinterval h hindex
  refine List.pairwise_flatMap.mpr ⟨fun wake _ => ?_, ?_⟩
  · apply List.pairwise_of_forall_mem_list
    intro first hfirst second hsecond
    obtain ⟨own, hown, hat, -⟩ := burst_cases hinterval h hindex hreadings hfirst
    obtain ⟨own', hown', hat', -⟩ := burst_cases hinterval h hindex hreadings hsecond
    rw [hat, hat', Except.ok.inj (hown.symm.trans hown')]
  · refine List.pairwise_lt_range.imp fun {earlier later} hlt first hfirst second hsecond => ?_
    obtain ⟨own, hown, hat, -⟩ := burst_cases hinterval h hindex hreadings hfirst
    obtain ⟨own', hown', hat', -⟩ := burst_cases hinterval h hindex hreadings hsecond
    rw [hat, hat']
    exact (fleet_readings_increasing hpositive hreadings hlt hown hown').le

/-- A fleet cut down to its first devices has the first of its streams. -/
theorem build_streams_take (h : build_streams settings start draws = .ok streams)
    {count : { count : Nat // 1 ≤ count }} (hcount : count.val ≤ settings.device_count.val) :
    build_streams { settings with device_count := count } start draws =
      .ok (streams.take count.val) := by
  obtain ⟨interval, hinterval, hstreams⟩ := build_streams_eq_ok_iff.mp h
  refine build_streams_eq_ok_iff.mpr ⟨interval, hinterval, ?_⟩
  have hfirst := List.forall₂_take count.val hstreams
  rw [List.take_range, Nat.min_eq_left hcount] at hfirst
  refine hfirst.imp fun index stream ⟨readings, hreadings, heq⟩ => ⟨readings, hreadings, ?_⟩
  rw [device_emissions_device_count, heq]

theorem bursts_take {count : Nat} (hindex : index < count) :
    bursts streams index = bursts (streams.take count) index := by
  funext wake
  unfold bursts
  rw [List.getD_eq_getElem?_getD, List.getD_eq_getElem?_getD, List.getElem?_take_of_lt hindex]

/-! ### The merged stream -/

theorem merged_emissions_eq_some_iff {steps : Nat} {emissions : List Emission} :
    merged_emissions streams steps = some emissions ↔
      ∃ state, Merging.run Emission.publish_at streams.length (bursts streams) steps = some state ∧
        emissions = state.out.map Prod.snd := by
  simp only [merged_emissions, Option.map_eq_some_iff, eq_comm (a := emissions)]

/-- In a merge every emission carries the id of its stream. -/
theorem merged_device (hinterval : timedelta_seconds settings.interval_seconds.val = .ok interval)
    (hpositive : 1 ≤ interval) (h : build_streams settings start draws = .ok streams) {steps : Nat}
    {state : Merging Emission}
    (hrun : Merging.run Emission.publish_at settings.device_count.val (bursts streams) steps = some state) :
    ∀ x ∈ state.out, x.2.reading.device_id.val = device_id x.1 := by
  intro ⟨index, emission⟩ hmem
  have hsound := Merging.sound_run (emitted_ordered hinterval hpositive h) hrun
  have hindex := hsound.streams _ hmem
  have htaken := (hsound.own_grows hindex).subset (Merging.mem_own.mpr hmem)
  exact emitted_device hinterval h hindex htaken

theorem of_device_out {out : List (Nat × Emission)}
    (h : ∀ x ∈ out, x.2.reading.device_id.val = device_id x.1) (index : Nat) :
    of_device index (out.map Prod.snd) = Merging.own index out := by
  unfold of_device Merging.own
  rw [List.filter_map]
  congr 1
  apply List.filter_congr
  intro x hx
  rw [Function.comp_apply, h x hx, decide_eq_decide]
  exact device_id_injective.eq_iff

theorem of_first_devices_out {out : List (Nat × Emission)}
    (h : ∀ x ∈ out, x.2.reading.device_id.val = device_id x.1) (count : Nat) :
    of_first_devices count (out.map Prod.snd) = (Merging.first_streams count out).map Prod.snd := by
  unfold of_first_devices Merging.first_streams
  rw [List.filter_map]
  congr 1
  apply List.filter_congr
  intro x hx
  rw [Function.comp_apply, h x hx, decide_eq_decide]
  constructor
  · rintro ⟨index, hindex, heq⟩
    rwa [device_id_injective heq]
  · intro hindex
    exact ⟨x.1, hindex, rfl⟩

theorem merged_take {count steps : Nat} (hcount : count ≤ streams.length) {state : Merging Emission}
    (h : Merging.run Emission.publish_at count (bursts streams) steps = some state) :
    merged_emissions (streams.take count) steps = some (state.out.map Prod.snd) := by
  refine merged_emissions_eq_some_iff.mpr ⟨state, ?_, rfl⟩
  rw [List.length_take, Nat.min_eq_left hcount, ← h]
  exact Merging.run_congr (fun index hindex => (bursts_take hindex).symm) steps

end Fleet

/-- What a stream has up to some time. -/
def upto (time : UtcDatetime) (emissions : List Emission) : List Emission :=
  emissions.takeWhile fun emission => emission.publish_at ≤ time

/-- Every stream goes past a time before it raises. -/
def GoPast (streams : List (Nat → Except Rejection (List Emission))) (time : UtcDatetime) : Prop :=
  ∀ index, index < streams.length → ∃ wakes, Runs streams index wakes ∧
    ∃ emission ∈ emitted streams index wakes, time < emission.publish_at

/-- What `build_streams` promises of its streams and of their merge. A merge is
    given by its outputs, each a first part of the next. -/
structure OrderedFleet (settings : SimulatorSettings) (start : UtcDatetime) (interval : Int)
    (draws : String → DeviceDraws) (streams : List (Nat → Except Rejection (List Emission))) :
    Prop where
  length : streams.length = settings.device_count.val
  devices : ∀ index, index < settings.device_count.val → ∃ readings,
    fleet_readings settings start interval (draws (device_id index)) (device_id index) = .ok readings ∧
      streams[index]? = some
        (device_emissions settings (draws (device_id index)).imperfections readings) ∧
      ∀ earlier later first second, earlier < later → readings earlier = .ok first →
        readings later = .ok second → first.measured_at < second.measured_at
  emissions_ordered : ∀ index, index < settings.device_count.val → ∀ wakes,
    (emitted streams index wakes).Pairwise fun first second => first.publish_at ≤ second.publish_at
  merge_grows : ∀ fewer steps first second, fewer ≤ steps → merged_emissions streams fewer = some first →
    merged_emissions streams steps = some second → first <+: second
  merge_ordered : ∀ steps emissions, merged_emissions streams steps = some emissions →
    emissions.Pairwise fun first second => first.publish_at ≤ second.publish_at
  restriction : ∀ steps emissions, merged_emissions streams steps = some emissions →
    ∀ index, index < settings.device_count.val → ∃ wakes, Runs streams index wakes ∧
      of_device index emissions <+: emitted streams index wakes
  restriction_complete : ∀ time, GoPast streams time → ∃ steps emissions,
    merged_emissions streams steps = some emissions ∧
      ∀ index, index < settings.device_count.val → ∀ wakes,
        upto time (emitted streams index wakes) <+: of_device index emissions
  first_devices : ∀ count : { count : Nat // 1 ≤ count }, count.val ≤ settings.device_count.val →
    build_streams { settings with device_count := count } start draws =
        .ok (streams.take count.val) ∧
      (∀ steps emissions, merged_emissions streams steps = some emissions → ∃ fewer,
        merged_emissions (streams.take count.val) fewer =
          some (of_first_devices count.val emissions)) ∧
      ∀ time, GoPast streams time → ∃ steps emissions,
        merged_emissions streams steps = some emissions ∧
          ∀ fewer others, merged_emissions (streams.take count.val) fewer = some others →
            upto time others <+: of_first_devices count.val emissions

section Claims

variable {settings : SimulatorSettings} {start : UtcDatetime} {interval : Int}
  {draws : String → DeviceDraws} {streams : List (Nat → Except Rejection (List Emission))}

/-- Up to any time that all streams pass, some merge is complete. -/
theorem merge_completes (hinterval : timedelta_seconds settings.interval_seconds.val = .ok interval)
    (hpositive : 1 ≤ interval) (h : build_streams settings start draws = .ok streams)
    {time : UtcDatetime} (hpast : GoPast streams time) : ∃ steps state,
      Merging.run Emission.publish_at settings.device_count.val (bursts streams) steps = some state ∧
        ∀ index, index < settings.device_count.val → ∀ wakes k emission,
          (emitted streams index wakes)[k]? = some emission → emission.publish_at ≤ time →
            k < (Merging.own index state.out).length := by
  apply Merging.run_complete (emitted_ordered hinterval hpositive h) time
  intro index hindex
  exact hpast index (length_streams h ▸ hindex)

theorem fleet_ordered_independent
    (hinterval : timedelta_seconds settings.interval_seconds.val = .ok interval)
    (hpositive : 1 ≤ interval) (h : build_streams settings start draws = .ok streams) :
    OrderedFleet settings start interval draws streams := by
  have hlength := length_streams h
  have hsorted := emitted_ordered hinterval hpositive h
  have hruns : ∀ {steps : Nat} {emissions : List Emission},
      merged_emissions streams steps = some emissions → ∃ state,
        Merging.run Emission.publish_at settings.device_count.val (bursts streams) steps = some state ∧
          emissions = state.out.map Prod.snd :=
    fun hmerged => hlength ▸ merged_emissions_eq_some_iff.mp hmerged
  have hmerges : ∀ {steps : Nat} {state : Merging Emission},
      Merging.run Emission.publish_at settings.device_count.val (bursts streams) steps = some state →
        merged_emissions streams steps = some (state.out.map Prod.snd) :=
    fun {steps state} hrun =>
      merged_emissions_eq_some_iff.mpr ⟨state, hlength.symm ▸ hrun, rfl⟩
  refine ⟨hlength, fun index hindex => ?_, hsorted, ?_, ?_, ?_, ?_, ?_⟩
  · obtain ⟨readings, hreadings, hstream⟩ := stream_of_device hinterval h hindex
    refine ⟨readings, hreadings, hstream, fun earlier later first second hlt => ?_⟩
    exact fleet_readings_increasing hpositive hreadings hlt
  · intro fewer steps first second hle hfirst hsecond
    obtain ⟨early, hearly, rfl⟩ := hruns hfirst
    obtain ⟨late, hlate, rfl⟩ := hruns hsecond
    exact (Merging.run_out_grows hle hearly hlate).map Prod.snd
  · intro steps emissions hmerged
    obtain ⟨state, hrun, rfl⟩ := hruns hmerged
    refine List.pairwise_map.mpr ((Merging.sound_run hsorted hrun).ordered.imp ?_)
    intro first second hbefore
    rcases hbefore with hlt | ⟨heq, -⟩
    · exact hlt.le
    · exact heq.le
  · intro steps emissions hmerged index hindex
    obtain ⟨state, hrun, rfl⟩ := hruns hmerged
    have hsound := Merging.sound_run hsorted hrun
    rw [of_device_out (merged_device hinterval hpositive h hrun)]
    exact ⟨state.pulled index, hsound.available index hindex, hsound.own_grows hindex⟩
  · intro time hpast
    obtain ⟨steps, state, hrun, hcomplete⟩ := merge_completes hinterval hpositive h hpast
    refine ⟨steps, _, hmerges hrun, fun index hindex wakes => ?_⟩
    rw [of_device_out (merged_device hinterval hpositive h hrun)]
    have hown := (Merging.sound_run hsorted hrun).own_grows hindex
    refine Merging.takeWhile_grows (Merging.taken_grows _ index (Nat.le_max_left wakes (state.pulled index)))
      (hown.trans (Merging.taken_grows _ index (Nat.le_max_right wakes _))) ?_
    intro k emission hemission hat
    exact hcomplete index hindex wakes k emission hemission (of_decide_eq_true hat)
  · intro count hcount
    refine ⟨build_streams_take h hcount, fun steps emissions hmerged => ?_, fun time hpast => ?_⟩
    · obtain ⟨state, hrun, rfl⟩ := hruns hmerged
      obtain ⟨fewer, other, hother, hout, -⟩ := Merging.run_first_streams hcount hsorted hrun
      refine ⟨fewer, ?_⟩
      rw [merged_take (hlength ▸ hcount) hother, hout,
        of_first_devices_out (merged_device hinterval hpositive h hrun)]
    · obtain ⟨steps, state, hrun, hcomplete⟩ := merge_completes hinterval hpositive h hpast
      refine ⟨steps, _, hmerges hrun, fun fewer others hothers => ?_⟩
      obtain ⟨other, hother, rfl⟩ := merged_emissions_eq_some_iff.mp hothers
      rw [List.length_take, Nat.min_eq_left (hlength ▸ hcount),
        ← Merging.run_congr (fun index hindex => bursts_take hindex) fewer] at hother
      rw [of_first_devices_out (merged_device hinterval hpositive h hrun), upto, List.takeWhile_map]
      exact (Merging.run_first_streams_complete hcount hsorted hcomplete hrun hother).map Prod.snd

end Claims

/-! ### A fleet at work, and one at the end of the calendar -/

def steady_settings (count : { count : Nat // 1 ≤ count }) : SimulatorSettings where
  device_count := count
  interval_seconds := ⟨1800, by norm_num⟩
  duplicate_rate := 0
  out_of_order_rate := 0
  malformed_rate := 0
  missed_checkin_rate := 0

/-- Every draw at its low end, apart from the phase. -/
def low_draws (phase : Random) : DeviceDraws where
  params := ⟨0, 0, 0, 0, 0⟩
  first := ⟨0, 0⟩
  wakes _ := ⟨0, 0, 0, 0, 0⟩
  imperfections _ := ⟨0, 0, 0, 0, 1⟩
  phase := phase

theorem half_in_range : (0 : ℚ) ≤ 1 / 2 ∧ (1 / 2 : ℚ) < 1 := by norm_num

def staggered_draws (id : String) : DeviceDraws :=
  if id = device_id 0 then low_draws 0 else low_draws ⟨1 / 2, half_in_range⟩

/-- 0001-01-01T00:00:00. -/
def first_moment : UtcDatetime := ⟨0, representable_zero⟩

/-- 9999-12-31T23:59:59.999999. -/
def last_moment : UtcDatetime := ⟨datetime_end - 1, by decide⟩

theorem fleet_ordered_independent_pair : ∃ streams,
    build_streams (steady_settings ⟨2, by omega⟩) first_moment staggered_draws = .ok streams ∧
      OrderedFleet (steady_settings ⟨2, by omega⟩) first_moment (1800 * second) staggered_draws
        streams := by
  have hbuilt : (build_streams (steady_settings ⟨2, by omega⟩) first_moment
      staggered_draws).toOption.isSome := by decide +kernel
  cases h : build_streams (steady_settings ⟨2, by omega⟩) first_moment staggered_draws with
  | error error =>
    rw [h] at hbuilt
    cases hbuilt
  | ok streams =>
    exact ⟨streams, rfl, fleet_ordered_independent (by decide +kernel) (by decide) h⟩

/-- A second device can end a stream that the first alone would have. -/
theorem fleet_stream_cut_short :
    (build_streams (steady_settings ⟨2, by omega⟩) last_moment staggered_draws).toOption.isNone ∧
      ((build_streams (steady_settings ⟨1, by omega⟩) last_moment staggered_draws).toOption.bind
        fun streams => merged_emissions streams 2).map List.length = some 1 := by
  decide +kernel

end planter_telemetry.simulator.stream
