import PlanterTelemetry.JsonReader
import PlanterTelemetry.Simulator.Compliance

open planter_telemetry.python planter_telemetry.contract planter_telemetry.ingestion.core Utf8
open planter_telemetry.simulator.dynamics planter_telemetry.simulator.wire

namespace planter_telemetry.simulator.stream

/-! ### What pydantic makes of the texts -/

section Wire

variable (externals : Externals) (of_value : Json.Value → externals.Json) (texts : Texts)

/-- What the contract relies on of the JSON reader: it finds the members of an
    object of atoms, the last of each name, refuses a text that is no document,
    and reads `1` and strings as such, but no word as a number. -/
structure ReadsJson : Prop where
  object : ∀ (style : Json.Style) (members : List (List Char × Json.Value)), (∀ member ∈ members, member.2.Atom) →
    externals.read_object (encode_utf8 (Json.write style (.object members))) =
      .ok fun name => (members.reverse.lookup name.toList).map of_value
  incomplete : ∀ text, Json.document text = none → ∃ msg, externals.read_object (encode_utf8 text) = .error msg
  literal_one : externals.read_literal_one (of_value (.number version_number)) = .ok ()
  str : ∀ text, externals.read_str (of_value (.text text)) = .ok (String.ofList text)
  word : ∃ msg, externals.read_float (of_value (.text "high".toList)) = .error msg

/-- The texts that pydantic writes are read as the values they stand for, here
    those of numbers with three decimals, and `json` writes an atom for a number. -/
structure ReadsBack : Prop where
  float : ∀ thousandths : Nat,
    externals.read_float (of_value (.number (texts.float (thousandths / 1000)))) = .ok (.finite (thousandths / 1000))
  datetime : ∀ at_time, ∃ value,
    externals.read_aware_datetime (of_value (.text (texts.datetime at_time))) = .ok value ∧ to_utc value = .ok at_time
  ascii : ∀ at_time, Ascii (texts.datetime at_time)
  reread : ∀ number, (texts.reread number).Atom

end Wire

section Classify

variable {externals : Externals} {of_value : Json.Value → externals.Json} {texts : Texts} {payload : List UInt8}
  {members : String → Option externals.Json} {reading : TelemetryV1}

/-- Five fields that are read make a reading. -/
theorem model_validate_json_eq_ok_iff (hobject : externals.read_object payload = .ok members) :
    model_validate_json externals payload = .ok reading ↔
      schema_version_field externals members = .ok reading.schema_version ∧
        device_id_field externals members = .ok reading.device_id ∧
        measured_at_field externals members = .ok reading.measured_at ∧
        water_level_field externals members = .ok reading.water_level ∧
        battery_voltage_field externals members = .ok reading.battery_voltage := by
  rw [model_validate_json, hobject]
  simp only
  cases hfields : both (schema_version_field externals members) (both (device_id_field externals members)
      (both (measured_at_field externals members)
        (both (water_level_field externals members) (battery_voltage_field externals members)))) with
  | error rejection =>
    refine iff_of_false nofun fun ⟨hversion, hid, hat, hlevel, hvoltage⟩ => ?_
    rw [hversion, hid, hat, hlevel, hvoltage] at hfields
    cases hfields
  | ok fields =>
    simp only [both_eq_ok_iff] at hfields
    obtain ⟨hversion, hid, hat, hlevel, hvoltage⟩ := hfields
    rw [hversion, hid, hat, hlevel, hvoltage]
    obtain ⟨version, id, at_time, level, voltage⟩ := fields
    obtain ⟨own_version, own_id, own_at, own_level, own_voltage⟩ := reading
    simp [Except.map]

/-- A payload that is not a reading is a dead letter, unless its `measured_at`
    escapes. -/
theorem classify_rejected (topic : String) (hmeasured : ¬ MeasuredAtOverflows externals payload)
    (hreading : ∀ reading, model_validate_json externals payload ≠ .ok reading) :
    ∃ letter, classify externals topic payload = .ok (.dead_letter letter) := by
  cases hclassify : classify externals topic payload with
  | error error => exact absurd (classify_error_iff.mp hclassify).2.2 hmeasured
  | ok outcome =>
    cases outcome with
    | dead_letter letter => exact ⟨letter, rfl⟩
    | valid_reading reading =>
      unfold classify at hclassify
      split at hclassify
      · cases hclassify
      · split at hclassify
        · cases hclassify
        · cases hclassify
        · next other hother => exact absurd hother (hreading other)

/-- The reader of some members. -/
def by_name (of_value : Json.Value → externals.Json) (members : List (List Char × Json.Value)) (name : String) :
    Option externals.Json :=
  (members.reverse.lookup name.toList).map of_value

theorem float_value_atom (texts : Texts) (x : PyFloat ℚ) : (float_value texts x).Atom := by
  cases x <;> trivial

theorem dump_members_atom (texts : Texts) (reading : TelemetryV1) :
    ∀ member ∈ dump_members texts reading, member.2.Atom := by
  unfold dump_members
  simp only [List.forall_mem_cons, List.not_mem_nil, false_imp_iff, implies_true, and_true]
  exact ⟨trivial, trivial, trivial, float_value_atom texts _, float_value_atom texts _⟩

/-- The values of an encoded reading are read as its fields. -/
theorem fields_of_encoded (hreads : ReadsJson externals of_value) (hback : ReadsBack externals of_value texts)
    (hdecimals : InThousandths reading) :
    model_validate_json externals (encode texts reading) = .ok reading := by
  have hobject : externals.read_object (encode texts reading) = .ok (by_name of_value (dump_members texts reading)) :=
    hreads.object ⟨false, false⟩ _ (dump_members_atom texts reading)
  obtain ⟨value, hvalue, hutc⟩ := hback.datetime reading.measured_at
  have hfloat : ∀ {x : PyFloat ℚ}, (∃ thousandths : Nat, x = .finite (thousandths / 1000)) →
      externals.read_float (of_value (float_value texts x)) = .ok x := by
    rintro x ⟨thousandths, rfl⟩
    exact hback.float thousandths
  refine (model_validate_json_eq_ok_iff hobject).mpr ⟨?_, ?_, ?_, ?_, ?_⟩
  · have hname : by_name of_value (dump_members texts reading) "schema_version" =
        some (of_value (.number version_number)) := rfl
    rw [schema_version_field, hname]
    simp only [hreads.literal_one, located]
    exact congrArg Except.ok (Subtype.ext reading.schema_version.property.symm)
  · have hname : by_name of_value (dump_members texts reading) "device_id" =
        some (of_value (.text reading.device_id.val.toList)) := rfl
    rw [device_id_field, required, hname]
    simp only [hreads.str, located, String.ofList_toList]
    exact check_device_id_eq_ok_iff.mpr rfl
  · have hname : by_name of_value (dump_members texts reading) "measured_at" =
        some (of_value (.text (texts.datetime reading.measured_at))) := rfl
    rw [measured_at_field, required, hname]
    simp only [hvalue, located, after_validator, hutc, bind, Except.bind]
  · have hname : by_name of_value (dump_members texts reading) "water_level" =
        some (of_value (float_value texts reading.water_level.val)) := rfl
    rw [water_level_field, required, hname]
    simp only [hfloat hdecimals.water_level, located]
    exact check_range_eq_ok_iff.mpr rfl
  · have hname : by_name of_value (dump_members texts reading) "battery_voltage" =
        some (of_value (float_value texts reading.battery_voltage.val)) := rfl
    rw [battery_voltage_field, required, hname]
    simp only [hfloat hdecimals.battery_voltage, located]
    exact check_range_eq_ok_iff.mpr rfl

theorem classify_encoded (hreads : ReadsJson externals of_value) (hback : ReadsBack externals of_value texts)
    (hdecimals : InThousandths reading) :
    classify externals (telemetry_topic reading.device_id.val) (encode texts reading) =
      .ok (.valid_reading reading) := by
  rw [classify, device_id_from_topic_telemetry_topic, fields_of_encoded hreads hback hdecimals]
  simp

/-! ### Corrupted payloads -/

theorem device_id_ascii (device_id : DeviceId) : Ascii device_id.val.toList := by
  intro c hc
  have hchar := device_id_chars device_id c hc
  simp only [lower_or_digit, Bool.or_eq_true, Bool.and_eq_true, decide_eq_true_eq, beq_iff_eq] at hchar
  obtain ((⟨-, hle⟩ | ⟨-, hle⟩) | rfl) | rfl := hchar
  · exact lt_of_le_of_lt (UInt32.le_iff_toNat_le.mp (Char.le_def.mp hle)) (by decide)
  · exact lt_of_le_of_lt (UInt32.le_iff_toNat_le.mp (Char.le_def.mp hle)) (by decide)
  · decide
  · decide

theorem encoded_ascii (hback : ReadsBack externals of_value texts) (reading : TelemetryV1) :
    Ascii (model_dump_json texts reading) := by
  have hfloat : ∀ (x : PyFloat ℚ) (text : List Char), float_value texts x = .text text → Ascii text := by
    intro x text h
    cases x <;> cases h
  apply Json.write_object_ascii _
  unfold dump_members
  simp only [List.forall_mem_cons, List.not_mem_nil, false_imp_iff, implies_true, and_true]
  refine ⟨⟨by decide, trivial, nofun⟩, ⟨by decide, trivial, ?_⟩, ⟨by decide, trivial, ?_⟩,
    ⟨by decide, float_value_atom texts _, hfloat _⟩, ⟨by decide, float_value_atom texts _, hfloat _⟩⟩
  · rintro text ⟨⟩
    exact device_id_ascii reading.device_id
  · rintro text ⟨⟩
    exact hback.ascii reading.measured_at

/-- Half of an encoded reading is no document. -/
theorem classify_truncated (hreads : ReadsJson externals of_value) (hback : ReadsBack externals of_value texts)
    (reading : TelemetryV1) (topic : String) :
    ∃ payload, corrupt texts (encode texts reading) .truncated = some payload ∧
      ∃ letter, classify externals topic payload = .ok (.dead_letter letter) := by
  have hascii := encoded_ascii hback reading
  have hhalf : (model_dump_json texts reading).length / 2 < (model_dump_json texts reading).length := by
    have hlength : 0 < (model_dump_json texts reading).length := by
      rw [model_dump_json, Json.write, List.length_append, List.length_singleton]
      omega
    omega
  have hpart : Json.document ((model_dump_json texts reading).take ((model_dump_json texts reading).length / 2)) = none :=
    Json.document_part_of_write ⟨false, false⟩ (dump_members texts reading) hhalf
  obtain ⟨msg, hmsg⟩ := hreads.incomplete _ hpart
  refine ⟨_, if_pos rfl, ?_⟩
  rw [encode, encode_utf8_take hascii, length_encode_utf8 hascii]
  refine classify_rejected topic ?_ ?_
  · rintro ⟨members, value, at', hobject, -⟩
    cases hmsg.symm.trans hobject
  · intro other hother
    rw [model_validate_json, hmsg] at hother
    cases hother

/-- What `json.loads` finds in an encoded reading. -/
def loaded_members (texts : Texts) (reading : TelemetryV1) : List (List Char × Json.Value) :=
  [("schema_version".toList, texts.reread version_number),
    ("device_id".toList, .text reading.device_id.val.toList),
    ("measured_at".toList, .text (texts.datetime reading.measured_at)),
    ("water_level".toList, reread texts (float_value texts reading.water_level.val)),
    ("battery_voltage".toList, reread texts (float_value texts reading.battery_voltage.val))]

theorem loads_encoded (texts : Texts) (reading : TelemetryV1) :
    loads texts (encode texts reading) = some (loaded_members texts reading) := by
  have hdict : dict (reread_members texts (dump_members texts reading)) = loaded_members texts reading := by
    simp only [dump_members, reread_members, reread]
    rfl
  rw [loads, encode, decode_encode_utf8, Option.bind_some, model_dump_json, Json.document_write]
  exact congrArg some hdict

theorem loaded_members_atom (hback : ReadsBack externals of_value texts) (reading : TelemetryV1) :
    ∀ member ∈ loaded_members texts reading, member.2.Atom := by
  have hfloat : ∀ x : PyFloat ℚ, (reread texts (float_value texts x)).Atom := by
    intro x
    cases x with
    | finite value =>
      rw [float_value, reread]
      exact hback.reread _
    | nan | infinity | neg_infinity =>
      rw [float_value, reread]
      · trivial
      all_goals exact nofun
  unfold loaded_members
  simp only [List.forall_mem_cons, List.not_mem_nil, false_imp_iff, implies_true, and_true]
  exact ⟨hback.reread _, trivial, trivial, hfloat _, hfloat _⟩

theorem set_item_atom {obj : List (List Char × Json.Value)} {name : List Char} {value : Json.Value}
    (hobj : ∀ member ∈ obj, member.2.Atom) (hvalue : value.Atom) :
    ∀ member ∈ set_item obj name value, member.2.Atom := by
  intro member hmember
  unfold set_item at hmember
  split at hmember
  · obtain ⟨other, hother, rfl⟩ := List.mem_map.mp hmember
    split
    · exact hvalue
    · exact hobj other hother
  · cases List.mem_append.mp hmember with
    | inl hold => exact hobj member hold
    | inr hnew =>
      rw [List.mem_singleton.mp hnew]
      exact hvalue

/-- A `measured_at` that pydantic wrote does not escape. -/
theorem measured_at_in_range (hback : ReadsBack externals of_value texts) (at_time : UtcDatetime)
    (hobject : externals.read_object payload = .ok members)
    (hmember : members "measured_at" = some (of_value (.text (texts.datetime at_time)))) :
    ¬ MeasuredAtOverflows externals payload := by
  rintro ⟨own, value, at', hown, hvalue, hread, hrange⟩
  obtain rfl : members = own := Except.ok.inj (hobject.symm.trans hown)
  obtain rfl := Option.some.inj (hmember.symm.trans hvalue)
  obtain ⟨same, hsame, hutc⟩ := hback.datetime at_time
  obtain rfl : same = at' := Except.ok.inj (hsame.symm.trans hread)
  have herror := AwareDatetime.astimezone_utc_error_iff.mpr ⟨hrange, rfl⟩
  cases hutc.symm.trans herror

theorem classify_damaged (hreads : ReadsJson externals of_value) (hback : ReadsBack externals of_value texts)
    (reading : TelemetryV1) (topic : String) {mode : CorruptionMode} (hmode : mode ≠ .truncated) :
    ∃ payload, corrupt texts (encode texts reading) mode = some payload ∧
      ∃ letter, classify externals topic payload = .ok (.dead_letter letter) := by
  have hloads := loads_encoded texts reading
  cases mode with
  | truncated => exact absurd rfl hmode
  | wrong_type =>
    let damaged := set_item (loaded_members texts reading) "water_level".toList (.text "high".toList)
    have hobject : externals.read_object (dumps damaged) = .ok (by_name of_value damaged) :=
      hreads.object ⟨true, true⟩ _ (set_item_atom (loaded_members_atom hback reading) trivial)
    refine ⟨dumps damaged, by rw [corrupt, if_neg hmode, hloads]; rfl, classify_rejected topic ?_ ?_⟩
    · exact measured_at_in_range hback reading.measured_at hobject rfl
    · intro other hother
      obtain ⟨-, -, -, hlevel, -⟩ := (model_validate_json_eq_ok_iff hobject).mp hother
      obtain ⟨msg, hmsg⟩ := hreads.word
      have hname : by_name of_value damaged "water_level" = some (of_value (.text "high".toList)) := rfl
      rw [water_level_field, required, hname] at hlevel
      simp only [hmsg, located] at hlevel
      cases hlevel
  | missing_field =>
    let damaged := (loaded_members texts reading).filter fun member => member.1 ≠ "device_id".toList
    have hobject : externals.read_object (dumps damaged) = .ok (by_name of_value damaged) :=
      hreads.object ⟨true, true⟩ _ fun member hmember =>
        loaded_members_atom hback reading member (List.mem_of_mem_filter hmember)
    refine ⟨dumps damaged, by rw [corrupt, if_neg hmode, hloads]; rfl, classify_rejected topic ?_ ?_⟩
    · exact measured_at_in_range hback reading.measured_at hobject rfl
    · intro other hother
      obtain ⟨-, hid, -⟩ := (model_validate_json_eq_ok_iff hobject).mp hother
      have hname : by_name of_value damaged "device_id" = none := rfl
      rw [device_id_field, required, hname] at hid
      cases hid

end Classify

/-! ### What is published is what is accepted -/

/-- What the publisher sends of an emission. -/
def published (texts : Texts) (emission : Emission) : Option (List UInt8) :=
  match emission.corruption with
  | none => some (encode texts emission.reading)
  | some mode => corrupt texts (encode texts emission.reading) mode

/-- An emission is accepted as its reading exactly when it is not corrupted, and
    every way to corrupt it makes it a dead letter. -/
structure Agrees (externals : Externals) (texts : Texts) (emission : Emission) : Prop where
  classified : ∃ payload outcome, published texts emission = some payload ∧
    classify externals (telemetry_topic emission.reading.device_id.val) payload = .ok outcome ∧
    (outcome = .valid_reading emission.reading ↔ emission.corruption = none) ∧
    (∀ mode, emission.corruption = some mode → ∃ letter, outcome = .dead_letter letter)
  corrupted : ∀ mode, ∃ payload letter, corrupt texts (encode texts emission.reading) mode = some payload ∧
    classify externals (telemetry_topic emission.reading.device_id.val) payload = .ok (.dead_letter letter)

/-- No device of a fleet is stopped by the contract. -/
def FleetNeverRejected (settings : SimulatorSettings) (start : UtcDatetime) (draws : String → DeviceDraws) : Prop :=
  ∀ index, index < settings.device_count.val → ∀ interval readings,
    timedelta_seconds settings.interval_seconds.val = .ok interval →
    fleet_readings settings start interval (draws (device_id index)) (device_id index) = .ok readings →
    ∀ wake, NeverRejected (readings wake)

section Published

variable {externals : Externals} {of_value : Json.Value → externals.Json} {texts : Texts}
  {settings : SimulatorSettings} {start : UtcDatetime} {draws : String → DeviceDraws}
  {streams : List (Nat → Except Rejection (List Emission))}

theorem classify_corrupted (hreads : ReadsJson externals of_value) (hback : ReadsBack externals of_value texts)
    (reading : TelemetryV1) (topic : String) (mode : CorruptionMode) :
    ∃ payload letter, corrupt texts (encode texts reading) mode = some payload ∧
      classify externals topic payload = .ok (.dead_letter letter) := by
  by_cases hmode : mode = .truncated
  · subst hmode
    obtain ⟨payload, hpayload, letter, hletter⟩ := classify_truncated hreads hback reading topic
    exact ⟨payload, letter, hpayload, hletter⟩
  · obtain ⟨payload, hpayload, letter, hletter⟩ := classify_damaged hreads hback reading topic hmode
    exact ⟨payload, letter, hpayload, hletter⟩

theorem agrees_of_thousandths (hreads : ReadsJson externals of_value) (hback : ReadsBack externals of_value texts)
    {emission : Emission} (hdecimals : InThousandths emission.reading) : Agrees externals texts emission := by
  have hcorrupted := classify_corrupted hreads hback emission.reading
    (telemetry_topic emission.reading.device_id.val)
  refine ⟨?_, hcorrupted⟩
  cases hcorruption : emission.corruption with
  | none =>
    refine ⟨_, _, ?_, classify_encoded hreads hback hdecimals, iff_of_true rfl rfl, nofun⟩
    rw [published, hcorruption]
  | some mode =>
    obtain ⟨payload, letter, hpayload, hletter⟩ := hcorrupted mode
    refine ⟨payload, _, ?_, hletter, iff_of_false nofun nofun, fun _ _ => ⟨letter, rfl⟩⟩
    rw [published, hcorruption]
    exact hpayload

/-- Whatever is merged is a reading of some device. -/
theorem merged_in_thousandths (h : build_streams settings start draws = .ok streams) {steps : Nat}
    {emissions : List Emission} (hmerged : merged_emissions streams steps = some emissions) :
    ∀ emission ∈ emissions, InThousandths emission.reading := by
  intro emission hemission
  obtain ⟨interval, hinterval, -⟩ := build_streams_eq_ok_iff.mp h
  obtain ⟨state, hrun, rfl⟩ := merged_emissions_eq_some_iff.mp hmerged
  obtain ⟨⟨index, own⟩, hout, rfl⟩ := List.mem_map.mp hemission
  obtain ⟨hindex, wake, burst, hburst, hmem⟩ := (Merging.run_from_source Emission.publish_at hrun).given_out _ hout
  rw [length_streams h] at hindex
  obtain ⟨readings, hreadings, -⟩ := stream_of_device hinterval h hindex
  have hburst_mem : own ∈ (bursts streams index wake).getD [] := by
    rw [hburst]
    exact hmem
  obtain ⟨-, -, -, earlier, hearlier⟩ := burst_cases hinterval h hindex hreadings hburst_mem
  obtain ⟨phase, first_at, -, -, rfl⟩ := fleet_readings_eq_ok_iff.mp hreadings
  obtain ⟨state, -, hyields⟩ := device_readings_eq_ok_iff.mp hearlier
  exact reading_in_thousandths hyields

/-- The simulator never builds a reading that the contract rejects, for as many
    devices as it has ids for; and ingestion accepts what it emits exactly when it
    is not corrupted. -/
theorem simulator_ingestion_agree (hreads : ReadsJson externals of_value)
    (hback : ReadsBack externals of_value texts) (h : build_streams settings start draws = .ok streams) :
    (FleetNeverRejected settings start draws ↔ settings.device_count.val ≤ 10 ^ 24) ∧
      ∀ steps emissions, merged_emissions streams steps = some emissions →
        ∀ emission ∈ emissions, Agrees externals texts emission := by
  obtain ⟨interval, hinterval, -⟩ := build_streams_eq_ok_iff.mp h
  refine ⟨⟨fun hnever => ?_, fun hcount index hindex interval readings hinterval hreadings => ?_⟩, ?_⟩
  · by_contra hmany
    obtain ⟨readings, hreadings, -⟩ := stream_of_device hinterval h (not_le.mp hmany)
    have hlast := (fleet_readings_never_rejected_iff hinterval hreadings).mp
      (hnever _ (not_le.mp hmany) interval readings hinterval hreadings)
    exact lt_irrefl _ hlast
  · exact (fleet_readings_never_rejected_iff hinterval hreadings).mpr (hindex.trans_le hcount)
  · intro steps emissions hmerged emission hemission
    exact agrees_of_thousandths hreads hback (merged_in_thousandths h hmerged emission hemission)

end Published

/-! ### Two devices with every reading corrupted, and one device too many -/

def json_texts : Texts where
  float := float_text
  datetime := datetime_text
  reread := .number

theorem json_reader_reads : ReadsJson json_reader id where
  object style members _ := by
    simp only [json_reader, decode_encode_utf8, Option.bind_some, Json.document_write, Option.map_id_fun, id_eq]
  incomplete text h := by
    refine ⟨"Invalid JSON", ?_⟩
    simp only [json_reader, decode_encode_utf8, Option.bind_some, h]
  literal_one := rfl
  str _ := rfl
  word := ⟨_, rfl⟩

theorem json_texts_read_back : ReadsBack json_reader id json_texts where
  float thousandths := by
    simp only [json_reader, json_texts, id_eq, decimal_value_float_text]
  datetime at_time := by
    obtain ⟨value, hvalue, hutc⟩ := aware_of_datetime_text at_time
    refine ⟨value, ?_, hutc⟩
    simp only [json_reader, json_texts, id_eq, hvalue]
  ascii := datetime_text_ascii
  reread _ := trivial

def malformed_settings : SimulatorSettings :=
  { steady_settings ⟨2, by decide⟩ with malformed_rate := 1 }

/-- Two devices all of whose readings are corrupted. -/
theorem simulator_ingestion_agree_malformed : ∃ streams,
    build_streams malformed_settings first_moment staggered_draws = .ok streams ∧
      FleetNeverRejected malformed_settings first_moment staggered_draws ∧
      (merged_emissions streams 3).map List.length = some 1 ∧
      ∀ steps emissions, merged_emissions streams steps = some emissions →
        ∀ emission ∈ emissions, Agrees json_reader json_texts emission := by
  have hmerged : ((build_streams malformed_settings first_moment staggered_draws).toOption.bind fun streams =>
      merged_emissions streams 3).map List.length = some 1 := by
    decide +kernel
  cases h : build_streams malformed_settings first_moment staggered_draws with
  | error error =>
    rw [h] at hmerged
    cases hmerged
  | ok streams =>
    rw [h] at hmerged
    have hcount : malformed_settings.device_count.val ≤ 10 ^ 24 := by
      show 2 ≤ 10 ^ 24
      norm_num
    obtain ⟨hnever, hagree⟩ := simulator_ingestion_agree json_reader_reads json_texts_read_back h
    exact ⟨streams, rfl, hnever.mpr hcount, hmerged, hagree⟩

/-- The id of one device more than `10 ^ 24` has 33 characters. -/
theorem crowded_fleet_rejected :
    ¬ FleetNeverRejected (steady_settings ⟨10 ^ 24 + 1, by omega⟩) first_moment staggered_draws := by
  intro hnever
  have hinterval : timedelta_seconds (steady_settings ⟨10 ^ 24 + 1, by omega⟩).interval_seconds.val =
      .ok (1800 * second) := by
    decide +kernel
  have hbuilt : (fleet_readings (steady_settings ⟨10 ^ 24 + 1, by omega⟩) first_moment (1800 * second)
      (staggered_draws (device_id (10 ^ 24))) (device_id (10 ^ 24))).toOption.isSome := by
    decide +kernel
  cases h : fleet_readings (steady_settings ⟨10 ^ 24 + 1, by omega⟩) first_moment (1800 * second)
      (staggered_draws (device_id (10 ^ 24))) (device_id (10 ^ 24)) with
  | error error =>
    rw [h] at hbuilt
    cases hbuilt
  | ok readings =>
    have hlast := (fleet_readings_never_rejected_iff hinterval h).mp
      (hnever (10 ^ 24) (Nat.lt_succ_self _) _ readings hinterval h)
    exact lt_irrefl _ hlast

end planter_telemetry.simulator.stream
