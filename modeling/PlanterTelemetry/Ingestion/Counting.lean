import PlanterTelemetry.Ingestion.Confluence

open planter_telemetry.python planter_telemetry.contract planter_telemetry.migrations
open planter_telemetry.ingestion.core planter_telemetry.ingestion.db

namespace planter_telemetry.ingestion.service

variable (externals : Externals)

/-! ### What a call counts -/

/-- The messages that were counted as handled. -/
def Counters.handled (counters : Counters) : Nat :=
  counters.ingested + counters.deduplicated + counters.dead_lettered

/-- A valid message that is older than the newest reading of its device. -/
def arrives_late (latest : String → Option UtcDatetime) (item : Item) : Bool :=
  (valid_reading externals item).any fun reading =>
    (latest reading.device_id.val).any fun newest => decide (reading.measured_at < newest)

def latest_after (latest : String → Option UtcDatetime) (item : Item) : String → Option UtcDatetime :=
  match valid_reading externals item with
  | none => latest
  | some reading =>
    if arrives_late externals latest item then latest
    else Function.update latest reading.device_id.val (some reading.measured_at)

/-- What any call does to the memory on its way to the first statement. -/
structure Noted (item : Item) (before after : Service) : Prop where
  latest : after.latest = latest_after externals before.latest item
  out_of_order : after.counters.out_of_order =
    before.counters.out_of_order + (arrives_late externals before.latest item).toNat

variable {externals} {item : Item} {before between after : Service} {reading : TelemetryV1}

/-- The statements of the writer leave the memory alone. -/
theorem perform_awaited {effect : Effect} (h : effect.awaited = true) (service : Service) :
    (perform effect service).1.counters = service.counters ∧
      (perform effect service).1.latest = service.latest := by
  cases effect with
  | get_latest | set_latest | count => cases h
  | upsert_device | insert_reading | record_dedupe | insert_dead_letter => exact ⟨rfl, rfl⟩

theorem run_note_arrival_noted (hvalid : valid_reading externals item = some reading) (before : Service) :
    ∃ after, (note_arrival reading).run perform before = (after, .ok ()) ∧ Noted externals item before after ∧
      after.counters.handled = before.counters.handled := by
  have hlate : arrives_late externals before.latest item =
      (before.latest reading.device_id.val).any fun newest => decide (reading.measured_at < newest) := by
    rw [arrives_late, hvalid, Option.any_some]
  simp only [note_arrival, Program.bind_eq, run_get_latest_bind]
  split
  · next h =>
    rw [← hlate] at h
    refine ⟨_, run_count before _, ⟨?_, ?_⟩, rfl⟩
    · rw [latest_after, hvalid]
      exact (if_pos h).symm
    · rw [h]
      rfl
  · next h =>
    rw [← hlate] at h
    refine ⟨_, run_set_latest before _ _, ⟨?_, ?_⟩, rfl⟩
    · rw [latest_after, hvalid]
      exact (if_neg h).symm
    · rw [Bool.eq_false_iff.mpr h]
      rfl

theorem not_fails_note_arrival (reading : TelemetryV1) :
    ¬ Program.Fails perform Effect.awaited (note_arrival reading) before after := by
  intro h
  rcases Program.fails_exec_iff.mp h with ⟨hawaited, -⟩ | h
  · cases hawaited
  · simp only [Program.ret_bind] at h
    split at h
    · rcases Program.fails_exec_iff.mp h with ⟨hawaited, -⟩ | h
      · cases hawaited
      · exact Program.not_fails_ret h
    · rcases Program.fails_exec_iff.mp h with ⟨hawaited, -⟩ | h
      · cases hawaited
      · exact Program.not_fails_ret h

/-- The part of a call behind its note leaves the rest of the memory as it was,
    and counts the message if it returns. -/
structure Counted (count : Nat) (before after : Service) : Prop where
  latest : after.latest = before.latest
  out_of_order : after.counters.out_of_order = before.counters.out_of_order
  handled : after.counters.handled = before.counters.handled + count

theorem counted_perform {effect : Effect} (h : effect.awaited = true) (service : Service) :
    Counted 0 service (perform effect service).1 := by
  obtain ⟨hcounters, hlatest⟩ := perform_awaited h service
  exact ⟨hlatest, by rw [hcounters], by rw [hcounters, Nat.add_zero]⟩

theorem counted_of_stopped {effect : Effect} (h : effect.awaited = true) {service : Service}
    (hstopped : after = service ∨ after = (perform effect service).1) : Counted 0 service after := by
  rcases hstopped with rfl | rfl
  · exact ⟨rfl, rfl, rfl⟩
  · exact counted_perform h service

theorem Counted.trans {first second : Nat} (h : Counted first before between) (h' : Counted second between after) :
    Counted (first + second) before after where
  latest := h'.latest.trans h.latest
  out_of_order := h'.out_of_order.trans h.out_of_order
  handled := by
    have hfirst := h.handled
    have hsecond := h'.handled
    omega

theorem run_store_reading_counted (reading : TelemetryV1) (before : Service) :
    ∃ after, (store_reading reading).run perform before = (after, .ok ()) ∧ Counted 1 before after := by
  simp only [store_reading, Program.bind_eq, run_upsert_device_bind, run_insert_reading_bind]
  split
  · refine ⟨_, run_count _ _, rfl, rfl, ?_⟩
    dsimp only [Counters.handled]
    omega
  · rw [run_record_dedupe_bind]
    refine ⟨_, run_count _ _, rfl, rfl, ?_⟩
    dsimp only [Counters.handled]
    omega

theorem fails_store_reading (h : Program.Fails perform Effect.awaited (store_reading reading) before after) :
    Counted 0 before after := by
  rcases Program.fails_exec_iff.mp h with ⟨hawaited, hstopped⟩ | h
  · exact counted_of_stopped hawaited hstopped
  · have hupsert := counted_perform (rfl : (Effect.upsert_device reading).awaited = true) before
    rcases Program.fails_exec_iff.mp h with ⟨hawaited, hstopped⟩ | h
    · exact hupsert.trans (counted_of_stopped hawaited hstopped)
    · have hinsert := hupsert.trans (counted_perform (rfl : (Effect.insert_reading reading).awaited = true)
        (perform (.upsert_device reading) before).1)
      simp only [Program.ret_bind] at h
      split at h
      · rcases Program.fails_exec_iff.mp h with ⟨hawaited, -⟩ | h
        · cases hawaited
        · exact absurd h Program.not_fails_ret
      · rcases Program.fails_exec_iff.mp h with ⟨hawaited, hstopped⟩ | h
        · exact hinsert.trans (counted_of_stopped hawaited hstopped)
        · rcases Program.fails_exec_iff.mp h with ⟨hawaited, -⟩ | h
          · cases hawaited
          · exact absurd h Program.not_fails_ret

/-- A message without a valid reading leaves the memory as it is. -/
theorem noted_of_invalid (count : Nat) (hinvalid : valid_reading externals item = none)
    (hcounted : Counted count before after) :
    Noted externals item before after := by
  refine ⟨?_, ?_⟩
  · rw [latest_after, hinvalid, hcounted.latest]
  · rw [arrives_late, hinvalid, hcounted.out_of_order]
    rfl

theorem Noted.counted {count : Nat} (h : Noted externals item before between) (h' : Counted count between after) :
    Noted externals item before after where
  latest := h'.latest.trans h.latest
  out_of_order := h'.out_of_order.trans h.out_of_order

theorem valid_reading_of_classify (h : classify externals item.1 item.2 = .ok (.valid_reading reading)) :
    valid_reading externals item = some reading := by
  rw [valid_reading, h]

theorem classify_of_valid_reading (h : valid_reading externals item = some reading) :
    classify externals item.1 item.2 = .ok (.valid_reading reading) := by
  rw [valid_reading] at h
  split at h
  · next hclassify => rw [hclassify, Option.some.inj h]
  · cases h

theorem handle_one_valid (h : classify externals item.1 item.2 = .ok (.valid_reading reading)) :
    handle_one externals item = (note_arrival reading).bind fun _ => store_reading reading := by
  rw [handle_one, h]
  rfl

theorem handle_one_dead_letter {letter : DeadLetter} (h : classify externals item.1 item.2 = .ok (.dead_letter letter)) :
    handle_one externals item = (Writer.insert_dead_letter letter).bind fun _ =>
      count fun c => { c with dead_lettered := c.dead_lettered + 1 } := by
  rw [handle_one, h]
  rfl

/-- A call that returns has noted its message, and has counted it once. -/
theorem returns_handle_one (h : (handle_one externals item).run perform before = (after, .ok ())) :
    Noted externals item before after ∧ after.counters.handled = before.counters.handled + 1 := by
  match hclassify : classify externals item.1 item.2 with
  | .error error =>
    rw [run_handle_one_error hclassify] at h
    cases h
  | .ok (.valid_reading reading) =>
    rw [handle_one_valid hclassify] at h
    obtain ⟨between, hnote, hnoted, hsame⟩ := run_note_arrival_noted (valid_reading_of_classify hclassify) before
    obtain ⟨final, hstore, hcounted⟩ := run_store_reading_counted reading between
    rw [Program.run_bind_of_ok hnote, hstore, Prod.mk.injEq] at h
    obtain rfl := h.1
    exact ⟨hnoted.counted hcounted, by rw [hcounted.handled, hsame]⟩
  | .ok (.dead_letter letter) =>
    have hinvalid : valid_reading externals item = none := by rw [valid_reading, hclassify]
    rw [handle_one_dead_letter hclassify, run_insert_dead_letter_bind, run_count, Prod.mk.injEq] at h
    obtain rfl := h.1
    exact ⟨noted_of_invalid 1 hinvalid ⟨rfl, rfl, rfl⟩, rfl⟩

/-- A call that fails has noted its message too, and has not counted it. -/
theorem fails_handle_one (h : Program.Fails perform Effect.awaited (handle_one externals item) before after) :
    Noted externals item before after ∧ after.counters.handled = before.counters.handled := by
  match hclassify : classify externals item.1 item.2 with
  | .error error =>
    rw [handle_one, hclassify] at h
    exact absurd h Program.not_fails_raise
  | .ok (.valid_reading reading) =>
    rw [handle_one_valid hclassify] at h
    obtain ⟨noted, hnote, hnoted, hsame⟩ := run_note_arrival_noted (valid_reading_of_classify hclassify) before
    rcases Program.fails_bind h with hfirst | ⟨between, _, hbetween, hrest⟩
    · exact absurd hfirst (not_fails_note_arrival reading)
    · obtain rfl : noted = between := congrArg Prod.fst (hnote.symm.trans hbetween)
      have hcounted := fails_store_reading hrest
      exact ⟨hnoted.counted hcounted, by rw [hcounted.handled, hsame, Nat.add_zero]⟩
  | .ok (.dead_letter letter) =>
    have hinvalid : valid_reading externals item = none := by rw [valid_reading, hclassify]
    rw [handle_one_dead_letter hclassify] at h
    rcases Program.fails_exec_iff.mp h with ⟨hawaited, hstopped⟩ | h
    · have hcounted := counted_of_stopped hawaited hstopped
      exact ⟨noted_of_invalid 0 hinvalid hcounted, hcounted.handled⟩
    · rcases Program.fails_exec_iff.mp h with ⟨hawaited, -⟩ | h
      · cases hawaited
      · exact absurd h Program.not_fails_ret

/-! ### Repeated calls -/

/-- Noting a message again moves nothing but the counter. -/
theorem latest_after_again (externals : Externals) (latest : String → Option UtcDatetime) (item : Item) :
    latest_after externals (latest_after externals latest item) item = latest_after externals latest item ∧
      arrives_late externals (latest_after externals latest item) item = arrives_late externals latest item := by
  cases hvalid : valid_reading externals item with
  | none => simp only [latest_after, arrives_late, hvalid, Option.any_none, and_self]
  | some reading =>
    cases hlate : arrives_late externals latest item with
    | true =>
      have hsame : latest_after externals latest item = latest := by simp only [latest_after, hvalid, hlate, if_true]
      rw [hsame, hsame, hlate]
      exact ⟨rfl, rfl⟩
    | false =>
      have hmoved : latest_after externals latest item =
          Function.update latest reading.device_id.val (some reading.measured_at) := by
        simp only [latest_after, hvalid, hlate, Bool.false_eq_true, if_false]
      have hnot : arrives_late externals (Function.update latest reading.device_id.val (some reading.measured_at))
          item = false := by
        rw [arrives_late, hvalid, Option.any_some, Function.update_self, Option.any_some]
        exact decide_eq_false (lt_irrefl _)
      rw [hmoved]
      refine ⟨?_, hnot⟩
      rw [latest_after, hvalid]
      simp only [hnot, Bool.false_eq_true, if_false, Function.update_idem]

variable (externals) in
/-- Handling one message: so many calls fail, and the next one returns. -/
inductive Attempts (item : Item) : Nat → Service → Service → Prop
  | returned {before after : Service} (h : (handle_one externals item).run perform before = (after, .ok ())) :
      Attempts item 0 before after
  | failed {failures : Nat} {before between after : Service}
      (h : Program.Fails perform Effect.awaited (handle_one externals item) before between)
      (again : Attempts item failures between after) : Attempts item (failures + 1) before after

/-- However often a message is handled again it is counted once, but if it is
    late it is counted so at each call. -/
theorem Attempts.counts {failures : Nat} (h : Attempts externals item failures before after) :
    after.latest = latest_after externals before.latest item ∧
      after.counters.handled = before.counters.handled + 1 ∧
      after.counters.out_of_order = before.counters.out_of_order +
        if arrives_late externals before.latest item then failures + 1 else 0 := by
  induction h with
  | returned h =>
    obtain ⟨hnoted, hhandled⟩ := returns_handle_one h
    refine ⟨hnoted.latest, hhandled, hnoted.out_of_order.trans ?_⟩
    cases arrives_late externals _ item with
    | true => rfl
    | false => rfl
  | @failed failures before between after h again ih =>
    obtain ⟨hnoted, hhandled⟩ := fails_handle_one h
    obtain ⟨hlatest, hcounted, hlate⟩ := ih
    obtain ⟨hsame, hsame_late⟩ := latest_after_again externals before.latest item
    rw [hnoted.latest] at hlatest hlate
    rw [hsame] at hlatest
    rw [hsame_late, hnoted.out_of_order] at hlate
    refine ⟨hlatest, by rw [hcounted, hhandled], hlate.trans ?_⟩
    cases arrives_late externals before.latest item with
    | true =>
      rw [if_pos rfl, if_pos rfl, Bool.toNat_true]
      omega
    | false => rfl

variable (externals) in
/-- Handling the deliveries in order, each with the number of its calls that
    failed. -/
inductive Handled : List (Item × Nat) → Service → Service → Prop
  | nil {service : Service} : Handled [] service service
  | cons {item : Item} {failures : Nat} {deliveries : List (Item × Nat)} {before between after : Service}
      (first : Attempts externals item failures before between) (rest : Handled deliveries between after) :
      Handled ((item, failures) :: deliveries) before after

/-! ### What the deliveries are -/

section Deliveries

variable (externals)

/-- The device times of the valid messages of a device, as delivered. -/
def measured_of (device_id : String) (items : List Item) : List UtcDatetime :=
  items.filterMap fun item =>
    ((valid_reading externals item).filter fun reading => reading.device_id.val = device_id).map (·.measured_at)

/-- The newest `measured_at` among the valid messages of a device. -/
def newest_delivered (items : List Item) (device_id : String) : Option UtcDatetime :=
  (measured_of externals device_id items).max?

/-- The valid messages that are older than the newest one of their device
    delivered before them, with the number of their calls that failed. -/
def late_deliveries (earlier : List Item) : List (Item × Nat) → List (Item × Nat)
  | [] => []
  | (item, failures) :: deliveries =>
    if arrives_late externals (newest_delivered externals earlier) item then
      (item, failures) :: late_deliveries (earlier ++ [item]) deliveries
    else late_deliveries (earlier ++ [item]) deliveries

end Deliveries

theorem max?_concat (times : List UtcDatetime) (time : UtcDatetime) :
    (times ++ [time]).max? = some (times.max?.elim time (max · time)) := by
  cases times with
  | nil => rfl
  | cons first times => rw [List.cons_append, List.max?_cons', List.max?_cons', List.foldl_append]; rfl

/-- The memory of the service keeps the newest delivery of each device. -/
theorem newest_delivered_concat (items : List Item) (item : Item) :
    newest_delivered externals (items ++ [item]) = latest_after externals (newest_delivered externals items) item := by
  funext device_id
  rw [newest_delivered, measured_of, List.filterMap_append]
  cases hvalid : valid_reading externals item with
  | none =>
    rw [List.filterMap_cons_none (by rw [hvalid]; rfl), List.filterMap_nil, List.append_nil, latest_after, hvalid]
    rfl
  | some reading =>
    have hlate : arrives_late externals (newest_delivered externals items) item =
        (newest_delivered externals items reading.device_id.val).any fun newest =>
          decide (reading.measured_at < newest) := by
      rw [arrives_late, hvalid, Option.any_some]
    by_cases hdevice : reading.device_id.val = device_id
    · subst hdevice
      rw [List.filterMap_cons_some (b := reading.measured_at) (by simp [hvalid]), List.filterMap_nil, max?_concat,
        latest_after, hvalid]
      change some ((newest_delivered externals items reading.device_id.val).elim _ _) = _
      cases hnewest : newest_delivered externals items reading.device_id.val with
      | none =>
        rw [hnewest, Option.any_none] at hlate
        simp [hlate]
      | some newest =>
        rw [hnewest, Option.any_some] at hlate
        by_cases hlt : reading.measured_at < newest
        · rw [decide_eq_true hlt] at hlate
          simp [hlate, hnewest, max_eq_left hlt.le]
        · rw [decide_eq_false hlt] at hlate
          simp [hlate, max_eq_right (not_lt.mp hlt)]
    · rw [List.filterMap_cons_none (by simp [hvalid, hdevice]), List.filterMap_nil, List.append_nil, latest_after, hvalid]
      change newest_delivered externals items device_id = _
      dsimp only
      split
      · rfl
      · rw [Function.update_of_ne (Ne.symm hdevice)]

/-- Every delivery is counted once, and a late one as often as it was called
    with. -/
theorem Handled.counts {deliveries : List (Item × Nat)} (earlier : List Item)
    (h : Handled externals deliveries before after) (hlatest : before.latest = newest_delivered externals earlier) :
    after.counters.handled = before.counters.handled + deliveries.length ∧
      after.counters.out_of_order = before.counters.out_of_order +
        ((late_deliveries externals earlier deliveries).map fun delivery => delivery.2 + 1).sum := by
  induction h generalizing earlier with
  | nil => exact ⟨rfl, rfl⟩
  | @cons item failures deliveries before between after first rest ih =>
    obtain ⟨hnoted, hhandled, hlate⟩ := first.counts
    rw [hlatest] at hnoted hlate
    obtain ⟨hrest, hrest_late⟩ := ih (earlier ++ [item]) (hnoted.trans (newest_delivered_concat earlier item).symm)
    refine ⟨by rw [hrest, hhandled, List.length_cons]; omega, ?_⟩
    rw [hrest_late, hlate, late_deliveries]
    split
    · rw [List.map_cons, List.sum_cons]
      omega
    · rfl

theorem sum_succ_eq_length_iff (deliveries : List (Item × Nat)) :
    (deliveries.map fun delivery => delivery.2 + 1).sum = deliveries.length ↔
      ∀ delivery ∈ deliveries, delivery.2 = 0 := by
  induction deliveries with
  | nil => simp
  | cons delivery deliveries ih =>
    have hle : deliveries.length ≤ (deliveries.map fun delivery => delivery.2 + 1).sum := by
      rw [← List.length_map (fun delivery => delivery.2 + 1)]
      exact List.length_le_sum_of_one_le _ fun count hcount => by
        obtain ⟨delivery, -, rfl⟩ := List.mem_map.mp hcount
        omega
    rw [List.map_cons, List.sum_cons, List.length_cons, List.forall_mem_cons, ← ih]
    omega

/-- Over any run of deliveries and failed calls the messages handled are those
    delivered; the messages counted as out of order are those delivered out of
    order exactly when none of their calls failed. -/
theorem late_arrivals_exact_iff {deliveries : List (Item × Nat)} {db : Database} {final : Service}
    (h : Handled externals deliveries ⟨db, {}, fun _ => none⟩ final) :
    final.counters.handled = deliveries.length ∧
      (final.counters.out_of_order = (late_deliveries externals [] deliveries).length ↔
        ∀ delivery ∈ late_deliveries externals [] deliveries, delivery.2 = 0) := by
  obtain ⟨hhandled, hlate⟩ := h.counts [] rfl
  refine ⟨hhandled.trans (Nat.zero_add _), ?_⟩
  rw [← sum_succ_eq_length_iff, hlate, Nat.zero_add]

/-- The noon reading is delivered after the one o'clock reading. -/
theorem late_noon_counts (failures : Nat) :
    late_deliveries hourly_reader [] [(one_message, 0), (noon_message, failures)] = [(noon_message, failures)] := by
  have hone : arrives_late hourly_reader (newest_delivered hourly_reader []) one_message = false := by decide +kernel
  have hnoon : arrives_late hourly_reader (newest_delivered hourly_reader [one_message]) noon_message = true := by
    decide +kernel
  rw [late_deliveries, if_neg (by rw [hone]; decide), late_deliveries, List.nil_append, if_pos hnoon, late_deliveries]

/-- A call can lose its first statement any number of times before it returns. -/
theorem attempts_of_valid (h : classify externals item.1 item.2 = .ok (.valid_reading reading)) (failures : Nat)
    (before : Service) : ∃ after, Attempts externals item failures before after := by
  induction failures generalizing before with
  | zero =>
    obtain ⟨after, hrun, -⟩ := run_handle_one_valid before h
    exact ⟨after, .returned hrun⟩
  | succ failures ih =>
    obtain ⟨noted, hnote, -⟩ := run_note_arrival reading before
    have hfails : Program.Fails perform Effect.awaited (handle_one externals item) before noted := by
      rw [handle_one_valid h]
      exact Program.Fails.bind_of_run hnote (.lost rfl)
    obtain ⟨after, hagain⟩ := ih noted
    exact ⟨after, .failed hfails hagain⟩

theorem handled_one_then_noon (db : Database) (failures : Nat) :
    ∃ final, Handled hourly_reader [(one_message, 0), (noon_message, failures)] ⟨db, {}, fun _ => none⟩ final := by
  have hvalid : ∀ item ∈ [one_message, noon_message], (valid_reading hourly_reader item).isSome := by decide +kernel
  obtain ⟨one, hone⟩ := Option.isSome_iff_exists.mp (hvalid one_message (by simp))
  obtain ⟨noon, hnoon⟩ := Option.isSome_iff_exists.mp (hvalid noon_message (by simp))
  obtain ⟨between, hfirst⟩ := attempts_of_valid (classify_of_valid_reading hone) 0 ⟨db, {}, fun _ => none⟩
  obtain ⟨final, hsecond⟩ := attempts_of_valid (classify_of_valid_reading hnoon) failures between
  exact ⟨final, .cons hfirst (.cons hsecond .nil)⟩

/-- With no failed call the late noon reading is counted once. -/
theorem late_arrivals_exact_noon :
    ∃ final, Handled hourly_reader [(one_message, 0), (noon_message, 0)] ⟨Database.fresh, {}, fun _ => none⟩ final ∧
      final.counters.handled = 2 ∧ final.counters.out_of_order = 1 := by
  obtain ⟨final, hhandled⟩ := handled_one_then_noon Database.fresh 0
  have hexact := late_arrivals_exact_iff hhandled
  rw [late_noon_counts] at hexact
  exact ⟨final, hhandled, hexact.1, hexact.2.mpr (by decide)⟩

/-- Where its first statement is lost once, it is counted twice. -/
theorem late_noon_counted_twice :
    ∃ final, Handled hourly_reader [(one_message, 0), (noon_message, 1)] ⟨Database.fresh, {}, fun _ => none⟩ final ∧
      final.counters.out_of_order = 2 ∧
      (late_deliveries hourly_reader [] [(one_message, 0), (noon_message, 1)]).length = 1 := by
  obtain ⟨final, hhandled⟩ := handled_one_then_noon Database.fresh 1
  obtain ⟨-, hlate⟩ := hhandled.counts [] rfl
  rw [late_noon_counts] at hlate
  exact ⟨final, hhandled, hlate, congrArg List.length (late_noon_counts 1)⟩

end planter_telemetry.ingestion.service
