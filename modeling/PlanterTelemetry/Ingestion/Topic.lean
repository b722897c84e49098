import PlanterTelemetry.Ingestion.AckWindow
import PlanterTelemetry.Ingestion.Registry

open planter_telemetry.python planter_telemetry.contract planter_telemetry.migrations
open planter_telemetry.ingestion.core planter_telemetry.ingestion.db

namespace planter_telemetry.ingestion.service

variable {externals : Externals}

/-- A valid reading names the device its topic names. -/
theorem topic_of_valid_reading {topic : String} {payload : List UInt8} {reading : TelemetryV1}
    (h : classify externals topic payload = .ok (.valid_reading reading)) :
    topic = telemetry_topic reading.device_id.val := by
  unfold classify at h
  split at h
  · cases h
  · next topic_device_id htopic =>
    split at h
    · cases h
    · cases h
    · split at h
      · cases h
      · next hsame =>
        cases h
        rw [Classical.not_not.mp hsame]
        exact telemetry_topic_of_device_id_from_topic htopic

/-- The topic of a valid device id has no wildcard. -/
theorem telemetry_topic_wildcards (device_id : DeviceId) :
    '+' ∉ (telemetry_topic device_id.val).toList ∧ '#' ∉ (telemetry_topic device_id.val).toList := by
  have hchars := device_id_chars device_id
  simp only [telemetry_topic, String.toList_append, List.mem_append, not_or]
  refine ⟨⟨⟨by decide, fun hmem => ?_⟩, by decide⟩, ⟨by decide, fun hmem => ?_⟩, by decide⟩
  · have hplus := hchars '+' hmem
    revert hplus
    decide
  · have hhash := hchars '#' hmem
    revert hhash
    decide

/-! ### Where the stored readings come from -/

/-- Every row not stored before is the reading of one of the messages. -/
def Sourced (externals : Externals) (start : Database) (items : List Item) (db : Database) : Prop :=
  ∀ row ∈ db.telemetry.rows, row ∈ start.telemetry.rows ∨
    ∃ item ∈ items, ∃ reading, valid_reading externals item = some reading ∧ row = reading_row reading

section Sourced

variable {start db after : Database} {items : List Item} {item : Item}

theorem Sourced.append (h : Sourced externals start items db) (item : Item) :
    Sourced externals start (items ++ [item]) db := by
  intro row hrow
  apply (h row hrow).imp_right
  rintro ⟨other, hother, hreading⟩
  exact ⟨other, List.mem_append_left _ hother, hreading⟩

/-- Wherever a call for one of the messages is cut, it has stored that message's
    reading at most. -/
theorem Sourced.cut {service final : Service} (h : Sourced externals start items service.db)
    (hitem : item ∈ items) (hcut : Program.Reaches perform (handle_one externals item) service final) :
    Sourced externals start items final.db := by
  intro row hrow
  rcases reaches_handle_one hcut with ⟨hsame, -⟩ | ⟨reading, hvalid, -, hsame | hinsert⟩
  · exact h row (hsame ▸ hrow)
  · exact h row (hsame ▸ hrow)
  · rw [hinsert, KeyedTable.mem_insertIgnore] at hrow
    rcases hrow with hold | ⟨-, rfl⟩
    · exact h row hold
    · exact .inr ⟨item, hitem, reading, hvalid, rfl⟩

end Sourced

/-- What holds of every state of `run`: the messages it holds were acked, and the
    rows are sourced now and wherever the call in progress is cut. -/
structure FromAcked (externals : Externals) (start : Database) (state : State) : Prop where
  held : ∀ item ∈ state.pending ++ state.buffered, item ∈ state.acked
  rows : Sourced externals start state.acked state.memory.db
  going : ∀ loop item rest, state.pc = .handling loop item rest → item ∈ state.acked ∧
    ∀ final, Program.Reaches perform rest state.memory final →
      Sourced externals start state.acked final.db

/-- No message is in a handler. -/
def Pc.idle : Pc → Bool
  | .handling _ _ _ => false
  | _ => true

section Steps

variable {start : Database} {state after : State}

/-- A step between two calls. -/
theorem FromAcked.moved (h : FromAcked externals start state) (hmemory : after.memory = state.memory)
    (hacked : after.acked = state.acked)
    (hheld : ∀ item ∈ after.pending ++ after.buffered, item ∈ state.pending ++ state.buffered)
    (hpc : after.pc.idle = true) : FromAcked externals start after where
  held item hitem := hacked ▸ h.held item (hheld item hitem)
  rows := by
    rw [hmemory, hacked]
    exact h.rows
  going loop item rest hhandling := by
    rw [hhandling] at hpc
    cases hpc

theorem FromAcked.handle (h : FromAcked externals start state) (loop : Loop) {item : Item}
    (hitem : item ∈ state.pending ++ state.buffered) :
    FromAcked externals start (state.handle externals loop item) where
  held := h.held
  rows := h.rows
  going own_loop own rest hhandling := by
    cases hhandling
    exact ⟨h.held item hitem, fun final hcut => h.rows.cut (h.held item hitem) hcut⟩

/-- Taking the oldest buffered message and handling it. -/
theorem FromAcked.take_handle (h : FromAcked externals start state) (loop : Loop) {item : Item}
    {rest : List Item} (hbuffered : state.buffered = item :: rest) :
    FromAcked externals start ((state.take item rest).handle externals loop item) where
  held other hother := h.held other (held_take hbuffered ▸ hother)
  rows := h.rows
  going own_loop own left hhandling := by
    cases hhandling
    have hitem : item ∈ state.acked := h.held item (by simp [hbuffered])
    exact ⟨hitem, fun final hcut => h.rows.cut hitem hcut⟩

theorem Turns.idle {pc pc' : Pc} (h : Turns state pc pc') : pc'.idle = true := by
  cases h with
  | raised loop item error => cases loop <;> rfl
  | _ => rfl

theorem fromAcked_proceeds (h : FromAcked externals start state)
    (hproceeds : Proceeds externals state after) : FromAcked externals start after := by
  cases hproceeds with
  | turned hat hturns => exact h.moved rfl rfl (fun _ hitem => hitem) hturns.idle
  | entered hat =>
    refine h.moved rfl rfl (fun item hitem => ?_) rfl
    exact List.mem_append_left _ (by simpa [State.buffered] using hitem)
  | resumed hloop hpending => exact h.handle _ (List.mem_append_left _ (List.mem_of_head? hpending))
  | took hloop hbuffered => exact h.take_handle _ hbuffered
  | salvaged hat hbuffered =>
    refine h.moved rfl rfl (fun other hother => held_take hbuffered ▸ hother) ?_
    rw [State.take, hat]
    rfl
  | @handled loop item hat =>
    refine h.moved rfl rfl (fun other hother => ?_) ?_
    · exact (List.mem_append.mp hother).elim (fun hkept => List.mem_append_left _ (List.mem_of_mem_tail hkept))
        fun hbuffered => List.mem_append_right _ hbuffered
    · cases loop <;> rfl
  | @executed loop item effect next hat =>
    obtain ⟨hitem, hcut⟩ := h.going _ _ _ hat
    refine ⟨h.held, hcut _ (.next (.here _ _)), fun own_loop own left hhandling => ?_⟩
    cases hhandling
    exact ⟨hitem, fun final hfinal => hcut final (.next hfinal)⟩
  | left hat =>
    refine h.moved rfl rfl (fun item hitem => ?_) rfl
    exact List.mem_append_left _ (by simpa [State.discard_client, State.buffered] using hitem)
  | crashed hat => exact h.moved rfl rfl (fun item hitem => List.mem_append_right _ hitem) rfl
  | dropped hat => exact h.moved rfl rfl (fun _ hitem => hitem) rfl

/-- A delivered message is acked with that. -/
theorem fromAcked_delivered {item : Item} {buffered : List Item} (h : FromAcked externals start state)
    (hbuffer : state.buffer = some buffered) :
    FromAcked externals start
      { state with buffer := some (buffered ++ [item]), acked := state.acked ++ [item] } where
  held other hother := by
    have hheld : other ∈ (state.pending ++ state.buffered) ++ [item] := by
      simpa [State.buffered, hbuffer] using hother
    cases List.mem_append.mp hheld with
    | inl hold => exact List.mem_append_left _ (h.held other hold)
    | inr hlast => exact List.mem_append_right _ hlast
  rows := h.rows.append item
  going loop own rest hhandling := by
    obtain ⟨hown, hcut⟩ := h.going loop own rest hhandling
    exact ⟨List.mem_append_left _ hown, fun final hfinal => (hcut final hfinal).append item⟩

theorem fromAcked_step (h : FromAcked externals start state) (hstep : Step externals state after) :
    FromAcked externals start after := by
  obtain ⟨action, hstep⟩ := hstep
  cases stepped externals hstep with
  | proceeded hproceeds => exact fromAcked_proceeds h hproceeds
  | halted | connect_failed | flush_failed | enter_failed | subscribe_failed | disconnected_empty =>
    exact h.moved rfl rfl (fun _ hitem => hitem) rfl
  | halted_late hat hstop hbuffered =>
    refine h.moved rfl rfl (fun other hother => ?_) rfl
    rw [hbuffered]
    exact (List.mem_append.mp hother).elim (List.mem_append_left _)
      fun hrest => List.mem_append_right _ (List.mem_cons_of_mem _ hrest)
  | @statement_failed took_effect loop item effect next hat hawaited =>
    cases took_effect with
    | false =>
      refine h.moved rfl rfl (fun _ hitem => hitem) ?_
      cases loop <;> rfl
    | true =>
      obtain ⟨-, hcut⟩ := h.going _ _ _ hat
      refine ⟨h.held, hcut _ (.next (.here _ _)), fun own_loop own rest hhandling => ?_⟩
      cases loop <;> cases hhandling
  | exit_failed hat =>
    refine h.moved rfl rfl (fun item hitem => ?_) rfl
    exact List.mem_append_left _ (by simpa [State.discard_client, State.buffered] using hitem)
  | delivered hbuffer => exact fromAcked_delivered h hbuffer
  | disconnected | stop_set => exact ⟨h.held, h.rows, h.going⟩

end Steps

/-- In every state that `run` reaches, the rows it added are readings of messages
    the broker had acked. -/
theorem sourced_of_run {start : Database} {state : State}
    (hrun : Relation.ReflTransGen (Step externals) (initial start) state) :
    Sourced externals start state.acked state.memory.db := by
  have hstart : FromAcked externals start (initial start) :=
    ⟨fun item hitem => absurd hitem List.not_mem_nil, fun _ hrow => .inl hrow,
      fun _ _ _ hhandling => by cases hhandling⟩
  have hinvariant : FromAcked externals start state := by
    induction hrun with
    | refl => exact hstart
    | tail _ hstep ih => exact fromAcked_step ih hstep
  exact hinvariant.rows

/-- Printing a topic and reading it are inverse, and whatever `run` stores came
    under the topic whose third segment is the device of the row. -/
theorem topics_name_devices :
    (∀ device_id : String, device_id_from_topic (telemetry_topic device_id) =
      if device_id ≠ "" ∧ '/' ∉ device_id.toList then some device_id else none) ∧
    (∀ topic device_id : String, device_id_from_topic topic = some device_id →
      topic = telemetry_topic device_id) ∧
    (∀ (externals : Externals) (topic : String) (payload : List UInt8) (reading : TelemetryV1),
      classify externals topic payload = .ok (.valid_reading reading) →
        topic = telemetry_topic reading.device_id.val) ∧
    (∀ device_id : DeviceId,
      device_id_from_topic (telemetry_topic device_id.val) = some device_id.val ∧
        '+' ∉ (telemetry_topic device_id.val).toList ∧ '#' ∉ (telemetry_topic device_id.val).toList) ∧
    ∀ (externals : Externals) (start : Database) (state : State),
      Relation.ReflTransGen (Step externals) (initial start) state →
        ∀ row ∈ state.memory.db.telemetry.rows, row ∈ start.telemetry.rows ∨
          ∃ item ∈ state.acked, item.1 = telemetry_topic row.device_id ∧
            split_slash item.1 = ["planter", "v1", row.device_id, "telemetry"] := by
  refine ⟨device_id_from_printed_topic, fun _ _ => telemetry_topic_of_device_id_from_topic,
    fun _ _ _ _ => topic_of_valid_reading, fun device_id => ?_, fun externals start state hrun row hrow => ?_⟩
  · exact ⟨device_id_from_topic_telemetry_topic device_id, telemetry_topic_wildcards device_id⟩
  · apply (sourced_of_run hrun row hrow).imp_right
    rintro ⟨item, hitem, reading, hvalid, rfl⟩
    have htopic : item.1 = telemetry_topic reading.device_id.val := by
      unfold valid_reading at hvalid
      split at hvalid
      · next own hclassify =>
        cases hvalid
        exact topic_of_valid_reading hclassify
      · cases hvalid
    have hsegment := split_slash_eq_singleton_iff.mpr ⟨(device_id_segment reading.device_id).2, rfl⟩
    refine ⟨item, hitem, htopic, ?_⟩
    rw [htopic, split_slash_telemetry_topic, hsegment]
    rfl

end planter_telemetry.ingestion.service
