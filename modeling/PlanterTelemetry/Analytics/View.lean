import PlanterTelemetry.Analytics.Service

open planter_telemetry.python planter_telemetry.migrations planter_telemetry.analytics.model
open planter_telemetry.analytics.config planter_telemetry.analytics.db

namespace planter_telemetry.analytics.service

/-- What a pass reads back or leaves behind for one (device, kind): the forecast
    rows by watermark, and the alert decisions in the order they were made. -/
structure View where
  forecasts : UtcDatetime → Option ForecastRow
  history : List AlertDecision

def view (db : Database) (device_id kind : String) : View where
  forecasts as_of := db.forecasts.lookup (device_id, kind, as_of)
  history := alert_history db device_id kind

theorem view_congr {first second : Database} (hforecasts : first.forecasts = second.forecasts)
    (hevents : first.alert_events = second.alert_events) (device_id kind : String) :
    view first device_id kind = view second device_id kind := by
  unfold view alert_history
  rw [hforecasts, hevents]

variable (settings : AnalyticsSettings) (device_id : String) (metric : Metric ℚ)

/-- The decision a forecast calls for, given the latest one recorded. -/
def called_for (fc : Forecast UtcDatetime ℚ) (previous : Option (AlertState UtcDatetime)) :
    Option AlertDecision :=
  match alert_transition fc metric previous settings.cooldown_seconds CLEAR_FACTOR,
    fc.as_of, fc.crosses_at with
  | some transition, some as_of, some crosses_at =>
    some (decision_of device_id metric transition as_of crosses_at)
  | _, _, _ => none

/-- The forecast rows once `fc` is inserted. -/
def View.with_forecast (v : View) (fc : Forecast UtcDatetime ℚ) : View :=
  { v with forecasts := fun as_of =>
      if fc.as_of = some as_of then
        some ((v.forecasts as_of).elim (forecast_row device_id as_of fc)
          (overwrite (forecast_row device_id as_of fc)))
      else v.forecasts as_of }

/-- The decisions once one more is inserted, unless its key is there. -/
def View.with_decision (v : View) (decision : Option AlertDecision) : View :=
  { v with history :=
      match decision with
      | none => v.history
      | some decision =>
        if decision.key ∈ v.history.map AlertDecision.key then v.history
        else v.history ++ [decision] }

theorem View.with_decision_of_mem {v : View} {decision : AlertDecision}
    (h : decision.key ∈ v.history.map AlertDecision.key) : v.with_decision (some decision) = v := by
  simp only [View.with_decision, if_pos h]

theorem View.with_decision_of_not_mem {v : View} {decision : AlertDecision}
    (h : decision.key ∉ v.history.map AlertDecision.key) :
    (v.with_decision (some decision)).history = v.history ++ [decision] := by
  simp only [View.with_decision, if_neg h]

/-- What one turn of the loops makes of a view. -/
def View.act (v : View) (fc : Forecast UtcDatetime ℚ) (previous : Option (AlertState UtcDatetime)) :
    View :=
  (v.with_forecast device_id fc).with_decision (called_for settings device_id metric fc previous)

/-- One turn, deciding from the view itself. -/
def View.advance (tie : TieBreak) (v : View) (fc : Forecast UtcDatetime ℚ) : View :=
  v.act settings device_id metric fc (latest_of_history tie v.history)

variable {settings device_id metric} in
/-- A forecast without a watermark changes nothing. -/
theorem View.advance_of_no_watermark (tie : TieBreak) (v : View) {fc : Forecast UtcDatetime ℚ}
    (h : fc.as_of = none) : v.advance settings device_id metric tie fc = v := by
  have hcalled : called_for settings device_id metric fc (latest_of_history tie v.history) = none := by
    unfold called_for
    rw [h]
    split
    · next hnone _ => cases hnone
    · rfl
  simp [View.advance, View.act, hcalled, View.with_decision, View.with_forecast, h]

/-! ### What each statement does to the views -/

theorem alert_key_mem_iff {db : Database} {decision : AlertDecision} :
    decision.key ∈ db.alert_events.keys ↔
      decision.key ∈ (alert_history db decision.device_id decision.kind).map AlertDecision.key := by
  rw [KeyedTable.mem_keys, List.mem_map]
  constructor
  · rintro ⟨row, hrow, hkey⟩
    refine ⟨row.toAlertDecision, List.mem_filter.mpr ⟨List.mem_map_of_mem hrow, ?_⟩, hkey⟩
    have hdevice := congrArg Prod.fst hkey
    have hkind := congrArg (fun key => key.2.1) hkey
    exact decide_eq_true ⟨hdevice, hkind⟩
  · rintro ⟨other, hother, hkey⟩
    obtain ⟨row, hrow, rfl⟩ := List.mem_map.mp (List.mem_filter.mp hother).1
    exact ⟨row, hrow, hkey⟩

theorem view_insert_forecast (db : Database) {device_id : String} {as_of : UtcDatetime}
    {fc : Forecast UtcDatetime ℚ} (has : fc.as_of = some as_of) (other kind : String) :
    view (insert_forecast db (forecast_row device_id as_of fc)).1 other kind =
      if other = device_id ∧ kind = fc.kind then (view db other kind).with_forecast device_id fc
      else view db other kind := by
  have hlookup (key : String × String × UtcDatetime) := KeyedTable.lookup_upsert
    (overwrite_key (forecast_row device_id as_of fc)) db.forecasts (forecast_row device_id as_of fc) key
  have hkey : (forecast_row device_id as_of fc).key = (device_id, fc.kind, as_of) := rfl
  rw [hkey] at hlookup
  split
  · next hpair =>
    obtain ⟨rfl, rfl⟩ := hpair
    simp only [view, insert_forecast, View.with_forecast, View.mk.injEq]
    refine ⟨?_, rfl⟩
    funext time
    rw [hlookup]
    by_cases htime : as_of = time
    · subst htime
      rw [if_pos rfl, if_pos has]
    · rw [if_neg (by simpa using htime), if_neg (by simpa [has] using htime)]
  · next hpair =>
    simp only [view, insert_forecast, View.mk.injEq]
    refine ⟨?_, rfl⟩
    funext time
    rw [hlookup, if_neg]
    intro heq
    obtain ⟨hdevice, hrest⟩ := Prod.mk.inj heq
    exact hpair ⟨hdevice.symm, (Prod.mk.inj hrest).1.symm⟩

/-- A new decision goes to the end of its own history. -/
theorem alert_history_insert (db : Database) (decision : AlertDecision) (device_id kind : String) :
    alert_history (insert_alert_event db decision).1 device_id kind =
      if decision.key ∉ db.alert_events.keys ∧
          decision.device_id = device_id ∧ decision.kind = kind then
        alert_history db device_id kind ++ [decision]
      else alert_history db device_id kind := by
  by_cases hkey : decision.key ∈ db.alert_events.keys
  · have hsame : (insert_alert_event db decision).1.alert_events = db.alert_events :=
      KeyedTable.insertIgnore_of_mem hkey
    rw [if_neg fun h => h.1 hkey, alert_history, hsame, alert_history]
  · have hrows : (insert_alert_event db decision).1.alert_events.rows =
        db.alert_events.rows ++ [{ decision with id := db.next_id }] :=
      KeyedTable.insertIgnore_rows_of_not_mem hkey
    simp only [alert_history, hrows, List.map_append, List.filter_append, List.map_singleton, hkey,
      not_false_eq_true, true_and]
    by_cases hpair : decision.device_id = device_id ∧ decision.kind = kind
    · simp [hpair]
    · simp [hpair]

theorem view_insert_alert_event (db : Database) (decision : AlertDecision) (device_id kind : String) :
    view (insert_alert_event db decision).1 device_id kind =
      if device_id = decision.device_id ∧ kind = decision.kind then
        (view db device_id kind).with_decision (some decision)
      else view db device_id kind := by
  have hhistory := alert_history_insert db decision device_id kind
  by_cases hpair : device_id = decision.device_id ∧ kind = decision.kind
  · obtain ⟨rfl, rfl⟩ := hpair
    simp only [view, hhistory, View.with_decision, ← alert_key_mem_iff, and_self, and_true, ite_not,
      if_true]
    rfl
  · rw [if_neg fun h => hpair ⟨h.2.1.symm, h.2.2.symm⟩] at hhistory
    simp only [view, hhistory, if_neg hpair]
    rfl

theorem view_mark_notified (db : Database) (event_id : Nat) (error : Option String)
    (device_id kind : String) :
    view (mark_notified db event_id error) device_id kind = view db device_id kind := by
  have hdecisions : (mark_notified db event_id error).alert_events.rows.map
      AlertEventRow.toAlertDecision = db.alert_events.rows.map AlertEventRow.toAlertDecision := by
    simp only [mark_notified, KeyedTable.updateWhere, List.map_map]
    apply List.map_congr_left
    intro row _
    by_cases hid : row.id = event_id <;> simp [hid, with_delivery]
  simp only [view, alert_history, hdecisions]
  rfl

/-! ### Inserting again changes nothing -/

variable {settings} {device_id} {metric} {fc : Forecast UtcDatetime ℚ}

theorem overwrite_status (excluded old : ForecastRow) :
    (overwrite excluded old).status = excluded.status := by
  unfold overwrite
  split
  · next h => exact h
  · rfl

theorem overwrite_eq_self {excluded old : ForecastRow} (h : old.status = excluded.status) :
    overwrite excluded old = old :=
  if_pos h

variable (device_id) in
/-- The row a view holds at the watermark of an inserted forecast has its status. -/
theorem View.with_forecast_status (v : View) {as_of : UtcDatetime} (has : fc.as_of = some as_of) :
    ∃ row, (v.with_forecast device_id fc).forecasts as_of = some row ∧ row.status = fc.status := by
  refine ⟨_, if_pos has, ?_⟩
  cases v.forecasts as_of with
  | none => rfl
  | some old => exact overwrite_status _ old

variable (device_id) (fc) in
theorem View.with_forecast_idem (v : View) :
    (v.with_forecast device_id fc).with_forecast device_id fc = v.with_forecast device_id fc := by
  simp only [View.with_forecast, View.mk.injEq, and_true]
  funext as_of
  by_cases has : fc.as_of = some as_of
  · obtain ⟨row, hrow, hstatus⟩ := v.with_forecast_status device_id has
    simp only [View.with_forecast] at hrow
    rw [if_pos has, hrow, Option.elim_some, overwrite_eq_self hstatus]
  · rw [if_neg has, if_neg has]

theorem called_for_key {previous : Option (AlertState UtcDatetime)} {decision : AlertDecision}
    (h : called_for settings device_id metric fc previous = some decision) :
    ∃ transition as_of, alert_transition fc metric previous settings.cooldown_seconds CLEAR_FACTOR =
      some transition ∧ fc.as_of = some as_of ∧
      decision.key = (device_id, metric.kind, as_of, transition) := by
  unfold called_for at h
  split at h
  · next transition as_of crosses_at htransition has hcrosses =>
    cases h
    exact ⟨transition, as_of, htransition, has, rfl⟩
  · cases h

/-- Two decisions a forecast calls for are one row, whatever was latest. -/
theorem called_for_key_eq {previous other : Option (AlertState UtcDatetime)}
    {first second : AlertDecision}
    (hfirst : called_for settings device_id metric fc previous = some first)
    (hsecond : called_for settings device_id metric fc other = some second) :
    first.key = second.key := by
  obtain ⟨t, a, ht, ha, hkey⟩ := called_for_key hfirst
  obtain ⟨t', a', ht', ha', hkey'⟩ := called_for_key hsecond
  obtain rfl : a = a' := Option.some.inj (ha.symm.trans ha')
  rw [hkey, hkey', alert_transition_kind ht ht']

/-- Deciding once more, from the decisions the first turn left, calls for
    nothing that is not recorded. -/
theorem recorded_of_called_again (tie : TieBreak) (v : View) {decision : AlertDecision} {w : View}
    (hw : w = v.with_decision
      (called_for settings device_id metric fc (latest_of_history tie v.history)))
    (hagain : called_for settings device_id metric fc (latest_of_history tie w.history) =
      some decision) : decision.key ∈ w.history.map AlertDecision.key := by
  cases hcalled : called_for settings device_id metric fc (latest_of_history tie v.history) with
  | none =>
    -- nothing was added, so the second turn decides from the same history
    rw [hcalled] at hw
    have hsame : w.history = v.history := by rw [hw, View.with_decision]
    rw [hsame, hcalled] at hagain
    cases hagain
  | some earlier =>
    rw [hcalled] at hw
    rw [called_for_key_eq hagain hcalled, hw]
    simp only [View.with_decision]
    split
    · next hpresent => exact hpresent
    · simp

theorem View.with_decision_idem (tie : TieBreak) (v w : View)
    (hw : w = v.with_decision
      (called_for settings device_id metric fc (latest_of_history tie v.history))) :
    w.with_decision (called_for settings device_id metric fc (latest_of_history tie w.history)) =
      w := by
  cases hagain : called_for settings device_id metric fc (latest_of_history tie w.history) with
  | none => rfl
  | some decision =>
    exact View.with_decision_of_mem (recorded_of_called_again tie v hw hagain)

/-! ### Settled views -/

/-- A view that a turn leaves as it is: the forecast's watermark already has its
    status, and the decision called for is recorded. -/
structure Settled (settings : AnalyticsSettings) (device_id : String) (metric : Metric ℚ)
    (fc : Forecast UtcDatetime ℚ) (previous : Option (AlertState UtcDatetime)) (v : View) : Prop where
  forecast : ∀ as_of, fc.as_of = some as_of →
    ∃ row, v.forecasts as_of = some row ∧ row.status = fc.status
  decision : ∀ decision, called_for settings device_id metric fc previous = some decision →
    decision.key ∈ v.history.map AlertDecision.key

variable (settings) (device_id) (metric) (fc) in
/-- A view is settled once a turn has decided from it. -/
theorem settled_advance (tie : TieBreak) (v : View) :
    Settled settings device_id metric fc
      (latest_of_history tie (v.advance settings device_id metric tie fc).history)
      (v.advance settings device_id metric tie fc) where
  forecast _ has := v.with_forecast_status _ has
  decision _ hcalled := recorded_of_called_again tie (v.with_forecast device_id fc) rfl hcalled

/-- Only a settled view is left as it is. -/
theorem settled_of_act_eq {previous : Option (AlertState UtcDatetime)} {v : View}
    (h : v.act settings device_id metric fc previous = v) :
    Settled settings device_id metric fc previous v where
  forecast as_of has := by
    obtain ⟨row, hrow, hstatus⟩ := v.with_forecast_status device_id has
    have hforecasts : (v.act settings device_id metric fc previous).forecasts = v.forecasts :=
      congrArg View.forecasts h
    exact ⟨row, hforecasts ▸ hrow, hstatus⟩
  decision decision hcalled := by
    by_contra habsent
    have hhistory := congrArg (fun v => v.history.length) h
    simp [View.act, View.with_decision, View.with_forecast, hcalled, habsent] at hhistory

/-- The views a turn can leave when it is cut: nothing done, the forecast
    inserted, or everything done. -/
def View.Between (settings : AnalyticsSettings) (device_id : String) (metric : Metric ℚ)
    (tie : TieBreak) (fc : Forecast UtcDatetime ℚ) (v w : View) : Prop :=
  w = v ∨ w = v.with_forecast device_id fc ∨ w = v.advance settings device_id metric tie fc

/-- A whole turn has inserted its forecast. -/
theorem View.advance_with_forecast (tie : TieBreak) (v : View) :
    (v.advance settings device_id metric tie fc).with_forecast device_id fc =
      v.advance settings device_id metric tie fc := by
  have hidem := v.with_forecast_idem device_id fc
  simp only [View.with_forecast, View.mk.injEq, and_true] at hidem
  simp only [View.advance, View.act, View.with_decision, View.with_forecast, View.mk.injEq, and_true]
  exact hidem

/-- Wherever a turn was cut, the next one ends where the uninterrupted turn
    ends. -/
theorem View.Between.advance {tie : TieBreak} {v w : View}
    (h : View.Between settings device_id metric tie fc v w) :
    w.advance settings device_id metric tie fc = v.advance settings device_id metric tie fc := by
  rcases h with rfl | rfl | rfl
  · rfl
  · simp only [View.advance, View.act, View.with_forecast_idem]
    rfl
  · have hdecided := View.with_decision_idem tie (v.with_forecast device_id fc)
      (v.advance settings device_id metric tie fc) rfl
    rw [View.advance, View.act, View.advance_with_forecast]
    exact hdecided

/-- A turn that starts between the start and the end of another stays there. -/
theorem View.Between.trans {tie : TieBreak} {v w u : View}
    (hvw : View.Between settings device_id metric tie fc v w)
    (hwu : View.Between settings device_id metric tie fc w u) :
    View.Between settings device_id metric tie fc v u := by
  rcases hwu with rfl | rfl | rfl
  · exact hvw
  · rcases hvw with rfl | rfl | rfl
    · exact .inr (.inl rfl)
    · exact .inr (.inl (View.with_forecast_idem device_id fc v))
    · exact .inr (.inr (View.advance_with_forecast tie v))
  · exact .inr (.inr hvw.advance)

end planter_telemetry.analytics.service
