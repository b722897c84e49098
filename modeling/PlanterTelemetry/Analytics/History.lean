import PlanterTelemetry.Analytics.Pass
import PlanterTelemetry.Ingestion.Db

open planter_telemetry.python planter_telemetry.contract planter_telemetry.migrations
open planter_telemetry.analytics.model planter_telemetry.analytics.config
open planter_telemetry.analytics.db planter_telemetry.ingestion.db

namespace planter_telemetry.analytics.service

variable {settings : AnalyticsSettings} {around : Surroundings} {world final : World}
  {db : Database}

/-- A full pass that was aborted after any prefix of its statements. -/
def Aborted (settings : AnalyticsSettings) (around : Surroundings) (before after : World) : Prop :=
  Program.Reaches (perform around) (run_pass settings none) before after

/-- One full pass of a history, with the choice that the database made among
    tied alert rows. -/
structure PassRecord where
  tie : TieBreak
  before : Database
  after : Database
  completed : Bool

/-- Full passes, completed or aborted, between accepted readings in any order,
    on a database that was empty at first. -/
inductive History (settings : AnalyticsSettings) : List PassRecord → Database → Prop where
  | fresh : History settings [] Database.fresh
  | accepted {passes : List PassRecord} {db : Database} (reading : TelemetryV1) :
      History settings passes db → History settings passes (accept db reading)
  | completed {passes : List PassRecord} {around : Surroundings} {world final : World}
      {watermark : Option UtcDatetime} :
      History settings passes world.db →
      (run_pass settings none).run (perform around) world = (final, .ok watermark) →
      History settings (passes ++ [⟨around.tie, world.db, final.db, true⟩]) final.db
  | aborted {passes : List PassRecord} {around : Surroundings} {world final : World} :
      History settings passes world.db → Aborted settings around world final →
      History settings (passes ++ [⟨around.tie, world.db, final.db, false⟩]) final.db

/-! ### What one pass does -/

/-- A forecast that a full pass over a database makes. -/
structure Forecasted (settings : AnalyticsSettings) (db : Database) (now_data : UtcDatetime)
    (windows : List (Metric ℚ × UtcDatetime)) (job : Job) (fc : Forecast UtcDatetime ℚ) : Prop where
  now_eq : data_now db = some now_data
  windows_eq : metric_windows settings now_data = .ok windows
  job_mem : job ∈ jobs db now_data windows
  forecast_eq : job.forecast now_data = .ok fc

/-- What is known of the tables after a pass. -/
structure Passed (settings : AnalyticsSettings) (pass : PassRecord) : Prop where
  telemetry : pass.after.telemetry = pass.before.telemetry
  devices : pass.after.devices = pass.before.devices
  underway : ∀ device_id kind, view pass.after device_id kind = view pass.before device_id kind ∨
    ∃ now_data windows job fc, Forecasted settings pass.before now_data windows job fc ∧
      job.key = (device_id, kind) ∧
      View.Between settings job.device_id job.metric pass.tie fc (view pass.before device_id kind)
        (view pass.after device_id kind)
  advanced : pass.completed = true → ∀ now_data, data_now pass.before = some now_data →
    ∃ windows, metric_windows settings now_data = .ok windows ∧
      Advanced settings now_data pass.tie pass.before (jobs pass.before now_data windows) pass.after

theorem passed_completed {watermark : Option UtcDatetime}
    (h : (run_pass settings none).run (perform around) world = (final, .ok watermark)) :
    Passed settings ⟨around.tie, world.db, final.db, true⟩ := by
  obtain ⟨htelemetry, hdevices⟩ := telemetry_run h
  rcases run_pass_completed h with ⟨hnow, -, hdb, -⟩ |
    ⟨now_data, windows, after, hnow, -, hwindows, hturns, hdb, -⟩
  · refine ⟨htelemetry, hdevices, fun _ _ => .inl (by rw [hdb]), fun _ now_data hsome => ?_⟩
    rw [hnow] at hsome
    cases hsome
  · have hadvanced := run_turns hwindows hturns
    rw [← hdb] at hadvanced
    refine ⟨htelemetry, hdevices, fun device_id kind => ?_, fun _ other hother => ?_⟩
    · rcases hadvanced.underway (List.Subset.refl _) device_id kind with hsame |
        ⟨job, hjob, hkey, fc, hforecast, hbetween⟩
      · exact .inl hsame
      · exact .inr ⟨now_data, windows, job, fc, ⟨hnow, hwindows, hjob, hforecast⟩, hkey, hbetween⟩
    · rw [hnow] at hother
      cases hother
      exact ⟨windows, hwindows, hadvanced⟩

theorem passed_aborted (h : Aborted settings around world final) :
    Passed settings ⟨around.tie, world.db, final.db, false⟩ := by
  obtain ⟨htelemetry, hdevices⟩ := telemetry_reaches h
  refine ⟨htelemetry, hdevices, fun device_id kind => ?_, fun hcompleted => by cases hcompleted⟩
  rcases reaches_run_pass h with hsame | ⟨now_data, windows, turned, hnow, hwindows, hturns, hdb⟩
  · exact .inl (by rw [hsame])
  · have hunderway := reaches_turns hwindows hturns
    rw [← hdb] at hunderway
    rcases hunderway device_id kind with hsame | ⟨job, hjob, hkey, fc, hforecast, hbetween⟩
    · exact .inl hsame
    · exact .inr ⟨now_data, windows, job, fc, ⟨hnow, hwindows, hjob, hforecast⟩, hkey, hbetween⟩

theorem History.passed {passes : List PassRecord} (h : History settings passes db) :
    ∀ pass ∈ passes, Passed settings pass := by
  induction h with
  | fresh => exact fun _ hpass => absurd hpass List.not_mem_nil
  | accepted _ _ ih => exact ih
  | completed _ hrun ih =>
    intro pass hpass
    cases List.mem_append.mp hpass with
    | inl hearlier => exact ih pass hearlier
    | inr hlast =>
      rw [List.mem_singleton.mp hlast]
      exact passed_completed hrun
  | aborted _ haborted ih =>
    intro pass hpass
    cases List.mem_append.mp hpass with
    | inl hearlier => exact ih pass hearlier
    | inr hlast =>
      rw [List.mem_singleton.mp hlast]
      exact passed_aborted haborted

/-- A property of databases that accepted readings keep, and that a pass with
    `Allowed` keeps, holds after every history of such passes and at both ends
    of each. -/
theorem History.invariant (Inv : Database → Prop) (Allowed : PassRecord → Prop)
    (hfresh : Inv Database.fresh)
    (haccept : ∀ db reading, Inv db → Inv (accept db reading))
    (hpass : ∀ pass, Passed settings pass → Allowed pass → Inv pass.before → Inv pass.after)
    {passes : List PassRecord} (h : History settings passes db)
    (hallowed : ∀ pass ∈ passes, Allowed pass) :
    Inv db ∧ ∀ pass ∈ passes, Inv pass.before ∧ Inv pass.after := by
  induction h with
  | fresh => exact ⟨hfresh, fun _ hpass => absurd hpass List.not_mem_nil⟩
  | accepted reading _ ih => exact ⟨haccept _ reading (ih hallowed).1, (ih hallowed).2⟩
  | completed _ hrun ih =>
    rw [List.forall_mem_append, List.forall_mem_singleton] at hallowed ⊢
    obtain ⟨hinv, hearlier⟩ := ih hallowed.1
    have hafter := hpass _ (passed_completed hrun) hallowed.2 hinv
    exact ⟨hafter, hearlier, hinv, hafter⟩
  | aborted _ haborted ih =>
    rw [List.forall_mem_append, List.forall_mem_singleton] at hallowed ⊢
    obtain ⟨hinv, hearlier⟩ := ih hallowed.1
    have hafter := hpass _ (passed_aborted haborted) hallowed.2 hinv
    exact ⟨hafter, hearlier, hinv, hafter⟩

/-! ### What the tables hold after any history -/

/-- Whatever the history of a (device, kind): exactly the crossing statuses
    carry a crossing, and no watermark is past the device's newest reading or
    goes back. -/
structure View.Sound (newest : Option UtcDatetime) (v : View) : Prop where
  crossing : ∀ as_of row, v.forecasts as_of = some row →
    row.crosses_at.isSome = row.status.crossing
  forecasts_upto : ∀ as_of row, v.forecasts as_of = some row → ∃ time, newest = some time ∧ as_of ≤ time
  history_upto : ∀ decision ∈ v.history, ∃ time, newest = some time ∧ decision.as_of ≤ time
  history_sorted : v.history.Pairwise fun earlier later => earlier.as_of ≤ later.as_of

namespace View.Sound

variable {v : View} {newest : Option UtcDatetime} {device_id : String} {metric : Metric ℚ}
  {fc : Forecast UtcDatetime ℚ}

/-- A device's newest reading can only get newer. -/
theorem later (h : v.Sound newest) {newer : Option UtcDatetime}
    (hnewer : ∀ time, newest = some time → ∃ later, newer = some later ∧ time ≤ later) :
    v.Sound newer where
  crossing := h.crossing
  forecasts_upto as_of row hrow := by
    obtain ⟨time, htime, hle⟩ := h.forecasts_upto as_of row hrow
    obtain ⟨later, hlater, hle'⟩ := hnewer time htime
    exact ⟨later, hlater, hle.trans hle'⟩
  history_upto decision hdecision := by
    obtain ⟨time, htime, hle⟩ := h.history_upto decision hdecision
    obtain ⟨later, hlater, hle'⟩ := hnewer time htime
    exact ⟨later, hlater, hle.trans hle'⟩
  history_sorted := h.history_sorted

theorem with_forecast (h : v.Sound newest) (hcrossing : fc.crosses_at.isSome = fc.status.crossing)
    (hnewest : ∀ as_of, fc.as_of = some as_of → newest = some as_of) :
    (v.with_forecast device_id fc).Sound newest where
  crossing as_of row hrow := by
    simp only [View.with_forecast] at hrow
    split at hrow
    · obtain rfl := Option.some.inj hrow
      cases hold : v.forecasts as_of with
      | none => exact hcrossing
      | some old =>
        simp only [Option.elim_some, overwrite]
        split
        · exact h.crossing as_of old hold
        · exact hcrossing
    · exact h.crossing as_of row hrow
  forecasts_upto as_of row hrow := by
    simp only [View.with_forecast] at hrow
    split at hrow
    · next has => exact ⟨as_of, hnewest as_of has, le_refl as_of⟩
    · exact h.forecasts_upto as_of row hrow
  history_upto := h.history_upto
  history_sorted := h.history_sorted

theorem with_decision {decision : AlertDecision} (h : v.Sound newest)
    (hnewest : newest = some decision.as_of) : (v.with_decision (some decision)).Sound newest where
  crossing := h.crossing
  forecasts_upto := h.forecasts_upto
  history_upto other hother := by
    simp only [View.with_decision] at hother
    split at hother
    · exact h.history_upto other hother
    · cases List.mem_append.mp hother with
      | inl hold => exact h.history_upto other hold
      | inr hlast =>
        rw [List.mem_singleton.mp hlast]
        exact ⟨decision.as_of, hnewest, le_refl _⟩
  history_sorted := by
    simp only [View.with_decision]
    split
    · exact h.history_sorted
    · refine List.pairwise_append.mpr ⟨h.history_sorted, List.pairwise_singleton _ _, ?_⟩
      intro earlier hearlier later hlater
      obtain ⟨time, htime, hle⟩ := h.history_upto earlier hearlier
      rw [hnewest] at htime
      rwa [List.mem_singleton.mp hlater, Option.some.inj htime]

theorem between {tie : TieBreak} {w : View} (h : v.Sound newest)
    (hcrossing : fc.crosses_at.isSome = fc.status.crossing)
    (hnewest : ∀ as_of, fc.as_of = some as_of → newest = some as_of)
    (hbetween : View.Between settings device_id metric tie fc v w) : w.Sound newest := by
  have hinserted : (v.with_forecast device_id fc).Sound newest := h.with_forecast hcrossing hnewest
  rcases hbetween with rfl | rfl | rfl
  · exact h
  · exact hinserted
  · unfold View.advance View.act
    cases hcalled : called_for settings device_id metric fc (latest_of_history tie v.history) with
    | none => exact hinserted
    | some decision =>
      obtain ⟨transition, as_of, -, has, hkey⟩ := called_for_key hcalled
      have htime : decision.as_of = as_of := congrArg (fun key => key.2.2.1) hkey
      exact hinserted.with_decision (htime ▸ hnewest as_of has)

end View.Sound

/-- A forecast's watermark is the device's newest reading, if that lies in the
    metric's window. -/
theorem Forecasted.as_of {now_data : UtcDatetime} {windows : List (Metric ℚ × UtcDatetime)}
    {job : Job} {fc : Forecast UtcDatetime ℚ} (h : Forecasted settings db now_data windows job fc)
    {as_of : UtcDatetime} :
    fc.as_of = some as_of ↔
      newest_reading db job.device_id = some as_of ∧ job.window_start < as_of := by
  rw [(forecast_facts h.forecast_eq).as_of, ((mem_jobs h.windows_eq).mp h.job_mem).2.2]
  exact device_samples_last

theorem newest_reading_congr {first second : Database} (h : first.telemetry = second.telemetry)
    (device_id : String) : newest_reading first device_id = newest_reading second device_id := by
  rw [newest_reading, newest_reading, h]

theorem newest_reading_accept (db : Database) (reading : TelemetryV1) {device_id : String}
    {time : UtcDatetime} (h : newest_reading db device_id = some time) :
    ∃ later, newest_reading (accept db reading) device_id = some later ∧ time ≤ later := by
  obtain ⟨⟨row, hrow, hdevice, rfl⟩, -⟩ := newest_reading_eq_some.mp h
  have hkept : row ∈ (accept db reading).telemetry.rows := by
    rw [accept_telemetry]
    exact KeyedTable.rows_subset_insertIgnore hrow
  cases hnewest : newest_reading (accept db reading) device_id with
  | none =>
    rw [newest_reading, List.max?_eq_none_iff, List.map_eq_nil_iff, List.filter_eq_nil_iff] at hnewest
    exact absurd (decide_eq_true hdevice) (hnewest row hkept)
  | some later => exact ⟨later, rfl, (newest_reading_eq_some.mp hnewest).2 row hkept hdevice⟩

theorem view_accept (db : Database) (reading : TelemetryV1) (device_id kind : String) :
    view (accept db reading) device_id kind = view db device_id kind :=
  view_congr (accept_forecasts db reading) (accept_alert_events db reading) device_id kind

/-- Every view is sound after every history. -/
def SoundViews (db : Database) : Prop :=
  ∀ device_id kind, (view db device_id kind).Sound (newest_reading db device_id)

theorem History.sound_views {passes : List PassRecord} (h : History settings passes db) :
    SoundViews db ∧ ∀ pass ∈ passes, SoundViews pass.before ∧ SoundViews pass.after := by
  refine h.invariant SoundViews (fun _ => True) ?_ ?_ ?_ fun _ _ => trivial
  · intro device_id kind
    exact ⟨(fun _ _ hrow => by cases hrow), (fun _ _ hrow => by cases hrow),
      fun _ hdecision => absurd hdecision List.not_mem_nil, List.Pairwise.nil⟩
  · intro db reading hsound device_id kind
    rw [view_accept]
    exact (hsound device_id kind).later fun time htime => newest_reading_accept db reading htime
  · intro pass hpassed _ hsound device_id kind
    rw [newest_reading_congr hpassed.telemetry]
    rcases hpassed.underway device_id kind with hsame |
      ⟨now_data, windows, job, fc, hforecasted, hkey, hbetween⟩
    · exact hsame ▸ hsound device_id kind
    · refine (hsound device_id kind).between (forecast_facts hforecasted.forecast_eq).crossing ?_ hbetween
      intro as_of has
      have hnewest := (hforecasted.as_of.mp has).1
      rwa [show job.device_id = device_id from congrArg Prod.fst hkey] at hnewest

/-! ### Replaying a history -/

inductive Event where
  | accepted (reading : TelemetryV1)
  | pass (around : Surroundings)

/-- One event of a replay. A pass that raises is an aborted one. -/
def replay_event (settings : AnalyticsSettings) (state : List PassRecord × Database) :
    Event → List PassRecord × Database
  | .accepted reading => (state.1, accept state.2 reading)
  | .pass around =>
    let (final, result) := (run_pass settings none).run (perform around) { db := state.2 }
    (state.1 ++ [⟨around.tie, state.2, final.db, result.isOk⟩], final.db)

def replay (settings : AnalyticsSettings) (events : List Event) : List PassRecord × Database :=
  events.foldl (replay_event settings) ([], Database.fresh)

theorem replay_event_history {state : List PassRecord × Database}
    (h : History settings state.1 state.2) (event : Event) :
    History settings (replay_event settings state event).1 (replay_event settings state event).2 := by
  cases event with
  | accepted reading => exact .accepted reading h
  | pass around =>
    have hreached := Program.Reaches.run (perform around) (run_pass settings none)
      { db := state.2 }
    cases hrun : (run_pass settings none).run (perform around) { db := state.2 } with
    | mk final result =>
      rw [hrun] at hreached
      simp only [replay_event, hrun]
      cases result with
      | ok watermark => exact .completed h hrun
      | error error => exact .aborted h hreached

theorem replay_history (settings : AnalyticsSettings) (events : List Event) :
    History settings (replay settings events).1 (replay settings events).2 := by
  induction events using List.reverseRecOn with
  | nil => exact .fresh
  | append_singleton events event ih =>
    rw [replay, List.foldl_append, List.foldl_cons, List.foldl_nil]
    exact replay_event_history ih event

/-! ### Sample readings -/

def percent (level : ℚ) : RangedFloat 0 100 :=
  if h : InRange 0 100 (.finite level) then ⟨.finite level, h⟩ else ⟨.finite 0, by decide⟩

def planter_00 : DeviceId := ⟨"planter-00", matches_planter_00⟩
def planter_01 : DeviceId := ⟨"planter-01", by decide⟩

/-- A reading with a charged battery. -/
def reading_at (device_id : DeviceId) (minutes : Fin 100000) (level : ℚ) : TelemetryV1 where
  device_id := device_id
  measured_at := at_minute minutes
  water_level := percent level
  battery_voltage := ⟨.finite (37 / 10), charged_in_range⟩

/-- The database returns the row inserted first, and every post succeeds. -/
def first_of_ties : Surroundings where
  tie := ⟨fun first _ => first, fun _ _ => List.mem_cons_self⟩
  ntfy _ _ := none

end planter_telemetry.analytics.service
