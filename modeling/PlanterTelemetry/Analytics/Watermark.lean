import PlanterTelemetry.Analytics.SkippedPass
import PlanterTelemetry.Analytics.Snapshot

open planter_telemetry.python planter_telemetry.migrations
open planter_telemetry.analytics.model planter_telemetry.analytics.config
open planter_telemetry.analytics.db planter_telemetry.ingestion.db

namespace planter_telemetry.analytics.service

variable {around : Surroundings} {start before after : State} {now_data w : UtcDatetime}

/-! ### The watermark and the tables -/

/-- A pass over this watermark has run to its end in this process, and the views
    are those it leaves undisturbed on the database whose window it read. -/
def Finished (around : Surroundings) (start state : State) (now_data : UtcDatetime) : Prop :=
  ∃ read windows, Relation.ReflTransGen (Step around) start read ∧
    Relation.ReflTransGen (Step around) read state ∧
    metric_windows state.settings.toAnalyticsSettings now_data = .ok windows ∧
    Advanced state.settings.toAnalyticsSettings now_data around.tie read.world.db
      (jobs read.world.db now_data windows) state.world.db

/-- There is a reading as new as the watermark. -/
def Upto (db : Database) (w : UtcDatetime) : Prop := ∃ newest, data_now db = some newest ∧ w ≤ newest

/-- There is a reading newer than the watermark. -/
def Behind (db : Database) (w : UtcDatetime) : Prop := ∃ newest, data_now db = some newest ∧ w < newest

/-- What `run` may take from its watermark: the pass over it has run to its end
    and nothing was written since, or newer readings make the next pass do its
    work anew. -/
def Trusting (around : Surroundings) (start state : State) : Prop :=
  ∀ w, state.last_data_now = some w →
    Upto state.world.db w ∧ (Finished around start state w ∨ Behind state.world.db w)

theorem Finished.step (h : Finished around start before w) (hstep : Step around before after)
    (hsettings : after.settings = before.settings)
    (hviews : ∀ device_id kind,
      view after.world.db device_id kind = view before.world.db device_id kind) :
    Finished around start after w := by
  obtain ⟨read, windows, hread, hrun, hwindows, hadvanced⟩ := h
  refine ⟨read, windows, hread, hrun.tail hstep, hsettings ▸ hwindows, ?_⟩
  rw [hsettings]
  exact hadvanced.congr hviews

section Rows

variable {first second : Database} (hrows : first.telemetry.rows ⊆ second.telemetry.rows)
include hrows

theorem data_now_later {time : UtcDatetime} (h : data_now first = some time) : Upto second time := by
  have hmem := (List.max?_eq_some_iff.mp h).1
  obtain ⟨row, hrow, -⟩ := List.mem_map.mp hmem
  cases hnow : data_now second with
  | none =>
    rw [data_now, List.max?_eq_none_iff, List.map_eq_nil_iff] at hnow
    have hsecond := hrows hrow
    rw [hnow] at hsecond
    exact absurd hsecond List.not_mem_nil
  | some newest => exact ⟨newest, hnow, data_now_mono hrows h hnow⟩

theorem Upto.later (h : Upto first w) : Upto second w := by
  obtain ⟨time, htime, hle⟩ := h
  obtain ⟨newest, hnewest, hle'⟩ := data_now_later hrows htime
  exact ⟨newest, hnewest, hle.trans hle'⟩

theorem Behind.later (h : Behind first w) : Behind second w := by
  obtain ⟨time, htime, hlt⟩ := h
  obtain ⟨newest, hnewest, hle⟩ := data_now_later hrows htime
  exact ⟨newest, hnewest, hlt.trans_le hle⟩

end Rows

/-- A step that writes neither a forecast nor a decision. -/
structure Untouched (before after : State) : Prop where
  settings : after.settings = before.settings
  last_data_now : after.last_data_now = before.last_data_now
  rows : before.world.db.telemetry.rows ⊆ after.world.db.telemetry.rows
  alike : ∀ world, Alike before.world world → Alike after.world world

theorem Untouched.views (h : Untouched before after) (device_id kind : String) :
    view after.world.db device_id kind = view before.world.db device_id kind := by
  obtain ⟨hforecasts, halert_events, -⟩ := h.alike before.world ⟨rfl, rfl, rfl, rfl, rfl, rfl⟩
  exact view_congr hforecasts halert_events device_id kind

theorem Trusting.untouched (h : Trusting around start before) (hstep : Step around before after)
    (huntouched : Untouched before after) : Trusting around start after := by
  intro w hw
  rw [huntouched.last_data_now] at hw
  obtain ⟨hupto, hfinished | hbehind⟩ := h w hw
  · refine ⟨hupto.later huntouched.rows, .inl ?_⟩
    exact hfinished.step hstep huntouched.settings huntouched.views
  · exact ⟨hupto.later huntouched.rows, .inr (hbehind.later huntouched.rows)⟩

/-! ### A pass on its way -/

/-- What is left of a pass that does its work. -/
structure Working (around : Surroundings) (start state : State) (now_data : UtcDatetime)
    (rest : Pass (Option UtcDatetime)) : Prop where
  since_lt : ∀ since, state.last_data_now = some since → since < now_data
  upto : Upto state.world.db now_data
  returns : rest.Returns (· = some now_data)
  stage : (∃ error, rest = .raise error) ∨
    ∃ windows, metric_windows state.settings.toAnalyticsSettings now_data = .ok windows ∧
      (rest = work state.settings.toAnalyticsSettings now_data windows ∨
        ∃ read, Relation.ReflTransGen (Step around) start read ∧
          Relation.ReflTransGen (Step around) read state ∧
          Program.ComesTo (perform around) WindowRead Alike rest state.world
            ((work_on state.settings.toAnalyticsSettings now_data windows
              (load_window read.world.db (longest_window now_data windows))).run (perform around)
                read.world))

/-- How far a pass is: it has yet to read its watermark, is skipped, has found no
    reading, or does its work. -/
inductive PassStage (around : Surroundings) (start state : State) :
    Pass (Option UtcDatetime) → Prop
  | unread : PassStage around start state
      (run_pass state.settings.toAnalyticsSettings state.last_data_now)
  | skipped {w : UtcDatetime} (hlast : state.last_data_now = some w)
      (hfinished : Finished around start state w) (hupto : Upto state.world.db w) :
    PassStage around start state (.ret (some w))
  | empty {rest : Pass (Option UtcDatetime)} (hlast : state.last_data_now = none)
      (hreturns : rest.Returns (· = none)) : PassStage around start state rest
  | working (now_data : UtcDatetime) {rest : Pass (Option UtcDatetime)}
      (hworking : Working around start state now_data rest) : PassStage around start state rest

section Stage

variable {rest : Pass (Option UtcDatetime)}

theorem Working.behind (h : Working around start before now_data rest) {since : UtcDatetime}
    (hlast : before.last_data_now = some since) : Behind before.world.db since := by
  obtain ⟨newest, hnewest, hle⟩ := h.upto
  exact ⟨newest, hnewest, (h.since_lt since hlast).trans_le hle⟩

theorem PassStage.untouched (h : PassStage around start before rest)
    (hstep : Step around before after) (huntouched : Untouched before after) :
    PassStage around start after rest := by
  cases h with
  | unread =>
    rw [← huntouched.settings, ← huntouched.last_data_now]
    exact .unread
  | skipped hlast hfinished hupto =>
    exact .skipped (huntouched.last_data_now.trans hlast)
      (hfinished.step hstep huntouched.settings huntouched.views) (hupto.later huntouched.rows)
  | empty hlast hreturns => exact .empty (huntouched.last_data_now.trans hlast) hreturns
  | working now_data hworking =>
    refine .working now_data ⟨?_, hworking.upto.later huntouched.rows, hworking.returns, ?_⟩
    · rw [huntouched.last_data_now]
      exact hworking.since_lt
    · rw [huntouched.settings]
      obtain herror | ⟨windows, hwindows, hwork | ⟨read, hread, hrun, hcomes⟩⟩ := hworking.stage
      · exact .inl herror
      · exact .inr ⟨windows, hwindows, .inl hwork⟩
      · exact .inr ⟨windows, hwindows, .inr ⟨read, hread, hrun.tail hstep,
          hcomes.interfere huntouched.alike⟩⟩

/-- Reading the newest reading decides what becomes of the pass. -/
theorem stage_read (htrusting : Trusting around start before) :
    PassStage around start before
      (after_data_now before.settings.toAnalyticsSettings before.last_data_now
        (data_now before.world.db)) := by
  unfold after_data_now
  cases hnow : data_now before.world.db with
  | none =>
    refine .empty ?_ fun _ => rfl
    cases hlast : before.last_data_now with
    | none => rfl
    | some w =>
      obtain ⟨⟨newest, hnewest, -⟩, -⟩ := htrusting w hlast
      rw [hnow] at hnewest
      cases hnewest
  | some now_data =>
    simp only
    split
    · next hskip =>
      obtain ⟨w, hlast, hle⟩ := (Option.any_eq_true _ _).mp hskip
      obtain ⟨⟨newest, hnewest, hupto⟩, hfinished⟩ := htrusting w hlast
      obtain rfl : now_data = newest := Option.some.inj (hnow.symm.trans hnewest)
      obtain rfl : w = now_data := le_antisymm hupto (of_decide_eq_true hle)
      refine .skipped hlast ?_ ⟨w, hnow, le_refl w⟩
      rcases hfinished with hfinished | ⟨newer, hnewer, hlt⟩
      · exact hfinished
      · obtain rfl : w = newer := Option.some.inj (hnow.symm.trans hnewer)
        exact absurd hlt (lt_irrefl w)
    · next hwork =>
      refine .working now_data ⟨?_, ⟨now_data, hnow, le_refl _⟩, ?_, ?_⟩
      · intro since hlast
        rw [hlast] at hwork
        simpa using hwork
      · exact Program.Returns.bind fun windows window => work_on_returns _ _ windows window
      · cases hwindows : metric_windows before.settings.toAnalyticsSettings now_data with
        | error error => exact .inl ⟨error, rfl⟩
        | ok windows => exact .inr ⟨windows, rfl, .inl rfl⟩

/-- Whether or not the next statement takes effect, the watermark can be trusted
    after it. -/
theorem trusting_statement {effect : Effect} {next : effect.Response → Pass (Option UtcDatetime)}
    (htrusting : Trusting around start before) (hstage : PassStage around start before (.exec effect next))
    (hstep : Step around before after) (hsettings : after.settings = before.settings)
    (hlast : after.last_data_now = before.last_data_now)
    (hworld : after.world = before.world ∨ after.world = (perform around effect before.world).1) :
    Trusting around start after := by
  generalize hrest : Program.exec effect next = rest at hstage
  cases hstage with
  | unread =>
    rw [run_pass_eq] at hrest
    cases hrest
    have hsame : after.world = before.world := hworld.elim id id
    exact htrusting.untouched hstep ⟨hsettings, hlast, by rw [hsame]; exact List.Subset.refl _,
      fun world halike => hsame ▸ halike⟩
  | skipped => cases hrest
  | empty hnone =>
    intro w hw
    rw [hlast, hnone] at hw
    cases hw
  | working now_data hworking =>
    intro w hw
    rw [hlast] at hw
    have hrows : before.world.db.telemetry.rows ⊆ after.world.db.telemetry.rows := by
      cases hworld with
      | inl hsame =>
        rw [hsame]
        exact List.Subset.refl _
      | inr hperformed =>
        rw [hperformed, (telemetry_perform around effect before.world).1]
        exact List.Subset.refl _
    obtain ⟨newest, hnewest, hlt⟩ := (hworking.behind hw).later hrows
    exact ⟨⟨newest, hnewest, hlt.le⟩, .inr ⟨newest, hnewest, hlt⟩⟩

theorem stage_executed {effect : Effect} {next : effect.Response → Pass (Option UtcDatetime)}
    (htrusting : Trusting around start before) (hstage : PassStage around start before (.exec effect next))
    (hrun : Relation.ReflTransGen (Step around) start before) (hstep : Step around before after)
    (hsettings : after.settings = before.settings)
    (hlast : after.last_data_now = before.last_data_now)
    (hworld : after.world = (perform around effect before.world).1) :
    PassStage around start after (next (perform around effect before.world).2) := by
  generalize hrest : Program.exec effect next = rest at hstage
  cases hstage with
  | unread =>
    rw [run_pass_eq] at hrest
    cases hrest
    refine (stage_read htrusting).untouched hstep ⟨hsettings, hlast, ?_, fun world halike => ?_⟩
    · rw [hworld]
      exact List.Subset.refl _
    · rw [hworld]
      exact halike
  | skipped => cases hrest
  | empty hnone hreturns =>
    subst hrest
    exact .empty (hlast.trans hnone) (hreturns _)
  | working now_data hworking =>
    subst hrest
    obtain ⟨hsince, hupto, hreturns, hworks⟩ := hworking
    have hrows : before.world.db.telemetry.rows ⊆ after.world.db.telemetry.rows := by
      rw [hworld, (telemetry_perform around effect before.world).1]
      exact List.Subset.refl _
    refine .working now_data ⟨hlast ▸ hsince, hupto.later hrows, hreturns _, .inr ?_⟩
    obtain ⟨error, herror⟩ | ⟨windows, hwindows, hwork | ⟨read, hread, hsince_read, hcomes⟩⟩ := hworks
    · cases herror
    · -- the window is read here
      cases hwork
      refine ⟨windows, hsettings ▸ hwindows, .inr ⟨before, hrun, .single hstep, ?_⟩⟩
      rw [hsettings, hworld]
      exact (congruence around).comes_to (work_on_window_read _ _ _ _) before.world
    · refine ⟨windows, hsettings ▸ hwindows, .inr ⟨read, hread, hsince_read.tail hstep, ?_⟩⟩
      rw [hsettings, hworld]
      exact (congruence around).exec hcomes

/-- A pass that returns a watermark has run to its end over it, or an earlier one
    has. -/
theorem stage_returned {result : Option UtcDatetime} (hstage : PassStage around start before (.ret result))
    {w : UtcDatetime} (hresult : result = some w) :
    Finished around start before w ∧ Upto before.world.db w := by
  subst hresult
  generalize hrest : Program.ret (some w) = rest at hstage
  cases hstage with
  | unread =>
    rw [run_pass_eq] at hrest
    cases hrest
  | skipped _ hfinished hupto =>
    cases hrest
    exact ⟨hfinished, hupto⟩
  | empty _ hreturns =>
    subst hrest
    cases hreturns
  | working now_data hworking =>
    subst hrest
    obtain ⟨-, hupto, hreturns, hworks⟩ := hworking
    obtain rfl : w = now_data := Option.some.inj hreturns
    obtain ⟨error, herror⟩ | ⟨windows, hwindows, hwork | ⟨read, hread, hrun, hcomes⟩⟩ := hworks
    · cases herror
    · cases hwork
    · obtain ⟨final, houtcome, hforecasts, halert_events, -⟩ := hcomes.ret
      refine ⟨⟨read, windows, hread, hrun, hwindows, ?_⟩, hupto⟩
      exact (advanced_of_work_on hwindows houtcome).congr (view_congr hforecasts halert_events)

end Stage

/-! ### Over a run -/

/-- What is known of `run` wherever it stands. -/
structure Watched (around : Surroundings) (start state : State) : Prop where
  trusting : Trusting around start state
  connecting : ∀ pass, state.pc = .connecting pass →
    pass = run_pass state.settings.toAnalyticsSettings state.last_data_now
  passing : ∀ rest, state.pc = .passing rest → PassStage around start state rest
  returned : ∀ w, state.pc = .closing (.returned (some w)) →
    Finished around start state w ∧ Upto state.world.db w

/-- There is no pass on its way. -/
def Pc.idle : Pc → Bool
  | .connecting _ | .passing _ | .closing (.returned _) => false
  | _ => true

theorem watched_of_idle (htrusting : Trusting around start after) (hpc : after.pc.idle = true) :
    Watched around start after := by
  refine ⟨htrusting, fun pass hat => ?_, fun rest hat => ?_, fun w hat => ?_⟩
  · rw [hat] at hpc
    cases hpc
  · rw [hat] at hpc
    cases hpc
  · rw [hat] at hpc
    cases hpc

theorem Watched.untouched (h : Watched around start before) (hstep : Step around before after)
    (huntouched : Untouched before after) (hpc : after.pc = before.pc) : Watched around start after := by
  refine ⟨h.trusting.untouched hstep huntouched, fun pass hat => ?_, fun rest hat => ?_, fun w hat => ?_⟩
  · rw [huntouched.settings, huntouched.last_data_now]
    exact h.connecting pass (hpc ▸ hat)
  · exact (h.passing rest (hpc ▸ hat)).untouched hstep huntouched
  · obtain ⟨hfinished, hupto⟩ := h.returned w (hpc ▸ hat)
    exact ⟨hfinished.step hstep huntouched.settings huntouched.views, hupto.later huntouched.rows⟩

/-- Steps that change no table. -/
theorem untouched_of_world (hworld : after.world = before.world)
    (hsettings : after.settings = before.settings)
    (hlast : after.last_data_now = before.last_data_now) : Untouched before after where
  settings := hsettings
  last_data_now := hlast
  rows := by
    rw [hworld]
    exact List.Subset.refl _
  alike world halike := hworld ▸ halike

/-- A statement of ingestion only adds readings, and writes nothing that analytics
    does. -/
theorem untouched_commit (effect : ingestion.service.Effect) (state : State) :
    Untouched state
      { state with world := { state.world with db := effect.write state.world.db } } where
  settings := rfl
  last_data_now := rfl
  rows := by
    cases effect with
    | insert_reading reading => exact KeyedTable.rows_subset_insertIgnore
    | _ => exact List.Subset.refl _
  alike world halike := by
    obtain ⟨hforecasts, halert_events, hnext_id, hcounters, hdevices, hsent⟩ := halike
    cases effect with
    | get_latest | set_latest | count | upsert_device | insert_reading | record_dedupe
    | insert_dead_letter => exact ⟨hforecasts, halert_events, hnext_id, hcounters, hdevices, hsent⟩

/-- The end of a pass that returned is what `run` takes its watermark from. -/
theorem watched_settle {ending : PassEnd} (h : Watched around start before)
    (hending : ∀ w, ending = .returned (some w) →
      Finished around start before w ∧ Upto before.world.db w)
    (hstep : Step around before (before.settle ending)) :
    Watched around start (before.settle ending) := by
  cases ending with
  | returned result =>
    refine watched_of_idle (fun w hw => ?_) rfl
    obtain rfl : result = some w := hw
    obtain ⟨hfinished, hupto⟩ := hending w rfl
    exact ⟨hupto, .inl (hfinished.step hstep rfl fun _ _ => rfl)⟩
  | failed | raised =>
    exact watched_of_idle (h.trusting.untouched hstep (untouched_of_world rfl rfl rfl)) rfl

theorem watched_step (h : Watched around start before)
    (hrun : Relation.ReflTransGen (Step around) start before) (hstep : Step around before after) :
    Watched around start after := by
  obtain ⟨action, haction⟩ := hstep
  have hstep : Step around before after := ⟨action, haction⟩
  cases stepped haction with
  | stopped | woke | raised =>
    exact watched_of_idle (h.trusting.untouched hstep (untouched_of_world rfl rfl rfl)) rfl
  | began hat =>
    refine ⟨h.trusting.untouched hstep (untouched_of_world rfl rfl rfl), fun pass hpass => ?_,
      fun rest hrest => (by cases hrest), fun w hw => (by cases hw)⟩
    cases hpass
    rfl
  | connected hat =>
    obtain rfl := h.connecting _ hat
    refine ⟨h.trusting.untouched hstep (untouched_of_world rfl rfl rfl), fun pass hpass => (by cases hpass),
      fun rest hrest => ?_, fun w hw => (by cases hw)⟩
    cases hrest
    exact .unread
  | executed hat =>
    have hstage := h.passing _ hat
    refine ⟨trusting_statement h.trusting hstage hstep rfl rfl (.inr rfl), fun pass hpass => (by cases hpass),
      fun rest hrest => ?_, fun w hw => (by cases hw)⟩
    cases hrest
    exact stage_executed h.trusting hstage hrun hstep rfl rfl rfl
  | returned hat =>
    refine ⟨h.trusting.untouched hstep (untouched_of_world rfl rfl rfl), fun pass hpass => (by cases hpass),
      fun rest hrest => (by cases hrest), fun w hw => ?_⟩
    have hresult := PassEnd.returned.inj (Pc.closing.inj hw)
    obtain ⟨hfinished, hupto⟩ := stage_returned (h.passing _ hat) hresult
    exact ⟨hfinished.step hstep rfl fun _ _ => rfl, hupto⟩
  | closed hat => exact watched_settle h (fun w hw => h.returned w (hw ▸ hat)) hstep
  | not_connected | not_closed => exact watched_settle h (fun w hw => by cases hw) hstep
  | failed took_effect hat =>
    refine watched_of_idle (trusting_statement h.trusting (h.passing _ hat) hstep rfl rfl ?_) rfl
    cases took_effect with
    | false => exact .inl rfl
    | true => exact .inr rfl
  | tick | set_stop => exact h.untouched hstep (untouched_of_world rfl rfl rfl) rfl
  | commit effect => exact h.untouched hstep (untouched_commit effect before) rfl
  | restart settings => exact watched_of_idle (fun w hw => by cases hw) rfl

theorem watched {settings : RunSettings} {db : Database} {sent : List Notification} {clock : ℚ}
    {state : State} (hrun : Relation.ReflTransGen (Step around) (started settings db sent clock) state) :
    Watched around (started settings db sent clock) state := by
  induction hrun with
  | refl => exact watched_of_idle (fun w hw => by cases hw) rfl
  | tail hbefore hstep ih => exact watched_step ih hbefore hstep

/-- The watermark of a pass whose store is being closed. -/
def Pc.result : Pc → Option UtcDatetime
  | .closing (.returned now_data) => now_data
  | _ => none

theorem Pc.eq_of_result {pc : Pc} (h : pc.result = some now_data) :
    pc = .closing (.returned (some now_data)) := by
  unfold Pc.result at h
  split at h
  · rw [h]
  · cases h

/-- A reading that arrives once the pass has its watermark. -/
def late_arrival : List Action :=
  .commit (.insert_reading (reading_at planter_00 0 0)) :: List.replicate 3 .proceed ++
    .commit (.insert_reading (reading_at planter_00 6 0)) :: List.replicate 10 .proceed

/-- The watermark of `run` is never ahead of the data; and where it makes `run`
    skip a pass, the pass over it has run to its end, and no later one has left
    anything half done. -/
theorem skipped_pass_was_finished (around : Surroundings) (settings : RunSettings) (db : Database)
    (sent : List Notification) (clock : ℚ) {state : State}
    (hrun : Relation.ReflTransGen (Step around) (started settings db sent clock) state)
    (hlast : state.last_data_now = some w) :
    ∃ newest, data_now state.world.db = some newest ∧ w ≤ newest ∧
      (newest ≤ w → newest = w ∧ Finished around (started settings db sent clock) state w) := by
  obtain ⟨⟨newest, hnewest, hle⟩, hfinished⟩ := (watched hrun).trusting w hlast
  refine ⟨newest, hnewest, hle, fun hskip => ⟨le_antisymm hskip hle, ?_⟩⟩
  rcases hfinished with hfinished | ⟨newer, hnewer, hlt⟩
  · exact hfinished
  · obtain rfl : newest = newer := Option.some.inj (hnewest.symm.trans hnewer)
    exact absurd hlt (not_lt.mpr hskip)

/-- The pass after the late arrival does its work anew, and the one after that is
    skipped. -/
theorem skipped_pass_was_finished_late_arrival :
    ∃ state : State, state.passes = 3 ∧ state.last_data_now = some (at_minute 6) ∧
      Finished first_of_ties (started {} .fresh [] 0) state (at_minute 6) := by
  have hrun : (steps first_of_ties (late_arrival ++ .proceed :: .tick 30 :: List.replicate 11 .proceed ++
      .tick 30 :: List.replicate 6 .proceed) (started {} .fresh [] 0)).any (fun state =>
        state.passes = 3 && state.last_data_now = some (at_minute 6) &&
          data_now state.world.db = some (at_minute 6)) = true := by
    decide +kernel
  obtain ⟨state, hsteps, hstate⟩ := (Option.any_eq_true _ _).mp hrun
  obtain ⟨hstate, hnow⟩ := Bool.and_eq_true_iff.mp hstate
  obtain ⟨hpasses, hlast⟩ := Bool.and_eq_true_iff.mp hstate
  obtain ⟨newest, hnewest, -, hskip⟩ := skipped_pass_was_finished first_of_ties {} .fresh [] 0
    (reached_iff_steps.mpr ⟨_, hsteps⟩) (of_decide_eq_true hlast)
  obtain rfl : newest = at_minute 6 :=
    Option.some.inj (hnewest.symm.trans (of_decide_eq_true hnow))
  exact ⟨state, of_decide_eq_true hpasses, of_decide_eq_true hlast, (hskip (le_refl _)).2⟩

end planter_telemetry.analytics.service
