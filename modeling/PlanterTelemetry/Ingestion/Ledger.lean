import PlanterTelemetry.Ingestion.Counting
import PlanterTelemetry.Ingestion.Progress

open planter_telemetry.python planter_telemetry.contract planter_telemetry.migrations
open planter_telemetry.ingestion.core planter_telemetry.ingestion.db

namespace planter_telemetry.ingestion.service

variable {externals : Externals} {item : Item}

/-! ### Rows and counts -/

/-- Readings, duplicates and dead letters, as rows or as counts. -/
@[ext]
structure Tally where
  readings : Nat := 0
  duplicates : Nat := 0
  dead_letters : Nat := 0
  deriving DecidableEq

def Tally.total (tally : Tally) : Nat := tally.readings + tally.duplicates + tally.dead_letters

instance Tally.add : Add Tally :=
  ⟨fun a b => ⟨a.readings + b.readings, a.duplicates + b.duplicates, a.dead_letters + b.dead_letters⟩⟩

/-- The rows of the tables that ingestion counts its messages by. -/
def tables (db : Database) : Tally :=
  ⟨db.telemetry.rows.length, db.ingest_events.length, db.dead_letter.length⟩

/-- What `/metrics` and the `stats` line say of them. -/
def Counters.tally (counters : Counters) : Tally :=
  ⟨counters.ingested, counters.deduplicated, counters.dead_lettered⟩

/-- The row that is written and not counted. -/
def Progress.due : Progress → Tally
  | .inserted => { readings := 1 }
  | .recorded_dedupe => { duplicates := 1 }
  | .inserted_dead_letter => { dead_letters := 1 }
  | .settled | .present => {}

theorem Progress.total_due_le (progress : Progress) : progress.due.total ≤ 1 := by
  cases progress <;> decide

section Add

variable {a b c d e : Tally}

@[simp] theorem Tally.readings_add : (a + b).readings = a.readings + b.readings := rfl
@[simp] theorem Tally.duplicates_add : (a + b).duplicates = a.duplicates + b.duplicates := rfl
@[simp] theorem Tally.dead_letters_add : (a + b).dead_letters = a.dead_letters + b.dead_letters := rfl

theorem Tally.total_add (a b : Tally) : (a + b).total = a.total + b.total := by
  simp only [Tally.total, Tally.readings_add, Tally.duplicates_add, Tally.dead_letters_add]
  omega

/-- A balance carried forward: what the rows gained is in the new counts. -/
theorem Tally.carry (h : a + b = c + d) (hc : c = e + b) : a = e + d := by
  subst hc
  simp only [Tally.ext_iff, Tally.readings_add, Tally.duplicates_add, Tally.dead_letters_add] at h ⊢
  omega

/-- The same where the gain goes to what is lost. -/
theorem Tally.write_off {lost : Tally} (h : a + (b + {}) = c + (b + d)) (hc : c = e + lost + (b + {})) :
    a = e + (lost + d) + (b + {}) := by
  subst hc
  simp only [Tally.ext_iff, Tally.readings_add, Tally.duplicates_add, Tally.dead_letters_add] at h ⊢
  omega

end Add

variable {progress : Progress} {effect : Effect} {service : Service}

variable (service) in
/-- A statement adds to the rows what it adds to the counts and to what is due. -/
theorem balance_perform (hallowed : (call_order externals item).allowed progress effect) :
    tables (perform effect service).1.db + (service.counters.tally + progress.due) =
      tables service.db + ((perform effect service).1.counters.tally +
        ((call_order externals item).after progress effect (perform effect service).2).due) := by
  cases progress with
  | settled =>
    cases effect with
    | get_latest | set_latest | upsert_device => rfl
    | count bump =>
      obtain ⟨hingested, hdeduplicated, hdead_lettered⟩ := hallowed service.counters
      change _ = tables service.db + ((bump service.counters).tally + _)
      rw [Counters.tally, Counters.tally, hingested, hdeduplicated, hdead_lettered]
      rfl
    | insert_reading reading =>
      have hlength := KeyedTable.length_insertIgnore service.db.telemetry (reading_row reading)
      by_cases hkey : (reading_row reading).key ∈ service.db.telemetry.keys
      · have hresponse : (perform (.insert_reading reading) service).2 = false :=
          decide_eq_false (not_not.mpr hkey)
        rw [if_pos hkey] at hlength
        rw [hresponse]
        exact Tally.ext (congrArg (· + (service.counters.ingested + 0)) hlength) rfl rfl
      · have hresponse : (perform (.insert_reading reading) service).2 = true := decide_eq_true hkey
        rw [if_neg hkey] at hlength
        rw [hresponse]
        refine Tally.ext ?_ rfl rfl
        change (service.db.telemetry.insertIgnore (reading_row reading)).rows.length +
          service.counters.ingested = service.db.telemetry.rows.length + (service.counters.ingested + 1)
        omega
    | record_dedupe => exact hallowed.elim
    | insert_dead_letter letter =>
      refine Tally.ext rfl rfl ?_
      change (service.db.dead_letter ++ [letter]).length + service.counters.dead_lettered =
        service.db.dead_letter.length + (service.counters.dead_lettered + 1)
      rw [List.length_append, List.length_singleton]
      omega
  | inserted =>
    cases effect with
    | count bump =>
      obtain rfl := hallowed
      rfl
    | _ => exact hallowed.elim
  | present =>
    cases effect with
    | record_dedupe reading =>
      refine Tally.ext rfl ?_ rfl
      change (service.db.ingest_events ++ [_]).length + service.counters.deduplicated =
        service.db.ingest_events.length + (service.counters.deduplicated + 1)
      rw [List.length_append, List.length_singleton]
      omega
    | _ => exact hallowed.elim
  | recorded_dedupe =>
    cases effect with
    | count bump =>
      obtain rfl := hallowed
      rfl
    | _ => exact hallowed.elim
  | inserted_dead_letter =>
    cases effect with
    | count bump =>
      obtain rfl := hallowed
      rfl
    | _ => exact hallowed.elim

/-- No statement of the writer comes while a written row is still to be counted. -/
theorem due_of_awaited (hallowed : (call_order externals item).allowed progress effect)
    (hawaited : effect.awaited = true) : progress.due = {} := by
  cases progress with
  | settled | present => rfl
  | inserted | recorded_dedupe | inserted_dead_letter =>
    cases effect with
    | count bump => cases hawaited
    | _ => exact hallowed.elim

/-! ### Over a run -/

/-- The tables hold what they held at the start, what was counted since, what an
    error kept from being counted, and what a call has yet to count. -/
structure Booked (externals : Externals) (start lost : Tally) (progress : Progress) (state : State) :
    Prop where
  tables : tables state.memory.db = start + lost + (state.memory.counters.tally + progress.due)
  pc : state.pc.InProgress externals progress

/-- The answer of a statement that took effect was lost. -/
def answer_lost : Action → Bool
  | .operational_error took_effect => took_effect
  | _ => false

variable {start lost : Tally} {before after : State} {action : Action}

theorem booked_step (h : Booked externals start lost progress before)
    (hstep : step externals before action = some after) :
    ∃ lost' progress', Booked externals start lost' progress' after ∧
      lost'.total ≤ lost.total + (answer_lost action).toNat := by
  obtain ⟨htables, hpc⟩ := h
  rcases step_progress hpc hstep with ⟨loop, item, rest, effect, _, -, hallowed, rfl, hmemory, -, hpc'⟩ |
    ⟨loop, item, rest, effect, took_effect, -, hallowed, hawaited, rfl, hmemory, hpc'⟩ |
    ⟨hmemory, hpc', -⟩
  · have hbalance := balance_perform before.memory hallowed
    rw [← hmemory] at hbalance
    exact ⟨lost, _, ⟨Tally.carry hbalance htables, hpc'⟩, Nat.le_add_right _ _⟩
  · have hbalance := balance_perform before.memory hallowed
    rw [due_of_awaited hallowed hawaited] at htables hbalance
    rw [(perform_awaited hawaited before.memory).1] at hbalance
    cases took_effect with
    | false =>
      rw [if_neg (by decide)] at hmemory
      exact ⟨lost, _, ⟨by rw [hmemory, htables]; rfl, hpc'⟩, Nat.le_add_right _ _⟩
    | true =>
      rw [if_pos rfl] at hmemory
      have hdue := ((call_order externals item).after progress effect
        (perform effect before.memory).2).total_due_le
      refine ⟨lost + _, .settled, ⟨?_, hpc'⟩, (Tally.total_add _ _).trans_le (Nat.add_le_add_left hdue _)⟩
      rw [hmemory, (perform_awaited hawaited before.memory).1]
      exact Tally.write_off hbalance htables
  · exact ⟨lost, progress, ⟨by rw [hmemory, htables], hpc'⟩, Nat.le_add_right _ _⟩

theorem booked_steps {actions : List Action} (h : Booked externals start lost progress before)
    (hsteps : steps externals (fun _ _ => true) actions before = some after) :
    ∃ lost' progress', Booked externals start lost' progress' after ∧
      lost'.total ≤ lost.total + actions.countP answer_lost := by
  induction actions generalizing before lost progress with
  | nil =>
    cases hsteps
    exact ⟨lost, progress, h, Nat.le_add_right _ _⟩
  | cons action actions ih =>
    rw [steps, if_pos rfl] at hsteps
    obtain ⟨between, hstep, hrest⟩ := Option.bind_eq_some_iff.mp hsteps
    obtain ⟨lost', progress', hbooked, hlost⟩ := booked_step h hstep
    obtain ⟨lost'', progress'', hbooked', hlost'⟩ := ih hbooked hrest
    refine ⟨lost'', progress'', hbooked', ?_⟩
    rw [List.countP_cons]
    cases hanswer : answer_lost action with
    | true =>
      rw [hanswer, Bool.toNat_true] at hlost
      rw [if_pos rfl]
      omega
    | false =>
      rw [hanswer, Bool.toNat_false] at hlost
      rw [if_neg (by decide)]
      omega

/-- The counters say what was written, but for the rows whose statement took
    effect and lost its answer, and for the call in progress. -/
theorem counters_match_tables (externals : Externals) (db : Database) {actions : List Action} {state : State}
    (h : steps externals (fun _ _ => true) actions (initial db) = some state) :
    ∃ lost due : Tally,
      tables state.memory.db = tables db + lost + (state.memory.counters.tally + due) ∧
      lost.total ≤ actions.countP answer_lost ∧ due.total ≤ 1 ∧
      ((∀ loop item rest, state.pc ≠ .handling loop item rest) → due = {}) := by
  have hinitial : Booked externals (tables db) {} .settled (initial db) := ⟨rfl, rfl⟩
  obtain ⟨lost, progress, ⟨htables, hpc⟩, hlost⟩ := booked_steps hinitial h
  refine ⟨lost, progress.due, htables, ?_, progress.total_due_le, fun hidle => ?_⟩
  · rwa [show ({} : Tally).total = 0 from rfl, Nat.zero_add] at hlost
  · unfold Pc.InProgress Pc.Follows at hpc
    split at hpc
    · next loop item rest hat => exact absurd hat (hidle loop item rest)
    · rw [hpc]
      rfl

/-- The answer to the first dead letter is lost, and the replay records it once
    more: three rows, two of them counted. -/
theorem counters_match_tables_lost_once :
    ∃ state : State, tables state.memory.db = { dead_letters := 3 } ∧
      state.memory.counters.tally = { dead_letters := 2 } ∧
      ∃ lost due : Tally,
        tables state.memory.db = tables Database.fresh + lost + (state.memory.counters.tally + due) ∧
        lost.total ≤ database_lost_once.countP answer_lost ∧ due.total ≤ 1 ∧
        ((∀ loop item rest, state.pc ≠ .handling loop item rest) → due = {}) := by
  have hrun : (steps (document_reader []) (fun _ _ => true) database_lost_once (initial .fresh)).any
      (fun state => tables state.memory.db = { dead_letters := 3 } &&
        state.memory.counters.tally = { dead_letters := 2 }) = true := by decide +kernel
  obtain ⟨state, hsteps, hstate⟩ := (Option.any_eq_true _ _).mp hrun
  obtain ⟨hrows, hcounts⟩ := Bool.and_eq_true_iff.mp hstate
  exact ⟨state, of_decide_eq_true hrows, of_decide_eq_true hcounts,
    counters_match_tables (document_reader []) .fresh hsteps⟩

end planter_telemetry.ingestion.service
