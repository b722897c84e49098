import PlanterTelemetry.Analytics.History
import PlanterTelemetry.Analytics.PassOrder
import PlanterTelemetry.Library.Trace

open planter_telemetry.python planter_telemetry.migrations
open planter_telemetry.analytics.model planter_telemetry.analytics.config
open planter_telemetry.analytics.db

namespace planter_telemetry.analytics.service

/-! ### Notifications and the decisions they are for -/

/-- A notification that was posted, with its decision row and the answer. -/
structure Receipt where
  event_id : Nat
  notification : Notification
  answer : Option String

/-- Every notification is for a firing decision of its own that was recorded
    before; and a row that says how its delivery went tells the answer. -/
structure Delivered (around : Surroundings) (receipts : List Receipt) (world : World) : Prop where
  sent : world.sent = receipts.map Receipt.notification
  once : (receipts.map Receipt.event_id).Nodup
  answers : Log.Lawful (fun before receipt =>
    receipt.answer = around.ntfy (before.map Receipt.notification) receipt.notification) receipts
  decided : ∀ receipt ∈ receipts, ∃ row ∈ world.db.alert_events.rows,
    row.id = receipt.event_id ∧ row.state = .firing ∧
      receipt.notification = notification_of row.toAlertDecision
  marked : ∀ row ∈ world.db.alert_events.rows, row.notified = true ∨ row.notify_error ≠ none →
    ∃ receipt ∈ receipts, receipt.event_id = row.id ∧ row.notified = receipt.answer.isNone ∧
      row.notify_error = receipt.answer

/-- A firing decision was recorded and not posted. -/
def unposted (receipts : List Receipt) (row : AlertEventRow) : Bool :=
  row.state = .firing && decide (row.id ∉ receipts.map Receipt.event_id)

/-- The ids of the decision rows are told apart by the identity column. -/
def DistinctIds (db : Database) : Prop := (db.alert_events.rows.map AlertEventRow.id).Nodup

/-- What is known of the decision at hand. -/
def Announcing.Knows (receipts : List Receipt) (db : Database) : Announcing → Prop
  | .idle | .failed => True
  | .recorded event_id decision =>
    (∃ row ∈ db.alert_events.rows, row.id = event_id ∧ row.toAlertDecision = decision) ∧
      event_id ∉ receipts.map Receipt.event_id
  | .counted event_id decision =>
    (∃ row ∈ db.alert_events.rows, row.id = event_id ∧ row.toAlertDecision = decision) ∧
      event_id ∉ receipts.map Receipt.event_id ∧ decision.state = .firing
  | .posted event_id notification answer => ⟨event_id, notification, answer⟩ ∈ receipts

/-- Whether the decision at hand is yet to be posted. -/
def Announcing.due : Announcing → Nat
  | .recorded _ decision => if decision.state = .firing then 1 else 0
  | .counted _ _ => 1
  | _ => 0

structure Delivery (around : Surroundings) (receipts : List Receipt) (phase : Announcing)
    (world : World) : Prop extends Delivered around receipts world where
  distinct : DistinctIds world.db
  knows : phase.Knows receipts world.db

variable {around : Surroundings} {settings : AnalyticsSettings} {receipts : List Receipt}
  {phase : Announcing} {world : World} {effect : Effect}

/-- Only the alert rows and the posts matter. -/
theorem Delivery.congr (h : Delivery around receipts phase world) (phase' : Announcing) {other : World}
    (hrows : other.db.alert_events = world.db.alert_events) (hsent : other.sent = world.sent)
    (hknows : phase'.Knows receipts world.db) :
    Delivery around receipts phase' other where
  sent := hsent.trans h.sent
  once := h.once
  answers := h.answers
  decided := by
    rw [hrows]
    exact h.decided
  marked := by
    rw [hrows]
    exact h.marked
  distinct := by
    unfold DistinctIds
    rw [hrows]
    exact h.distinct
  knows := by
    cases phase' with
    | idle | failed => trivial
    | recorded | counted =>
      unfold Announcing.Knows
      rw [hrows]
      exact hknows
    | posted => exact hknows

/-- Once the decision at hand is let go, nothing is known of it. -/
theorem Delivery.idle (h : Delivery around receipts phase world) :
    Delivery around receipts .idle world :=
  h.congr .idle rfl rfl trivial

/-! ### One statement -/

variable {decision : AlertDecision}

theorem insert_alert_event_of_mem (hkey : decision.key ∈ world.db.alert_events.keys) :
    (insert_alert_event world.db decision).1.alert_events = world.db.alert_events ∧
      (insert_alert_event world.db decision).2 = none :=
  ⟨KeyedTable.insertIgnore_of_mem hkey, if_pos hkey⟩

theorem insert_alert_event_of_not_mem (hkey : decision.key ∉ world.db.alert_events.keys) :
    (insert_alert_event world.db decision).1.alert_events.rows =
        world.db.alert_events.rows ++ [{ decision with id := world.db.next_id }] ∧
      (insert_alert_event world.db decision).2 = some world.db.next_id :=
  ⟨KeyedTable.insertIgnore_rows_of_not_mem hkey, if_neg hkey⟩

/-- How many firing decisions were recorded and not posted. -/
def unposted_count (receipts : List Receipt) (db : Database) : Nat :=
  db.alert_events.rows.countP (unposted receipts)

/-- A new decision has an id that no row and no receipt has. -/
theorem delivery_insert (h : Delivery around receipts .idle world)
    (hkey : decision.key ∉ world.db.alert_events.keys) :
    Delivery around receipts (.recorded world.db.next_id decision)
      { world with db := (insert_alert_event world.db decision).1 } := by
  obtain ⟨hrows, -⟩ := insert_alert_event_of_not_mem hkey
  refine ⟨⟨h.sent, h.once, h.answers, fun receipt hreceipt => ?_, fun row hrow hmarked => ?_⟩, ?_, ?_, ?_⟩
  · obtain ⟨row, hrow, hdecided⟩ := h.decided receipt hreceipt
    refine ⟨row, ?_, hdecided⟩
    rw [hrows]
    exact List.mem_append_left _ hrow
  · rw [hrows] at hrow
    cases List.mem_append.mp hrow with
    | inl hold => exact h.marked row hold hmarked
    | inr hnew =>
      obtain rfl := List.mem_singleton.mp hnew
      cases hmarked with
      | inl hnotified => cases hnotified
      | inr herror => exact absurd rfl herror
  · unfold DistinctIds
    rw [hrows, List.map_append]
    refine h.distinct.append (List.nodup_singleton _) ?_
    rw [List.map_singleton, List.disjoint_singleton]
    intro hmem
    obtain ⟨row, hrow, hid⟩ := List.mem_map.mp hmem
    exact absurd hid (world.db.ids_issued row hrow).ne
  · refine ⟨{ decision with id := world.db.next_id }, ?_, rfl, rfl⟩
    rw [hrows]
    exact List.mem_append_right _ (List.mem_singleton_self _)
  · intro hmem
    obtain ⟨receipt, hreceipt, hid⟩ := List.mem_map.mp hmem
    obtain ⟨row, hrow, hrow_id, -⟩ := h.decided receipt hreceipt
    exact absurd (hrow_id.trans hid) (world.db.ids_issued row hrow).ne

theorem unposted_count_insert (receipts : List Receipt)
    (hkey : decision.key ∉ world.db.alert_events.keys) :
    unposted_count receipts (insert_alert_event world.db decision).1 ≤
      unposted_count receipts world.db + (Announcing.recorded world.db.next_id decision).due := by
  unfold unposted_count
  rw [(insert_alert_event_of_not_mem hkey).1, List.countP_append, List.countP_singleton]
  refine Nat.add_le_add_left ?_ _
  cases hstate : decision.state with
  | firing =>
    rw [Announcing.due, if_pos hstate]
    split <;> decide
  | cleared =>
    simp [unposted, hstate]

/-- A post goes out once for its row. -/
theorem delivery_post {event_id : Nat} (h : Delivery around receipts (.counted event_id decision) world) :
    let notification := notification_of decision
    let receipt := Receipt.mk event_id notification (around.ntfy world.sent notification)
    Delivery around (receipts ++ [receipt]) (.posted event_id notification receipt.answer)
        { world with sent := world.sent ++ [notification] } ∧
      unposted_count (receipts ++ [receipt]) world.db + 1 ≤ unposted_count receipts world.db := by
  intro notification receipt
  obtain ⟨⟨row, hrow, rfl, rfl⟩, hfresh, hfiring⟩ := h.knows
  constructor
  · refine ⟨⟨?_, ?_, ?_, ?_, ?_⟩, h.distinct, ?_⟩
    · rw [List.map_append, ← h.sent]
      rfl
    · rw [List.map_append]
      exact h.once.append (List.nodup_singleton _) (List.disjoint_singleton.mpr hfresh)
    · rw [Log.lawful_append_singleton]
      refine ⟨h.answers, ?_⟩
      rw [← h.sent]
    · intro other hother
      cases List.mem_append.mp hother with
      | inl hold => exact h.decided other hold
      | inr hlast =>
        rw [List.mem_singleton.mp hlast]
        exact ⟨row, hrow, rfl, hfiring, rfl⟩
    · intro other hother hmarked
      obtain ⟨earlier, hearlier, htells⟩ := h.marked other hother hmarked
      exact ⟨earlier, List.mem_append_left _ hearlier, htells⟩
    · exact List.mem_append_right _ (List.mem_singleton_self _)
  · unfold unposted_count
    obtain ⟨first, rest, hsplit⟩ := List.append_of_mem hrow
    have hmono (rows : List AlertEventRow) :
        rows.countP (unposted (receipts ++ [receipt])) ≤ rows.countP (unposted receipts) := by
      apply List.countP_mono_left
      intro other _ hother
      simp only [unposted, Bool.and_eq_true, decide_eq_true_iff, List.map_append, List.mem_append,
        not_or] at hother ⊢
      exact ⟨hother.1, hother.2.1⟩
    have hbefore : unposted receipts row = true := by
      simp only [unposted, Bool.and_eq_true, decide_eq_true_iff]
      exact ⟨hfiring, hfresh⟩
    have hafter : unposted (receipts ++ [receipt]) row = false := by
      simp [unposted, receipt]
    rw [hsplit, List.countP_append, List.countP_append, List.countP_cons, List.countP_cons, hbefore,
      hafter]
    have hfirst := hmono first
    have hrest := hmono rest
    simp only [if_true, Bool.false_eq_true, if_false]
    omega

/-- The answer goes to the row that the post was for. -/
theorem delivery_mark {event_id : Nat} {notification : Notification} {answer : Option String}
    (h : Delivery around receipts (.posted event_id notification answer) world) :
    Delivery around receipts .idle { world with db := mark_notified world.db event_id answer } ∧
      unposted_count receipts (mark_notified world.db event_id answer) = unposted_count receipts world.db := by
  have hid (row : AlertEventRow) :
      (if decide (row.id = event_id) then with_delivery answer row else row).id = row.id := by
    split <;> rfl
  constructor
  · refine ⟨⟨h.sent, h.once, h.answers, fun receipt hreceipt => ?_, fun row hrow hmarked => ?_⟩, ?_, trivial⟩
    · obtain ⟨row, hrow, hrow_id, hfiring, htext⟩ := h.decided receipt hreceipt
      refine ⟨_, List.mem_map_of_mem hrow, (hid row).trans hrow_id, ?_⟩
      split
      · exact ⟨hfiring, htext⟩
      · exact ⟨hfiring, htext⟩
    · have hupdated : row ∈ (world.db.alert_events.updateWhere (fun row => row.id = event_id)
          (with_delivery answer) fun _ => rfl).rows := hrow
      rcases KeyedTable.mem_updateWhere.mp hupdated with ⟨hold, -⟩ | ⟨old, -, hselected, rfl⟩
      · exact h.marked row hold hmarked
      · exact ⟨_, h.knows, (of_decide_eq_true hselected).symm, rfl, rfl⟩
    · have hsame : (mark_notified world.db event_id answer).alert_events.rows.map AlertEventRow.id =
          world.db.alert_events.rows.map AlertEventRow.id :=
        List.map_map.trans (List.map_congr_left fun row _ => hid row)
      exact (congrArg List.Nodup hsame).mpr h.distinct
  · unfold unposted_count
    refine List.countP_map.trans (List.countP_congr fun row _ => ?_)
    dsimp only [Function.comp, with_delivery, unposted]
    split <;> rfl

/-- A statement of a pass keeps every post accounted for, and a firing decision
    is left unposted only where posting it is what comes next. -/
theorem delivery_perform (h : Delivery around receipts phase world)
    (hallowed : (pass_order settings).allowed phase effect) :
    ∃ receipts', Delivery around receipts'
        ((pass_order settings).after phase effect (perform around effect world).2)
        (perform around effect world).1 ∧
      (settings.ntfy_url ≠ "" →
        unposted_count receipts' (perform around effect world).1.db + phase.due ≤
          unposted_count receipts world.db +
            ((pass_order settings).after phase effect (perform around effect world).2).due) := by
  cases phase with
  | idle =>
    cases effect with
    | insert_alert_event decision =>
      refine ⟨receipts, ?_⟩
      by_cases hkey : decision.key ∈ world.db.alert_events.keys
      · obtain ⟨hsame, hresponse⟩ := insert_alert_event_of_mem hkey
        have hnone : (perform around (.insert_alert_event decision) world).2 = none := hresponse
        rw [hnone]
        refine ⟨h.congr .idle hsame rfl trivial, fun _ => ?_⟩
        exact (congrArg (fun table => table.rows.countP (unposted receipts)) hsame).le
      · obtain ⟨-, hresponse⟩ := insert_alert_event_of_not_mem hkey
        have hsome : (perform around (.insert_alert_event decision) world).2 =
            some world.db.next_id := hresponse
        rw [hsome]
        exact ⟨delivery_insert h hkey, fun _ => unposted_count_insert receipts hkey⟩
    | post_ntfy | mark_notified => exact hallowed.elim
    | _ => exact ⟨receipts, h.congr .idle rfl rfl trivial, fun _ => le_refl _⟩
  | recorded event_id decision =>
    cases effect with
    | count bump =>
      refine ⟨receipts, ?_⟩
      by_cases hposts : decision.state = .firing ∧ settings.ntfy_url ≠ ""
      · simp only [pass_order, if_pos hposts]
        refine ⟨h.congr (.counted event_id decision) rfl rfl ⟨h.knows.1, h.knows.2, hposts.1⟩, fun _ => ?_⟩
        rw [Announcing.due, if_pos hposts.1]
        exact le_refl _
      · simp only [pass_order, if_neg hposts]
        refine ⟨h.congr .idle rfl rfl trivial, fun hurl => ?_⟩
        rw [Announcing.due, if_neg fun hfiring => hposts ⟨hfiring, hurl⟩]
        exact le_refl _
    | _ => exact hallowed.elim
  | counted event_id decision =>
    cases effect with
    | post_ntfy notification =>
      obtain rfl := hallowed
      obtain ⟨hposted, hcount⟩ := delivery_post h
      exact ⟨_, hposted, fun _ => hcount⟩
    | _ => exact hallowed.elim
  | posted event_id notification answer =>
    cases effect with
    | mark_notified marked error =>
      obtain ⟨rfl, rfl⟩ := hallowed
      obtain ⟨hmarked, hcount⟩ := delivery_mark h
      refine ⟨receipts, ?_⟩
      cases error with
      | none => exact ⟨hmarked, fun _ => hcount.le⟩
      | some text => exact ⟨hmarked.congr .failed rfl rfl trivial, fun _ => hcount.le⟩
    | _ => exact hallowed.elim
  | failed =>
    cases effect with
    | count bump => exact ⟨receipts, h.congr .idle rfl rfl trivial, fun _ => le_refl _⟩
    | _ => exact hallowed.elim

/-! ### Over a deployment -/

/-- What can keep a recorded decision from being posted: the answer of a
    statement that took effect is lost, or the process is killed. -/
def interrupts : Action → Bool
  | .database_error took_effect => took_effect
  | .restart _ => true
  | _ => false

/-- Notifications are on, in the process that runs and in those started later. -/
def notifies : Action → Prop
  | .restart settings => settings.ntfy_url ≠ ""
  | _ => True

theorem due_le_one (phase : Announcing) : phase.due ≤ 1 := by
  cases phase with
  | recorded event_id decision =>
    rw [Announcing.due]
    split <;> decide
  | counted => exact le_refl _
  | idle | posted | failed => exact Nat.zero_le _

/-- A statement that is awaited is executed with no decision to be posted. -/
theorem due_of_awaited (hallowed : (pass_order settings).allowed phase effect)
    (hawaited : effect.awaited = true) : phase.due = 0 := by
  cases phase with
  | idle | posted | failed => rfl
  | recorded | counted =>
    cases effect with
    | count | post_ntfy => cases hawaited
    | _ => exact hallowed.elim

theorem write_alert_events (effect : ingestion.service.Effect) (db : Database) :
    (effect.write db).alert_events = db.alert_events := by
  cases effect with
  | get_latest | set_latest | count | upsert_device | insert_reading | record_dedupe
  | insert_dead_letter => rfl

variable {before after : State} {action : Action}

theorem delivery_step (h : Delivery around receipts phase before.world)
    (hpc : before.pc.InPass before.settings.toAnalyticsSettings phase)
    (hstep : step around before action = some after) :
    ∃ receipts' phase', Delivery around receipts' phase' after.world ∧
      after.pc.InPass after.settings.toAnalyticsSettings phase' ∧
      (before.settings.ntfy_url ≠ "" →
        unposted_count receipts' after.world.db + phase.due ≤
          unposted_count receipts before.world.db + phase'.due + (interrupts action).toNat) := by
  have hsettle (ending : PassEnd) (hidle : phase = .idle) :
      Delivery around receipts .idle (before.settle ending).world ∧
        (before.settle ending).pc.InPass (before.settle ending).settings.toAnalyticsSettings .idle ∧
        unposted_count receipts (before.settle ending).world.db + phase.due ≤
          unposted_count receipts before.world.db + Announcing.idle.due := by
    subst hidle
    rw [settle_world]
    exact ⟨h, in_pass_settle _ before ending, le_refl _⟩
  cases stepped hstep with
  | stopped hat | woke hat =>
    rw [hat] at hpc
    obtain rfl := hpc
    exact ⟨receipts, .idle, h, rfl, fun _ => Nat.le_add_right _ _⟩
  | began hat =>
    rw [hat] at hpc
    obtain rfl := hpc
    exact ⟨receipts, .idle, h, ⟨rfl, run_pass_follows _ _⟩, fun _ => Nat.le_add_right _ _⟩
  | connected hat =>
    rw [hat] at hpc
    obtain ⟨rfl, hfollows⟩ := hpc
    exact ⟨receipts, .idle, h, hfollows, fun _ => Nat.le_add_right _ _⟩
  | executed hat =>
    rw [hat] at hpc
    obtain ⟨hallowed, hrest⟩ := hpc
    obtain ⟨receipts', hdelivery, hcount⟩ := delivery_perform h hallowed
    exact ⟨receipts', _, hdelivery, hrest _, fun hurl => (hcount hurl).trans (Nat.le_add_right _ _)⟩
  | returned hat | raised hat =>
    rw [hat] at hpc
    obtain rfl : phase = .idle := hpc
    exact ⟨receipts, .idle, h, rfl, fun _ => Nat.le_add_right _ _⟩
  | closed hat =>
    rw [hat] at hpc
    obtain ⟨hdelivery, hafter, hcount⟩ := hsettle _ hpc
    exact ⟨receipts, .idle, hdelivery, hafter, fun _ => hcount⟩
  | not_connected took_effect hat =>
    rw [hat] at hpc
    obtain ⟨hdelivery, hafter, hcount⟩ := hsettle .failed hpc.1
    exact ⟨receipts, .idle, hdelivery, hafter, fun _ => hcount.trans (Nat.le_add_right _ _)⟩
  | not_closed took_effect hat =>
    rw [hat] at hpc
    obtain ⟨hdelivery, hafter, hcount⟩ := hsettle .failed hpc
    exact ⟨receipts, .idle, hdelivery, hafter, fun _ => hcount.trans (Nat.le_add_right _ _)⟩
  | failed took_effect hat hawaited =>
    rw [hat] at hpc
    obtain ⟨hallowed, -⟩ := hpc
    have hdue := due_of_awaited hallowed hawaited
    cases took_effect with
    | false => exact ⟨receipts, .idle, h.idle, rfl, fun _ => by rw [hdue]; exact le_refl _⟩
    | true =>
      obtain ⟨receipts', hdelivery, hcount⟩ := delivery_perform h hallowed
      refine ⟨receipts', .idle, hdelivery.idle, rfl, fun hurl => (hcount hurl).trans ?_⟩
      exact Nat.add_le_add_left (due_le_one _) _
  | tick | set_stop => exact ⟨receipts, phase, h, hpc, fun _ => Nat.le_add_right _ _⟩
  | commit effect =>
    refine ⟨receipts, phase, h.congr phase (write_alert_events effect _) rfl h.knows, hpc, fun _ => ?_⟩
    dsimp only [unposted_count]
    rw [write_alert_events]
    exact Nat.le_add_right _ _
  | restart settings =>
    refine ⟨receipts, .idle, h.congr .idle rfl rfl trivial, rfl, fun _ => ?_⟩
    exact Nat.add_le_add_left (due_le_one phase) _

/-- Notifications stay on until a process with other settings starts. -/
theorem notifies_step (hstep : step around before action = some after)
    (hurl : before.settings.ntfy_url ≠ "") (hnotifies : notifies action) :
    after.settings.ntfy_url ≠ "" := by
  have hsettle (ending : PassEnd) : (before.settle ending).settings = before.settings := by
    cases ending with
    | returned | failed | raised => rfl
  cases stepped hstep with
  | restart => exact hnotifies
  | closed | not_connected | not_closed => rwa [hsettle]
  | _ => exact hurl

theorem delivery_steps {actions : List Action} (h : Delivery around receipts phase before.world)
    (hpc : before.pc.InPass before.settings.toAnalyticsSettings phase)
    (hsteps : steps around actions before = some after) :
    ∃ receipts' phase', Delivery around receipts' phase' after.world ∧
      after.pc.InPass after.settings.toAnalyticsSettings phase' ∧
      (before.settings.ntfy_url ≠ "" → (∀ action ∈ actions, notifies action) →
        unposted_count receipts' after.world.db + phase.due ≤
          unposted_count receipts before.world.db + phase'.due + actions.countP interrupts) := by
  induction actions generalizing before receipts phase with
  | nil =>
    cases hsteps
    exact ⟨receipts, phase, h, hpc, fun _ _ => Nat.le_add_right _ _⟩
  | cons action actions ih =>
    obtain ⟨between, hstep, hrest⟩ := steps_cons.mp hsteps
    obtain ⟨receipts₁, phase₁, hdelivery, hbetween, hcount⟩ := delivery_step h hpc hstep
    obtain ⟨receipts₂, phase₂, hdelivery', hafter, hcount'⟩ := ih hdelivery hbetween hrest
    refine ⟨receipts₂, phase₂, hdelivery', hafter, fun hurl hnotifies => ?_⟩
    obtain ⟨hnow, hlater⟩ := List.forall_mem_cons.mp hnotifies
    have hstep_count := hcount hurl
    have hrest_count := hcount' (notifies_step hstep hurl hnow) hlater
    rw [List.countP_cons]
    cases hinterrupts : interrupts action with
    | true =>
      rw [hinterrupts, Bool.toNat_true] at hstep_count
      rw [if_pos rfl]
      omega
    | false =>
      rw [hinterrupts, Bool.toNat_false] at hstep_count
      rw [if_neg (by decide)]
      omega

theorem delivery_start (around : Surroundings) (settings : RunSettings) (clock : ℚ) :
    Delivery around [] .idle (started settings .fresh [] clock).world := by
  refine ⟨⟨rfl, List.nodup_nil, Log.lawful_nil, fun receipt hreceipt => ?_, fun row hrow => ?_⟩,
    List.nodup_nil, trivial⟩
  · exact absurd hreceipt List.not_mem_nil
  · exact absurd hrow List.not_mem_nil

/-- Whatever fails and whenever the process is killed, every notification is for
    a firing decision that was recorded before, and no decision has two. With
    notifications on, each interruption costs at most one post. -/
theorem alerts_posted_once (around : Surroundings) (settings : RunSettings) (clock : ℚ)
    {actions : List Action} {state : State}
    (h : steps around actions (started settings .fresh [] clock) = some state) :
    ∃ receipts, Delivered around receipts state.world ∧
      (settings.ntfy_url ≠ "" → (∀ action ∈ actions, notifies action) →
        unposted_count receipts state.world.db ≤ actions.countP interrupts + 1 ∧
          ((∀ rest, state.pc ≠ .passing rest) →
            unposted_count receipts state.world.db ≤ actions.countP interrupts)) := by
  obtain ⟨receipts, phase, hdelivery, hpc, hcount⟩ :=
    delivery_steps (delivery_start around settings clock) rfl h
  refine ⟨receipts, hdelivery.toDelivered, fun hurl hnotifies => ?_⟩
  have hunposted : unposted_count receipts state.world.db ≤ phase.due + actions.countP interrupts := by
    have hbound := hcount hurl hnotifies
    rwa [show unposted_count [] (started settings .fresh [] clock).world.db = 0 from rfl,
      show Announcing.idle.due = 0 from rfl, Nat.add_zero, Nat.zero_add] at hbound
  refine ⟨hunposted.trans ?_, fun hidle => ?_⟩
  · rw [Nat.add_comm]
    exact Nat.add_le_add_left (due_le_one phase) _
  · have hphase : phase = .idle := by
      unfold Pc.InPass at hpc
      split at hpc
      · exact hpc.1
      · next rest hat => exact absurd hat (hidle rest)
      · exact hpc
    rwa [hphase, show Announcing.idle.due = 0 from rfl, Nat.zero_add] at hunposted

/-- A dry planter, and a process that is killed right after its post. The next
    one finds the decision recorded. -/
def killed_after_post : List Action :=
  .commit (.insert_reading (reading_at planter_00 0 0)) :: List.replicate 10 .proceed ++
    .restart { ntfy_url := "ntfy" } :: List.replicate 11 .proceed

theorem alerts_posted_once_killed :
    ∃ state : State, state.world.sent.length = 1 ∧ state.passes = 1 ∧
      ∃ receipts, Delivered first_of_ties receipts state.world ∧
        unposted_count receipts state.world.db ≤ 2 := by
  have hrun : (steps first_of_ties killed_after_post (started { ntfy_url := "ntfy" } .fresh [] 0)).any
      (fun state => state.world.sent.length = 1 && state.passes = 1) = true := by
    decide +kernel
  obtain ⟨state, hsteps, hstate⟩ := (Option.any_eq_true _ _).mp hrun
  obtain ⟨hsent, hpasses⟩ := Bool.and_eq_true_iff.mp hstate
  have hnotifies : ∀ action ∈ killed_after_post, notifies action := by
    intro action haction
    cases List.mem_append.mp haction with
    | inl hfirst =>
      rcases List.mem_cons.mp hfirst with rfl | hproceed
      · trivial
      · rw [(List.mem_replicate.mp hproceed).2]
        trivial
    | inr hlast =>
      rcases List.mem_cons.mp hlast with rfl | hproceed
      · exact (by decide : ("ntfy" : String) ≠ "")
      · rw [(List.mem_replicate.mp hproceed).2]
        trivial
  obtain ⟨receipts, hdelivered, hcount⟩ :=
    alerts_posted_once first_of_ties { ntfy_url := "ntfy" } 0 hsteps
  exact ⟨state, of_decide_eq_true hsent, of_decide_eq_true hpasses, receipts, hdelivered,
    (hcount (by decide) hnotifies).1⟩

/-! ### Notifications that are off -/

/-- No process has notifications on. -/
def silent : Action → Prop
  | .restart settings => settings.ntfy_url = ""
  | _ => True

/-- The decision at hand is not to be posted. -/
def Announcing.Unposting : Announcing → Prop
  | .counted _ _ => False
  | _ => True

theorem unposting_after (hphase : phase.Unposting) (hurl : settings.ntfy_url = "")
    (hallowed : (pass_order settings).allowed phase effect) (response : effect.Response) :
    ((pass_order settings).after phase effect response).Unposting := by
  cases phase with
  | counted => exact hphase.elim
  | idle =>
    cases effect with
    | insert_alert_event decision =>
      cases response with
      | none | some => trivial
    | _ => trivial
  | recorded event_id decision =>
    cases effect with
    | count bump =>
      have hoff : ¬ (decision.state = .firing ∧ settings.ntfy_url ≠ "") := fun h => h.2 hurl
      simp only [pass_order, if_neg hoff]
      trivial
    | _ => exact hallowed.elim
  | posted event_id notification answer =>
    cases effect with
    | mark_notified marked error =>
      cases answer with
      | none | some => trivial
    | _ => exact hallowed.elim
  | failed => trivial

theorem sent_perform (hphase : phase.Unposting)
    (hallowed : (pass_order settings).allowed phase effect) :
    (perform around effect world).1.sent = world.sent := by
  cases effect with
  | post_ntfy notification =>
    cases phase with
    | counted => exact hphase.elim
    | idle | recorded | posted | failed => exact hallowed.elim
  | _ => rfl

/-- A process with notifications off is not about to post. -/
structure Silent (sent : List Notification) (phase : Announcing) (state : State) : Prop where
  off : state.settings.ntfy_url = ""
  sent : state.world.sent = sent
  unposting : phase.Unposting
  pc : state.pc.InPass state.settings.toAnalyticsSettings phase

theorem silent_step {sent : List Notification} (h : Silent sent phase before)
    (hsilent : silent action) (hstep : step around before action = some after) :
    ∃ phase', Silent sent phase' after := by
  obtain ⟨hoff, hsent, hphase, hpc⟩ := h
  have hsettle (ending : PassEnd) : Silent sent .idle (before.settle ending) := by
    refine ⟨?_, ?_, trivial, in_pass_settle _ before ending⟩
    · cases ending with
      | returned | failed | raised => exact hoff
    · rwa [settle_world]
  cases stepped hstep with
  | stopped hat | woke hat | returned hat | raised hat => exact ⟨.idle, hoff, hsent, trivial, rfl⟩
  | began hat => exact ⟨.idle, hoff, hsent, trivial, rfl, run_pass_follows _ _⟩
  | connected hat =>
    rw [hat] at hpc
    exact ⟨.idle, hoff, hsent, trivial, hpc.2⟩
  | executed hat =>
    rw [hat] at hpc
    obtain ⟨hallowed, hrest⟩ := hpc
    exact ⟨_, hoff, (sent_perform hphase hallowed).trans hsent,
      unposting_after hphase hoff hallowed _, hrest _⟩
  | closed hat | not_connected _ hat | not_closed _ hat => exact ⟨.idle, hsettle _⟩
  | failed took_effect hat =>
    rw [hat] at hpc
    refine ⟨.idle, hoff, ?_, trivial, rfl⟩
    cases took_effect with
    | false => exact hsent
    | true => exact (sent_perform hphase hpc.1).trans hsent
  | tick | set_stop | commit => exact ⟨phase, hoff, hsent, hphase, hpc⟩
  | restart settings => exact ⟨.idle, hsilent, hsent, trivial, rfl⟩

/-- Without a topic nothing is ever posted, whatever is decided and however
    often the process is started. -/
theorem nothing_posted_unset (around : Surroundings) (settings : RunSettings)
    (hoff : settings.ntfy_url = "") (db : Database) (sent : List Notification) (clock : ℚ)
    {actions : List Action} (hsilent : ∀ action ∈ actions, silent action) {state : State}
    (h : steps around actions (started settings db sent clock) = some state) :
    state.world.sent = sent := by
  suffices hrun : ∀ phase before, Silent sent phase before → steps around actions before = some state →
      ∃ phase', Silent sent phase' state by
    have hstart : Silent sent .idle (started settings db sent clock) := ⟨hoff, rfl, trivial, rfl⟩
    obtain ⟨phase, hstate⟩ := hrun .idle _ hstart h
    exact hstate.sent
  clear h
  induction actions with
  | nil =>
    intro phase before hbefore hsteps
    cases hsteps
    exact ⟨phase, hbefore⟩
  | cons action actions ih =>
    intro phase before hbefore hsteps
    obtain ⟨between, hstep, hrest⟩ := steps_cons.mp hsteps
    obtain ⟨hnow, hlater⟩ := List.forall_mem_cons.mp hsilent
    obtain ⟨phase', hbetween⟩ := silent_step hbefore hnow hstep
    exact ih hlater phase' between hbetween hrest

/-- The dry planter's decision is recorded, and nobody is told. -/
theorem nothing_posted_unset_dry :
    ∃ state : State, state.world.db.alert_events.rows.map (fun row => row.state) = [.firing] ∧
      state.world.sent = [] := by
  have hrun : (steps first_of_ties
      (.commit (.insert_reading (reading_at planter_00 0 0)) :: List.replicate 14 .proceed)
      (started {} .fresh [] 0)).any
      (fun state => state.world.db.alert_events.rows.map (fun row => row.state) = [.firing]) = true := by
    decide +kernel
  obtain ⟨state, hsteps, hstate⟩ := (Option.any_eq_true _ _).mp hrun
  refine ⟨state, of_decide_eq_true hstate, nothing_posted_unset first_of_ties {} rfl .fresh [] 0 ?_ hsteps⟩
  intro action haction
  rcases List.mem_cons.mp haction with rfl | hproceed
  · trivial
  · rw [(List.mem_replicate.mp hproceed).2]
    trivial

end planter_telemetry.analytics.service
