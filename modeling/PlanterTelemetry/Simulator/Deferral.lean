import PlanterTelemetry.Library.Fifo
import PlanterTelemetry.Simulator.Fleet

open planter_telemetry.python planter_telemetry.contract planter_telemetry.simulator.wire

namespace planter_telemetry.simulator.stream

/-! ### What the draws of a device decide -/

section Fates

variable (settings : SimulatorSettings)

def missed (draws : ImperfectionDraws) : Bool :=
  decide (draws.missed_roll.val < settings.missed_checkin_rate.val)

def malformed (draws : ImperfectionDraws) : Bool :=
  decide (draws.malformed_roll.val < settings.malformed_rate.val)

def duplicated (draws : ImperfectionDraws) : Bool :=
  decide (draws.duplicate_roll.val < settings.duplicate_rate.val)

def held_back (draws : ImperfectionDraws) : Bool :=
  !missed settings draws && decide (draws.defer_roll.val < settings.out_of_order_rate.val)

variable (draws : Nat → ImperfectionDraws)

/-- The wakes whose readings enter the deque. -/
def defers (wake : Nat) : Bool := held_back settings (draws wake)

/-- The wake at which a deferred reading may be released. -/
def due (wake : Nat) : Nat := wake + (draws wake).defer_wakes

/-- What becomes of the reading of a wake. -/
inductive Fate where
  | missed
  | normal (duplicated : Bool)
  | late (wake : Nat)
  deriving DecidableEq

def fate (wake : Nat) : Fate :=
  if missed settings (draws wake) then .missed
  else if held_back settings (draws wake) then .late (Fifo.release (defers settings draws) (due draws) wake)
  else .normal (duplicated settings (draws wake))

/-- The corruption modes that were taken before a wake. -/
def modes_taken : Nat → Nat
  | 0 => 0
  | wake + 1 =>
    if !missed settings (draws wake) && malformed settings (draws wake) then modes_taken wake + 1
    else modes_taken wake

/-- The corruption that is decided at a wake, for its own reading. -/
def own_corruption (wake : Nat) : Option CorruptionMode :=
  if malformed settings (draws wake) then some (corruption_modes (modes_taken settings draws wake)) else none

variable (series : Nat → TelemetryV1)

def own_emission (wake : Nat) : Emission :=
  ⟨(series wake).measured_at, series wake, own_corruption settings draws wake, .normal⟩

/-- A reading of an earlier wake, with the corruption that was decided there. -/
def late_emission (wake earlier : Nat) : Emission :=
  { own_emission settings draws series earlier with publish_at := (series wake).measured_at, kind := .late }

/-- What a wake emits of its own reading. -/
def own_emissions (wake : Nat) : List Emission :=
  match fate settings draws wake with
  | .normal true =>
    [own_emission settings draws series wake,
      { own_emission settings draws series wake with kind := .duplicate }]
  | .normal false => [own_emission settings draws series wake]
  | .missed | .late _ => []

/-- What a wake emits by the fates of the readings, each with the wake that its
    reading is from. -/
def accounted (wake : Nat) : List (Nat × Emission) :=
  (Fifo.leaving (defers settings draws) (due draws) wake).map
      (fun earlier => (earlier, late_emission settings draws series wake earlier)) ++
    (own_emissions settings draws series wake).map fun emission => (wake, emission)

/-- The wakes whose readings are still deferred after so many wakes. -/
def still_deferred (wakes : Nat) : List Nat := Fifo.waiting (defers settings draws) (due draws) wakes

/-- The state before a wake, by the fates of the readings. -/
def state_before (wake : Nat) : EmitterState where
  modes := modes_taken settings draws wake
  deferred := (still_deferred settings draws wake).map fun earlier =>
    (due draws earlier, own_emission settings draws series earlier)

end Fates

/-! ### The generator follows the fates -/

section Follows

variable {settings : SimulatorSettings} {draws : Nat → ImperfectionDraws}
  {readings : Nat → Except Rejection TelemetryV1} {series : Nat → TelemetryV1} {wakes wake k : Nat}

theorem defers_due (draws : Nat → ImperfectionDraws) (wake : Nat) :
    wake < due draws wake ∧ due draws wake ≤ wake + 3 := by
  obtain ⟨hlow, hhigh⟩ := (draws wake).defer_wakes.property
  unfold due
  omega

theorem released_eq (settings : SimulatorSettings) (draws : Nat → ImperfectionDraws)
    (series : Nat → TelemetryV1) (wake : Nat) :
    ((state_before settings draws series wake).deferred.takeWhile fun held => held.1 ≤ wake).map
        (fun (_, held) => (⟨(series wake).measured_at, held.reading, held.corruption, .late⟩ : Emission)) =
      (Fifo.leaving (defers settings draws) (due draws) wake).map (late_emission settings draws series wake) := by
  have hsplit : (still_deferred settings draws wake).takeWhile (fun k => due draws k ≤ wake) =
      Fifo.leaving (defers settings draws) (due draws) wake := (Fifo.waiting_split wake).1
  rw [state_before, List.takeWhile_map, List.map_map, ← hsplit]
  rfl

theorem kept_eq (settings : SimulatorSettings) (draws : Nat → ImperfectionDraws)
    (series : Nat → TelemetryV1) (wake : Nat) :
    (state_before settings draws series (wake + 1)).deferred =
      ((state_before settings draws series wake).deferred.dropWhile fun held => held.1 ≤ wake) ++
        if defers settings draws wake then [(due draws wake, own_emission settings draws series wake)] else [] := by
  have hsucc : still_deferred settings draws (wake + 1) =
      (still_deferred settings draws wake).dropWhile (fun k => due draws k ≤ wake) ++
        if defers settings draws wake then [wake] else [] :=
    Fifo.waiting_succ (fun j _ => (defers_due draws j).1) wake
  rw [state_before, state_before, hsucc, List.map_append, List.dropWhile_map]
  cases defers settings draws wake with
  | true => rfl
  | false => rfl

/-- One turn of the loop emits what the fates say. -/
theorem wake_emissions_accounted (settings : SimulatorSettings) (draws : Nat → ImperfectionDraws)
    (series : Nat → TelemetryV1) (wake : Nat) :
    wake_emissions settings (draws wake) wake (series wake) (state_before settings draws series wake) =
      ((accounted settings draws series wake).map Prod.snd, state_before settings draws series (wake + 1)) := by
  have hkept := kept_eq settings draws series wake
  have hsent : (accounted settings draws series wake).map Prod.snd =
      (Fifo.leaving (defers settings draws) (due draws) wake).map (late_emission settings draws series wake) ++
        own_emissions settings draws series wake := by
    rw [accounted, List.map_append, List.map_map, List.map_map]
    exact congrArg _ (List.map_id _)
  rw [hsent, ← released_eq]
  unfold wake_emissions
  simp only
  have hmodes : (state_before settings draws series wake).modes = modes_taken settings draws wake := rfl
  have hstate : ∀ state : EmitterState, state.modes = modes_taken settings draws (wake + 1) →
      state.deferred = (state_before settings draws series (wake + 1)).deferred →
      state = state_before settings draws series (wake + 1) := by
    rintro ⟨modes, deferred⟩ rfl rfl
    rfl
  by_cases hmissed : (draws wake).missed_roll.val < settings.missed_checkin_rate.val
  · have hfate : missed settings (draws wake) = true := decide_eq_true hmissed
    have hdefers : defers settings draws wake = false := by
      rw [defers, held_back, hfate, Bool.not_true, Bool.false_and]
    have hown : own_emissions settings draws series wake = [] := by rw [own_emissions, fate, if_pos hfate]
    rw [hdefers, if_neg Bool.false_ne_true, List.append_nil] at hkept
    rw [if_pos hmissed, hown, List.append_nil, Prod.mk.injEq]
    refine ⟨rfl, hstate _ ?_ hkept.symm⟩
    rw [hmodes, modes_taken, hfate, Bool.not_true, Bool.false_and, if_neg Bool.false_ne_true]
  · have hfate : missed settings (draws wake) = false := decide_eq_false hmissed
    have hnext : modes_taken settings draws (wake + 1) = if malformed settings (draws wake) = true
        then modes_taken settings draws wake + 1 else modes_taken settings draws wake := by
      rw [modes_taken, hfate, Bool.not_false, Bool.true_and]
    rw [if_neg hmissed]
    by_cases hdefer : (draws wake).defer_roll.val < settings.out_of_order_rate.val
    · have hheld : held_back settings (draws wake) = true := by
        rw [held_back, hfate, Bool.not_false, Bool.true_and]
        exact decide_eq_true hdefer
      have hown : own_emissions settings draws series wake = [] := by
        rw [own_emissions, fate, hfate, if_neg Bool.false_ne_true, if_pos hheld]
      rw [defers, if_pos hheld] at hkept
      rw [if_pos hdefer, hown, List.append_nil, Prod.mk.injEq]
      exact ⟨rfl, hstate _ hnext.symm hkept.symm⟩
    · have hheld : held_back settings (draws wake) = false := by
        rw [held_back, hfate, Bool.not_false, Bool.true_and]
        exact decide_eq_false hdefer
      have hnormal : fate settings draws wake = .normal (duplicated settings (draws wake)) := by
        rw [fate, hfate, if_neg Bool.false_ne_true, hheld, if_neg Bool.false_ne_true]
      rw [defers, hheld, if_neg Bool.false_ne_true, List.append_nil] at hkept
      rw [if_neg hdefer]
      by_cases htwice : (draws wake).duplicate_roll.val < settings.duplicate_rate.val
      · have hdouble : duplicated settings (draws wake) = true := decide_eq_true htwice
        rw [if_pos htwice, own_emissions, hnormal, hdouble, Prod.mk.injEq]
        exact ⟨rfl, hstate _ hnext.symm hkept.symm⟩
      · have hsingle : duplicated settings (draws wake) = false := decide_eq_false htwice
        rw [if_neg htwice, own_emissions, hnormal, hsingle, Prod.mk.injEq]
        exact ⟨rfl, hstate _ hnext.symm hkept.symm⟩

/-- The generator's state follows the fates for as long as there are readings. -/
theorem emitter_at_accounted (h : ∀ k < wakes, readings k = .ok (series k)) :
    emitter_at settings draws readings wakes = .ok (state_before settings draws series wakes) := by
  induction wakes with
  | zero => rfl
  | succ wakes ih =>
    have hstate := ih fun k hk => h k (by omega)
    refine emitter_at_succ_eq_ok_iff.mpr ⟨_, _, hstate, h wakes (by omega), ?_⟩
    rw [wake_emissions_accounted]

theorem device_emissions_eq (h : ∀ k < wakes, readings k = .ok (series k)) (hwake : wake < wakes) :
    device_emissions settings draws readings wake = .ok ((accounted settings draws series wake).map Prod.snd) := by
  have hstate : emitter_at settings draws readings wake = .ok (state_before settings draws series wake) :=
    emitter_at_accounted fun k hk => h k (by omega)
  refine device_emissions_eq_ok_iff.mpr ⟨_, _, hstate, h wake hwake, ?_⟩
  rw [wake_emissions_accounted]

end Follows

/-! ### What was sent of a reading -/

section Sent

variable (settings : SimulatorSettings) (draws : Nat → ImperfectionDraws) (series : Nat → TelemetryV1)

/-- All that a device emits in its first wakes. -/
def first_emissions (wakes : Nat) : List (Nat × Emission) :=
  (List.range wakes).flatMap (accounted settings draws series)

/-- The emissions of one reading among them. -/
def sent (wakes k : Nat) : List Emission :=
  ((first_emissions settings draws series wakes).filter fun entry => entry.1 = k).map Prod.snd

/-- The late emissions among them. -/
def lates (wakes : Nat) : List (Nat × Emission) :=
  (first_emissions settings draws series wakes).filter fun entry => entry.2.kind = .late

/-- A reading was missed, was sent at its own wake, or was deferred: then it was
    sent one to three wakes later, or will be. -/
def Accounted (wakes k : Nat) : Prop :=
  match fate settings draws k with
  | .missed => sent settings draws series wakes k = [] ∧ k ∉ still_deferred settings draws wakes
  | .normal duplicated =>
    sent settings draws series wakes k = own_emission settings draws series k ::
        (if duplicated then [{ own_emission settings draws series k with kind := .duplicate }] else []) ∧
      k ∉ still_deferred settings draws wakes
  | .late wake => k + 1 ≤ wake ∧ wake ≤ k + 3 ∧
    if wake < wakes then
      sent settings draws series wakes k = [late_emission settings draws series wake k] ∧
        k ∉ still_deferred settings draws wakes
    else sent settings draws series wakes k = [] ∧ k ∈ still_deferred settings draws wakes

variable {settings draws series} {wakes wake k : Nat}

theorem fate_late_iff : fate settings draws k = .late wake ↔
    defers settings draws k = true ∧ Fifo.release (defers settings draws) (due draws) k = wake := by
  unfold fate defers held_back
  cases missed settings (draws k) with
  | true => simp
  | false =>
    cases decide ((draws k).defer_roll.val < settings.out_of_order_rate.val) with
    | true => simp
    | false => simp

theorem own_emissions_late (h : fate settings draws k = .late wake) :
    own_emissions settings draws series k = [] := by
  rw [own_emissions, h]

theorem mem_leaving_iff : k ∈ Fifo.leaving (defers settings draws) (due draws) wake ↔
    fate settings draws k = .late wake := by
  rw [Fifo.mem_leaving, fate_late_iff]
  constructor
  · exact fun h => h.2
  · rintro ⟨hdefers, rfl⟩
    exact ⟨(Fifo.release_bound (fun j _ => defers_due draws j) hdefers).1, hdefers, rfl⟩

theorem mem_still_deferred : k ∈ still_deferred settings draws wakes ↔
    k < wakes ∧ ∃ wake, fate settings draws k = .late wake ∧ wakes ≤ wake := by
  simp only [still_deferred, Fifo.mem_waiting, fate_late_iff]
  exact ⟨fun ⟨hk, hdefers, hwaits⟩ => ⟨hk, _, ⟨hdefers, rfl⟩, hwaits⟩,
    fun ⟨hk, _, ⟨hdefers, heq⟩, hwaits⟩ => ⟨hk, hdefers, heq ▸ hwaits⟩⟩

/-- Of one reading a wake emits a late copy, or its own emissions. -/
theorem accounted_of (settings : SimulatorSettings) (draws : Nat → ImperfectionDraws)
    (series : Nat → TelemetryV1) (wake k : Nat) :
    ((accounted settings draws series wake).filter fun entry => entry.1 = k).map Prod.snd =
      (if fate settings draws k = .late wake then [late_emission settings draws series wake k] else []) ++
        if wake = k then own_emissions settings draws series k else [] := by
  rw [accounted, List.filter_append, List.map_append, List.filter_map, List.filter_map, List.map_map, List.map_map]
  congr 1
  · have hnodup : (Fifo.leaving (defers settings draws) (due draws) wake).Nodup :=
      (List.pairwise_lt_range.filter _).imp fun hlt => hlt.ne
    have hone : (Fifo.leaving (defers settings draws) (due draws) wake).filter (fun earlier => decide (earlier = k)) =
        if fate settings draws k = .late wake then [k] else [] := by
      rw [List.filter_eq]
      split
      · next hlate => rw [List.count_eq_one_of_mem hnodup (mem_leaving_iff.mpr hlate), List.replicate_one]
      · next hlate =>
        rw [List.count_eq_zero_of_not_mem fun hmem => hlate (mem_leaving_iff.mp hmem), List.replicate_zero]
    change List.map (late_emission settings draws series wake) (List.filter (fun earlier => decide (earlier = k)) _) = _
    rw [hone]
    split
    · rfl
    · rfl
  · by_cases hsame : wake = k
    · subst hsame
      rw [if_pos rfl, List.filter_eq_self.mpr]
      · exact List.map_id _
      · exact fun emission _ => decide_eq_true rfl
    · rw [if_neg hsame, List.filter_eq_nil_iff.mpr]
      · rfl
      · exact fun emission _ hwake => hsame (of_decide_eq_true hwake)

/-- Over a range, what only one index contributes to. -/
theorem flatMap_range_single {α : Type} {f : Nat → List α} {count : Nat} (index : Nat)
    (h : ∀ other < count, other ≠ index → f other = []) :
    (List.range count).flatMap f = if index < count then f index else [] := by
  induction count with
  | zero => rfl
  | succ count ih =>
    rw [List.range_succ, List.flatMap_append, ih fun other hother => h other (by omega), List.flatMap_singleton]
    rcases Nat.lt_trichotomy index count with hlt | rfl | hgt
    · rw [if_pos hlt, if_pos (by omega), h count (by omega) (by omega), List.append_nil]
    · rw [if_neg (lt_irrefl _), if_pos (by omega), List.nil_append]
    · rw [if_neg (by omega), if_neg (by omega), h count (by omega) (by omega), List.append_nil]

theorem sent_eq (settings : SimulatorSettings) (draws : Nat → ImperfectionDraws) (series : Nat → TelemetryV1)
    (wakes k : Nat) :
    sent settings draws series wakes k = (List.range wakes).flatMap fun wake =>
      (if fate settings draws k = .late wake then [late_emission settings draws series wake k] else []) ++
        if wake = k then own_emissions settings draws series k else [] := by
  rw [sent, first_emissions, List.filter_flatMap, List.map_flatMap]
  exact congrArg (List.flatMap · _) (funext fun wake => accounted_of settings draws series wake k)

/-- Each reading is accounted for. -/
theorem accounted_for (settings : SimulatorSettings) (draws : Nat → ImperfectionDraws)
    (series : Nat → TelemetryV1) (hk : k < wakes) : Accounted settings draws series wakes k := by
  unfold Accounted
  have hsent := sent_eq settings draws series wakes k
  cases hfate : fate settings draws k with
  | missed =>
    have hnone : own_emissions settings draws series k = [] := by rw [own_emissions, hfate]
    simp only [hfate, hnone, ite_self, List.append_nil, reduceCtorEq, if_false] at hsent
    refine ⟨hsent.trans (List.flatMap_eq_nil_iff.mpr fun _ _ => rfl), fun hmem => ?_⟩
    obtain ⟨-, _, hlate, -⟩ := mem_still_deferred.mp hmem
    rw [hfate] at hlate
    cases hlate
  | normal duplicated =>
    simp only [hfate, reduceCtorEq, if_false, List.nil_append] at hsent
    rw [flatMap_range_single k fun other _ hne => if_neg hne, if_pos hk, if_pos rfl, own_emissions,
      hfate] at hsent
    refine ⟨?_, fun hmem => ?_⟩
    · cases duplicated with
      | true => exact hsent
      | false => exact hsent
    · obtain ⟨-, _, hlate, -⟩ := mem_still_deferred.mp hmem
      rw [hfate] at hlate
      cases hlate
  | late wake =>
    obtain ⟨hdefers, hrelease⟩ := fate_late_iff.mp hfate
    obtain ⟨hlow, hhigh⟩ := Fifo.release_bound (fun j _ => defers_due draws j) hdefers
    rw [hrelease] at hlow hhigh
    simp only [hfate, own_emissions_late hfate, ite_self, List.append_nil, Fate.late.injEq] at hsent
    rw [flatMap_range_single wake fun other _ hne => if_neg (Ne.symm hne), if_pos rfl] at hsent
    refine ⟨hlow, hhigh, ?_⟩
    split
    · next hreleased =>
      refine ⟨hsent.trans (if_pos hreleased), fun hmem => ?_⟩
      obtain ⟨-, other, hother, hwaits⟩ := mem_still_deferred.mp hmem
      obtain rfl := Fate.late.inj (hfate.symm.trans hother)
      omega
    · next hwaits =>
      exact ⟨hsent.trans (if_neg hwaits), mem_still_deferred.mpr ⟨hk, wake, hfate, by omega⟩⟩

/-! ### The order of the late emissions -/

theorem own_emissions_kind {emission : Emission} (h : emission ∈ own_emissions settings draws series wake) :
    emission.kind ≠ .late := by
  unfold own_emissions at h
  cases hfate : fate settings draws wake with
  | missed | late =>
    rw [hfate] at h
    cases h
  | normal duplicated =>
    rw [hfate] at h
    cases duplicated with
    | true =>
      simp only [List.mem_cons, List.not_mem_nil, or_false] at h
      obtain rfl | rfl := h
      · exact nofun
      · exact nofun
    | false =>
      rw [List.mem_singleton.mp h]
      exact nofun

/-- The late emissions are of the readings that leave the deque, in its order. -/
theorem lates_eq (settings : SimulatorSettings) (draws : Nat → ImperfectionDraws)
    (series : Nat → TelemetryV1) (wakes : Nat) :
    lates settings draws series wakes = (List.range wakes).flatMap fun wake =>
      (Fifo.leaving (defers settings draws) (due draws) wake).map
        fun earlier => (earlier, late_emission settings draws series wake earlier) := by
  rw [lates, first_emissions, List.filter_flatMap]
  refine congrArg (List.flatMap · _) (funext fun wake => ?_)
  rw [accounted, List.filter_append, List.filter_eq_self.mpr, List.filter_eq_nil_iff.mpr, List.append_nil]
  · intro entry hmem hlate
    obtain ⟨emission, hemission, rfl⟩ := List.mem_map.mp hmem
    exact own_emissions_kind hemission (of_decide_eq_true hlate)
  · intro entry hmem
    obtain ⟨earlier, -, rfl⟩ := List.mem_map.mp hmem
    exact decide_eq_true rfl

theorem lates_in_order (settings : SimulatorSettings) (draws : Nat → ImperfectionDraws)
    (series : Nat → TelemetryV1) (wakes : Nat) :
    (lates settings draws series wakes).Pairwise fun first second => first.1 < second.1 := by
  have hwakes : (lates settings draws series wakes).map Prod.fst =
      (List.range wakes).flatMap (Fifo.leaving (defers settings draws) (due draws)) := by
    rw [lates_eq, List.map_flatMap]
    refine congrArg (List.flatMap · _) (funext fun wake => ?_)
    rw [List.map_map]
    exact List.map_id _
  rw [← List.pairwise_map, hwakes]
  exact Fifo.leaving_in_order wakes

theorem lates_readings {entry : Nat × Emission} (h : entry ∈ lates settings draws series wakes) :
    entry.1 < wakes ∧ entry.2.reading = series entry.1 := by
  rw [lates_eq] at h
  obtain ⟨wake, hwake, hentry⟩ := List.mem_flatMap.mp h
  obtain ⟨earlier, hleaving, rfl⟩ := List.mem_map.mp hentry
  have hbefore := (Fifo.mem_leaving.mp hleaving).1
  rw [List.mem_range] at hwake
  exact ⟨hbefore.trans hwake, rfl⟩

/-- The generator emits what the fates of the readings say: each of the first
    readings is accounted for, at most three of the last three wakes are still
    deferred, and the late ones leave in the order of their readings. -/
theorem device_emissions_accounted (settings : SimulatorSettings) (draws : Nat → ImperfectionDraws)
    (readings : Nat → Except Rejection TelemetryV1) (series : Nat → TelemetryV1) (wakes : Nat)
    (h : ∀ k < wakes, readings k = .ok (series k)) :
    (∀ wake < wakes, device_emissions settings draws readings wake =
        .ok ((accounted settings draws series wake).map Prod.snd)) ∧
      (∀ k < wakes, Accounted settings draws series wakes k) ∧
      (∃ state, emitter_at settings draws readings wakes = .ok state ∧
        state.deferred.map Prod.snd =
          (still_deferred settings draws wakes).map (own_emission settings draws series)) ∧
      (still_deferred settings draws wakes).length ≤ 3 ∧
      (∀ k ∈ still_deferred settings draws wakes, wakes ≤ k + 3) ∧
      ((lates settings draws series wakes).Pairwise fun first second => first.1 < second.1) ∧
      ∀ R : UtcDatetime → UtcDatetime → Prop,
        (∀ j k, j < k → k < wakes → R (series j).measured_at (series k).measured_at) →
        (lates settings draws series wakes).Pairwise fun first second =>
          R first.2.reading.measured_at second.2.reading.measured_at := by
  have hwaiting : (∀ k ∈ still_deferred settings draws wakes, wakes ≤ k + 3) ∧
      (still_deferred settings draws wakes).length ≤ 3 := Fifo.waiting_recent fun j _ => defers_due draws j
  obtain ⟨hrecent, hfew⟩ := hwaiting
  refine ⟨fun wake hwake => device_emissions_eq h hwake, fun k hk => accounted_for settings draws series hk,
    ⟨_, emitter_at_accounted h, ?_⟩, hfew, hrecent, lates_in_order settings draws series wakes, fun R hR => ?_⟩
  · rw [state_before, List.map_map]
    rfl
  · refine (lates_in_order settings draws series wakes).imp_of_mem fun {first second} hfirst hsecond hlt => ?_
    rw [(lates_readings hfirst).2, (lates_readings hsecond).2]
    exact hR _ _ hlt (lates_readings hsecond).1

end Sent

/-- Every reading is deferred: the first one for three wakes, the others for one. -/
def deferring_settings : SimulatorSettings :=
  { steady_settings ⟨1, by decide⟩ with out_of_order_rate := 1 }

def deferring_draws (wake : Nat) : ImperfectionDraws :=
  { (low_draws 0).imperfections wake with
    defer_wakes := if wake = 0 then 3 else 1 }

def hourly_reading (wake : Nat) : TelemetryV1 where
  device_id := ⟨"planter-00", matches_planter_00⟩
  measured_at := at_minute (Fin.ofNat _ (60 * wake))
  water_level := ⟨.finite 50, by decide +kernel⟩
  battery_voltage := ⟨.finite (37 / 10), charged_in_range⟩

/-- The first reading holds up the two behind it. -/
example : (List.range 4).map (fate deferring_settings deferring_draws) = [.late 3, .late 3, .late 3, .late 4] := by
  decide +kernel

theorem device_emissions_accounted_deferring :
    (∀ wake < 4, device_emissions deferring_settings deferring_draws (fun k => .ok (hourly_reading k)) wake =
        .ok ((accounted deferring_settings deferring_draws hourly_reading wake).map Prod.snd)) ∧
      (∀ k < 4, Accounted deferring_settings deferring_draws hourly_reading 4 k) := by
  have haccounted := device_emissions_accounted deferring_settings deferring_draws
    (fun k => .ok (hourly_reading k)) hourly_reading 4 fun _ _ => rfl
  exact ⟨haccounted.1, haccounted.2.1⟩

end planter_telemetry.simulator.stream
