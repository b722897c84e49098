import PlanterTelemetry.Analytics.Contamination
import Mathlib.Data.List.Chain

open planter_telemetry.python

namespace planter_telemetry.analytics.model

variable {K : Type} [Field K] [LinearOrder K] [IsStrictOrderedRing K] [FloorRing K] {z a b : K}
  {samples : List (Point UtcDatetime K)}

/-! ### Values in steps of a tenth -/

/-- A sample whose value is a whole number of tenths, the nearest to the line or
    one of the two nearest. -/
def Quantized (a b : K) (sample : Point UtcDatetime K) : Prop :=
  ∃ tenths : Int, sample.value = tenths / 10 ∧ |sample.value - line a b sample.at_time| ≤ 1 / 20

theorem quantized_of_rounded {sample : Point UtcDatetime K}
    (h : sample.value = round_to 1 (line a b sample.at_time)) : Quantized a b sample := by
  have hround := abs_sub_round_half_even_le (line a b sample.at_time * 10)
  refine ⟨round_half_even (line a b sample.at_time * 10), by rw [h, round_to, pow_one], ?_⟩
  rw [h, round_to, pow_one]
  rw [abs_le] at *
  constructor
  · linarith [hround.2]
  · linarith [hround.1]

/-- `statistics.median_low`. -/
def median_low (values : List K) : K := (values.insertionSort (· ≤ ·)).getD ((values.length - 1) / 2) 0

omit [IsStrictOrderedRing K] [FloorRing K] in
theorem le_median_low_of_most {values : List K} {bound : K}
    (h : values.length < 2 * values.countP fun entry => decide (bound ≤ entry)) : bound ≤ median_low values := by
  have hlength : (values.insertionSort (· ≤ ·)).length = values.length := List.length_insertionSort _ _
  have hcount := (List.perm_insertionSort (· ≤ ·) values).countP_eq fun entry => decide (bound ≤ entry)
  have hbound := List.countP_le_length (p := fun entry => decide (bound ≤ entry)) (l := values)
  unfold median_low
  rw [List.getD_eq_getElem _ _ (by omega)]
  exact of_decide_eq_true (Rank.getElem_of_countP_great (p := fun entry => decide (bound ≤ entry))
    (fun hxy hx => decide_eq_true ((of_decide_eq_true hx).trans hxy)) (List.pairwise_insertionSort _ _)
    (by omega) (by omega))

/-- The hours between the samples of each pair. -/
def pair_hours (points : List (K × K)) : List K := (pairs points).map fun (p, q) => q.1 - p.1

omit [IsStrictOrderedRing K] [FloorRing K] in
/-- More than half of the values reach the low median. -/
theorem median_low_reached {values : List K} (hvalues : values ≠ []) :
    values.length < 2 * values.countP fun entry => decide (median_low values ≤ entry) := by
  have hpos := List.length_pos_of_ne_nil hvalues
  have hsorted := List.pairwise_insertionSort (· ≤ ·) values
  have hlength : (values.insertionSort (· ≤ ·)).length = values.length := List.length_insertionSort _ _
  have hcount := (List.perm_insertionSort (· ≤ ·) values).countP_eq
    fun entry => decide (median_low values ≤ entry)
  have hrank : (values.length - 1) / 2 < (values.insertionSort (· ≤ ·)).length := by omega
  have hmedian : median_low values = (values.insertionSort (· ≤ ·))[(values.length - 1) / 2] :=
    List.getD_eq_getElem _ _ hrank
  have hback : ((values.insertionSort (· ≤ ·)).drop ((values.length - 1) / 2)).countP
      (fun entry => decide (median_low values ≤ entry)) =
        ((values.insertionSort (· ≤ ·)).drop ((values.length - 1) / 2)).length := by
    rw [List.countP_eq_length]
    intro entry hmem
    obtain ⟨k, hk, rfl⟩ := List.getElem_of_mem hmem
    rw [List.length_drop] at hk
    rw [List.getElem_drop, hmedian]
    exact decide_eq_true (Rank.getElem_mono hsorted (by omega) (by omega))
  have hall : ((values.insertionSort (· ≤ ·)).drop ((values.length - 1) / 2)).countP
      (fun entry => decide (median_low values ≤ entry)) ≤
        (values.insertionSort (· ≤ ·)).countP fun entry => decide (median_low values ≤ entry) :=
    (List.drop_sublist _ _).countP_le
  rw [hback, List.length_drop, hlength, hcount] at hall
  omega

/-! ### The slopes of distant pairs -/

section Points

variable {c gap bound : K} {points : List (K × K)} {p q : K × K}

/-- A point in the tube around the line through `(0, c)` with slope `b`. -/
def InTube (b c : K) (point : K × K) : Prop := |point.2 - (c + b * point.1)| ≤ 1 / 20

omit [FloorRing K] in
/-- Two points in the tube are the closer to its slope the further apart they are. -/
theorem slope_of_distant (hp : InTube b c p) (hq : InTube b c q) (hbound : 0 < bound)
    (hdistant : bound ≤ q.1 - p.1) : |(q.2 - p.2) / (q.1 - p.1) - b| ≤ 1 / 10 / bound := by
  have hpos : 0 < q.1 - p.1 := hbound.trans_le hdistant
  have hslope : (q.2 - p.2) / (q.1 - p.1) - b =
      ((q.2 - (c + b * q.1)) - (p.2 - (c + b * p.1))) / (q.1 - p.1) := by
    rw [div_sub' hpos.ne']
    congr 1
    ring
  have herror : |(q.2 - (c + b * q.1)) - (p.2 - (c + b * p.1))| ≤ 1 / 10 := by
    calc |(q.2 - (c + b * q.1)) - (p.2 - (c + b * p.1))|
        ≤ |q.2 - (c + b * q.1)| + |p.2 - (c + b * p.1)| := abs_sub _ _
      _ ≤ 1 / 20 + 1 / 20 := add_le_add hq hp
      _ = 1 / 10 := by norm_num
  rw [hslope, abs_div, abs_of_pos hpos]
  exact div_le_div₀ (by norm_num) herror hbound hdistant

omit [FloorRing K] in
/-- If most pairs are distant, the median slope is as close as theirs. -/
theorem median_slope_of_distant (hpoints : points.Pairwise fun p q => p.1 < q.1)
    (htube : ∀ point ∈ points, InTube b c point) (hbound : 0 < bound)
    (hmost : (pair_hours points).length < 2 * (pair_hours points).countP fun hours => decide (bound ≤ hours)) :
    |median (slopes points) - b| ≤ 1 / 10 / bound := by
  have hperm := slopes_perm hpoints
  have hlength : (slopes points).length = (pair_hours points).length := by
    rw [hperm.length_eq, pair_hours, List.length_map, List.length_map]
  have hboth : points.Pairwise fun p q => InTube b c p ∧ InTube b c q :=
    List.pairwise_of_forall_mem_list fun p hp q hq => ⟨htube p hp, htube q hq⟩
  have hnear : ∀ pair ∈ pairs points, bound ≤ pair.2.1 - pair.1.1 →
      |(pair.2.2 - pair.1.2) / (pair.2.1 - pair.1.1) - b| ≤ 1 / 10 / bound := by
    intro pair hpair hdistant
    obtain ⟨hfirst, hsecond⟩ := forall_mem_pairs.mpr hboth pair hpair
    exact slope_of_distant hfirst hsecond hbound hdistant
  have hcount : ∀ close : K → Bool, (∀ slope, |slope - b| ≤ 1 / 10 / bound → close slope = true) →
      (pair_hours points).countP (fun hours => decide (bound ≤ hours)) ≤ (slopes points).countP close := by
    intro close hclose
    rw [hperm.countP_eq, pair_hours, List.countP_map, List.countP_map]
    apply List.countP_mono_left
    intro pair hpair hdistant
    exact hclose _ (hnear pair hpair (of_decide_eq_true hdistant))
  have hgreat := hcount (fun slope => decide (b - 1 / 10 / bound ≤ slope)) fun slope hslope =>
    decide_eq_true (by linarith [(abs_le.mp hslope).1])
  have hsmall := hcount (fun slope => decide (slope ≤ b + 1 / 10 / bound)) fun slope hslope =>
    decide_eq_true (by linarith [(abs_le.mp hslope).2])
  have hmost_great : (slopes points).length <
      2 * (slopes points).countP fun slope => decide (b - 1 / 10 / bound ≤ slope) := by omega
  have hmost_small : (slopes points).length <
      2 * (slopes points).countP fun slope => decide (slope ≤ b + 1 / 10 / bound) := by omega
  have hlow := le_median_of_most hmost_great
  have hhigh := median_le_of_most hmost_small
  rw [abs_le]
  constructor
  · linarith
  · linarith

omit [IsStrictOrderedRing K] [FloorRing K] in
theorem median_low_mem {values : List K} (hvalues : values ≠ []) : median_low values ∈ values := by
  have hpos := List.length_pos_of_ne_nil hvalues
  have hlength : (values.insertionSort (· ≤ ·)).length = values.length := List.length_insertionSort _ _
  unfold median_low
  rw [List.getD_eq_getElem _ _ (by omega), ← List.mem_insertionSort (· ≤ ·)]
  exact List.getElem_mem _

omit [FloorRing K] in
theorem pair_hours_pos (hpoints : points.Pairwise fun p q => p.1 < q.1) :
    ∀ hours ∈ pair_hours points, 0 < hours := by
  intro hours hmem
  obtain ⟨pair, hpair, rfl⟩ := List.mem_map.mp hmem
  exact sub_pos.mpr (forall_mem_pairs.mpr hpoints pair hpair)

/-! ### Evenly spaced points -/

omit [LinearOrder K] [IsStrictOrderedRing K] [FloorRing K] in
theorem even_getElem (heven : points.IsChain fun p q => q.1 - p.1 = gap) {i : Nat} (hi : i < points.length) :
    points[i].1 = points[0].1 + i * gap := by
  induction i with
  | zero => rw [Nat.cast_zero, zero_mul, add_zero]
  | succ i ih =>
    have hstep := List.isChain_iff_getElem.mp heven i hi
    rw [eq_add_of_sub_eq hstep, ih (by omega)]
    push_cast
    ring

omit [FloorRing K] in
/-- Of evenly spaced points each has few that are close behind it. -/
theorem close_pairs (hgap : 0 < gap) (heven : points.IsChain fun p q => q.1 - p.1 = gap) (near : Nat) :
    (pairs points).countP (fun (p, q) => decide (q.1 - p.1 < (near + 1) * gap)) ≤
      (points.length - 1) * near := by
  induction points with
  | nil => exact Nat.zero_le _
  | cons point rest ih =>
    have hrest := ih (List.isChain_cons.mp heven).2
    have hdrop : (rest.drop near).countP (fun q => decide (q.1 - point.1 < (near + 1) * gap)) = 0 := by
      rw [List.countP_eq_zero]
      intro q hq hclose
      obtain ⟨k, hk, rfl⟩ := List.getElem_of_mem hq
      rw [List.length_drop] at hk
      have hplace := even_getElem heven (show near + k + 1 < (point :: rest).length by
        rw [List.length_cons]
        omega)
      rw [List.getElem_cons_succ, List.getElem_cons_zero] at hplace
      have hclose := of_decide_eq_true hclose
      rw [List.getElem_drop, hplace, add_sub_cancel_left] at hclose
      have hfar : ((near : K) + 1) * gap ≤ ((near + k + 1 : Nat) : K) * gap := by
        refine mul_le_mul_of_nonneg_right ?_ hgap.le
        push_cast
        linarith [Nat.cast_nonneg (α := K) k]
      exact absurd hclose (not_lt.mpr hfar)
    have hfirst : rest.countP (fun q => decide (q.1 - point.1 < (near + 1) * gap)) ≤ near := by
      calc rest.countP (fun q => decide (q.1 - point.1 < (near + 1) * gap))
          = (rest.take near ++ rest.drop near).countP
              fun q => decide (q.1 - point.1 < (near + 1) * gap) := by rw [List.take_append_drop]
        _ = (rest.take near).countP fun q => decide (q.1 - point.1 < (near + 1) * gap) := by
            rw [List.countP_append, hdrop, Nat.add_zero]
        _ ≤ (rest.take near).length := List.countP_le_length
        _ ≤ near := List.length_take_le near rest
    rw [pairs, List.countP_append, List.countP_map, List.length_cons, Nat.add_sub_cancel]
    have hsum : rest.countP (fun q => decide (q.1 - point.1 < (near + 1) * gap)) +
        (pairs rest).countP (fun (p, q) => decide (q.1 - p.1 < (near + 1) * gap)) ≤ rest.length * near := by
      cases Nat.eq_zero_or_pos rest.length with
      | inl hzero =>
        rw [List.length_eq_zero_iff.mp hzero]
        exact Nat.zero_le _
      | inr hpos =>
        have hmul : rest.length * near = (rest.length - 1) * near + near := by
          rw [← Nat.succ_mul, Nat.succ_eq_add_one, Nat.sub_add_cancel hpos]
        omega
    exact hsum

omit [FloorRing K] in
/-- Evenly spaced points have a low median of at least a quarter of their span. -/
theorem quarter_span_le (hgap : 0 < gap) (heven : points.IsChain fun p q => q.1 - p.1 = gap)
    (htwo : 2 ≤ points.length) : ((points.length - 1 : Nat) : K) * gap / 4 ≤ median_low (pair_hours points) := by
  generalize hnear : (points.length - 2) / 4 = near
  have hclose := close_pairs hgap heven near
  have hquarter : ((points.length - 1 : Nat) : K) / 4 ≤ near + 1 := by
    have hnat : points.length - 1 ≤ 4 * (near + 1) := by omega
    have hcast : ((points.length - 1 : Nat) : K) ≤ ((4 * (near + 1) : Nat) : K) := Nat.cast_le.mpr hnat
    push_cast at hcast
    linarith
  have hfar : ((points.length - 1 : Nat) : K) * gap / 4 ≤ (near + 1) * gap := by
    have hmul := mul_le_mul_of_nonneg_right hquarter hgap.le
    linarith [hmul]
  have htotal : (pair_hours points).length = points.length * (points.length - 1) / 2 := by
    rw [pair_hours, List.length_map, pairs_length, Nat.choose_two_right]
  have hmost : (pair_hours points).length <
      2 * (pair_hours points).countP fun hours => decide ((near + 1) * gap ≤ hours) := by
    have hsplit := (pair_hours points).length_eq_countP_add_countP fun hours => decide ((near + 1) * gap ≤ hours)
    have hrest : (pair_hours points).countP (fun hours => decide ¬decide ((near + 1) * gap ≤ hours) = true) ≤
        (points.length - 1) * near := by
      refine le_trans (le_of_eq ?_) hclose
      rw [pair_hours, List.countP_map]
      apply List.countP_congr
      intro pair _
      simp only [Function.comp_apply, decide_eq_true_eq, not_le]
    have hpairs : (points.length - 1) * (4 * near) < points.length * (points.length - 1) := by
      calc (points.length - 1) * (4 * near) ≤ (points.length - 1) * (points.length - 2) :=
            Nat.mul_le_mul_left _ (by omega)
        _ < (points.length - 1) * points.length := Nat.mul_lt_mul_of_pos_left (by omega) (by omega)
        _ = points.length * (points.length - 1) := Nat.mul_comm _ _
    have hfour : (points.length - 1) * (4 * near) = 4 * ((points.length - 1) * near) := by ring
    have heven := Nat.even_mul_pred_self points.length
    obtain ⟨half, hhalf⟩ := heven
    omega
  exact hfar.trans (le_median_low_of_most hmost)

end Points

/-! ### The slope of quantized samples -/

omit [FloorRing K] in
/-- Evenly spaced samples have evenly spaced coordinates, over the fitted span. -/
theorem coordinates_even {interval : Int} {newest : Point UtcDatetime K}
    (heven : samples.IsChain fun p q => DataTime.since q.at_time p.at_time = interval)
    (hlast : samples.getLast? = some newest) (hsome : coordinates newest.at_time samples ≠ []) :
    (coordinates newest.at_time samples).IsChain (fun p q => q.1 - p.1 = total_seconds interval / 3600) ∧
      -((coordinates newest.at_time samples).headD (0, 0)).1 =
        ((samples.length - 1 : Nat) : K) * (total_seconds interval / 3600) := by
  have hsince : ∀ first second : UtcDatetime, DataTime.since first second = first.micros - second.micros :=
    fun _ _ => rfl
  have hchain : (coordinates newest.at_time samples).IsChain
      fun p q => q.1 - p.1 = total_seconds interval / 3600 := by
    unfold coordinates
    rw [List.isChain_map]
    apply heven.imp
    intro p q hstep
    rw [← hstep, hsince, hsince, hsince]
    unfold total_seconds
    push_cast
    ring
  refine ⟨hchain, ?_⟩
  have hlength : (coordinates newest.at_time samples).length = samples.length := List.length_map _
  have hpos := List.length_pos_of_ne_nil hsome
  have hplace := even_getElem hchain (show samples.length - 1 < (coordinates newest.at_time samples).length by
    omega)
  have hend : (coordinates newest.at_time samples)[samples.length - 1]? = some (0, newest.value) := by
    rw [coordinates, List.getElem?_map, ← List.getLast?_eq_getElem?, hlast, Option.map_some, hsince, sub_self]
    norm_num [total_seconds]
  rw [List.getElem?_eq_getElem (by omega), Option.some.injEq] at hend
  rw [hend] at hplace
  have hhead : (coordinates newest.at_time samples).headD (0, 0) = (coordinates newest.at_time samples)[0] := by
    rw [List.headD_eq_head?_getD, List.head?_eq_getElem?, List.getElem?_eq_getElem hpos, Option.getD_some]
  rw [hhead]
  linarith

/-- The slope of a quantized line is off by a tenth over the low median of the
    distances of all pairs, hence by four tenths over the span at even spacing. -/
theorem theil_sen_quantized (z a b : K) (samples : List (Point UtcDatetime K))
    (hthree : MIN_FIT_POINTS ≤ samples.length)
    (htimes : samples.Pairwise fun p q => p.at_time < q.at_time)
    (hquantized : ∀ sample ∈ samples, Quantized a b sample) :
    ∃ newest fit, samples.getLast? = some newest ∧ theil_sen z samples = some fit ∧
      0 < median_low (pair_hours (coordinates newest.at_time samples)) ∧
      |fit.slope_per_hour - b| ≤ 1 / 10 / median_low (pair_hours (coordinates newest.at_time samples)) ∧
      ∀ interval : Int, samples.IsChain (fun p q => DataTime.since q.at_time p.at_time = interval) →
        |fit.slope_per_hour - b| ≤ 4 / 10 / (fit.span_seconds / 3600) := by
  have hlong : 3 ≤ samples.length := hthree
  have hsome : samples ≠ [] := by
    rintro rfl
    cases hthree
  have hlast : samples.getLast? = some (samples.getLast hsome) := List.getLast?_eq_some_getLast hsome
  generalize samples.getLast hsome = newest at hlast
  have hpoints := coordinates_increasing newest.at_time htimes
  have hlength : (coordinates newest.at_time samples).length = samples.length := List.length_map _
  have htube : ∀ point ∈ coordinates newest.at_time samples, InTube b (line a b newest.at_time) point := by
    intro point hpoint
    obtain ⟨sample, hsample, rfl⟩ := List.mem_map.mp hpoint
    obtain ⟨tenths, -, hnear⟩ := hquantized sample hsample
    unfold InTube
    rwa [← line_eq]
  have hpairs : (pair_hours (coordinates newest.at_time samples)).length = samples.length.choose 2 := by
    rw [pair_hours, List.length_map, pairs_length, hlength]
  have hchoose := Nat.choose_pos (show 2 ≤ samples.length by omega)
  have hhours : pair_hours (coordinates newest.at_time samples) ≠ [] := by
    rw [← List.length_pos_iff]
    omega
  have hslopes : slopes (coordinates newest.at_time samples) ≠ [] := by
    rw [← List.length_pos_iff, slopes_length hpoints, hlength]
    exact hchoose
  have hpos := pair_hours_pos hpoints _ (median_low_mem hhours)
  have hslope := median_slope_of_distant hpoints htube hpos (median_low_reached hhours)
  refine ⟨newest, fit_of z newest.at_time samples, hlast,
    theil_sen_eq_some_iff.mpr ⟨newest, hlast, hthree, hslopes, rfl⟩, hpos, hslope, fun interval heven => ?_⟩
  have hcoordinates : coordinates newest.at_time samples ≠ [] := by
    rw [← List.length_pos_iff]
    omega
  obtain ⟨hchain, hspan⟩ := coordinates_even heven hlast hcoordinates
  have hgap : 0 < (total_seconds interval / 3600 : K) := by
    have hstep := List.isChain_iff_getElem.mp hchain 0 (by omega)
    have hless := List.pairwise_iff_getElem.mp hpoints 0 1 (by omega) (by omega) (by omega)
    rw [← hstep]
    exact sub_pos.mpr hless
  have hquarter := quarter_span_le hgap hchain (by omega)
  rw [hlength] at hquarter
  have hseconds : (fit_of z newest.at_time samples).span_seconds / 3600 =
      ((samples.length - 1 : Nat) : K) * (total_seconds interval / 3600) := by
    rw [← hspan]
    exact mul_div_cancel_right₀ _ (by norm_num)
  have hless : 0 < ((samples.length - 1 : Nat) : K) * (total_seconds interval / 3600) :=
    mul_pos (Nat.cast_pos.mpr (by omega)) hgap
  rw [hseconds]
  calc |(fit_of z newest.at_time samples).slope_per_hour - b|
      ≤ 1 / 10 / median_low (pair_hours (coordinates newest.at_time samples)) := hslope
    _ ≤ 1 / 10 / (((samples.length - 1 : Nat) : K) * (total_seconds interval / 3600) / 4) :=
        div_le_div_of_nonneg_left (by norm_num) (by linarith) hquarter
    _ = 4 / 10 / (((samples.length - 1 : Nat) : K) * (total_seconds interval / 3600)) := by
        field_simp

/-- Eight hourly samples of a line that falls 0.018 % an hour, each rounded to a
    tenth. -/
def slow_ramp : List (Point UtcDatetime ℚ) :=
  [⟨at_minute 0, 101 / 10⟩, ⟨at_minute 60, 10⟩, ⟨at_minute 120, 10⟩, ⟨at_minute 180, 10⟩,
    ⟨at_minute 240, 10⟩, ⟨at_minute 300, 10⟩, ⟨at_minute 360, 10⟩, ⟨at_minute 420, 99 / 10⟩]

theorem slow_ramp_rounded : ∀ sample ∈ slow_ramp,
    sample.value = round_to 1 (line (31954966 / 100) (-18 / 1000) sample.at_time) := by
  decide +kernel

theorem theil_sen_quantized_slow_ramp :
    ∃ newest fit, slow_ramp.getLast? = some newest ∧ theil_sen (49 / 25) slow_ramp = some fit ∧
      0 < median_low (pair_hours (coordinates newest.at_time slow_ramp)) ∧
      |fit.slope_per_hour - (-18 / 1000)| ≤
        1 / 10 / median_low (pair_hours (coordinates newest.at_time slow_ramp)) ∧
      ∀ interval : Int, slow_ramp.IsChain (fun p q => DataTime.since q.at_time p.at_time = interval) →
        |fit.slope_per_hour - (-18 / 1000)| ≤ 4 / 10 / (fit.span_seconds / 3600) :=
  theil_sen_quantized (49 / 25) (31954966 / 100) (-18 / 1000) slow_ramp (by decide) (by decide +kernel)
    fun sample hsample => quantized_of_rounded (slow_ramp_rounded sample hsample)

/-- More than half of the pairs of the slow ramp are level, so that its slope is
    zero, which is further off than a tenth over seven hours. -/
theorem theil_sen_misses_span_bound :
    ¬ ∀ (z a b : ℚ) (samples : List (Point UtcDatetime ℚ)) (fit : Fit UtcDatetime ℚ), b < 0 →
      MIN_FIT_POINTS ≤ samples.length → (samples.Pairwise fun p q => p.at_time < q.at_time) →
      (∀ sample ∈ samples, sample.value = round_to 1 (line a b sample.at_time)) →
      theil_sen z samples = some fit → |fit.slope_per_hour - b| ≤ 1 / 10 / (fit.span_seconds / 3600) := by
  intro h
  have hlevel : (theil_sen (49 / 25) slow_ramp).map (fun fit => (fit.slope_per_hour, fit.span_seconds)) =
      some (0, 25200) := by decide +kernel
  obtain ⟨fit, hfit, hvalues⟩ := Option.map_eq_some_iff.mp hlevel
  rw [Prod.mk.injEq] at hvalues
  have hbound := h (49 / 25) (31954966 / 100) (-18 / 1000) slow_ramp fit (by norm_num) (by decide)
    (by decide +kernel) slow_ramp_rounded hfit
  rw [hvalues.1, hvalues.2] at hbound
  norm_num at hbound

end planter_telemetry.analytics.model
