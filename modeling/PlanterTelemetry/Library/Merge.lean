import Mathlib.Algebra.BigOperators.Intervals
import Mathlib.Algebra.Order.BigOperators.Group.Finset

/-- A lazy merge at work: the items at hand of each stream, how many bursts of
    it were taken, and the output so far with the stream of each item. -/
structure Merging (α : Type) where
  queues : Nat → List α
  pulled : Nat → Nat
  out : List (Nat × α)

namespace Merging

variable {α κ : Type}

def start : Merging α := ⟨fun _ => [], fun _ => 0, []⟩

/-- The first stream without an item at hand. -/
def starved (count : Nat) (state : Merging α) : Option Nat :=
  (List.range count).find? fun i => (state.queues i).isEmpty

variable [LinearOrder κ] (key : α → κ)

/-- The least item at hand, the first of them in the order of the streams. -/
def pick (queues : Nat → List α) : List Nat → Option (Nat × α)
  | [] => none
  | i :: rest =>
    match queues i, pick queues rest with
    | [], least => least
    | item :: _, none => some (i, item)
    | item :: _, some (j, other) => if key item ≤ key other then some (i, item) else some (j, other)

/-- A stream is a sequence of bursts, `none` from where it fails. The merge needs
    an item of every stream before it gives one out. -/
def step (count : Nat) (source : Nat → Nat → Option (List α)) (state : Merging α) :
    Option (Merging α) :=
  match state.starved count with
  | some i => (source i (state.pulled i)).map fun burst =>
      { state with queues := Function.update state.queues i burst
                   pulled := Function.update state.pulled i (state.pulled i + 1) }
  | none => (pick key state.queues (List.range count)).map fun (i, item) =>
      { state with queues := Function.update state.queues i (state.queues i).tail
                   out := state.out ++ [(i, item)] }

def run (count : Nat) (source : Nat → Nat → Option (List α)) : Nat → Option (Merging α)
  | 0 => some start
  | steps + 1 => (run count source steps).bind (step key count source)

/-- The items of a stream in its first bursts. -/
def taken (source : Nat → Nat → Option (List α)) (i bursts : Nat) : List α :=
  (List.range bursts).flatMap fun n => (source i n).getD []

/-- The items that an output has of one stream. -/
def own (i : Nat) (out : List (Nat × α)) : List α :=
  (out.filter fun x => x.1 = i).map Prod.snd

/-- The order of a stable merge: by key, then by stream. -/
def Before (x y : Nat × α) : Prop := key x.2 < key y.2 ∨ (key x.2 = key y.2 ∧ x.1 ≤ y.1)


/-! ### Operations and their parts -/

section Parts

variable {source : Nat → Nat → Option (List α)} {state after : Merging α} {count i j : Nat}
  {out : List (Nat × α)} {item other : α}

theorem starved_eq_some (h : state.starved count = some i) : i < count ∧ state.queues i = [] := by
  unfold starved at h
  have hmem := List.mem_of_find?_eq_some h
  have hempty := List.find?_some h
  exact ⟨List.mem_range.mp hmem, List.isEmpty_iff.mp hempty⟩

theorem starved_eq_none :
    state.starved count = none ↔ ∀ j, j < count → state.queues j ≠ [] := by
  simp [starved, List.find?_eq_none]

theorem taken_succ (source : Nat → Nat → Option (List α)) (i bursts : Nat) :
    taken source i (bursts + 1) = taken source i bursts ++ (source i bursts).getD [] := by
  simp [taken, List.range_succ]

theorem taken_grows (source : Nat → Nat → Option (List α)) (i : Nat) {fewer bursts : Nat}
    (h : fewer ≤ bursts) : taken source i fewer <+: taken source i bursts := by
  induction h with
  | refl => exact List.prefix_refl _
  | step _ ih =>
    rw [taken_succ]
    exact ih.trans (List.prefix_append _ _)

@[simp] theorem own_nil (i : Nat) : own i ([] : List (Nat × α)) = [] := rfl

theorem own_append (i : Nat) (first second : List (Nat × α)) :
    own i (first ++ second) = own i first ++ own i second := by
  simp [own]

@[simp] theorem own_singleton (i j : Nat) (item : α) :
    own i [(j, item)] = if j = i then [item] else [] := by
  by_cases h : j = i <;> simp [own, h]

theorem mem_own : item ∈ own i out ↔ (i, item) ∈ out := by
  simp [own]

theorem Before.trans {x y z : Nat × α} (hxy : Before key x y) (hyz : Before key y z) :
    Before key x z := by
  rcases hxy with hlt | ⟨heq, hle⟩
  · rcases hyz with hlt' | ⟨heq', -⟩
    · exact .inl (hlt.trans hlt')
    · exact .inl (heq' ▸ hlt)
  · rcases hyz with hlt' | ⟨heq', hle'⟩
    · exact .inl (heq ▸ hlt')
    · exact .inr ⟨heq.trans heq', hle.trans hle'⟩

/-- Two items before each other belong to one stream. -/
theorem Before.stream_eq {x y : Nat × α} (hxy : Before key x y) (hyx : Before key y x) :
    x.1 = y.1 := by
  rcases hxy with hlt | ⟨heq, hle⟩
  · rcases hyx with hgt | ⟨heq, -⟩
    · exact absurd hlt hgt.not_gt
    · exact absurd hlt (heq ▸ lt_irrefl _)
  · rcases hyx with hgt | ⟨-, hge⟩
    · exact absurd hgt (heq ▸ lt_irrefl _)
    · exact Nat.le_antisymm hle hge

/-- Within one stream the order is that of the keys. -/
theorem Before.of_le (h : key item ≤ key other) : Before key (i, item) (i, other) :=
  (lt_or_eq_of_le h).imp id fun heq => ⟨heq, Nat.le_refl i⟩

theorem pick_eq_none_iff {queues : Nat → List α} {streams : List Nat} :
    pick key queues streams = none ↔ ∀ j ∈ streams, queues j = [] := by
  induction streams with
  | nil => simp [pick]
  | cons first rest ih =>
    rw [List.forall_mem_cons, ← ih, pick]
    cases queues first with
    | nil => simp
    | cons item more =>
      cases pick key queues rest with
      | none => simp
      | some least =>
        simp only [reduceCtorEq, false_and, iff_false]
        split <;> simp

theorem pick_eq_some {queues : Nat → List α} {streams : List Nat} (hstreams : streams.Pairwise (· < ·))
    (h : pick key queues streams = some (i, item)) :
    i ∈ streams ∧ (∃ rest, queues i = item :: rest) ∧
      ∀ j ∈ streams, ∀ other more, queues j = other :: more → Before key (i, item) (j, other) := by
  induction streams generalizing i item with
  | nil => cases h
  | cons first rest ih =>
    obtain ⟨hfirst, hrest⟩ := List.pairwise_cons.mp hstreams
    rw [pick] at h
    cases hqueue : queues first with
    | nil =>
      rw [hqueue] at h
      obtain ⟨hmem, hhead, hleast⟩ := ih hrest h
      refine ⟨List.mem_cons_of_mem _ hmem, hhead, fun j hj other more hj' => ?_⟩
      rcases List.mem_cons.mp hj with rfl | hj
      · rw [hqueue] at hj'
        cases hj'
      · exact hleast j hj other more hj'
    | cons own_item own_rest =>
      cases hpick : pick key queues rest with
      | none =>
        simp only [hqueue, hpick, Option.some.injEq, Prod.mk.injEq] at h
        obtain ⟨rfl, rfl⟩ := h
        refine ⟨List.mem_cons_self, ⟨own_rest, hqueue⟩, fun j hj other more hj' => ?_⟩
        rcases List.mem_cons.mp hj with rfl | hj
        · obtain ⟨rfl, -⟩ := List.cons.inj (hqueue.symm.trans hj')
          exact Before.of_le key (le_refl _)
        · rw [(pick_eq_none_iff key).mp hpick j hj] at hj'
          cases hj'
      | some least =>
        obtain ⟨k, least⟩ := least
        obtain ⟨hmem, hhead, hleast⟩ := ih hrest hpick
        simp only [hqueue, hpick] at h
        split at h
        · next hle =>
          obtain ⟨rfl, rfl⟩ := Prod.mk.inj (Option.some.inj h)
          refine ⟨List.mem_cons_self, ⟨own_rest, hqueue⟩, fun j hj other more hj' => ?_⟩
          rcases List.mem_cons.mp hj with rfl | hj
          · obtain ⟨rfl, -⟩ := List.cons.inj (hqueue.symm.trans hj')
            exact Before.of_le key (le_refl _)
          · have hfront : Before key (first, own_item) (k, least) :=
              (lt_or_eq_of_le hle).imp id fun heq => ⟨heq, (hfirst k hmem).le⟩
            exact hfront.trans key (hleast j hj other more hj')
        · next hgt =>
          obtain ⟨rfl, rfl⟩ := Prod.mk.inj (Option.some.inj h)
          refine ⟨List.mem_cons_of_mem _ hmem, hhead, fun j hj other more hj' => ?_⟩
          rcases List.mem_cons.mp hj with rfl | hj
          · obtain ⟨rfl, -⟩ := List.cons.inj (hqueue.symm.trans hj')
            exact .inl (not_le.mp hgt)
          · exact hleast j hj other more hj'

/-- Everything a step can do: take a burst of a stream without an item at hand,
    or give out the least of the items at hand, one of every stream. -/
theorem step_cases (h : step key count source state = some after) :
    (∃ i burst, i < count ∧ state.queues i = [] ∧ source i (state.pulled i) = some burst ∧
      after = { state with queues := Function.update state.queues i burst
                           pulled := Function.update state.pulled i (state.pulled i + 1) }) ∨
    (∃ i item rest, i < count ∧ state.queues i = item :: rest ∧
      (∀ j, j < count → state.queues j ≠ []) ∧
      (∀ j, j < count → ∀ other more, state.queues j = other :: more →
        Before key (i, item) (j, other)) ∧
      after = { state with queues := Function.update state.queues i rest
                           out := state.out ++ [(i, item)] }) := by
  unfold step at h
  cases hstarved : state.starved count with
  | some i =>
    obtain ⟨hi, hempty⟩ := starved_eq_some hstarved
    simp only [hstarved] at h
    obtain ⟨burst, hburst, rfl⟩ := Option.map_eq_some_iff.mp h
    exact .inl ⟨i, burst, hi, hempty, hburst, rfl⟩
  | none =>
    simp only [hstarved] at h
    obtain ⟨⟨i, item⟩, hpick, rfl⟩ := Option.map_eq_some_iff.mp h
    obtain ⟨hmem, ⟨rest, hqueue⟩, hleast⟩ := pick_eq_some key List.pairwise_lt_range hpick
    refine .inr ⟨i, item, rest, List.mem_range.mp hmem, hqueue, starved_eq_none.mp hstarved, ?_, ?_⟩
    · exact fun j hj => hleast j (List.mem_range.mpr hj)
    · rw [hqueue]
      rfl

end Parts

/-! ### What every state of a merge keeps -/

/-- What a merge has at hand or has given out comes from its streams, whatever
    their order. -/
structure FromSource (count : Nat) (source : Nat → Nat → Option (List α)) (state : Merging α) : Prop where
  at_hand : ∀ i, ∀ item ∈ state.queues i, ∃ n burst, source i n = some burst ∧ item ∈ burst
  given_out : ∀ x ∈ state.out, x.1 < count ∧ ∃ n burst, source x.1 n = some burst ∧ x.2 ∈ burst

theorem FromSource.step {source : Nat → Nat → Option (List α)} {state after : Merging α} {count : Nat}
    (h : FromSource count source state) (hstep : step key count source state = some after) :
    FromSource count source after := by
  rcases step_cases key hstep with ⟨i, burst, -, -, hburst, rfl⟩ | ⟨i, item, rest, hi, hqueue, -, -, rfl⟩
  · refine ⟨fun j other hother => ?_, h.given_out⟩
    by_cases hij : j = i
    · subst hij
      simp only [Function.update_self] at hother
      exact ⟨state.pulled j, burst, hburst, hother⟩
    · simp only [Function.update_of_ne hij] at hother
      exact h.at_hand j other hother
  · refine ⟨fun j other hother => ?_, fun x hx => ?_⟩
    · by_cases hij : j = i
      · subst hij
        simp only [Function.update_self] at hother
        exact h.at_hand j other (hqueue ▸ List.mem_cons_of_mem _ hother)
      · simp only [Function.update_of_ne hij] at hother
        exact h.at_hand j other hother
    · cases List.mem_append.mp hx with
      | inl hold => exact h.given_out x hold
      | inr hnew =>
        rw [List.mem_singleton.mp hnew]
        exact ⟨hi, h.at_hand i item (hqueue ▸ List.mem_cons_self)⟩

theorem run_from_source {source : Nat → Nat → Option (List α)} {state : Merging α} {count steps : Nat}
    (h : run key count source steps = some state) : FromSource count source state := by
  induction steps generalizing state with
  | zero =>
    cases h
    refine ⟨fun _ item hitem => ?_, fun x hx => ?_⟩
    · cases hitem
    · cases hx
  | succ steps ih =>
    obtain ⟨before, hbefore, hstep⟩ := Option.bind_eq_some_iff.mp h
    exact (ih hbefore).step key hstep

/-- The streams give out their items in order. -/
def Sorted (count : Nat) (source : Nat → Nat → Option (List α)) : Prop :=
  ∀ i, i < count → ∀ bursts, (taken source i bursts).Pairwise fun a b => key a ≤ key b

/-- The output and the items at hand split what was taken of every stream, the
    output is in stable order and before all that is at hand, and only the
    stream of the last item can be without one. -/
structure Sound (count : Nat) (source : Nat → Nat → Option (List α)) (state : Merging α) : Prop where
  split : ∀ i, i < count → own i state.out ++ state.queues i = taken source i (state.pulled i)
  available : ∀ i, i < count → ∀ n, n < state.pulled i → (source i n).isSome
  streams : ∀ x ∈ state.out, x.1 < count
  ordered : state.out.Pairwise (Before key)
  frontier : ∀ x ∈ state.out, ∀ i, i < count → ∀ item ∈ state.queues i, Before key x (i, item)
  last : ∀ i, i < count → state.queues i = [] → ∀ x, state.out.getLast? = some x → x.1 = i

section Invariant

variable {key} {source : Nat → Nat → Option (List α)} {state after : Merging α} {count : Nat}

theorem sound_start : Sound key count source start where
  split _ _ := rfl
  available i _ n hn := by cases hn
  streams x hx := by cases hx
  ordered := List.Pairwise.nil
  frontier x hx := by cases hx
  last i _ _ x hx := by cases hx

theorem Sound.step (hsorted : Sorted key count source) (h : Sound key count source state)
    (hstep : step key count source state = some after) : Sound key count source after := by
  rcases step_cases key hstep with
    ⟨i, burst, hi, hempty, hburst, rfl⟩ | ⟨i, item, rest, hi, hqueue, hfull, hleast, rfl⟩
  · have htaken : own i state.out ++ burst = taken source i (state.pulled i + 1) := by
      rw [taken_succ, ← h.split i hi, hempty, hburst, List.append_nil, Option.getD_some]
    refine ⟨fun j hj => ?_, fun j hj n hn => ?_, h.streams, h.ordered, fun x hx j hj other hother => ?_,
      fun j hj hnone x hx => ?_⟩
    · by_cases hij : j = i
      · subst hij
        simpa using htaken
      · simpa [hij] using h.split j hj
    · by_cases hij : j = i
      · subst hij
        simp only [Function.update_self] at hn
        rcases Nat.lt_succ_iff_lt_or_eq.mp hn with hn | rfl
        · exact h.available j hj n hn
        · rw [hburst]
          rfl
      · simp only [Function.update_of_ne hij] at hn
        exact h.available j hj n hn
    · by_cases hij : j = i
      · subst hij
        simp only [Function.update_self] at hother
        -- the stream ran out of items when it gave out the last one
        obtain ⟨last, hlast⟩ : ∃ last, state.out.getLast? = some last := by
          cases hout : state.out.getLast? with
          | none =>
            rw [List.getLast?_eq_none_iff.mp hout] at hx
            cases hx
          | some last => exact ⟨last, rfl⟩
        obtain ⟨k, newest⟩ := last
        obtain rfl : k = j := h.last j hj hempty _ hlast
        have hbefore : Before key x (k, newest) := by
          obtain ⟨earlier, hout⟩ := List.getLast?_eq_some_iff.mp hlast
          have hordered := h.ordered
          rw [hout, List.pairwise_append] at hordered
          rw [hout] at hx
          cases List.mem_append.mp hx with
          | inl hearlier => exact hordered.2.2 x hearlier _ (List.mem_singleton_self _)
          | inr hnewest =>
            rw [List.mem_singleton.mp hnewest]
            exact Before.of_le key (le_refl _)
        have hle : key newest ≤ key other := by
          have hpairwise := hsorted k hj (state.pulled k + 1)
          rw [← htaken, List.pairwise_append] at hpairwise
          exact hpairwise.2.2 _ (mem_own.mpr (List.mem_of_getLast? hlast)) _ hother
        exact hbefore.trans key (Before.of_le key hle)
      · simp only [Function.update_of_ne hij] at hother
        exact h.frontier x hx j hj other hother
    · by_cases hij : j = i
      · exact hij ▸ h.last i hi hempty x hx
      · simp only [Function.update_of_ne hij] at hnone
        exact h.last j hj hnone x hx
  · have hfront : ∀ x ∈ state.out, Before key x (i, item) := fun x hx =>
      h.frontier x hx i hi item (hqueue ▸ List.mem_cons_self)
    refine ⟨fun j hj => ?_, h.available, fun x hx => ?_, ?_, fun x hx j hj other hother => ?_,
      fun j hj hnone x hx => ?_⟩
    · have hsplit := h.split j hj
      by_cases hij : j = i
      · subst hij
        rw [hqueue] at hsplit
        simpa [own_append] using hsplit
      · simpa [own_append, hij, Ne.symm hij] using hsplit
    · cases List.mem_append.mp hx with
      | inl hold => exact h.streams x hold
      | inr hnew => rwa [List.mem_singleton.mp hnew]
    · refine List.pairwise_append.mpr ⟨h.ordered, List.pairwise_singleton _ _, fun x hx y hy => ?_⟩
      rw [List.mem_singleton.mp hy]
      exact hfront x hx
    · -- what is at hand comes after the head of its queue, and that after the item given out
      have hnext : Before key (i, item) (j, other) := by
        have hpairwise := hsorted j hj (state.pulled j)
        rw [← h.split j hj, List.pairwise_append] at hpairwise
        by_cases hij : j = i
        · subst hij
          simp only [Function.update_self] at hother
          rw [hqueue, List.pairwise_cons] at hpairwise
          exact Before.of_le key (hpairwise.2.1.1 other hother)
        · simp only [Function.update_of_ne hij] at hother
          cases hhead : state.queues j with
          | nil => exact absurd hhead (hfull j hj)
          | cons head more =>
            rw [hhead] at hother hpairwise
            refine (hleast j hj head more hhead).trans key (Before.of_le key ?_)
            rcases List.mem_cons.mp hother with rfl | hmore
            · exact le_refl _
            · exact (List.pairwise_cons.mp hpairwise.2.1).1 other hmore
      cases List.mem_append.mp hx with
      | inl hold => exact (hfront x hold).trans key hnext
      | inr hnew =>
        rw [List.mem_singleton.mp hnew]
        exact hnext
    · by_cases hij : j = i
      · rw [List.getLast?_concat, Option.some.injEq] at hx
        rw [← hx, hij]
      · simp only [Function.update_of_ne hij] at hnone
        exact absurd hnone (hfull j hj)

theorem sound_run (hsorted : Sorted key count source) {steps : Nat}
    (h : run key count source steps = some state) : Sound key count source state := by
  induction steps generalizing state with
  | zero =>
    cases h
    exact sound_start
  | succ steps ih =>
    obtain ⟨before, hbefore, hstep⟩ := Option.bind_eq_some_iff.mp h
    exact (ih hbefore).step hsorted hstep

theorem step_out_grows (h : Merging.step key count source state = some after) :
    state.out <+: after.out := by
  rcases step_cases key h with ⟨i, burst, -, -, -, rfl⟩ | ⟨i, item, rest, -, -, -, -, rfl⟩
  · exact List.prefix_refl _
  · exact List.prefix_append _ _

theorem run_succ {steps : Nat} (h : run key count source steps = some state)
    (hstep : Merging.step key count source state = some after) :
    run key count source (steps + 1) = some after :=
  Option.bind_eq_some_iff.mpr ⟨state, h, hstep⟩

/-- Only the streams that are merged matter. -/
theorem run_congr {source' : Nat → Nat → Option (List α)}
    (h : ∀ i, i < count → source i = source' i) (steps : Nat) :
    run key count source steps = run key count source' steps := by
  induction steps with
  | zero => rfl
  | succ steps ih =>
    rw [run, run, ih]
    apply Option.bind_congr
    intro state _
    unfold Merging.step
    cases hstarved : state.starved count with
    | none => rfl
    | some i =>
      obtain ⟨hi, -⟩ := starved_eq_some hstarved
      simp only [h i hi]

/-- The output only grows. -/
theorem run_out_grows {fewer steps : Nat} (hle : fewer ≤ steps)
    (hearly : run key count source fewer = some state) (h : run key count source steps = some after) :
    state.out <+: after.out := by
  induction hle generalizing after with
  | refl =>
    obtain rfl : state = after := Option.some.inj (hearly.symm.trans h)
    exact List.prefix_refl _
  | step _ ih =>
    obtain ⟨before, hbefore, hstep⟩ := Option.bind_eq_some_iff.mp h
    exact (ih hbefore).trans (step_out_grows hstep)

/-- What the output has of a stream is a first part of the stream. -/
theorem Sound.own_grows (h : Sound key count source state) {i : Nat} (hi : i < count) :
    own i state.out <+: taken source i (state.pulled i) := by
  rw [← h.split i hi]
  exact List.prefix_append _ _

end Invariant

/-! ### Fewer streams -/

section Fewer

variable {key} {source : Nat → Nat → Option (List α)} {state other : Merging α} {fewer count steps : Nat}

/-- The part of an output that comes from the first streams. -/
def first_streams (fewer : Nat) (out : List (Nat × α)) : List (Nat × α) :=
  out.filter fun x => x.1 < fewer

theorem own_first_streams {i : Nat} (hi : i < fewer) (out : List (Nat × α)) :
    own i (first_streams fewer out) = own i out := by
  unfold own first_streams
  rw [List.filter_filter]
  congr 1
  apply List.filter_congr
  intro x _
  by_cases hx : x.1 = i
  · simp [hx, hi]
  · simp [hx]

/-- A merge of the first streams that has given out the same can take what it
    lacks, as long as all streams of the larger merge have an item at hand. -/
theorem catch_up (hfewer : fewer ≤ count) (hsound : Sound key count source state)
    (hfull : ∀ i, i < count → state.queues i ≠ [])
    (hsorted : Sorted key fewer source) (h : run key fewer source steps = some other)
    (hout : other.out = first_streams fewer state.out)
    (hpulled : ∀ i, i < fewer → other.pulled i ≤ state.pulled i) :
    ∃ more caught, run key fewer source more = some caught ∧ caught.out = other.out ∧
      (∀ i, i < fewer → caught.pulled i ≤ state.pulled i) ∧
      ∀ i, i < fewer → caught.queues i ≠ [] := by
  obtain ⟨missing, hmissing⟩ :
    ∃ missing, ∑ i ∈ Finset.range fewer, (state.pulled i - other.pulled i) = missing := ⟨_, rfl⟩
  induction missing using Nat.strong_induction_on generalizing steps other with
  | _ missing ih =>
    cases hstarved : other.starved fewer with
    | none => exact ⟨steps, other, h, rfl, hpulled, starved_eq_none.mp hstarved⟩
    | some i =>
      obtain ⟨hi, hempty⟩ := starved_eq_some hstarved
      have hbehind : other.pulled i < state.pulled i := by
        refine lt_of_le_of_ne (hpulled i hi) fun heq => hfull i (by omega) ?_
        have hown := (sound_run hsorted h).split i hi
        rw [hempty, hout, own_first_streams hi, heq, ← hsound.split i (by omega)] at hown
        simpa using hown
      obtain ⟨burst, hburst⟩ := Option.isSome_iff_exists.mp
        (hsound.available i (by omega) _ hbehind)
      have hstep : step key fewer source other = some
          { other with queues := Function.update other.queues i burst
                       pulled := Function.update other.pulled i (other.pulled i + 1) } := by
        unfold step
        simp only [hstarved, hburst, Option.map_some]
      have hrun := run_succ h hstep
      have hless : ∑ j ∈ Finset.range fewer, (state.pulled j -
          Function.update other.pulled i (other.pulled i + 1) j) < missing := by
        rw [← hmissing]
        refine Finset.sum_lt_sum (fun j hj => ?_) ⟨i, Finset.mem_range.mpr hi, ?_⟩
        · by_cases hij : j = i
          · subst hij
            simp only [Function.update_self]
            omega
          · simp [Function.update_of_ne hij]
        · simp only [Function.update_self]
          omega
      have hbound : ∀ j, j < fewer →
          Function.update other.pulled i (other.pulled i + 1) j ≤ state.pulled j := by
        intro j hj
        by_cases hij : j = i
        · subst hij
          simp only [Function.update_self]
          omega
        · simpa [Function.update_of_ne hij] using hpulled j hj
      have hcaught := ih _ hless hrun hout hbound rfl
      exact hcaught

/-- Whatever a merge has given out, a merge of its first streams gives out the
    part of it that is theirs. -/
theorem run_first_streams (hfewer : fewer ≤ count) (hsorted : Sorted key count source)
    (h : run key count source steps = some state) :
    ∃ fewer_steps other, run key fewer source fewer_steps = some other ∧
      other.out = first_streams fewer state.out ∧
      ∀ i, i < fewer → other.pulled i ≤ state.pulled i := by
  have hsorted' : Sorted key fewer source := fun i hi => hsorted i (by omega)
  induction steps generalizing state with
  | zero =>
    cases h
    exact ⟨0, start, rfl, rfl, fun _ _ => Nat.le_refl _⟩
  | succ steps ih =>
    obtain ⟨before, hbefore, hstep⟩ := Option.bind_eq_some_iff.mp h
    obtain ⟨fewer_steps, other, hother, hout, hpulled⟩ := ih hbefore
    have hsound := sound_run hsorted hbefore
    rcases step_cases key hstep with
      ⟨i, burst, -, -, -, rfl⟩ | ⟨i, item, rest, hi, hqueue, hfull, hleast, rfl⟩
    · refine ⟨fewer_steps, other, hother, hout, fun j hj => (hpulled j hj).trans ?_⟩
      by_cases hij : j = i
      · subst hij
        simp
      · simp [Function.update_of_ne hij]
    · by_cases hmine : i < fewer
      · obtain ⟨more, caught, hcaught, hsame, hbound, hready⟩ :=
          catch_up hfewer hsound hfull hsorted' hother hout hpulled
        -- the heads of the two merges are the same items of the streams
        have hheads : ∀ j, j < fewer → caught.queues j <+: before.queues j := by
          intro j hj
          have hprefix := taken_grows source j (hbound j hj)
          rw [← (sound_run hsorted' hcaught).split j hj, ← hsound.split j (by omega), hsame, hout,
            own_first_streams hj] at hprefix
          exact (List.prefix_append_right_inj _).mp hprefix
        have hhead : ∀ j, j < fewer → ∀ head more, caught.queues j = head :: more →
            ∃ rest, before.queues j = head :: rest := by
          intro j hj head more hqueue
          obtain ⟨later, hlater⟩ := hheads j hj
          exact ⟨more ++ later, by rw [← hlater, hqueue, List.cons_append]⟩
        cases hpick : pick key caught.queues (List.range fewer) with
        | none =>
          have hnone := (pick_eq_none_iff key).mp hpick i (List.mem_range.mpr hmine)
          exact absurd hnone (hready i hmine)
        | some least =>
          obtain ⟨k, least⟩ := least
          obtain ⟨hk, ⟨tail, htail⟩, hspec⟩ := pick_eq_some key List.pairwise_lt_range hpick
          have hk := List.mem_range.mp hk
          obtain ⟨later, hlater⟩ := hhead k hk least tail htail
          have hforward := hleast k (by omega) least later hlater
          cases hown : caught.queues i with
          | nil => exact absurd hown (hready i hmine)
          | cons own_item own_rest =>
            obtain ⟨own_later, hown_later⟩ := hhead i hmine own_item own_rest hown
            obtain ⟨rfl, -⟩ := List.cons.inj (hqueue.symm.trans hown_later)
            have hbackward := hspec i (List.mem_range.mpr hmine) item own_rest hown
            obtain rfl : i = k := hforward.stream_eq key hbackward
            obtain ⟨rfl, rfl⟩ := List.cons.inj (hown.symm.trans htail)
            have hstep' : step key fewer source caught = some
                { caught with queues := Function.update caught.queues i own_rest
                              out := caught.out ++ [(i, item)] } := by
              unfold step
              rw [starved_eq_none.mpr hready]
              simp only [hpick, hown, Option.map_some, List.tail_cons]
            refine ⟨more + 1, _, run_succ hcaught hstep', ?_, hbound⟩
            simp [hsame, hout, first_streams, hmine]
      · refine ⟨fewer_steps, other, hother, ?_, hpulled⟩
        simp [hout, first_streams, hmine]

end Fewer

/-! ### How far a merge gets -/

section Progress

variable {key} {source : Nat → Nat → Option (List α)} {state : Merging α} {count steps : Nat}
  {limit : Nat → Nat}

/-- The bursts up to a limit that are not taken, and their items that are not
    given out. -/
def remaining (count : Nat) (source : Nat → Nat → Option (List α)) (limit : Nat → Nat)
    (state : Merging α) : Nat :=
  ∑ i ∈ Finset.range count, ((limit i - state.pulled i) +
    ((taken source i (limit i)).length - (own i state.out).length))

theorem remaining_lt {after : Merging α} {i : Nat} (hi : i < count)
    (hothers : ∀ j, j ≠ i → after.pulled j = state.pulled j ∧ own j after.out = own j state.out)
    (hless : (limit i - after.pulled i) + ((taken source i (limit i)).length - (own i after.out).length) <
      (limit i - state.pulled i) + ((taken source i (limit i)).length - (own i state.out).length)) :
    remaining count source limit after < remaining count source limit state := by
  refine Finset.sum_lt_sum (fun j _ => ?_) ⟨i, Finset.mem_range.mpr hi, hless⟩
  by_cases hij : j = i
  · exact hij ▸ hless.le
  · obtain ⟨hpulled, hown⟩ := hothers j hij
    rw [hpulled, hown]

/-- A merge goes on until it lacks an item of a stream whose bursts are used up
    to the limit. -/
theorem run_exhausts (hcount : 0 < count) (hsorted : Sorted key count source)
    (havailable : ∀ i, i < count → ∀ n, n < limit i → (source i n).isSome)
    (h : run key count source steps = some state)
    (hpulled : ∀ i, i < count → state.pulled i ≤ limit i) :
    ∃ more final i, run key count source more = some final ∧ i < count ∧ final.queues i = [] ∧
      final.pulled i = limit i := by
  obtain ⟨left, hleft⟩ : ∃ left, remaining count source limit state = left := ⟨_, rfl⟩
  induction left using Nat.strong_induction_on generalizing steps state with
  | _ left ih =>
    have hsound := sound_run hsorted h
    cases hstarved : state.starved count with
    | some i =>
      obtain ⟨hi, hempty⟩ := starved_eq_some hstarved
      cases Nat.eq_or_lt_of_le (hpulled i hi) with
      | inl hused => exact ⟨steps, state, i, h, hi, hempty, hused⟩
      | inr hunused =>
        obtain ⟨burst, hburst⟩ := Option.isSome_iff_exists.mp (havailable i hi _ hunused)
        have hstep : step key count source state = some
            { state with queues := Function.update state.queues i burst
                         pulled := Function.update state.pulled i (state.pulled i + 1) } := by
          unfold step
          simp only [hstarved, hburst, Option.map_some]
        refine ih _ ?_ (run_succ h hstep) (fun j hj => ?_) rfl
        · rw [← hleft]
          refine remaining_lt hi (fun j hij => ⟨Function.update_of_ne hij _ _, rfl⟩) ?_
          simp only [Function.update_self]
          omega
        · by_cases hij : j = i
          · subst hij
            simp only [Function.update_self]
            omega
          · simpa [Function.update_of_ne hij] using hpulled j hj
    | none =>
      cases hpick : pick key state.queues (List.range count) with
      | none =>
        have hnone := (pick_eq_none_iff key).mp hpick 0 (List.mem_range.mpr hcount)
        exact absurd hnone (starved_eq_none.mp hstarved 0 hcount)
      | some least =>
        obtain ⟨i, item⟩ := least
        obtain ⟨hmem, ⟨rest, hqueue⟩, -⟩ := pick_eq_some key List.pairwise_lt_range hpick
        have hi := List.mem_range.mp hmem
        have hstep : step key count source state = some
            { state with queues := Function.update state.queues i rest
                         out := state.out ++ [(i, item)] } := by
          unfold step
          simp only [hstarved, hpick, hqueue, Option.map_some, List.tail_cons]
        refine ih _ ?_ (run_succ h hstep) hpulled rfl
        have hroom : (own i state.out).length < (taken source i (limit i)).length := by
          have hlength := (taken_grows source i (hpulled i hi)).length_le
          rw [← hsound.split i hi, hqueue, List.length_append, List.length_cons] at hlength
          omega
        rw [← hleft]
        refine remaining_lt hi (fun j hij => ⟨rfl, ?_⟩) ?_
        · simp [own_append, Ne.symm hij]
        · simp only [own_append, own_singleton, if_true, List.length_append, List.length_singleton]
          omega

theorem taken_getElem? {i p bursts more : Nat} {item : α} (hle : bursts ≤ more)
    (h : (taken source i bursts)[p]? = some item) : (taken source i more)[p]? = some item := by
  obtain ⟨later, hlater⟩ := taken_grows source i hle
  obtain ⟨hp, -⟩ := List.getElem?_eq_some_iff.mp h
  rw [← hlater, List.getElem?_append_left hp, h]

/-- A later place of a stream has no lesser key. -/
theorem Sorted.key_le (hsorted : Sorted key count source) {i : Nat} (hi : i < count)
    {bursts bursts' p k : Nat} {item later : α} (hitem : (taken source i bursts)[p]? = some item)
    (hlater : (taken source i bursts')[k]? = some later) (hle : p ≤ k) : key item ≤ key later := by
  have hfirst := taken_getElem? (Nat.le_max_left bursts bursts') hitem
  have hsecond := taken_getElem? (Nat.le_max_right bursts bursts') hlater
  rcases Nat.eq_or_lt_of_le hle with rfl | hlt
  · rw [Option.some.inj (hfirst.symm.trans hsecond)]
  · obtain ⟨hp, rfl⟩ := List.getElem?_eq_some_iff.mp hfirst
    obtain ⟨hk, rfl⟩ := List.getElem?_eq_some_iff.mp hsecond
    exact List.pairwise_iff_getElem.mp (hsorted i hi _) p k hp hk hlt

/-- Up to any key that every stream passes, a merge gives out every item, at its
    place in its stream. -/
theorem run_complete (hsorted : Sorted key count source) (t : κ)
    (hpasses : ∀ i, i < count → ∃ bursts, (∀ n, n < bursts → (source i n).isSome) ∧
      ∃ item ∈ taken source i bursts, t < key item) :
    ∃ steps state, run key count source steps = some state ∧
      ∀ i, i < count → ∀ bursts k item, (taken source i bursts)[k]? = some item → key item ≤ t →
        k < (own i state.out).length := by
  rcases Nat.eq_zero_or_pos count with rfl | hcount
  · exact ⟨0, start, rfl, fun i hi => by omega⟩
  · have hlimits : ∀ i, ∃ bursts, i < count → (∀ n, n < bursts → (source i n).isSome) ∧
        ∃ item ∈ taken source i bursts, t < key item := by
      intro i
      by_cases hi : i < count
      · obtain ⟨bursts, hbursts⟩ := hpasses i hi
        exact ⟨bursts, fun _ => hbursts⟩
      · exact ⟨0, fun h => absurd h hi⟩
    choose limit hlimit using hlimits
    have hstart : run key count source 0 = some start := rfl
    obtain ⟨steps, state, i, hrun, hi, hempty, hused⟩ := run_exhausts hcount hsorted
      (fun i hi => (hlimit i hi).1) hstart fun i _ => Nat.zero_le _
    have hsound := sound_run hsorted hrun
    obtain ⟨past, hpast, hlate⟩ := (hlimit i hi).2
    have hgiven : own i state.out = taken source i (limit i) := by
      rw [← hused, ← hsound.split i hi, hempty, List.append_nil]
    have hout : (i, past) ∈ state.out := by
      rw [← mem_own, hgiven]
      exact hpast
    refine ⟨steps, state, hrun, fun j hj bursts k item hitem hle => ?_⟩
    by_contra hbeyond
    have hsplit := hsound.split j hj
    cases hqueue : state.queues j with
    | nil =>
      -- only the stream of the last item is without one, and it has passed the key
      cases hlast : state.out.getLast? with
      | none =>
        rw [List.getLast?_eq_none_iff.mp hlast] at hout
        cases hout
      | some last =>
        obtain rfl : i = j := (hsound.last i hi hempty last hlast).symm.trans
          (hsound.last j hj hqueue last hlast)
        obtain ⟨p, hp, rfl⟩ := List.getElem_of_mem hpast
        have hplace : p ≤ k := by
          rw [hgiven] at hbeyond
          omega
        have hkey := hsorted.key_le hi (List.getElem?_eq_getElem hp) hitem hplace
        exact absurd (hlate.trans_le (hkey.trans hle)) (lt_irrefl t)
    | cons head more =>
      -- the item at hand is past the key, and the missing one comes after it
      have hat : (taken source j (state.pulled j))[(own j state.out).length]? = some head := by
        rw [← hsplit, hqueue]
        simp
      have hkey := hsorted.key_le hj hat hitem (by omega)
      have hfront := hsound.frontier _ hout j hj head (hqueue ▸ List.mem_cons_self)
      have hpassed : key past ≤ key head := by
        rcases hfront with hlt | ⟨heq, -⟩
        · exact hlt.le
        · exact heq.le
      exact absurd (hlate.trans_le (hpassed.trans (hkey.trans hle))) (lt_irrefl t)

/-- What is out of each stream up to a key, as first parts of lists. -/
theorem takeWhile_grows {p : α → Bool} {part other whole : List α} (hpart : part <+: whole)
    (hother : other <+: whole) (h : ∀ k item, part[k]? = some item → p item → k < other.length) :
    part.takeWhile p <+: other := by
  have hwhile : part.takeWhile p <+: whole := (List.takeWhile_prefix p).trans hpart
  apply List.prefix_of_prefix_length_le hwhile hother
  cases hlength : (part.takeWhile p).length with
  | zero => exact Nat.zero_le _
  | succ k =>
    have hk : k < (part.takeWhile p).length := by omega
    have hitem : part[k]? = some (part.takeWhile p)[k] := by
      obtain ⟨rest, hrest⟩ := List.takeWhile_prefix (l := part) p
      conv_lhs => rw [← hrest]
      rw [List.getElem?_append_left hk, List.getElem?_eq_getElem hk]
    exact h k _ hitem (List.all_eq_true.mp List.all_takeWhile _ (List.getElem_mem hk))

/-- Up to any key that every stream passes, a merge of all streams gives out what
    any merge of the first ones does. -/
theorem run_first_streams_complete {fewer : Nat} (hfewer : fewer ≤ count)
    (hsorted : Sorted key count source) {t : κ}
    (hcomplete : ∀ i, i < count → ∀ bursts k item, (taken source i bursts)[k]? = some item →
      key item ≤ t → k < (own i state.out).length) (h : run key count source steps = some state)
    {fewer_steps : Nat} {other : Merging α} (hother : run key fewer source fewer_steps = some other) :
    (other.out.takeWhile fun x => key x.2 ≤ t) <+: first_streams fewer state.out := by
  have hsorted' : Sorted key fewer source := fun i hi => hsorted i (by omega)
  obtain ⟨same_steps, same, hsame, hout, -⟩ := run_first_streams hfewer hsorted h
  rw [← hout]
  cases Nat.le_total fewer_steps same_steps with
  | inl hle => exact (List.takeWhile_prefix _).trans (run_out_grows hle hother hsame)
  | inr hle =>
    obtain ⟨rest, hrest⟩ := run_out_grows hle hsame hother
    refine takeWhile_grows (List.prefix_refl _) ⟨rest, hrest⟩ fun k x hx hkey => ?_
    by_contra hbeyond
    obtain ⟨i, item⟩ := x
    have hsound := sound_run hsorted' hother
    have hi : i < fewer := hsound.streams _ (List.mem_of_getElem? hx)
    -- an item that the larger merge lacks is at a place of its stream beyond all that it has
    have hmem : item ∈ own i rest := by
      rw [← hrest, List.getElem?_append_right (by omega)] at hx
      exact mem_own.mpr (List.mem_of_getElem? hx)
    obtain ⟨p, hp, hitem⟩ := List.getElem_of_mem hmem
    have hplace : (taken source i (other.pulled i))[(own i same.out).length + p]? = some item := by
      obtain ⟨more, hmore⟩ := hsound.own_grows hi
      rw [← hmore, ← hrest, own_append, List.append_assoc, List.getElem?_append_right (by omega),
        Nat.add_sub_cancel_left, List.getElem?_append_left hp, List.getElem?_eq_getElem hp, hitem]
    have hlength := hcomplete i (by omega) _ _ _ hplace (by simpa using hkey)
    rw [hout, own_first_streams hi] at hlength
    omega

end Progress

end Merging
