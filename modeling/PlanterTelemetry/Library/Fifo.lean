import Mathlib.Data.List.Flatten
import Mathlib.Data.List.Range
import Mathlib.Order.Lattice.Nat

namespace Fifo

/-! ### A queue of which only the head is tested

At each turn the head leaves as long as it is due, and then the turn's own item
may enter. -/

variable (enters : Nat → Bool) (due : Nat → Nat)

/-- The latest time at which an item up to `k` is due. -/
def release : Nat → Nat
  | 0 => if enters 0 then due 0 else 0
  | k + 1 => if enters (k + 1) then max (release k) (due (k + 1)) else release k

/-- The items in the queue before a turn, if each leaves at its release. -/
def waiting (turn : Nat) : List Nat :=
  (List.range turn).filter fun k => enters k && decide (turn ≤ release enters due k)

/-- The items that leave the queue at a turn. -/
def leaving (turn : Nat) : List Nat :=
  (List.range turn).filter fun k => enters k && decide (release enters due k = turn)

variable {enters due} {bound turn k : Nat}

theorem release_le_iff : release enters due k ≤ turn ↔ ∀ j ≤ k, enters j = true → due j ≤ turn := by
  induction k with
  | zero =>
    rw [release]
    constructor
    · intro h j hj hentered
      obtain rfl : j = 0 := by omega
      rwa [if_pos hentered] at h
    · intro h
      split
      · next hentered => exact h 0 (le_refl 0) hentered
      · omega
  | succ k ih =>
    have hsplit : (∀ j ≤ k + 1, enters j = true → due j ≤ turn) ↔
        (∀ j ≤ k, enters j = true → due j ≤ turn) ∧ (enters (k + 1) = true → due (k + 1) ≤ turn) := by
      constructor
      · exact fun h => ⟨fun j hj => h j (by omega), h (k + 1) (le_refl _)⟩
      · rintro ⟨hbefore, hlast⟩ j hj hentered
        cases Nat.lt_or_ge j (k + 1) with
        | inl hlt => exact hbefore j (by omega) hentered
        | inr hge =>
          obtain rfl : j = k + 1 := by omega
          exact hlast hentered
    rw [hsplit, ← ih, release]
    split
    · next hentered => simp only [hentered, forall_const, max_le_iff]
    · next hentered => exact (and_iff_left fun h => absurd h hentered).symm

theorem due_le_release (h : enters k = true) : due k ≤ release enters due k :=
  release_le_iff.mp (le_refl _) k (le_refl _) h

theorem release_mono {j : Nat} (h : j ≤ k) : release enters due j ≤ release enters due k :=
  release_le_iff.mpr fun i hi => release_le_iff.mp (le_refl _) i (hi.trans h)

/-- An item that is due within a bound leaves within that bound: no earlier one
    blocks it for longer. -/
theorem release_bound (hdue : ∀ j, enters j = true → j < due j ∧ due j ≤ j + bound) (h : enters k = true) :
    k < release enters due k ∧ release enters due k ≤ k + bound := by
  refine ⟨(hdue k h).1.trans_le (due_le_release h), release_le_iff.mpr fun j hj hentered => ?_⟩
  have hlast := (hdue j hentered).2
  omega

/-- On a list in order, the items before the first that fails `p` are those up to
    which none fails. -/
theorem takeWhile_eq_filter {p r : Nat → Bool} {items : List Nat} (hsorted : items.Pairwise (· < ·))
    (h : ∀ k ∈ items, r k = true ↔ ∀ j ∈ items, j ≤ k → p j = true) :
    items.takeWhile p = items.filter r ∧ items.dropWhile p = items.filter fun k => !r k := by
  induction items with
  | nil => exact ⟨rfl, rfl⟩
  | cons item items ih =>
    obtain ⟨hfirst, hrest⟩ := List.pairwise_cons.mp hsorted
    cases hp : p item with
    | true =>
      have hitem : r item = true := by
        apply (h item List.mem_cons_self).mpr
        intro j hj hle
        rcases List.mem_cons.mp hj with rfl | hj
        · exact hp
        · have hlt := hfirst j hj
          omega
      have hitems : ∀ k ∈ items, r k = true ↔ ∀ j ∈ items, j ≤ k → p j = true := by
        intro k hk
        rw [h k (List.mem_cons_of_mem _ hk)]
        constructor
        · exact fun hall j hj => hall j (List.mem_cons_of_mem _ hj)
        · intro hall j hj hle
          rcases List.mem_cons.mp hj with rfl | hj
          · exact hp
          · exact hall j hj hle
      obtain ⟨htake, hdrop⟩ := ih hrest hitems
      constructor
      · rw [List.takeWhile_cons_of_pos hp, List.filter_cons_of_pos hitem, htake]
      · rw [List.dropWhile_cons_of_pos hp, hdrop, List.filter_cons_of_neg (by rw [hitem]; decide)]
    | false =>
      have hnone : ∀ k ∈ item :: items, r k = false := by
        intro k hk
        rw [Bool.eq_false_iff]
        intro hr
        have hle : item ≤ k := by
          rcases List.mem_cons.mp hk with rfl | hk
          · exact le_refl k
          · exact (hfirst k hk).le
        rw [(h k hk).mp hr item List.mem_cons_self hle] at hp
        cases hp
      constructor
      · rw [List.takeWhile_cons_of_neg (by rw [hp]; decide), List.filter_eq_nil_iff.mpr]
        intro k hk
        rw [hnone k hk]
        decide
      · rw [List.dropWhile_cons_of_neg (by rw [hp]; decide), List.filter_eq_self.mpr]
        intro k hk
        rw [hnone k hk]
        rfl

theorem mem_waiting : k ∈ waiting enters due turn ↔
    k < turn ∧ enters k = true ∧ turn ≤ release enters due k := by
  rw [waiting, List.mem_filter, List.mem_range, Bool.and_eq_true, decide_eq_true_iff]

theorem mem_leaving : k ∈ leaving enters due turn ↔
    k < turn ∧ enters k = true ∧ release enters due k = turn := by
  rw [leaving, List.mem_filter, List.mem_range, Bool.and_eq_true, decide_eq_true_iff]

theorem waiting_sorted (turn : Nat) : (waiting enters due turn).Pairwise (· < ·) :=
  List.pairwise_lt_range.filter _

/-- The test of the head finds whose turn it is. -/
theorem waiting_split (turn : Nat) :
    (waiting enters due turn).takeWhile (fun k => due k ≤ turn) = leaving enters due turn ∧
      (waiting enters due turn).dropWhile (fun k => due k ≤ turn) =
        (List.range turn).filter fun k => enters k && decide (turn + 1 ≤ release enters due k) := by
  have hturn : ∀ k ∈ waiting enters due turn, decide (release enters due k ≤ turn) = true ↔
      ∀ j ∈ waiting enters due turn, j ≤ k → decide (due j ≤ turn) = true := by
    intro k hk
    rw [decide_eq_true_iff, release_le_iff]
    constructor
    · exact fun h j hj hle => decide_eq_true (h j hle (mem_waiting.mp hj).2.1)
    · intro h j hle hentered
      -- an item that has left before was due by then
      cases Nat.lt_or_ge (release enters due j) turn with
      | inl hleft => exact (due_le_release hentered).trans hleft.le
      | inr hwaits =>
        have hbefore := (mem_waiting.mp hk).1
        exact of_decide_eq_true (h j (mem_waiting.mpr ⟨by omega, hentered, hwaits⟩) hle)
  obtain ⟨htake, hdrop⟩ := takeWhile_eq_filter (waiting_sorted turn) hturn
  rw [htake, hdrop, waiting, List.filter_filter, List.filter_filter, leaving]
  constructor
  · apply List.filter_congr
    intro k _
    rw [Bool.eq_iff_iff]
    simp only [Bool.and_eq_true, decide_eq_true_iff]
    exact ⟨fun ⟨hle, hentered, hge⟩ => ⟨hentered, by omega⟩, fun ⟨hentered, heq⟩ => ⟨by omega, hentered, by omega⟩⟩
  · apply List.filter_congr
    intro k _
    rw [Bool.eq_iff_iff]
    simp only [Bool.and_eq_true, Bool.not_eq_true', decide_eq_true_iff, decide_eq_false_iff_not]
    exact ⟨fun ⟨hlate, hentered, _⟩ => ⟨hentered, by omega⟩, fun ⟨hentered, hlate⟩ => ⟨by omega, hentered, by omega⟩⟩

/-- One turn of the queue. -/
theorem waiting_succ (hdue : ∀ j, enters j = true → j < due j) (turn : Nat) :
    waiting enters due (turn + 1) = (waiting enters due turn).dropWhile (fun k => due k ≤ turn) ++
      if enters turn then [turn] else [] := by
  rw [(waiting_split turn).2, waiting, List.range_succ, List.filter_append]
  congr 1
  cases hentered : enters turn with
  | true =>
    have hlate := (hdue turn hentered).trans_le (due_le_release hentered)
    apply List.filter_eq_self.mpr
    intro k hk
    rw [List.mem_singleton.mp hk, hentered, Bool.true_and, decide_eq_true_iff]
    omega
  | false =>
    apply List.filter_eq_nil_iff.mpr
    intro k hk
    rw [List.mem_singleton.mp hk, hentered, Bool.false_and]
    decide

/-- The queue holds items of the last turns only. -/
theorem waiting_recent (hdue : ∀ j, enters j = true → j < due j ∧ due j ≤ j + bound) :
    (∀ k ∈ waiting enters due turn, turn ≤ k + bound) ∧ (waiting enters due turn).length ≤ bound := by
  have hrecent : ∀ k ∈ waiting enters due turn, turn ≤ k + bound := by
    intro k hk
    obtain ⟨-, hentered, hwaits⟩ := mem_waiting.mp hk
    exact hwaits.trans (release_bound hdue hentered).2
  have hnodup : (waiting enters due turn).Nodup := (waiting_sorted turn).imp fun hlt => hlt.ne
  have hsubset : waiting enters due turn ⊆ (List.range bound).map fun i => turn - bound + i := by
    intro k hk
    have hbefore := (mem_waiting.mp hk).1
    have hlast := hrecent k hk
    cases Nat.le_total bound turn with
    | inl hlong => exact List.mem_map.mpr ⟨k + bound - turn, List.mem_range.mpr (by omega), by omega⟩
    | inr hshort => exact List.mem_map.mpr ⟨k, List.mem_range.mpr (by omega), by omega⟩
  have hlength := (hnodup.subperm hsubset).length_le
  rw [List.length_map, List.length_range] at hlength
  exact ⟨hrecent, hlength⟩

/-- Over all turns the items leave in the order in which they entered. -/
theorem leaving_in_order (turns : Nat) :
    ((List.range turns).flatMap (leaving enters due)).Pairwise (· < ·) := by
  rw [List.pairwise_flatMap]
  refine ⟨fun turn _ => List.pairwise_lt_range.filter _, ?_⟩
  refine List.pairwise_lt_range.imp fun {first second} hlt j hj k hk => ?_
  have hfirst := (mem_leaving.mp hj).2.2
  have hsecond := (mem_leaving.mp hk).2.2
  by_contra hge
  have hle : release enters due k ≤ release enters due j := release_mono (not_lt.mp hge)
  omega

end Fifo
