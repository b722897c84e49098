import Mathlib.Data.List.Count
import Mathlib.Data.List.Sort
import Mathlib.Order.Defs.LinearOrder

namespace Rank

variable {α : Type} [LinearOrder α] {items : List α} {item : α} {i j : Nat}

/-- Ranks of a sorted list order its entries. -/
theorem getElem_mono (hsorted : items.Pairwise (· ≤ ·)) (hij : i ≤ j) (hj : j < items.length) :
    items[i] ≤ items[j] := by
  rcases Nat.eq_or_lt_of_le hij with rfl | hlt
  · exact le_refl _
  · exact List.pairwise_iff_getElem.mp hsorted i j (by omega) hj hlt

/-- A property of great entries holds from the rank on where so many have it. -/
theorem getElem_of_countP_great {p : α → Bool} (hgreat : ∀ {x y}, x ≤ y → p x = true → p y = true)
    (hsorted : items.Pairwise (· ≤ ·)) (hi : i < items.length)
    (hcount : items.length ≤ i + items.countP p) : p items[i] = true := by
  by_contra hnot
  have hnone : (items.take (i + 1)).countP p = 0 := by
    rw [List.countP_eq_zero]
    intro entry hmem
    obtain ⟨k, hk, rfl⟩ := List.getElem_of_mem hmem
    rw [List.length_take] at hk
    rw [List.getElem_take]
    exact fun hentry => hnot (hgreat (getElem_mono hsorted (by omega) hi) hentry)
  have hback : items.countP p ≤ items.length - (i + 1) := by
    calc items.countP p = (items.take (i + 1) ++ items.drop (i + 1)).countP p := by
          rw [List.take_append_drop]
      _ = (items.drop (i + 1)).countP p := by rw [List.countP_append, hnone, Nat.zero_add]
      _ ≤ (items.drop (i + 1)).length := List.countP_le_length
      _ = items.length - (i + 1) := List.length_drop
  omega

/-- A property of small entries holds below the rank up to which so many have it. -/
theorem getElem_of_countP_small {p : α → Bool} (hsmall : ∀ {x y}, x ≤ y → p y = true → p x = true)
    (hsorted : items.Pairwise (· ≤ ·)) (hi : i < items.length) (hcount : i < items.countP p) :
    p items[i] = true := by
  by_contra hnot
  have hnone : (items.drop i).countP p = 0 := by
    rw [List.countP_eq_zero]
    intro entry hmem
    obtain ⟨k, hk, rfl⟩ := List.getElem_of_mem hmem
    rw [List.length_drop] at hk
    rw [List.getElem_drop]
    exact fun hentry => hnot (hsmall (getElem_mono hsorted (by omega) (by omega)) hentry)
  have hfront : items.countP p ≤ i := by
    calc items.countP p = (items.take i ++ items.drop i).countP p := by rw [List.take_append_drop]
      _ = (items.take i).countP p := by rw [List.countP_append, hnone, Nat.add_zero]
      _ ≤ (items.take i).length := List.countP_le_length
      _ ≤ i := List.length_take_le i items
  omega

/-- An entry whose rank is below the number of copies of `item` is at most `item`. -/
theorem getElem_le_of_lt_count (hsorted : items.Pairwise (· ≤ ·)) (hi : i < items.length)
    (hcount : i < items.count item) : items[i] ≤ item := by
  have hcopies : items.count item ≤ items.countP fun entry => decide (entry ≤ item) :=
    List.countP_mono_left fun entry _ hentry => decide_eq_true (le_of_eq (beq_iff_eq.mp hentry))
  have hle := getElem_of_countP_small (p := fun entry => decide (entry ≤ item))
    (fun hxy hy => decide_eq_true (hxy.trans (of_decide_eq_true hy))) hsorted hi (by omega)
  exact of_decide_eq_true hle

/-- An entry with fewer entries from its rank on than copies of `item` is at
    least `item`. -/
theorem le_getElem_of_length_le (hsorted : items.Pairwise (· ≤ ·)) (hi : i < items.length)
    (hcount : items.length ≤ i + items.count item) : item ≤ items[i] := by
  have hcopies : items.count item ≤ items.countP fun entry => decide (item ≤ entry) :=
    List.countP_mono_left fun entry _ hentry => decide_eq_true (le_of_eq (beq_iff_eq.mp hentry).symm)
  have hle := getElem_of_countP_great (p := fun entry => decide (item ≤ entry))
    (fun hxy hx => decide_eq_true ((of_decide_eq_true hx).trans hxy)) hsorted hi (by omega)
  exact of_decide_eq_true hle

/-- Sorting a sorted list changes nothing. -/
theorem insertionSort_insertionSort (items : List α) :
    (items.insertionSort (· ≤ ·)).insertionSort (· ≤ ·) = items.insertionSort (· ≤ ·) :=
  (List.pairwise_insertionSort (· ≤ ·) items).insertionSort_eq

variable {β : Type} [LinearOrder β] {f : α → β}

theorem insertionSort_map_mono (hf : StrictMono f) (items : List α) :
    (items.map f).insertionSort (· ≤ ·) = (items.insertionSort (· ≤ ·)).map f :=
  (List.map_insertionSort (· ≤ ·) (· ≤ ·) f items fun _ _ _ _ => hf.le_iff_le.symm).symm

/-- A decreasing map turns the ranks around. -/
theorem insertionSort_map_anti (hf : Antitone f) (items : List α) :
    (items.map f).insertionSort (· ≤ ·) = ((items.insertionSort (· ≤ ·)).map f).reverse := by
  have hperm : ((items.map f).insertionSort (· ≤ ·)).Perm ((items.insertionSort (· ≤ ·)).map f).reverse :=
    (List.perm_insertionSort _ _).trans
      (((List.perm_insertionSort _ items).map f).symm.trans (List.reverse_perm _).symm)
  apply hperm.eq_of_pairwise' (List.pairwise_insertionSort _ _)
  rw [List.pairwise_reverse, List.pairwise_map]
  exact (List.pairwise_insertionSort (· ≤ ·) items).imp fun h => hf h

end Rank
