import Mathlib.Data.Nat.Digits.Lemmas

/-! ### Numbers in decimal, padded with zeros -/

namespace Decimal

/-- The digits of a number, most significant first, at least `width` of them. -/
def digits (width n : Nat) : List Char :=
  (Nat.digitsAppend 10 width n).reverse.map Nat.digitChar

def digit_value (c : Char) : Nat := c.toNat - 48

/-- The number that some digits stand for. -/
def value (text : List Char) : Nat := Nat.ofDigits 10 (text.map digit_value).reverse

theorem digit_value_digitChar {d : Nat} (h : d < 10) : digit_value (Nat.digitChar d) = d := by
  revert d
  decide

theorem isDigit_digitChar {d : Nat} (h : d < 10) : (Nat.digitChar d).isDigit = true := by
  revert d
  decide

theorem value_digits (width n : Nat) : value (digits width n) = n := by
  have hmap : (digits width n).map digit_value = (Nat.digitsAppend 10 width n).reverse := by
    unfold digits
    rw [List.map_map]
    conv_rhs => rw [← List.map_id (List.reverse _)]
    apply List.map_congr_left
    intro d hd
    exact digit_value_digitChar (Nat.lt_of_mem_digitsAppend (by omega) width d (List.mem_reverse.mp hd))
  unfold value
  rw [hmap, List.reverse_reverse, Nat.digitsAppend, Nat.ofDigits_append_replicate_zero,
    Nat.ofDigits_digits]

theorem digits_injective (width : Nat) : Function.Injective (digits width) :=
  Function.LeftInverse.injective (value_digits width)

theorem isDigit_of_mem {width n : Nat} {c : Char} (h : c ∈ digits width n) : c.isDigit = true := by
  obtain ⟨d, hd, rfl⟩ := List.mem_map.mp h
  exact isDigit_digitChar (Nat.lt_of_mem_digitsAppend (by omega) width d (List.mem_reverse.mp hd))

theorem length_digits_le_iff {width size n : Nat} (hwidth : width ≤ size) :
    (digits width n).length ≤ size ↔ n < 10 ^ size := by
  rw [← Nat.digits_length_le_iff (by omega) n]
  unfold digits Nat.digitsAppend
  rw [List.length_map, List.length_reverse, List.length_append, List.length_replicate]
  omega

/-- A number below the power of ten takes exactly the width. -/
theorem length_digits {width n : Nat} (h : n < 10 ^ width) : (digits width n).length = width := by
  unfold digits
  rw [List.length_map, List.length_reverse, Nat.length_digitsAppend (by omega) width h]

/-- A number has no leading zero unless it is one. -/
theorem digits_one_head (n : Nat) : digits 1 n = ['0'] ∨ ∃ c rest, digits 1 n = c :: rest ∧ c ≠ '0' := by
  by_cases hzero : n = 0
  · left
    subst hzero
    rfl
  · right
    have hne : Nat.digits 10 n ≠ [] := Nat.digits_ne_nil_iff_ne_zero.mpr hzero
    have hlength : 0 < (Nat.digits 10 n).length := List.length_pos_of_ne_nil hne
    have hlast := Nat.getLast_digit_ne_zero 10 hzero
    have hdigit : (Nat.digits 10 n).getLast hne < 10 := Nat.digits_lt_base (by omega) (List.getLast_mem hne)
    have hchar : ∀ d < 10, d ≠ 0 → Nat.digitChar d ≠ '0' := by decide
    refine ⟨Nat.digitChar ((Nat.digits 10 n).getLast hne), ((Nat.digits 10 n).dropLast.reverse).map Nat.digitChar,
      ?_, hchar _ hdigit hlast⟩
    unfold digits Nat.digitsAppend
    rw [Nat.sub_eq_zero_of_le hlength, List.replicate_zero, List.append_nil, ← List.map_cons]
    conv_lhs => rw [← List.dropLast_append_getLast hne, List.reverse_append]
    rfl

end Decimal
