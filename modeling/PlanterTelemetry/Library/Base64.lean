import Mathlib.Tactic.NormNum

/-! ### Base64, in the standard alphabet with padding -/

namespace Base64

def alphabet : List Char := "ABCDEFGHIJKLMNOPQRSTUVWXYZabcdefghijklmnopqrstuvwxyz0123456789+/".toList

def letter (n : Nat) : Char := alphabet.getD n '='

def letter_value (c : Char) : Option Nat := if c ∈ alphabet then some (alphabet.idxOf c) else none

/-- Three bytes to a group of four letters; the last group is padded. -/
def encode : List UInt8 → List Char
  | [] => []
  | [x] => [letter (x.toNat / 4), letter (x.toNat % 4 * 16), '=', '=']
  | [x, y] =>
    [letter (x.toNat / 4), letter (x.toNat % 4 * 16 + y.toNat / 16), letter (y.toNat % 16 * 4), '=']
  | x :: y :: z :: rest =>
    letter (x.toNat / 4) :: letter (x.toNat % 4 * 16 + y.toNat / 16) ::
      letter (y.toNat % 16 * 4 + z.toNat / 64) :: letter (z.toNat % 64) :: encode rest

/-- Strict decoding: letters of the alphabet only, in whole groups, with padding
    in the last one alone. The bits that padding leaves over are not checked. -/
def decode : List Char → Option (List UInt8)
  | [] => some []
  | a :: b :: c :: d :: rest => do
    let a ← letter_value a
    let b ← letter_value b
    if c = '=' then
      if d = '=' ∧ rest = [] then some [UInt8.ofNat (a * 4 + b / 16)] else none
    else
      let c ← letter_value c
      if d = '=' then
        if rest = [] then some [UInt8.ofNat (a * 4 + b / 16), UInt8.ofNat (b % 16 * 16 + c / 4)] else none
      else
        let d ← letter_value d
        let more ← decode rest
        some (UInt8.ofNat (a * 4 + b / 16) :: UInt8.ofNat (b % 16 * 16 + c / 4) ::
          UInt8.ofNat (c % 4 * 64 + d) :: more)
  | _ => none

theorem letter_value_letter {n : Nat} (h : n < 64) : letter_value (letter n) = some n := by
  revert n
  decide +kernel

theorem letter_ne_padding {n : Nat} (h : n < 64) : letter n ≠ '=' := by
  revert n
  decide +kernel

theorem byte_of {x : UInt8} {n : Nat} (h : n = x.toNat) : UInt8.ofNat n = x := by
  rw [h, UInt8.ofNat_toNat]

/-- Every byte string is read back. -/
theorem decode_encode (bytes : List UInt8) : decode (encode bytes) = some bytes := by
  induction bytes using encode.induct with
  | case1 => rfl
  | case2 x =>
    have hx := x.toNat_lt
    rw [encode, decode, letter_value_letter (by omega), letter_value_letter (by omega)]
    simp only [Option.bind_eq_bind, Option.bind_some, if_true, and_self]
    rw [byte_of (x := x) (by omega)]
  | case3 x y =>
    have hx := x.toNat_lt
    have hy := y.toNat_lt
    rw [encode, decode, letter_value_letter (by omega), letter_value_letter (by omega),
      letter_value_letter (by omega)]
    simp only [Option.bind_eq_bind, Option.bind_some, if_true, if_neg (letter_ne_padding
      (by omega : y.toNat % 16 * 4 < 64))]
    rw [byte_of (x := x) (by omega), byte_of (x := y) (by omega)]
  | case4 x y z rest ih =>
    have hx := x.toNat_lt
    have hy := y.toNat_lt
    have hz := z.toNat_lt
    rw [encode, decode, letter_value_letter (by omega), letter_value_letter (by omega),
      letter_value_letter (by omega), letter_value_letter (by omega), ih]
    simp only [Option.bind_eq_bind, Option.bind_some,
      if_neg (letter_ne_padding (by omega : y.toNat % 16 * 4 + z.toNat / 64 < 64)),
      if_neg (letter_ne_padding (by omega : z.toNat % 64 < 64))]
    rw [byte_of (x := x) (by omega), byte_of (x := y) (by omega), byte_of (x := z) (by omega)]

theorem letter_ascii {n : Nat} (h : n < 64) : (letter n).toNat < 128 := by
  revert n
  decide +kernel

theorem encode_ascii (bytes : List UInt8) : ∀ c ∈ encode bytes, c.toNat < 128 := by
  induction bytes using encode.induct with
  | case1 => exact fun c hc => nomatch hc
  | case2 x =>
    have hx := x.toNat_lt
    rw [encode]
    exact List.forall_mem_cons.mpr ⟨letter_ascii (by omega), List.forall_mem_cons.mpr ⟨letter_ascii (by omega),
      by simp⟩⟩
  | case3 x y =>
    have hx := x.toNat_lt
    have hy := y.toNat_lt
    rw [encode]
    exact List.forall_mem_cons.mpr ⟨letter_ascii (by omega), List.forall_mem_cons.mpr ⟨letter_ascii (by omega),
      List.forall_mem_cons.mpr ⟨letter_ascii (by omega), by simp⟩⟩⟩
  | case4 x y z rest ih =>
    have hx := x.toNat_lt
    have hy := y.toNat_lt
    have hz := z.toNat_lt
    rw [encode]
    refine List.forall_mem_cons.mpr ⟨letter_ascii (by omega), List.forall_mem_cons.mpr
      ⟨letter_ascii (by omega), List.forall_mem_cons.mpr ⟨letter_ascii (by omega), ?_⟩⟩⟩
    exact List.forall_mem_cons.mpr ⟨letter_ascii (by omega), ih⟩

end Base64
