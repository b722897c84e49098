import Mathlib.Data.List.TakeDrop

namespace Utf8

/-! ### Texts and bytes -/

/-- `bytes.decode("utf-8")`. -/
def decode_utf8 (bytes : List UInt8) : Option (List Char) :=
  (ByteArray.mk bytes.toArray).utf8Decode?.map Array.toList

/-- `str.encode("utf-8")`. -/
def encode_utf8 (text : List Char) : List UInt8 := text.flatMap String.utf8EncodeChar

/-- Bytes that are UTF-8 are the bytes of their text. -/
theorem encode_utf8_of_decode {bytes : List UInt8} {text : List Char} (h : decode_utf8 bytes = some text) :
    encode_utf8 text = bytes := by
  obtain ⟨chars, hchars, rfl⟩ := Option.map_eq_some_iff.mp h
  have hsome : (ByteArray.mk bytes.toArray).utf8Decode?.isSome = true := by rw [hchars]; rfl
  have hget : (ByteArray.mk bytes.toArray).utf8Decode?.get hsome = chars :=
    Option.get_of_eq_some hsome hchars
  have hencode := ByteArray.utf8Encode_get_utf8Decode? (h := hsome)
  rw [hget, List.utf8Encode] at hencode
  have hdata := congrArg (fun own => own.data.toList) hencode
  simpa [encode_utf8] using hdata

theorem decode_encode_utf8 (text : List Char) : decode_utf8 (encode_utf8 text) = some text := by
  have hread : text.utf8Encode.utf8Decode? = some text.toArray := List.utf8Decode?_utf8Encode
  have hbytes : ByteArray.mk (encode_utf8 text).toArray = text.utf8Encode := by
    exact ByteArray.ext (List.data_toByteArray).symm
  rw [decode_utf8, hbytes, hread, Option.map_some, List.toList_toArray]

/-! ### ASCII -/

/-- Characters of one byte each. -/
def Ascii (text : List Char) : Prop := ∀ c ∈ text, c.toNat < 128

instance (text : List Char) : Decidable (Ascii text) := List.decidableBAll _ text

theorem Ascii.append {left right : List Char} (hleft : Ascii left) (hright : Ascii right) : Ascii (left ++ right) :=
  fun c hc => (List.mem_append.mp hc).elim (hleft c) (hright c)

theorem Ascii.cons {c : Char} {text : List Char} (hc : c.toNat < 128) (h : Ascii text) : Ascii (c :: text) :=
  List.forall_mem_cons.mpr ⟨hc, h⟩

theorem utf8EncodeChar_ascii {c : Char} (h : c.toNat < 128) : String.utf8EncodeChar c = [c.val.toUInt8] := by
  have hsize : c.utf8Size = 1 := Char.utf8Size_eq_one_iff.mpr (by
    rw [UInt32.le_iff_toNat_le]
    exact Nat.le_of_lt_succ h)
  exact String.utf8EncodeChar_eq_singleton hsize

theorem encode_ascii {text : List Char} (h : Ascii text) : encode_utf8 text = text.map fun c => c.val.toUInt8 := by
  induction text with
  | nil => rfl
  | cons c text ih =>
    obtain ⟨hc, htext⟩ := List.forall_mem_cons.mp h
    rw [encode_utf8, List.flatMap_cons, utf8EncodeChar_ascii hc, ← encode_utf8, ih htext]
    rfl

theorem length_encode_utf8 {text : List Char} (h : Ascii text) : (encode_utf8 text).length = text.length := by
  rw [encode_ascii h, List.length_map]

/-- A first part of the bytes is the bytes of a first part. -/
theorem encode_utf8_take {text : List Char} (h : Ascii text) (count : Nat) :
    (encode_utf8 text).take count = encode_utf8 (text.take count) := by
  have htake : Ascii (text.take count) := fun c hc => h c (List.mem_of_mem_take hc)
  rw [encode_ascii h, encode_ascii htake, List.map_take]

end Utf8
