import Tenancy.Text.Utf8

/-!
# The bytes of a text

Each character of a text has bytes of its own, one after the other, and a text can be told from its
bytes. A character of ASCII has one byte, its number.

## Key results

- `ofText_eq_flatMap`: the bytes of a text, character by character
- `ofText_injective`: different texts have different bytes
- `ofText_of_isAscii`: the bytes of a text of ASCII
-/

namespace Tenancy

/-- A text has characters of ASCII only. -/
def Text.IsAscii (s : String) : Prop := ∀ c ∈ s.toList, c.toNat < 0x80

instance (s : String) : Decidable (Text.IsAscii s) :=
  decidable_of_iff (s.toList.all fun c => c.toNat < 0x80) (by simp [Text.IsAscii])

theorem Text.isAscii_append_iff {s t : String} : IsAscii (s ++ t) ↔ IsAscii s ∧ IsAscii t := by
  simp only [IsAscii, String.toList_append, List.forall_mem_append]

/-- The number of the character with a number. -/
theorem Text.toNat_ofNat_of_isValidChar {n : Nat} (h : n.isValidChar) : (Char.ofNat n).toNat = n :=
  congrArg Char.toNat (dif_pos h : Char.ofNat n = Char.ofNatAux n h)

namespace Bytes

variable {s t : String}

private theorem toList_loop_eq (bs : ByteArray) (i : Nat) (done : List UInt8) :
    ByteArray.toList.loop bs i done = done.reverse ++ bs.data.toList.drop i := by
  fun_induction ByteArray.toList.loop bs i done with
  | case1 i done h ih =>
    have hi : i < bs.data.toList.length := by simpa using h
    rw [ih, List.drop_eq_getElem_cons hi]
    simp [ByteArray.get!, h]
  | case2 i done h =>
    rw [List.drop_eq_nil_of_le (by simpa using h), List.append_nil]

theorem ofText_eq_data (s : String) : ofText s = s.toByteArray.data.toList := by
  rw [ofText, String.toUTF8_eq_toByteArray, ByteArray.toList, toList_loop_eq]
  rfl

/-- Different texts have different bytes. -/
theorem ofText_injective : Function.Injective ofText := by
  intro s t h
  rw [ofText_eq_data, ofText_eq_data, Array.toList_inj] at h
  exact String.toByteArray_inj.mp (ByteArray.ext h)

theorem ofText_append (s t : String) : ofText (s ++ t) = ofText s ++ ofText t := by
  simp only [ofText_eq_data, String.toByteArray_append, ByteArray.toList_data_append]

/-- The bytes of a text are those of its characters, one after the other. -/
theorem ofText_eq_flatMap (s : String) : ofText s = s.toList.flatMap String.utf8EncodeChar := by
  rw [ofText_eq_data, ← String.utf8Encode_toList, List.utf8Encode, List.toList_data_toByteArray]

theorem utf8Size_of_ascii {c : Char} (h : c.toNat < 0x80) : c.utf8Size = 1 := by
  rw [Char.utf8Size_eq_one_iff, UInt32.le_iff_toNat_le]
  exact Nat.le_of_lt_succ h

/-- A character of ASCII has one byte, its number. -/
theorem ofText_of_isAscii (h : Text.IsAscii s) : ofText s = s.toList.map Char.toUInt8 := by
  have hone : ∀ c ∈ s.toList, String.utf8EncodeChar c = [c.toUInt8] := fun c hc => by
    rw [String.utf8EncodeChar_eq_singleton (utf8Size_of_ascii (h c hc)), Char.toUInt8_val]
  rw [ofText_eq_flatMap, List.flatMap_def, List.map_congr_left hone, ← List.flatMap_def,
    ← List.map_eq_flatMap]

end Bytes

end Tenancy
