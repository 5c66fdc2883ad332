import Mathlib
/-!
# Strings compare as their bytes

Strings are ordered character by character, by code point, and this is the order the
builtin comparison of two strings reports. A string is also the sequence of its UTF-8
bytes, and the encoding keeps the order: the bytes of a character are a lead byte, whose
range tells the length of the encoding, and then base-64 digits of the code point. Of two
code points the smaller one has a shorter encoding with a smaller lead byte, or one of the
same length whose first differing byte is smaller; no encoding is empty. Comparing two
strings is therefore comparing their bytes lexicographically, byte by byte.
-/
namespace InlineCache

namespace Utf8

/-- Every code point lies below `0x110000`. -/
theorem val_toNat_lt (c : Char) : c.val.toNat < 0x110000 := by
  have valid := c.valid
  simp only [UInt32.isValidChar, Nat.isValidChar] at valid
  omega

theorem ofNat_lt_ofNat {x y : Nat} (hx : x < 256) (hy : y < 256) :
    UInt8.ofNat x < UInt8.ofNat y ↔ x < y := by
  rw [UInt8.lt_iff_toNat_lt, UInt8.toNat_ofNat', UInt8.toNat_ofNat', Nat.mod_eq_of_lt hx,
    Nat.mod_eq_of_lt hy]

theorem ofNat_eq_ofNat {x y : Nat} (hx : x < 256) (hy : y < 256) :
    UInt8.ofNat x = UInt8.ofNat y ↔ x = y := by
  rw [← UInt8.toNat_inj, UInt8.toNat_ofNat', UInt8.toNat_ofNat', Nat.mod_eq_of_lt hx,
    Nat.mod_eq_of_lt hy]

/-- The encoding of a smaller code point comes first, whatever follows either encoding:
the two differ at a byte that both have. -/
theorem encodeChar_append_lt {c d : Char} (h : c < d) (rest rest' : List UInt8) :
    String.utf8EncodeChar c ++ rest < String.utf8EncodeChar d ++ rest' := by
  have lt : c.val.toNat < d.val.toNat := h
  have valid := val_toNat_lt d
  simp only [String.utf8EncodeChar]
  split_ifs <;>
    simp (disch := omega) only [List.cons_append, List.nil_append, List.cons_lt_cons_iff,
      ofNat_lt_ofNat, ofNat_eq_ofNat, Nat.mod_eq_of_lt] <;>
    omega

/-- The bytes of a string are the encodings of its characters, in order. -/
theorem bytes_eq_flatMap (s : String) :
    s.toUTF8.data.toList = s.toList.flatMap String.utf8EncodeChar := by
  rw [String.toUTF8_eq_toByteArray, ← String.utf8Encode_toList, List.utf8Encode,
    List.toList_data_toByteArray]

/-- Encoding keeps the order of character sequences. -/
theorem flatMap_lt_of_lt : ∀ {l₁ l₂ : List Char}, l₁ < l₂ →
    l₁.flatMap String.utf8EncodeChar < l₂.flatMap String.utf8EncodeChar
  | [], d :: t, _ => by
    obtain ⟨b, bs, hb⟩ := List.exists_cons_of_ne_nil (String.utf8EncodeChar_ne_nil (c := d))
    rw [List.flatMap_cons, hb, List.flatMap_nil]
    exact List.nil_lt_cons b _
  | c :: s, d :: t, h => by
    rw [List.flatMap_cons, List.flatMap_cons]
    rcases List.cons_lt_cons_iff.1 h with lt | ⟨rfl, tail⟩
    · exact encodeChar_append_lt lt _ _
    · exact List.append_left_lt (flatMap_lt_of_lt tail)
  | _, [], h => absurd h (List.not_lt_nil _)

/-- A string comes before another exactly when its bytes do. -/
theorem lt_iff_bytes_lt (a b : String) :
    a < b ↔ a.toUTF8.data.toList < b.toUTF8.data.toList := by
  rw [String.lt_iff_toList_lt, bytes_eq_flatMap, bytes_eq_flatMap]
  refine ⟨flatMap_lt_of_lt, fun h => ?_⟩
  by_contra notLt
  rcases List.le_iff_lt_or_eq.1 (List.not_lt.1 notLt) with gt | same
  · exact List.lt_asymm h (flatMap_lt_of_lt gt)
  · rw [same] at h
    exact List.lt_irrefl _ h

/-- Two strings are equal exactly when their bytes are. -/
theorem bytes_inj {a b : String} : a.toUTF8.data.toList = b.toUTF8.data.toList ↔ a = b := by
  rw [Array.toList_inj, ← ByteArray.ext_iff, String.toUTF8_eq_toByteArray,
    String.toUTF8_eq_toByteArray, String.toByteArray_inj]

/-- Comparing two strings is comparing their bytes lexicographically. -/
theorem compare_eq_bytes (a b : String) :
    compare a b =
      if a.toUTF8.data.toList < b.toUTF8.data.toList then .lt
      else if a.toUTF8.data.toList = b.toUTF8.data.toList then .eq else .gt := by
  show compareOfLessAndEq a b = _
  simp only [compareOfLessAndEq, lt_iff_bytes_lt, bytes_inj]

end Utf8

end InlineCache
