import Mathlib.Data.List.Basic
import Telemetry.Json.Tree

/-!
# The bytes of texts

The bytes of a text are those of its characters, one after the other (`Text.utf8_ofList_cons`), and
the text is read back from them, at once (`Bytes.text?_utf8`) and one character after the other
(`Bytes.chars_utf8`).
-/

namespace Telemetry

namespace Text

theorem utf8_ofList (s : List Char) : utf8 (String.ofList s) = s.utf8Encode.data.toList := by
  rw [utf8, String.toByteArray_ofList]

/-- The bytes of a text are those of its first character and then those of the others. -/
theorem utf8_ofList_cons (c : Char) (s : List Char) :
    utf8 (String.ofList (c :: s)) = String.utf8EncodeChar c ++ utf8 (String.ofList s) := by
  rw [utf8_ofList, utf8_ofList, List.utf8Encode_cons, List.utf8Encode_singleton,
    ByteArray.data_append, Array.toList_append, List.toList_data_toByteArray]

/-- A character below 128 has one byte. -/
theorem utf8EncodeChar_ofNat {n : Nat} (h : n < 128) :
    String.utf8EncodeChar (Char.ofNat n) = [UInt8.ofNat n] := by
  have hall : ∀ n < 128, String.utf8EncodeChar (Char.ofNat n) = [UInt8.ofNat n] := by
    decide
  exact hall n h

/-- Bytes below 128 are those of a text. -/
theorem utf8_ofNat {bytes : Bytes} (h : ∀ b ∈ bytes, b.toNat < 128) :
    utf8 (String.ofList (bytes.map fun b => Char.ofNat b.toNat)) = bytes := by
  induction bytes with
  | nil => rfl
  | cons b bytes ih =>
    obtain ⟨hb, hbytes⟩ := List.forall_mem_cons.mp h
    rw [List.map_cons, utf8_ofList_cons, utf8EncodeChar_ofNat hb, UInt8.ofNat_toNat, ih hbytes,
      List.singleton_append]

end Text

namespace Bytes

/-- **The bytes of a text are valid**, and they are those of no other text. -/
theorem text?_utf8 (s : String) : text? (Text.utf8 s) = some s := by
  have hbytes : (⟨(Text.utf8 s).toArray⟩ : ByteArray) = s.toByteArray := by
    rw [Text.utf8, Array.toArray_toList]
  rw [text?, hbytes, String.fromUTF8?, dif_pos s.isValidUTF8]
  rfl

/-- Characters are read from where their bytes begin. -/
theorem charsFrom_append (before : ByteArray) (s : List Char) :
    charsFrom (before ++ s.utf8Encode) before.size = s.map some := by
  induction s generalizing before with
  | nil =>
    rw [List.utf8Encode_nil, ByteArray.append_empty, charsFrom, dif_neg (Nat.lt_irrefl _)]
    rfl
  | cons c s ih =>
    have hsize : [c].utf8Encode.size = c.utf8Size := by
      rw [List.utf8Encode_singleton, List.size_toByteArray, String.length_utf8EncodeChar]
    have hsplit : before ++ (c :: s).utf8Encode = before ++ [c].utf8Encode ++ s.utf8Encode := by
      rw [List.utf8Encode_cons, ByteArray.append_assoc]
    have hlt : before.size < (before ++ (c :: s).utf8Encode).size := by
      have hpos := c.utf8Size_pos
      rw [hsplit, ByteArray.size_append, ByteArray.size_append, hsize]
      omega
    have hfirst : (before ++ (c :: s).utf8Encode).utf8DecodeChar? before.size = some c := by
      rw [ByteArray.utf8DecodeChar?_eq_utf8DecodeChar?_extract,
        ByteArray.extract_append_eq_right rfl ByteArray.size_append,
        List.utf8DecodeChar?_utf8Encode_cons]
    have hrest := ih (before ++ [c].utf8Encode)
    rw [ByteArray.size_append, hsize, ← hsplit] at hrest
    rw [charsFrom, dif_pos hlt]
    simp only [hfirst, hrest, List.map_cons]

/-- **A text is read back from its bytes.** -/
theorem chars_utf8 (s : String) : chars (Text.utf8 s) = s.toList.map some := by
  have hbytes : (⟨(Text.utf8 s).toArray⟩ : ByteArray) = .empty ++ s.toList.utf8Encode := by
    rw [ByteArray.empty_append, String.utf8Encode_toList, Text.utf8, Array.toArray_toList]
  rw [chars, hbytes]
  exact charsFrom_append .empty s.toList

end Bytes

end Telemetry
