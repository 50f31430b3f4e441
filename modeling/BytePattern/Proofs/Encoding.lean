/-
Texts as byte strings.  An ASCII character is one byte, and no byte of another character is ASCII.
-/
import BytePattern.Template

namespace BytePattern

theorem toNat_ascii {c : Char} (hc : c.toNat < 0x80) : (ascii c).toNat = c.toNat := by
  have hvalue : c.val.toNat < 256 := Nat.lt_trans hc (by decide)
  rw [ascii, Char.toUInt8, UInt32.toNat_toUInt8, Nat.mod_eq_of_lt hvalue]
  rfl

theorem ascii_inj {c d : Char} (hc : c.toNat < 0x80) (hd : d.toNat < 0x80)
    (hsame : ascii c = ascii d) : c = d := by
  have hvalue := congrArg UInt8.toNat hsame
  rw [toNat_ascii hc, toNat_ascii hd] at hvalue
  exact Char.toNat_inj.mp hvalue

theorem not_le_ascii {c : Char} (hc : c.toNat < 0x80) : ¬0x80 ≤ ascii c := by
  rw [UInt8.le_iff_toNat_le, toNat_ascii hc]
  exact Nat.not_le.mpr hc

theorem utf8EncodeChar_of_ascii {c : Char} (hc : c.toNat < 0x80) :
    String.utf8EncodeChar c = [ascii c] := by
  have hsize : c.utf8Size = 1 := by
    rw [Char.utf8Size_eq_one_iff, UInt32.le_iff_toNat_le]
    exact Nat.le_of_lt_succ hc
  rw [String.utf8EncodeChar_eq_singleton hsize]
  rfl

theorem le_of_mem_utf8EncodeChar {c : Char} (hc : 0x80 ≤ c.toNat) {byte : UInt8}
    (hbyte : byte ∈ String.utf8EncodeChar c) : 0x80 ≤ byte := by
  have hvalue : 0x80 ≤ c.val.toNat := hc
  have hhigh {n : Nat} (hle : 0x80 ≤ n) (hlt : n < 0x100) : 0x80 ≤ UInt8.ofNat n := by
    rw [UInt8.le_iff_toNat_le, UInt8.toNat_ofNat', Nat.mod_eq_of_lt hlt]
    exact hle
  revert hbyte
  fun_cases String.utf8EncodeChar c with
  | case1 h => omega
  | case2 =>
      intro hbyte
      simp only [List.mem_cons, List.not_mem_nil, or_false] at hbyte
      rcases hbyte with rfl | rfl <;> exact hhigh (by omega) (by omega)
  | case3 =>
      intro hbyte
      simp only [List.mem_cons, List.not_mem_nil, or_false] at hbyte
      rcases hbyte with rfl | rfl | rfl <;> exact hhigh (by omega) (by omega)
  | case4 =>
      intro hbyte
      simp only [List.mem_cons, List.not_mem_nil, or_false] at hbyte
      rcases hbyte with rfl | rfl | rfl | rfl <;> exact hhigh (by omega) (by omega)

theorem ascii_not_mem_utf8EncodeChar {c d : Char} (hd : d.toNat < 0x80) (hne : c ≠ d) :
    ascii d ∉ String.utf8EncodeChar c := by
  intro hmem
  by_cases hc : c.toNat < 0x80
  · rw [utf8EncodeChar_of_ascii hc, List.mem_singleton] at hmem
    exact hne (ascii_inj hd hc hmem).symm
  · exact not_le_ascii hd (le_of_mem_utf8EncodeChar (Nat.le_of_not_lt hc) hmem)

theorem utf8EncodeChar_ne_nil (c : Char) : String.utf8EncodeChar c ≠ [] := by
  rw [← List.length_pos_iff, String.length_utf8EncodeChar]
  exact c.utf8Size_pos

namespace Bytes

theorem ofString_eq_flatMap (text : String) :
    ofString text = text.toList.flatMap String.utf8EncodeChar := by
  rw [ofString, String.toUTF8_eq_toByteArray, ← String.utf8Encode_toList, List.utf8Encode,
    List.toList_data_toByteArray]

theorem toString?_ofString (text : String) : (ofString text).toString? = some text := by
  have hbytes : (⟨(ofString text).toArray⟩ : ByteArray) = text.toByteArray := by
    rw [ofString, String.toUTF8_eq_toByteArray, Array.toArray_toList]
  rw [toString?, hbytes, String.fromUTF8?, dif_pos text.isValidUTF8]
  rfl

theorem ofString_append (first second : String) :
    ofString (first ++ second) = ofString first ++ ofString second := by
  rw [ofString_eq_flatMap, String.toList_append, List.flatMap_append, ← ofString_eq_flatMap,
    ← ofString_eq_flatMap]

theorem ofString_inj {first second : String} :
    ofString first = ofString second ↔ first = second := by
  refine ⟨fun hbytes => ?_, congrArg ofString⟩
  have htext := toString?_ofString first
  rw [hbytes, toString?_ofString] at htext
  exact (Option.some.inj htext).symm

end Bytes

end BytePattern
