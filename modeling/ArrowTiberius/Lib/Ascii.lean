import Mathlib.Data.List.Basic
import Mathlib.Tactic.Common
namespace Ascii

def bytes (text : String) : List UInt8 := text.toUTF8.data.toList

def char (byte : UInt8) : Char := Char.ofNat byte.toNat

theorem bytes_eq (text : String) : bytes text = text.toList.flatMap String.utf8EncodeChar := by
  have htext : String.ofList text.toList = text := String.ofList_toList
  conv_lhs => rw [← htext]
  rw [bytes, String.toUTF8_eq_toByteArray, String.toByteArray_ofList, List.utf8Encode, List.data_toByteArray]

theorem bytes_inj {s t : String} : bytes s = bytes t ↔ s = t := by
  rw [bytes, bytes, Array.toList_inj, String.toUTF8_eq_toByteArray, String.toUTF8_eq_toByteArray,
    ← String.toByteArray_inj]
  constructor
  · intro h
    exact ByteArray.ext h
  · intro h
    rw [h]

theorem utf8EncodeChar_char {byte : UInt8} (h : byte < 128) : String.utf8EncodeChar (char byte) = [byte] := by
  have hlt : byte.toNat < 128 := h
  have hval : (char byte).val.toNat = byte.toNat := by
    have hvalid : byte.toNat.isValidChar := Or.inl (by omega)
    rw [char, Char.ofNat, dif_pos hvalid]
    rfl
  simp only [String.utf8EncodeChar, hval]
  rw [if_pos (by omega)]
  simp

theorem bytes_eq_iff {text : String} {codes : List UInt8} (h : ∀ byte ∈ codes, byte < 128) :
    bytes text = codes ↔ text.toList = codes.map char := by
  have hcodes : bytes (String.ofList (codes.map char)) = codes := by
    rw [bytes_eq, String.toList_ofList]
    induction codes with
    | nil => rfl
    | cons byte codes ih =>
      rw [List.map_cons, List.flatMap_cons, utf8EncodeChar_char (h byte List.mem_cons_self),
        ih fun byte hbyte => h byte (List.mem_cons_of_mem _ hbyte)]
      rfl
  constructor
  · intro htext
    rw [bytes_inj.mp (htext.trans hcodes.symm), String.toList_ofList]
  · intro htext
    rw [← hcodes, ← htext, String.ofList_toList]

theorem head_bytes_eq {text : String} {byte : UInt8} (h : byte < 128) :
    (bytes text).head? = some byte ↔ text.toList.head? = some (char byte) := by
  have hlt : byte.toNat < 128 := h
  rw [bytes_eq]
  cases text.toList with
  | nil => simp
  | cons c rest =>
    rw [List.flatMap_cons, List.head?_cons, Option.some.injEq]
    constructor
    · intro hhead
      unfold String.utf8EncodeChar at hhead
      dsimp only at hhead
      split_ifs at hhead with hone htwo hthree
      · rw [List.cons_append, List.head?_cons, Option.some.injEq] at hhead
        rw [← hhead, char, UInt8.toNat_ofNat', Nat.mod_eq_of_lt (by omega)]
        exact (Char.ofNat_toNat c).symm
      all_goals
        rw [List.cons_append, List.head?_cons, Option.some.injEq] at hhead
        rw [← hhead, UInt8.toNat_ofNat'] at hlt
        omega
    · rintro rfl
      rw [utf8EncodeChar_char h, List.cons_append, List.head?_cons]

end Ascii
