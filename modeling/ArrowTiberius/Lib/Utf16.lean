import Mathlib.Data.List.Basic
import Mathlib.Tactic.Common

namespace Utf16

def encodeChar (c : Char) : List ℕ :=
  if c.toNat < 0x10000 then [c.toNat]
  else [0xd800 + (c.toNat - 0x10000) / 0x400, 0xdc00 + (c.toNat - 0x10000) % 0x400]

def encode (text : List Char) : List ℕ := text.flatMap encodeChar

def decode : List ℕ → Option (List Char)
  | [] => some []
  | [u] => if u < 0xd800 ∨ 0xe000 ≤ u then some [Char.ofNat u] else none
  | u :: v :: rest =>
    if u < 0xd800 ∨ 0xe000 ≤ u then (decode (v :: rest)).map (Char.ofNat u :: ·)
    else if u < 0xdc00 ∧ 0xdc00 ≤ v ∧ v < 0xe000 then
      (decode rest).map (Char.ofNat (0x10000 + (u - 0xd800) * 0x400 + (v - 0xdc00)) :: ·)
    else none

theorem toNat_range (c : Char) : c.toNat < 0xd800 ∨ 0xe000 ≤ c.toNat ∧ c.toNat < 0x110000 := by
  rcases c.valid with h | ⟨hlo, hhi⟩
  · exact .inl h
  · exact .inr ⟨hlo, hhi⟩

theorem encodeChar_lt (c : Char) : ∀ u ∈ encodeChar c, u < 0x10000 := by
  have h := toNat_range c
  intro u hu
  unfold encodeChar at hu
  split at hu
  case isTrue hc =>
    rw [List.mem_singleton] at hu
    omega
  case isFalse hc =>
    simp only [List.mem_cons, List.not_mem_nil, or_false] at hu
    omega

theorem encode_lt {text : List Char} : ∀ u ∈ encode text, u < 0x10000 := by
  intro u hu
  obtain ⟨c, -, hc⟩ := List.mem_flatMap.mp hu
  exact encodeChar_lt c u hc

theorem decode_cons {u : ℕ} (hu : u < 0xd800 ∨ 0xe000 ≤ u) (rest : List ℕ) :
    decode (u :: rest) = (decode rest).map (Char.ofNat u :: ·) := by
  cases rest with
  | nil => simp [decode, hu]
  | cons v rest => rw [decode, if_pos hu]

theorem decode_encode (text : List Char) : decode (encode text) = some text := by
  induction text with
  | nil => rfl
  | cons c text ih =>
    have hrange := toNat_range c
    have hcons : encode (c :: text) = encodeChar c ++ encode text := rfl
    rw [hcons, encodeChar]
    split
    case isTrue h =>
      rw [List.singleton_append, decode_cons (by omega), ih, Option.map_some, Char.ofNat_toNat]
    case isFalse h =>
      have hnat : 0x10000 + (0xd800 + (c.toNat - 0x10000) / 0x400 - 0xd800) * 0x400 +
          (0xdc00 + (c.toNat - 0x10000) % 0x400 - 0xdc00) = c.toNat := by omega
      rw [List.cons_append, List.cons_append, List.nil_append, decode, if_neg (by omega), if_pos (by omega), ih,
        hnat, Option.map_some, Char.ofNat_toNat]

end Utf16
