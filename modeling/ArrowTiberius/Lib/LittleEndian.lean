import Mathlib.Data.Nat.Basic
import Mathlib.Data.Int.Basic
import Mathlib.Tactic.Ring
import Mathlib.Tactic.Common

namespace LittleEndian

def encode : ℕ → ℕ → List UInt8
  | 0, _ => []
  | width + 1, x => UInt8.ofNat x :: encode width (x / 256)

def decode : List UInt8 → ℕ
  | [] => 0
  | b :: bs => b.toNat + 256 * decode bs

@[simp] theorem encode_zero (x : ℕ) : encode 0 x = [] := rfl

theorem encode_succ (width x : ℕ) : encode (width + 1) x = UInt8.ofNat x :: encode width (x / 256) := rfl

@[simp] theorem length_encode (width x : ℕ) : (encode width x).length = width := by
  induction width generalizing x with
  | zero => rfl
  | succ width ih => simp [encode_succ, ih]

@[simp] theorem decode_nil : decode [] = 0 := rfl

theorem decode_encode (width x : ℕ) : decode (encode width x) = x % 256 ^ width := by
  induction width generalizing x with
  | zero => simp [Nat.mod_one]
  | succ width ih =>
    have h : x % 256 ^ (width + 1) = x % 256 + 256 * (x / 256 % 256 ^ width) := by
      rw [Nat.pow_succ', Nat.mod_mul]
    simp only [encode_succ, decode, ih, UInt8.toNat_ofNat', h]

theorem decode_encode_of_lt {width x : ℕ} (h : x < 256 ^ width) : decode (encode width x) = x := by
  rw [decode_encode, Nat.mod_eq_of_lt h]

theorem encode_add (w v x : ℕ) : encode (w + v) x = encode w x ++ encode v (x / 256 ^ w) := by
  induction w generalizing x with
  | zero => simp
  | succ w ih =>
    rw [Nat.succ_add, encode_succ, encode_succ, ih, List.cons_append, Nat.div_div_eq_div_mul, Nat.pow_succ']

theorem take_encode {w n : ℕ} (h : n ≤ w) (x : ℕ) : (encode w x).take n = encode n x := by
  obtain ⟨d, rfl⟩ := Nat.exists_eq_add_of_le h
  rw [encode_add, List.take_append_of_le_length (by simp), List.take_of_length_le (by simp)]

def encodeInt (width : ℕ) (v : ℤ) : List UInt8 := encode width (v % (256 ^ width : ℕ)).toNat

def decodeInt (bytes : List UInt8) : ℤ := (decode bytes : ℤ).bmod (256 ^ bytes.length)

@[simp] theorem length_encodeInt (width : ℕ) (v : ℤ) : (encodeInt width v).length = width :=
  length_encode _ _

theorem decodeInt_encodeInt {width : ℕ} {v : ℤ} (lo : -((256 ^ width : ℕ) : ℤ) ≤ 2 * v)
    (hi : 2 * v < (256 ^ width : ℕ)) : decodeInt (encodeInt width v) = v := by
  have hpos : 0 < 256 ^ width := Nat.pow_pos (by decide)
  have hnonneg : 0 ≤ v % (256 ^ width : ℕ) := Int.emod_nonneg _ (by omega)
  have hlt : v % (256 ^ width : ℕ) < (256 ^ width : ℕ) := Int.emod_lt_of_pos _ (by omega)
  unfold decodeInt
  rw [length_encodeInt, encodeInt, decode_encode_of_lt (by omega), Int.toNat_of_nonneg hnonneg, Int.emod_bmod]
  exact Int.bmod_eq_of_le (by omega) (by omega)

end LittleEndian
