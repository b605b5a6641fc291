import ArrowTiberius.Arrow.DataType
import ArrowTiberius.Lib.MachineInt

namespace ArrowTiberius

open Checked

structure F16 where
  bits : UInt16
  deriving DecidableEq, Repr

structure F32 where
  bits : UInt32
  deriving DecidableEq, Repr

structure F64 where
  bits : UInt64
  deriving DecidableEq, Repr

namespace F32

def exponent (x : F32) : ℕ := x.bits.toNat / 2 ^ 23 % 2 ^ 8

def mantissa (x : F32) : ℕ := x.bits.toNat % 2 ^ 23

def sign (x : F32) : ℕ := x.bits.toNat / 2 ^ 31

def isFinite (x : F32) : Bool := x.exponent ≠ 255

end F32

namespace F64

def exponent (x : F64) : ℕ := x.bits.toNat / 2 ^ 52 % 2 ^ 11

def isFinite (x : F64) : Bool := x.exponent ≠ 2047

def pack (sign exponent mantissa : ℕ) : F64 := ⟨UInt64.ofNat (sign * 2 ^ 63 + exponent * 2 ^ 52 + mantissa)⟩

theorem exponent_pack {s e m : ℕ} (hs : s < 2) (he : e < 2 ^ 11) (hm : m < 2 ^ 52) :
    (pack s e m).exponent = e := by
  have hlt : s * 2 ^ 63 + e * 2 ^ 52 + m < 2 ^ 64 := by omega
  simp only [exponent, pack, UInt64.toNat_ofNat', Nat.mod_eq_of_lt hlt]
  omega

end F64

def F32.toF64 (x : F32) : F64 :=
  if x.exponent = 255 then F64.pack x.sign 2047 (x.mantissa * 2 ^ 29)
  else if x.exponent = 0 then
    if x.mantissa = 0 then F64.pack x.sign 0 0
    else
      let k := Nat.log2 x.mantissa
      F64.pack x.sign (k + 874) ((x.mantissa - 2 ^ k) * 2 ^ (52 - k))
  else F64.pack x.sign (x.exponent + 896) (x.mantissa * 2 ^ 29)

theorem F32.isFinite_toF64 (x : F32) : x.toF64.isFinite = x.isFinite := by
  have hbits := x.bits.toNat_lt
  have hs : x.sign < 2 := by unfold sign; omega
  have hm : x.mantissa < 2 ^ 23 := Nat.mod_lt _ (by decide)
  have he : x.exponent < 2 ^ 8 := Nat.mod_lt _ (by decide)
  unfold toF64 F64.isFinite isFinite
  split
  case isTrue h =>
    have hpack := F64.exponent_pack hs (show 2047 < 2 ^ 11 by decide) (show x.mantissa * 2 ^ 29 < 2 ^ 52 by omega)
    rw [hpack, h]
    rfl
  case isFalse h =>
    split
    case isTrue h0 =>
      split
      case isTrue =>
        have hpack := F64.exponent_pack hs (show 0 < 2 ^ 11 by decide) (show 0 < 2 ^ 52 by decide)
        rw [hpack, h0]
        rfl
      case isFalse hm0 =>
        have hk : Nat.log2 x.mantissa < 23 := (Nat.log2_lt hm0).mpr hm
        have hself : x.mantissa < 2 ^ (Nat.log2 x.mantissa + 1) := Nat.lt_log2_self
        have hfit : (x.mantissa - 2 ^ Nat.log2 x.mantissa) * 2 ^ (52 - Nat.log2 x.mantissa) < 2 ^ 52 := by
          calc (x.mantissa - 2 ^ Nat.log2 x.mantissa) * 2 ^ (52 - Nat.log2 x.mantissa)
              < 2 ^ Nat.log2 x.mantissa * 2 ^ (52 - Nat.log2 x.mantissa) :=
                Nat.mul_lt_mul_of_pos_right (by omega) (Nat.pow_pos (by decide))
            _ = 2 ^ 52 := by rw [← Nat.pow_add]; congr 1; omega
        have hpack := F64.exponent_pack hs (show Nat.log2 x.mantissa + 874 < 2 ^ 11 by omega) hfit
        simp only [hpack, h0]
        exact decide_eq_decide.mpr (by omega)
    case isFalse h0 =>
      have hpack := F64.exponent_pack hs (show x.exponent + 896 < 2 ^ 11 by omega)
        (show x.mantissa * 2 ^ 29 < 2 ^ 52 by omega)
      simp only [hpack]
      exact decide_eq_decide.mpr (by omega)

inductive ArrowCell where
  | null
  | boolean (value : Bool)
  | int8 (value : SInt 8)
  | int16 (value : SInt 16)
  | int32 (value : SInt 32)
  | int64 (value : SInt 64)
  | uint8 (value : UInt8)
  | uint16 (value : UInt16)
  | uint32 (value : UInt32)
  | uint64 (value : UInt64)
  | decimal32 (value : SInt 32)
  | decimal64 (value : SInt 64)
  | decimal128 (value : SInt 128)
  | decimal256 (value : SInt 256)
  | date32 (value : SInt 32)
  | date64 (value : SInt 64)
  | time32Second (value : SInt 32)
  | time32Millisecond (value : SInt 32)
  | time64Microsecond (value : SInt 64)
  | time64Nanosecond (value : SInt 64)
  | timestamp (unit : TimeUnit) (value : SInt 64)
  | float32 (value : F32)
  | float16 (value : F32)
  | float64 (value : F64)
  | utf8 (value : String)
  | binary (value : List UInt8)

end ArrowTiberius
