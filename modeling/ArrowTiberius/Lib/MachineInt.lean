import Mathlib.Algebra.Order.Ring.Int
import Mathlib.Tactic.Common
import ArrowTiberius.Lib.Outcome

namespace Checked

def fitsSigned (w : ℕ) (v : ℤ) : Prop := -2 ^ (w - 1) ≤ v ∧ v < 2 ^ (w - 1)

def fitsUnsigned (w : ℕ) (v : ℤ) : Prop := 0 ≤ v ∧ v < 2 ^ w

instance (w : ℕ) (v : ℤ) : Decidable (fitsSigned w v) := inferInstanceAs (Decidable (_ ∧ _))

instance (w : ℕ) (v : ℤ) : Decidable (fitsUnsigned w v) := inferInstanceAs (Decidable (_ ∧ _))

structure SInt (w : ℕ) where
  val : ℤ
  fits : fitsSigned w val

namespace SInt

variable {w : ℕ}

theorem ext {a b : SInt w} (h : a.val = b.val) : a = b := by
  cases a
  cases b
  cases h
  rfl

instance : DecidableEq (SInt w) := fun a b => decidable_of_iff (a.val = b.val) ⟨ext, congrArg val⟩

def ofInt? (w : ℕ) (v : ℤ) : Option (SInt w) := if h : fitsSigned w v then some ⟨v, h⟩ else none

def ofNat (n : ℕ) (h : n < 2 ^ (w - 1)) : SInt w :=
  ⟨n, by
    have hpos : (0 : ℤ) < 2 ^ (w - 1) := Int.pow_pos (by decide)
    have hn : (n : ℤ) < 2 ^ (w - 1) := mod_cast h
    exact ⟨by omega, hn⟩⟩

def widen {v : ℕ} (h : w ≤ v) (a : SInt w) : SInt v :=
  ⟨a.val, by
    have hpow : (2 : ℤ) ^ (w - 1) ≤ 2 ^ (v - 1) := pow_le_pow_right₀ (by decide) (by omega)
    obtain ⟨lo, hi⟩ := a.fits
    exact ⟨by omega, by omega⟩⟩

theorem eight_le_sixteen : 8 ≤ 16 := by decide

theorem uint16_lt (value : UInt16) : value.toNat < 2 ^ (32 - 1) := by
  have := value.toNat_lt
  omega

theorem uint32_lt (value : UInt32) : value.toNat < 2 ^ (64 - 1) := by
  have := value.toNat_lt
  omega

@[simp] theorem val_ofNat (n : ℕ) (h : n < 2 ^ (w - 1)) : (ofNat n h).val = n := rfl

@[simp] theorem ofInt?_eq_some {v : ℤ} {a : SInt w} : ofInt? w v = some a ↔ a.val = v := by
  unfold ofInt?
  split
  case isTrue h =>
    rw [Option.some.injEq]
    exact ⟨fun hv => hv ▸ rfl, fun hv => ext hv.symm⟩
  case isFalse h => exact ⟨nofun, fun hv => absurd (hv ▸ a.fits) h⟩

end SInt

variable {ε : Type}

def signedOp (w : ℕ) (v : ℤ) : Outcome ε ℤ := if fitsSigned w v then .ok v else crash

def checkedSigned (w : ℕ) (v : ℤ) : Option ℤ := if fitsSigned w v then some v else none

def unsignedOp (w : ℕ) (v : ℤ) : Outcome ε ℕ := if fitsUnsigned w v then .ok v.toNat else crash

def checkedUnsigned (w : ℕ) (v : ℤ) : Option ℕ := if fitsUnsigned w v then some v.toNat else none

def checkedAdd (w a b : ℕ) : Option ℕ := if a + b < 2 ^ w then some (a + b) else none

def checkedMul (w a b : ℕ) : Option ℕ := if a * b < 2 ^ w then some (a * b) else none

@[simp] theorem checkedAdd_eq_some {w a b c : ℕ} : checkedAdd w a b = some c ↔ a + b < 2 ^ w ∧ c = a + b := by
  unfold checkedAdd
  split <;> simp [*, eq_comm]

theorem checkedAdd_of_lt {w a b : ℕ} (h : a + b < 2 ^ w) : checkedAdd w a b = some (a + b) := if_pos h

@[simp] theorem checkedMul_eq_some {w a b c : ℕ} : checkedMul w a b = some c ↔ a * b < 2 ^ w ∧ c = a * b := by
  unfold checkedMul
  split <;> simp [*, eq_comm]

theorem checkedMul_of_lt {w a b : ℕ} (h : a * b < 2 ^ w) : checkedMul w a b = some (a * b) := if_pos h

@[simp] theorem signedOp_eq_ok {w : ℕ} {v a : ℤ} :
    (signedOp w v : Outcome ε ℤ) = .ok a ↔ fitsSigned w v ∧ a = v := by
  unfold signedOp
  split <;> simp [*, eq_comm]

theorem signedOp_of_fits {w : ℕ} {v : ℤ} (h : fitsSigned w v) : (signedOp w v : Outcome ε ℤ) = .ok v :=
  if_pos h

@[simp] theorem checkedSigned_eq_some {w : ℕ} {v a : ℤ} :
    checkedSigned w v = some a ↔ fitsSigned w v ∧ a = v := by
  unfold checkedSigned
  split <;> simp [*, eq_comm]

theorem checkedSigned_of_fits {w : ℕ} {v : ℤ} (h : fitsSigned w v) : checkedSigned w v = some v := if_pos h

theorem checkedSigned_eq_none {w : ℕ} {v : ℤ} : checkedSigned w v = none ↔ ¬fitsSigned w v := by
  unfold checkedSigned
  split <;> simp [*]

@[simp] theorem unsignedOp_eq_ok {w : ℕ} {v : ℤ} {a : ℕ} :
    (unsignedOp w v : Outcome ε ℕ) = .ok a ↔ fitsUnsigned w v ∧ a = v.toNat := by
  unfold unsignedOp
  split <;> simp [*, eq_comm]

theorem unsignedOp_of_fits {w : ℕ} {v : ℤ} (h : fitsUnsigned w v) :
    (unsignedOp w v : Outcome ε ℕ) = .ok v.toNat := if_pos h

@[simp] theorem checkedUnsigned_eq_some {w : ℕ} {v : ℤ} {a : ℕ} :
    checkedUnsigned w v = some a ↔ fitsUnsigned w v ∧ a = v.toNat := by
  unfold checkedUnsigned
  split <;> simp [*, eq_comm]

theorem failsWith_signedOp {p : ε → Prop} {w : ℕ} {v : ℤ} (h : fitsSigned w v) : FailsWith p (signedOp w v) := by
  rw [signedOp_of_fits h]
  exact failsWith_ok v

theorem checkedUnsigned_of_fits {w : ℕ} {v : ℤ} (h : fitsUnsigned w v) :
    checkedUnsigned w v = some v.toNat := if_pos h

theorem fitsSigned_16 {v : ℤ} : fitsSigned 16 v ↔ -32768 ≤ v ∧ v < 32768 := Iff.rfl

theorem fitsSigned_32 {v : ℤ} : fitsSigned 32 v ↔ -2147483648 ≤ v ∧ v < 2147483648 := Iff.rfl

theorem fitsSigned_64 {v : ℤ} : fitsSigned 64 v ↔ -9223372036854775808 ≤ v ∧ v < 9223372036854775808 := Iff.rfl

theorem fitsSigned_128 {v : ℤ} : fitsSigned 128 v ↔
    -170141183460469231731687303715884105728 ≤ v ∧ v < 170141183460469231731687303715884105728 := Iff.rfl

theorem fitsUnsigned_8 {v : ℤ} : fitsUnsigned 8 v ↔ 0 ≤ v ∧ v < 256 := Iff.rfl

theorem fitsUnsigned_32 {v : ℤ} : fitsUnsigned 32 v ↔ 0 ≤ v ∧ v < 4294967296 := Iff.rfl

theorem fitsUnsigned_64 {v : ℤ} : fitsUnsigned 64 v ↔ 0 ≤ v ∧ v < 18446744073709551616 := Iff.rfl

end Checked
