import ArrowTiberius.Direct.Types.Decimal
import ArrowTiberius.Tds.Decode

namespace ArrowTiberius.Direct.Decimal

open Checked Tiling

def readDecimalCell (cell : List UInt8) : Option ℤ :=
  match Tds.unframe 0 .bytePrefixed cell with
  | some (some content, []) => Tds.decodeDecimal content
  | _ => none

def decimalStorage (precision : ℕ) : ℕ :=
  if precision ≤ 9 then 4 else if precision ≤ 19 then 8 else if precision ≤ 28 then 12 else 16

section Magnitude

variable {magnitude : ℕ}

theorem decimalLength_le (magnitude : ℕ) : Tds.decimalLength magnitude ≤ 16 := by
  obtain h | h | h | h := decimalLength_cases magnitude <;> omega

theorem magnitude_lt (h : magnitude < 2 ^ 128) : magnitude < 256 ^ Tds.decimalLength magnitude := by
  unfold Tds.decimalLength
  split_ifs with h9 h19 h28
  · rw [Tds.decimalDigits_le (by decide)] at h9
    omega
  · rw [Tds.decimalDigits_le (by decide)] at h19
    omega
  · rw [Tds.decimalDigits_le (by decide)] at h28
    omega
  · omega

theorem decimalDigits_le_39 (h : magnitude < 2 ^ 128) : Tds.decimalDigits magnitude ≤ 39 := by
  rw [Tds.decimalDigits_le (by decide)]
  omega

theorem decimalLength_le_storage {precision : ℕ} (hpos : 0 < precision) (h : magnitude < 10 ^ precision) :
    Tds.decimalLength magnitude ≤ decimalStorage precision := by
  have hdigits : Tds.decimalDigits magnitude ≤ precision := (Tds.decimalDigits_le hpos).mpr h
  unfold Tds.decimalLength decimalStorage
  split_ifs <;> omega

end Magnitude

section Cell

variable {unscaled : ℤ}

theorem decodeDecimal_unscaledBytes (h : fitsSigned 128 unscaled) :
    Tds.decodeDecimal (unscaledBytes unscaled) = some unscaled := by
  rw [fitsSigned_128] at h
  have hlt : unscaled.natAbs < 2 ^ 128 := by omega
  rw [unscaledBytes, Tds.decodeDecimal, LittleEndian.decode_encode_of_lt (magnitude_lt hlt), decimalSign]
  by_cases hneg : unscaled < 0
  · rw [if_pos hneg, if_pos rfl]
    exact congrArg some (by omega)
  · rw [if_neg hneg, if_neg (by decide)]
    exact congrArg some (by omega)

theorem length_unscaledBytes_lt (unscaled : ℤ) : (unscaledBytes unscaled).length < 256 := by
  have := decimalLength_le unscaled.natAbs
  rw [length_unscaledBytes]
  omega

theorem readable_unscaledBytes (width : ℕ) (unscaled : ℤ) :
    Tds.Readable width .bytePrefixed (some (unscaledBytes unscaled)) := by
  refine ⟨?_, length_unscaledBytes_lt unscaled⟩
  rw [length_unscaledBytes]
  omega

theorem readDecimalCell_frame (h : fitsSigned 128 unscaled) :
    readDecimalCell (Tds.frame .bytePrefixed (some (unscaledBytes unscaled))) = some unscaled := by
  have hunframe := @Tds.unframe_frame 0 [] .bytePrefixed _ (readable_unscaledBytes 0 unscaled)
  rw [List.append_nil] at hunframe
  rw [readDecimalCell, hunframe]
  exact decodeDecimal_unscaledBytes h

theorem natAbs_lt_of_fits {precision : ℕ} (h : decimalUnscaledFitsPrecision unscaled precision = true) :
    0 < precision ∧ unscaled.natAbs < 10 ^ precision := by
  unfold decimalUnscaledFitsPrecision at h
  split at h
  case isTrue => cases h
  case isFalse hpos =>
    refine ⟨by omega, ?_⟩
    cases hmax : decimalMaxUnscaled precision with
    | none => simp [hmax] at h
    | some max =>
      simp only [hmax, decide_eq_true_eq] at h
      simp only [decimalMaxUnscaled, Option.bind_eq_some_iff, checkedSigned_eq_some] at hmax
      obtain ⟨power, ⟨-, rfl⟩, -, rfl⟩ := hmax
      have hcast : (10 : ℤ) ^ precision = ((10 ^ precision : ℕ) : ℤ) := by norm_cast
      omega

end Cell

/-- A decimal cell reads back as the value it was written from, both writers write the same cell, and the cell is never
wider than the column's storage. -/
theorem decimal_cell_codec (value : SInt 128) : ∃ cell : List UInt8,
    cell.length = decimalCellLen value.val ∧
    readDecimalCell cell = some value.val ∧
    (∀ dst : List UInt8, dst.length = decimalCellLen value.val → writeDecimalCell dst value.val = .ok cell) ∧
    (∀ buf : List UInt8, appendDecimalCell buf value.val = .ok (buf ++ cell)) ∧
    decimalPrecision value.val.natAbs = (Nat.toDigits 10 value.val.natAbs).length ∧
    decimalPrecision value.val.natAbs ≤ 39 ∧
    value.val.natAbs < 256 ^ decimalMagnitudeLen value.val.natAbs ∧
    ∀ precision, decimalUnscaledFitsPrecision value.val precision = true →
      decimalMagnitudeLen value.val.natAbs ≤ decimalStorage precision := by
  have hfits := value.fits
  have hlt : value.val.natAbs < 2 ^ 128 := by
    rw [fitsSigned_128] at hfits
    omega
  refine ⟨Tds.frame .bytePrefixed (some (unscaledBytes value.val)), (decimalCellLen_eq value.val).symm,
    readDecimalCell_frame hfits, ?_, ?_, decimalPrecision_eq value.val.natAbs, ?_, ?_, ?_⟩
  · intro dst hdst
    exact writeDecimalCell_of_length hdst
  · intro buf
    exact appendDecimalCell_eq buf value.val
  · rw [decimalPrecision_eq]
    exact decimalDigits_le_39 hlt
  · rw [decimalMagnitudeLen_eq]
    exact magnitude_lt hlt
  · intro precision haccepted
    obtain ⟨hpos, hbound⟩ := natAbs_lt_of_fits haccepted
    rw [decimalMagnitudeLen_eq]
    exact decimalLength_le_storage hpos hbound

end ArrowTiberius.Direct.Decimal
