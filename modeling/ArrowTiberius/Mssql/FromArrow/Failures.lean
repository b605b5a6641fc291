import ArrowTiberius.Conversion.CellConversion
import ArrowTiberius.Mssql.FromArrow.TemporalFailures

namespace ArrowTiberius

open Checked Direct

variable [Externals]

/-- A target that some value of its source fits: what planning makes sure of beyond having an encoding. -/
def Inhabitable : DirectColumnEncoding → Prop
  | .decimal classification => 1 ≤ classification.targetPrecision ∧ classification.targetPrecision ≤ 38 ∧
      -38 < classification.arrowScale
  | _ => True

section Failures

variable {context : RuntimeConversionContext} {mapping : SchemaMapping} {rowIndex : ℕ}

omit [Externals] in
theorem decimalUnscaledFitsPrecision_iff {value : ℤ} {precision : ℕ} (hlo : 1 ≤ precision) (hhi : precision ≤ 38) :
    decimalUnscaledFitsPrecision value precision = true ↔ value.natAbs < 10 ^ precision := by
  have hpos : 1 ≤ 10 ^ precision := Nat.one_le_pow _ _ (by decide)
  have hpow : 10 ^ precision ≤ 10 ^ 38 := Nat.pow_le_pow_right (by decide) hhi
  have hcast : (10 : ℤ) ^ precision = ((10 ^ precision : ℕ) : ℤ) := by norm_cast
  have hmax : decimalMaxUnscaled precision = some ((10 ^ precision : ℕ) - 1 : ℤ) := by
    rw [decimalMaxUnscaled, hcast, checkedSigned_of_fits (fitsSigned_128.mpr (by omega)), Option.bind_some,
      checkedSigned_of_fits (fitsSigned_128.mpr (by omega))]
  rw [decimalUnscaledFitsPrecision, if_neg (by omega), hmax, decide_eq_true_iff]
  omega

omit [Externals] in
theorem failsWith_mssqlDecimalWithShape {unscaled : ℤ} {precision scale : ℕ} (hlo : 1 ≤ precision)
    (hhi : precision ≤ 38) :
    FailsWith (IsValueError mapping rowIndex) (mssqlDecimalWithShape mapping rowIndex unscaled precision scale) := by
  refine failsWith_bind (failsWith_ensure fun h => ?_) fun _ _ => failsWith_ok _
  rw [decimalUnscaledFitsPrecision_iff hlo hhi] at h
  exact .decimalPrecision (by omega)

omit [Externals] in
theorem failsWith_normalizeUnscaledDecimal {unscaled arrowScale : ℤ} (hscale : -38 < arrowScale) :
    FailsWith (IsValueError mapping rowIndex) (normalizeUnscaledDecimal mapping rowIndex unscaled arrowScale) := by
  unfold normalizeUnscaledDecimal normalizeNegativeScale
  split
  case isTrue => exact failsWith_ok _
  case isFalse hneg =>
    have hcast : (10 : ℤ) ^ arrowScale.natAbs = ((10 ^ arrowScale.natAbs : ℕ) : ℤ) := by norm_cast
    have hpos : 0 < 10 ^ arrowScale.natAbs := Nat.pow_pos (by decide)
    have hpow : 10 ^ arrowScale.natAbs ≤ 10 ^ 37 := Nat.pow_le_pow_right (by decide) (by omega)
    have hfactor : fitsSigned 128 (10 ^ arrowScale.natAbs) := by
      rw [hcast]
      exact fitsSigned_128.mpr (by omega)
    rw [checkedSigned_of_fits hfactor, okOr_some, ok_bind]
    exact failsWith_okOr fun hnone => .decimalNormalization (checkedSigned_eq_none.mp hnone)

omit [Externals] in
theorem failsWith_convertDecimal {classification : DecimalArrowToMssql} (unscaled : ℤ)
    (h : Inhabitable (.decimal classification)) :
    FailsWith (IsValueError mapping rowIndex) (convertDecimal mapping rowIndex classification unscaled) :=
  failsWith_bind (failsWith_normalizeUnscaledDecimal h.2.2) fun _ _ => failsWith_mssqlDecimalWithShape h.1 h.2.1

theorem failsWith_realCell (value : F32) : FailsWith (IsValueError mapping rowIndex) (realCell mapping rowIndex value) := by
  unfold realCell
  split
  · exact failsWith_ok _
  · exact failsWith_fail.mpr (.code (by decide))

/-- A column some values fit refuses other values for what they are, and never panics. -/
theorem failsWith_convertValue {cell : ArrowCell} {encoding : DirectColumnEncoding}
    (hencodes : Encodes mapping.arrow.dataType mapping.mssql.ty encoding) (h : Inhabitable encoding)
    (hcell : CellOf mapping.arrow.dataType cell) :
    FailsWith (IsValueError mapping rowIndex) (convertValue encoding context mapping rowIndex cell) := by
  generalize mapping.arrow.dataType = dataType at hencodes hcell
  generalize hty : mapping.mssql.ty = ty at hencodes
  cases hencodes with
  | uint64 =>
    cases hcell
    exact failsWith_bind (failsWith_okOr fun _ => .code (by decide)) fun _ _ => failsWith_ok _
  | float16 | float32 =>
    cases hcell
    exact failsWith_realCell _
  | float64 =>
    cases hcell
    simp only [convertValue]
    split
    · exact failsWith_ok _
    · exact failsWith_fail.mpr (.code (by decide))
  | uint64Decimal =>
    cases hcell
    exact failsWith_bind (failsWith_mssqlDecimalWithShape (by decide) (by decide)) fun _ _ => failsWith_ok _
  | decimal hsource =>
    rcases hsource with ⟨p, rfl, rfl⟩ | ⟨p, rfl, rfl⟩ | ⟨p, rfl, rfl⟩ | ⟨p, rfl, rfl⟩
    case inr.inr.inr =>
      cases hcell with
      | decimal256 _ _ value =>
        refine failsWith_bind (failsWith_okOr fun hnone => ?_) fun _ _ =>
          failsWith_bind (failsWith_convertDecimal _ h) fun _ _ => failsWith_ok _
        exact @IsValueError.decimalDowncast _ _ value.val (checkedSigned_eq_none.mp hnone)
    all_goals
      cases hcell
      exact failsWith_bind (failsWith_convertDecimal _ h) fun _ _ => failsWith_ok _
  | nVarChar hfamily =>
    rcases isArrowStringFamily_iff.mp hfamily with rfl | rfl | rfl <;> cases hcell <;>
      exact failsWith_bind (failsWith_ensure fun _ => .code (by decide)) fun _ _ => failsWith_ok _
  | varBinary hfamily =>
    rcases isArrowBinaryFamily_iff.mp hfamily with rfl | rfl | rfl <;> cases hcell <;>
      exact failsWith_bind (failsWith_ensure fun _ => .code (by decide)) fun _ _ => failsWith_ok _
  | date32 =>
    cases hcell
    exact failsWith_bind (failsWith_mssqlDateFromArrowDate32 _) fun _ _ => failsWith_ok _
  | date64 =>
    cases hcell
    exact failsWith_bind (failsWith_mssqlDatetime2FromArrowDate64 _) fun _ _ => failsWith_ok _
  | time32Second | time32Millisecond | time64Microsecond =>
    cases hcell
    exact failsWith_bind (failsWith_mssqlTimeFromI64 _ _ _ _) fun _ _ => failsWith_ok _
  | time64Nanosecond =>
    cases hcell
    exact failsWith_bind (failsWith_mssqlTimeFromNanoseconds _ _) fun _ _ => failsWith_ok _
  | timestampDateTime2 _ hprecision | timestampTzDateTime2 _ hprecision =>
    cases hcell
    exact failsWith_bind failsWith_validateMappingTimestampTimezoneMetadata fun _ _ =>
      failsWith_bind (failsWith_timestampDatetime2 hty hprecision) fun _ _ => failsWith_ok _
  | timestampDateTime | timestampTzDateTime =>
    cases hcell
    exact failsWith_bind failsWith_validateMappingTimestampTimezoneMetadata fun _ _ =>
      failsWith_bind (failsWith_timestampDatetime _ _ _ _) fun _ _ => failsWith_ok _
  | dateTimeOffset =>
    cases hcell
    exact failsWith_bind (failsWith_timestampDatetimeoffset _ _ _ _) fun _ _ => failsWith_ok _
  | _ =>
    cases hcell
    exact failsWith_ok _

theorem failsWith_convertNull : FailsWith (IsValueError mapping rowIndex) (convertNull mapping rowIndex) :=
  failsWith_bind (failsWith_ensure fun _ => .code (by decide)) fun _ _ =>
    failsWith_bind failsWith_validateNullTimestampTimezoneMetadata fun _ _ => failsWith_ok _

theorem failsWith_mssqlCellFromArrowCell {array : ArrayRef} {encoding : DirectColumnEncoding}
    (hencodes : Encodes mapping.arrow.dataType mapping.mssql.ty encoding) (h : Inhabitable encoding)
    (hcompatible : arrowTypeCompatibleWithMapping array.dataType mapping = true) :
    FailsWith (IsValueError mapping rowIndex) (do
      let cell ← extractArrowCell array mapping rowIndex
      mssqlCellFromArrowCell context mapping cell rowIndex) := by
  obtain ⟨cell, hcell, rfl | hcellOf⟩ := @extractArrowCell_of_compatible _ array mapping rowIndex
    hencodes.isExtractable hcompatible
  · rw [hcell, ok_bind, mssqlCellFromArrowCell_null hencodes]
    exact failsWith_convertNull
  · rw [hcell, ok_bind, mssqlCellFromArrowCell_value hencodes hcellOf]
    exact failsWith_convertValue hencodes h hcellOf

end Failures

end ArrowTiberius
