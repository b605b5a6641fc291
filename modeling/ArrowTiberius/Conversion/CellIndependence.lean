import ArrowTiberius.Conversion.CellConversion
import ArrowTiberius.Conversion.UnitIndependence
import ArrowTiberius.Mssql.FromArrow.Validity

namespace ArrowTiberius

open Checked Direct

variable {mapping : SchemaMapping} {r s : ℕ}

theorem normalizeUnscaledDecimal_toOption {unscaled arrowScale : ℤ} :
    (normalizeUnscaledDecimal mapping r unscaled arrowScale).toOption =
      (normalizeUnscaledDecimal mapping s unscaled arrowScale).toOption := by
  simp only [normalizeUnscaledDecimal, normalizeNegativeScale, toOption_ite, toOption_bind, toOption_okOr, toOption_ok]

theorem mssqlDecimalWithShape_toOption {unscaled : ℤ} {precision scale : ℕ} :
    (mssqlDecimalWithShape mapping r unscaled precision scale).toOption =
      (mssqlDecimalWithShape mapping s unscaled precision scale).toOption := by
  simp only [mssqlDecimalWithShape, toOption_bind, toOption_ensure, pure_eq_ok, toOption_ok]

theorem convertDecimal_toOption {classification : DecimalArrowToMssql} {unscaled : ℤ} :
    (convertDecimal mapping r classification unscaled).toOption =
      (convertDecimal mapping s classification unscaled).toOption := by
  rw [convertDecimal, convertDecimal, toOption_bind, toOption_bind, @normalizeUnscaledDecimal_toOption mapping r s]
  congr 1
  funext value
  exact mssqlDecimalWithShape_toOption

theorem dateFromDate32_toOption (value : SInt 32) :
    (mssqlDateFromArrowDate32 mapping r value).toOption = (mssqlDateFromArrowDate32 mapping s value).toOption := by
  simp only [mssqlDateFromArrowDate32, toOption_bind, toOption_ensure, pure_eq_ok, toOption_ok]

theorem datetime2FromArrowDate64_toOption (value : SInt 64) :
    (mssqlDatetime2FromArrowDate64 mapping r value).toOption =
      (mssqlDatetime2FromArrowDate64 mapping s value).toOption := by
  apply toOption_congr
  intro result
  rw [datetime2FromDate64_eq_ok, datetime2FromDate64_eq_ok]

variable [Externals] {context : RuntimeConversionContext}

theorem realCell_toOption (value : F32) :
    (realCell mapping r value).toOption = (realCell mapping s value).toOption := by
  simp only [realCell, toOption_ite, toOption_ok, toOption_fail]

theorem validateMappingZone_toOption : (validateMappingTimestampTimezoneMetadata mapping r).toOption =
    (validateMappingTimestampTimezoneMetadata mapping s).toOption := by
  unfold validateMappingTimestampTimezoneMetadata
  split
  · exact validateTimestampTimezoneMetadata_toOption _
  · rfl

theorem convertNull_toOption : (convertNull mapping r).toOption = (convertNull mapping s).toOption := by
  have hzone : (validateNullTimestampTimezoneMetadata mapping r).toOption =
      (validateNullTimestampTimezoneMetadata mapping s).toOption := by
    unfold validateNullTimestampTimezoneMetadata
    split
    · exact validateTimestampTimezoneMetadata_toOption _
    · rfl
  simp only [convertNull, toOption_bind, toOption_ensure, hzone, pure_eq_ok, toOption_ok]

theorem convertValue_toOption {cell : ArrowCell} {encoding : DirectColumnEncoding}
    (hencodes : Encodes mapping.arrow.dataType mapping.mssql.ty encoding) (hcell : CellOf mapping.arrow.dataType cell) :
    (convertValue encoding context mapping r cell).toOption =
      (convertValue encoding context mapping s cell).toOption := by
  have hzone : (validateMappingTimestampTimezoneMetadata mapping r).toOption =
      (validateMappingTimestampTimezoneMetadata mapping s).toOption := validateMappingZone_toOption
  generalize mapping.arrow.dataType = dataType at hencodes hcell
  generalize mapping.mssql.ty = ty at hencodes
  cases hencodes with
  | uint64 =>
    cases hcell
    simp only [convertValue, toOption_bind, toOption_okOr, pure_eq_ok, toOption_ok]
  | float16 | float32 =>
    cases hcell
    exact realCell_toOption _
  | float64 =>
    cases hcell
    simp only [convertValue, toOption_ite, toOption_ok, toOption_fail]
  | uint64Decimal =>
    cases hcell
    simp only [convertValue, toOption_bind, @mssqlDecimalWithShape_toOption mapping r s, pure_eq_ok, toOption_ok]
  | decimal hsource =>
    rcases hsource with ⟨p, rfl, rfl⟩ | ⟨p, rfl, rfl⟩ | ⟨p, rfl, rfl⟩ | ⟨p, rfl, rfl⟩
    all_goals
      cases hcell
      simp only [convertValue, toOption_bind, toOption_okOr, @convertDecimal_toOption mapping r s, pure_eq_ok,
        toOption_ok]
  | nVarChar hfamily =>
    rcases isArrowStringFamily_iff.mp hfamily with rfl | rfl | rfl <;> cases hcell <;>
      simp only [convertValue, toOption_bind, toOption_ensure, pure_eq_ok, toOption_ok]
  | varBinary hfamily =>
    rcases isArrowBinaryFamily_iff.mp hfamily with rfl | rfl | rfl <;> cases hcell <;>
      simp only [convertValue, toOption_bind, toOption_ensure, pure_eq_ok, toOption_ok]
  | date32 =>
    cases hcell
    simp only [convertValue, toOption_bind, @dateFromDate32_toOption mapping r s, pure_eq_ok, toOption_ok]
  | date64 =>
    cases hcell
    simp only [convertValue, toOption_bind, @datetime2FromArrowDate64_toOption mapping r s, pure_eq_ok, toOption_ok]
  | time32Second | time32Millisecond | time64Microsecond =>
    cases hcell
    simp only [convertValue, mssqlTimeFromArrowTime32Second, mssqlTimeFromArrowTime32Millisecond,
      mssqlTimeFromArrowTime64Microsecond, toOption_bind, @timeFromI64_toOption mapping r s, pure_eq_ok, toOption_ok]
  | time64Nanosecond =>
    cases hcell
    simp only [convertValue, mssqlTimeFromArrowTime64Nanosecond, toOption_bind, pure_eq_ok, toOption_ok]
    rw [timeFromNanoseconds_toOption]
  | timestampDateTime2 _ hprecision | timestampTzDateTime2 _ hprecision =>
    cases hcell
    simp only [convertValue, toOption_bind, hzone, pure_eq_ok, toOption_ok]
    rw [timestampDatetime2_toOption rfl rfl]
  | timestampDateTime | timestampTzDateTime =>
    cases hcell
    simp only [convertValue, toOption_bind, hzone, pure_eq_ok, toOption_ok]
    rw [timestampDatetime_toOption rfl]
  | dateTimeOffset =>
    cases hcell
    simp only [convertValue, toOption_bind, pure_eq_ok, toOption_ok]
    rw [timestampDatetimeoffset_toOption rfl]
  | _ =>
    cases hcell
    rfl

end ArrowTiberius
