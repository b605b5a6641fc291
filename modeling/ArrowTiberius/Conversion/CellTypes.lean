import ArrowTiberius.Conversion.CellConversion
import ArrowTiberius.Mssql.FromArrow.Validity

namespace ArrowTiberius

open Checked Direct

inductive SqlCellOf : MssqlType → MssqlCell → Prop where
  | bit (value : Bool) : SqlCellOf .bit (.bit (some value))
  | tinyInt (value : UInt8) : SqlCellOf .tinyInt (.tinyInt (some value))
  | smallInt (value : SInt 16) : SqlCellOf .smallInt (.smallInt (some value))
  | int (value : SInt 32) : SqlCellOf .int (.int (some value))
  | bigInt (value : SInt 64) : SqlCellOf .bigInt (.bigInt (some value))
  | real (value : F32) : SqlCellOf .real (.real (some value))
  | float (precision : ℕ) (value : F64) : SqlCellOf (.float precision) (.float (some value))
  | nVarChar (length : MssqlTypeLength) (value : String) : SqlCellOf (.nVarChar length) (.nVarChar (some value))
  | varBinary (length : MssqlTypeLength) (value : List UInt8) :
      SqlCellOf (.varBinary length) (.varBinary (some value))
  | binary (value : List UInt8) : SqlCellOf (.binary value.length) (.varBinary (some value))
  | decimal {precision scale : ℕ} {unscaled : ℤ} (h : fitsSigned 128 unscaled) :
      SqlCellOf (.decimal precision scale) (.decimal (some ⟨unscaled, scale⟩))
  | date {value : MssqlDate} (h : ValidDate value) : SqlCellOf .date (.date (some value))
  | time {precision : MssqlTimePrecision} {value : MssqlTime} (h : ValidTime value)
      (hscale : value.scale = precision.get) : SqlCellOf (.time precision) (.time (some value))
  | dateTime {value : MssqlDateTime} (h : ValidDateTime value) : SqlCellOf .dateTime (.dateTime (some value))
  | dateTime2 {value : MssqlDateTime2} (h : ValidDateTime2 value) :
      SqlCellOf (.dateTime2 value.time.scale) (.dateTime2 (some value))
  | dateTimeOffset {value : MssqlDateTimeOffset} (h : ValidDateTimeOffset value) :
      SqlCellOf (.dateTimeOffset value.datetime2.time.scale) (.dateTimeOffset (some value))

section Decimal

theorem fits_of_fitsPrecision {value : ℤ} {precision : ℕ} (h : decimalUnscaledFitsPrecision value precision = true) :
    fitsSigned 128 value := by
  unfold decimalUnscaledFitsPrecision at h
  split at h
  case isTrue => cases h
  case isFalse =>
    cases hmax : decimalMaxUnscaled precision with
    | none => simp [hmax] at h
    | some max =>
      simp only [hmax, decide_eq_true_eq] at h
      simp only [decimalMaxUnscaled, Option.bind_eq_some_iff, checkedSigned_eq_some] at hmax
      obtain ⟨power, -, hfits, rfl⟩ := hmax
      rw [fitsSigned_128] at hfits ⊢
      omega

theorem decimalWithShape_eq_ok {mapping : SchemaMapping} {rowIndex precision scale : ℕ} {unscaled : ℤ}
    {result : MssqlDecimal} (h : mssqlDecimalWithShape mapping rowIndex unscaled precision scale = .ok result) :
    fitsSigned 128 unscaled ∧ result = ⟨unscaled, scale⟩ := by
  simp only [mssqlDecimalWithShape, bind_eq_ok, ensure_eq_ok, pure_eq_ok, Except.ok.injEq] at h
  obtain ⟨_, hfits, rfl⟩ := h
  exact ⟨fits_of_fitsPrecision hfits, rfl⟩

theorem sqlCellOf_convertDecimal {mapping : SchemaMapping} {rowIndex : ℕ} {classification : DecimalArrowToMssql}
    {unscaled : ℤ} {result : MssqlDecimal} {precision : ℕ}
    (h : convertDecimal mapping rowIndex classification unscaled = .ok result) :
    SqlCellOf (.decimal precision classification.targetScale) (.decimal (some result)) := by
  obtain ⟨value, -, hvalue⟩ := bind_eq_ok.mp h
  obtain ⟨hfits, rfl⟩ := decimalWithShape_eq_ok hvalue
  exact .decimal hfits

end Decimal

variable {context : RuntimeConversionContext} {mapping : SchemaMapping} {rowIndex : ℕ}

theorem scale_of_timestamp {unit : TimeUnit} {value : SInt 64} {precision : ℕ} {result : MssqlDateTime2}
    {policy : NanosecondPolicy} (hty : mapping.mssql.ty = .dateTime2 precision) (hprecision : precision ≤ 7)
    (h : timestampDatetime2 unit mapping rowIndex value policy = .ok result) : result.time.scale = precision := by
  obtain ⟨-, _, -, -, -, -, hscale, -⟩ := (timestamp_eq_ok_iff hty hprecision).mp h
  exact hscale

variable [Externals]

theorem sqlCellOf_convertValue {cell : ArrowCell} {encoding : DirectColumnEncoding} {result : MssqlCell}
    (hencodes : Encodes mapping.arrow.dataType mapping.mssql.ty encoding)
    (hcell : CellOf mapping.arrow.dataType cell)
    (h : convertValue encoding context mapping rowIndex cell = .ok result) : SqlCellOf mapping.mssql.ty result := by
  generalize mapping.arrow.dataType = dataType at hencodes hcell
  generalize hty : mapping.mssql.ty = ty at hencodes
  cases hencodes with
  | boolean | uint8 | int8 | int16 | int32 | uint16 | int64 | uint32 =>
    cases hcell
    cases h
    constructor
  | uint64 =>
    cases hcell
    obtain ⟨value, -, hvalue⟩ := bind_eq_ok.mp h
    cases hvalue
    constructor
  | float16 | float32 | float64 =>
    cases hcell
    simp only [convertValue, realCell] at h
    split at h
    case isTrue =>
      cases h
      constructor
    case isFalse => cases h
  | uint64Decimal =>
    cases hcell
    obtain ⟨value, hvalue, hresult⟩ := bind_eq_ok.mp h
    obtain ⟨hfits, rfl⟩ := decimalWithShape_eq_ok hvalue
    cases hresult
    exact .decimal hfits
  | decimal hsource hscale harrow hsame =>
    rcases hsource with ⟨p, rfl, rfl⟩ | ⟨p, rfl, rfl⟩ | ⟨p, rfl, rfl⟩ | ⟨p, rfl, rfl⟩
    case inr.inr.inr =>
      cases hcell
      obtain ⟨narrow, -, h⟩ := bind_eq_ok.mp h
      obtain ⟨value, hvalue, hresult⟩ := bind_eq_ok.mp h
      cases hresult
      exact sqlCellOf_convertDecimal hvalue
    all_goals
      cases hcell
      obtain ⟨value, hvalue, hresult⟩ := bind_eq_ok.mp h
      cases hresult
      exact sqlCellOf_convertDecimal hvalue
  | nVarChar hfamily =>
    rcases isArrowStringFamily_iff.mp hfamily with rfl | rfl | rfl
    all_goals
      cases hcell
      obtain ⟨_, -, hresult⟩ := bind_eq_ok.mp h
      cases hresult
      constructor
  | varBinary hfamily =>
    rcases isArrowBinaryFamily_iff.mp hfamily with rfl | rfl | rfl
    all_goals
      cases hcell
      obtain ⟨_, -, hresult⟩ := bind_eq_ok.mp h
      cases hresult
      constructor
  | fixedSizeBinary hlength =>
    cases hcell with
    | fixedSizeBinary _ value hvalue =>
      cases h
      rw [Int.toNat_natCast] at hvalue
      exact hvalue ▸ .binary value
  | date32 =>
    cases hcell
    obtain ⟨value, hvalue, hresult⟩ := bind_eq_ok.mp h
    cases hresult
    exact .date (validDate_of_date32 hvalue)
  | date64 =>
    cases hcell
    obtain ⟨value, hvalue, hresult⟩ := bind_eq_ok.mp h
    cases hresult
    have hscale : value.time.scale = 3 := by
      simp only [mssqlDatetime2FromArrowDate64, bind_eq_ok, pure_eq_ok, Except.ok.injEq] at hvalue
      obtain ⟨_, -, _, -, rfl⟩ := hvalue
      rfl
    exact hscale ▸ .dateTime2 (validDateTime2_of_date64 hvalue)
  | time32Second | time32Millisecond | time64Microsecond =>
    cases hcell
    obtain ⟨value, hvalue, hresult⟩ := bind_eq_ok.mp h
    cases hresult
    refine .time (validTime_of_mssqlTimeFromI64 (by decide) (by decide) hvalue) ?_
    exact congrArg MssqlTime.scale (mssqlTimeFromI64_eq_ok.mp hvalue).2
  | time64Nanosecond =>
    cases hcell
    obtain ⟨value, hvalue, hresult⟩ := bind_eq_ok.mp h
    cases hresult
    refine .time (validTime_of_nanoseconds hvalue) ?_
    obtain ⟨-, ticks, -, -, rfl⟩ := (mssqlTimeFromNanoseconds_eq_ok _).mp hvalue
    rfl
  | timestampDateTime2 _ hprecision | timestampTzDateTime2 _ hprecision =>
    cases hcell
    obtain ⟨_, -, h⟩ := bind_eq_ok.mp h
    obtain ⟨value, hvalue, hresult⟩ := bind_eq_ok.mp h
    cases hresult
    exact scale_of_timestamp hty hprecision hvalue ▸ .dateTime2 (validDateTime2_of_timestamp hty hprecision hvalue)
  | timestampDateTime | timestampTzDateTime =>
    cases hcell
    obtain ⟨_, -, h⟩ := bind_eq_ok.mp h
    obtain ⟨value, hvalue, hresult⟩ := bind_eq_ok.mp h
    cases hresult
    exact .dateTime (validDateTime_of_timestampDatetime hvalue)
  | dateTimeOffset =>
    cases hcell
    obtain ⟨value, hvalue, hresult⟩ := bind_eq_ok.mp h
    cases hresult
    have hscale : value.datetime2.time.scale = 7 := by
      obtain ⟨_, _, _, -, -, -, -, -, -, rfl⟩ := timestampDatetimeoffset_eq_ok.mp hvalue
      rfl
    exact hscale ▸ .dateTimeOffset (validDateTimeOffset_of_timestamp hvalue)

end ArrowTiberius
