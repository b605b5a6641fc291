import ArrowTiberius.Schema.Mapping

namespace ArrowTiberius

open Checked

def isStringFamilyToNvarchar (mapping : SchemaMapping) : Bool :=
  isArrowStringFamily mapping.arrow.dataType && mapping.mssql.ty matches .nVarChar _

def isBinaryFamilyToVarbinary (mapping : SchemaMapping) : Bool :=
  isArrowBinaryFamily mapping.arrow.dataType && mapping.mssql.ty matches .varBinary _

def arrowTypeCompatibleWithMapping (runtime : DataType) (mapping : SchemaMapping) : Bool :=
  runtime = mapping.arrow.dataType || (isArrowStringFamily runtime && isStringFamilyToNvarchar mapping) ||
    (isArrowBinaryFamily runtime && isBinaryFamilyToVarbinary mapping)

theorem isStringFamilyToNvarchar_iff {mapping : SchemaMapping} : isStringFamilyToNvarchar mapping = true ↔
    isArrowStringFamily mapping.arrow.dataType = true ∧ ∃ length, mapping.mssql.ty = .nVarChar length := by
  cases h : mapping.mssql.ty <;> simp [isStringFamilyToNvarchar, h]

theorem isBinaryFamilyToVarbinary_iff {mapping : SchemaMapping} : isBinaryFamilyToVarbinary mapping = true ↔
    isArrowBinaryFamily mapping.arrow.dataType = true ∧ ∃ length, mapping.mssql.ty = .varBinary length := by
  cases h : mapping.mssql.ty <;> simp [isBinaryFamilyToVarbinary, h]

theorem arrowTypeCompatibleWithMapping_iff {runtime : DataType} {mapping : SchemaMapping} :
    arrowTypeCompatibleWithMapping runtime mapping = true ↔ runtime = mapping.arrow.dataType ∨
      (isArrowStringFamily runtime = true ∧ isArrowStringFamily mapping.arrow.dataType = true ∧
        ∃ length, mapping.mssql.ty = .nVarChar length) ∨
      (isArrowBinaryFamily runtime = true ∧ isArrowBinaryFamily mapping.arrow.dataType = true ∧
        ∃ length, mapping.mssql.ty = .varBinary length) := by
  simp only [arrowTypeCompatibleWithMapping, Bool.or_eq_true, Bool.and_eq_true, decide_eq_true_eq,
    isStringFamilyToNvarchar_iff, isBinaryFamilyToVarbinary_iff, or_assoc]

def isTimezoneFree (timezone : Option String) : Bool := timezone.all String.isEmpty

variable [Externals]

def conversionNotSupported (family : String) (mapping : SchemaMapping) (rowIndex : ℕ) : Error :=
  unsupportedValueConversion mapping rowIndex s!"{family} conversion from Arrow {
    Externals.display mapping.arrow.dataType} to SQL Server {mapping.mssql.ty.toSql} is not supported"

inductive UInt64ArrowToMssql where
  | checkedBigInt
  | decimal20_0
  deriving DecidableEq, Repr

def UInt64ArrowToMssql.classify (mapping : SchemaMapping) (rowIndex : ℕ) : Result UInt64ArrowToMssql :=
  match mapping.arrow.dataType, mapping.mssql.ty with
  | .uint64, .bigInt => .ok .checkedBigInt
  | .uint64, .decimal 20 0 => .ok .decimal20_0
  | _, _ => fail (conversionNotSupported "UInt64" mapping rowIndex)

inductive PrimitiveArrowToMssql where
  | booleanToBit
  | uint8ToTinyInt
  | int8ToSmallInt
  | int16ToSmallInt
  | int32ToInt
  | uint16ToInt
  | int64ToBigInt
  | uint32ToBigInt
  | uint64ToCheckedBigInt
  | float16ToReal
  | float32ToReal
  | float64ToFloat
  deriving DecidableEq, Repr

def PrimitiveArrowToMssql.classify (mapping : SchemaMapping) (rowIndex : ℕ) : Result PrimitiveArrowToMssql :=
  match mapping.arrow.dataType, mapping.mssql.ty with
  | .boolean, .bit => .ok .booleanToBit
  | .uint8, .tinyInt => .ok .uint8ToTinyInt
  | .int8, .smallInt => .ok .int8ToSmallInt
  | .int16, .smallInt => .ok .int16ToSmallInt
  | .int32, .int => .ok .int32ToInt
  | .uint16, .int => .ok .uint16ToInt
  | .int64, .bigInt => .ok .int64ToBigInt
  | .uint32, .bigInt => .ok .uint32ToBigInt
  | .uint64, .bigInt => do
    let _ ← UInt64ArrowToMssql.classify mapping rowIndex
    pure .uint64ToCheckedBigInt
  | .float16, .real => .ok .float16ToReal
  | .float32, .real => .ok .float32ToReal
  | .float64, .float 53 => .ok .float64ToFloat
  | _, _ => fail (conversionNotSupported "primitive" mapping rowIndex)

inductive DecimalSource where
  | decimal32
  | decimal64
  | decimal128
  | decimal256
  deriving DecidableEq, Repr

/-- The source width, `decimal256` being a checked downcast, and the shapes on both sides. -/
structure DecimalArrowToMssql where
  source : DecimalSource
  targetPrecision : ℕ
  targetScale : ℕ
  arrowScale : ℤ
  deriving DecidableEq, Repr

def decimalScaleUnrepresentable (mapping : SchemaMapping) (rowIndex : ℕ) (scale : ℤ) : Error :=
  rowError mapping rowIndex .decimalOutOfRange
    s!"planned SQL Server decimal scale {scale} cannot be represented by Tiberius Numeric"

def decimalSource (mapping : SchemaMapping) (rowIndex : ℕ) : Result (DecimalSource × ℤ) :=
  match mapping.arrow.dataType with
  | .decimal32 _ arrowScale => .ok (.decimal32, arrowScale)
  | .decimal64 _ arrowScale => .ok (.decimal64, arrowScale)
  | .decimal128 _ arrowScale => .ok (.decimal128, arrowScale)
  | .decimal256 _ arrowScale => .ok (.decimal256, arrowScale)
  | _ => fail (conversionNotSupported "decimal" mapping rowIndex)

def decimalTarget (mapping : SchemaMapping) (rowIndex : ℕ) : Result (ℕ × ℕ) :=
  match mapping.mssql.ty with
  | .decimal precision scale => do
    let targetScale ← okOr (checkedUnsigned 8 scale) (decimalScaleUnrepresentable mapping rowIndex scale)
    ensure (¬targetScale ≥ 38) (decimalScaleUnrepresentable mapping rowIndex targetScale)
    pure (precision, targetScale)
  | _ => fail (rowError mapping rowIndex .valueTypeMismatch "planned SQL Server type is not decimal")

def validateScaleCompatibility (mapping : SchemaMapping) (rowIndex targetScale : ℕ) (arrowScale : ℤ) :
    Result Unit := do
  let expectedScale ← (
    if arrowScale < 0 then .ok 0
    else okOr (checkedUnsigned 8 arrowScale) (rowError mapping rowIndex .decimalOutOfRange
      s!"Arrow decimal scale {arrowScale} cannot be represented at runtime"))
  ensure (targetScale = expectedScale) (rowError mapping rowIndex .schemaMismatch s!"planned SQL Server decimal scale {
    targetScale} is incompatible with Arrow decimal scale {expectedScale}")

def DecimalArrowToMssql.classify (mapping : SchemaMapping) (rowIndex : ℕ) : Result DecimalArrowToMssql := do
  let (targetPrecision, targetScale) ← decimalTarget mapping rowIndex
  let (source, arrowScale) ← decimalSource mapping rowIndex
  validateScaleCompatibility mapping rowIndex targetScale arrowScale
  pure ⟨source, targetPrecision, targetScale, arrowScale⟩

inductive VariableWidthArrowToMssql where
  | stringToNVarChar (length : MssqlTypeLength)
  | bytesToVarBinary (length : MssqlTypeLength)
  deriving DecidableEq, Repr

def VariableWidthArrowToMssql.classify (mapping : SchemaMapping) (rowIndex : ℕ) : Result VariableWidthArrowToMssql :=
  match mapping.mssql.ty with
  | .nVarChar length =>
    if isArrowStringFamily mapping.arrow.dataType then .ok (.stringToNVarChar length)
    else fail (conversionNotSupported "variable-width" mapping rowIndex)
  | .varBinary length =>
    if isArrowBinaryFamily mapping.arrow.dataType then .ok (.bytesToVarBinary length)
    else fail (conversionNotSupported "variable-width" mapping rowIndex)
  | _ => fail (conversionNotSupported "variable-width" mapping rowIndex)

inductive FixedSizeBinaryArrowToMssql where
  | fixedSizeBinaryToBinary (length : ℕ)
  deriving DecidableEq, Repr

def FixedSizeBinaryArrowToMssql.classify (mapping : SchemaMapping) (rowIndex : ℕ) :
    Result FixedSizeBinaryArrowToMssql :=
  match mapping.arrow.dataType, mapping.mssql.ty with
  | .fixedSizeBinary arrowLength, .binary mssqlLength => do
    let arrowLength ← okOr (checkedUnsigned 64 arrowLength) (unsupportedValueConversion mapping rowIndex
      s!"fixed-size binary length {arrowLength} cannot map to SQL Server {mapping.mssql.ty.toSql}")
    ensure (arrowLength = mssqlLength) (rowError mapping rowIndex .valueTypeMismatch
      s!"Arrow FixedSizeBinary({arrowLength}) does not match planned SQL Server {mapping.mssql.ty.toSql}")
    pure (.fixedSizeBinaryToBinary mssqlLength)
  | _, _ => fail (conversionNotSupported "fixed-size binary" mapping rowIndex)

inductive TemporalArrowToMssql where
  | date32ToDate
  | date64ToDateTime2
  | time32SecondToTime
  | time32MillisecondToTime
  | time64MicrosecondToTime
  | time64NanosecondToTime
  | timestampToDateTime2 (unit : TimeUnit)
  | timestampTzToDateTime2 (unit : TimeUnit)
  | timestampToDateTime (unit : TimeUnit)
  | timestampTzToDateTime (unit : TimeUnit)
  | timestampTzToDateTimeOffset (unit : TimeUnit)
  deriving DecidableEq, Repr

def TemporalArrowToMssql.classify (mapping : SchemaMapping) (rowIndex : ℕ) : Result TemporalArrowToMssql :=
  let notSupported := fail (conversionNotSupported "temporal" mapping rowIndex)
  match mapping.arrow.dataType, mapping.mssql.ty with
  | .date32, .date => .ok .date32ToDate
  | .date64, .dateTime2 3 => .ok .date64ToDateTime2
  | .time32 .second, .time ⟨0, _⟩ => .ok .time32SecondToTime
  | .time32 .millisecond, .time ⟨3, _⟩ => .ok .time32MillisecondToTime
  | .time64 .microsecond, .time ⟨6, _⟩ => .ok .time64MicrosecondToTime
  | .time64 .nanosecond, .time ⟨7, _⟩ => .ok .time64NanosecondToTime
  | .timestamp unit timezone, .dateTime2 precision =>
    if isTimezoneFree timezone ∧ precision ≤ 7 then .ok (.timestampToDateTime2 unit)
    else if ¬isTimezoneFree timezone ∧ precision ≤ 7 then .ok (.timestampTzToDateTime2 unit)
    else notSupported
  | .timestamp unit timezone, .dateTime =>
    if isTimezoneFree timezone then .ok (.timestampToDateTime unit) else .ok (.timestampTzToDateTime unit)
  | .timestamp unit timezone, .dateTimeOffset 7 =>
    if ¬isTimezoneFree timezone then .ok (.timestampTzToDateTimeOffset unit) else notSupported
  | _, _ => notSupported

end ArrowTiberius
