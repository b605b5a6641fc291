import ArrowTiberius.Conversion.ArrowToMssql
import ArrowTiberius.Schema.Policy

namespace ArrowTiberius.Direct

open Checked

inductive DirectColumnEncoding where
  | primitive (classification : PrimitiveArrowToMssql)
  | uint64Decimal20_0
  | decimal (classification : DecimalArrowToMssql)
  | variableWidth (classification : VariableWidthArrowToMssql)
  | fixedSizeBinary (classification : FixedSizeBinaryArrowToMssql)
  | temporal (classification : TemporalArrowToMssql)
  deriving DecidableEq, Repr

inductive DirectMappingSupport where
  | supported (encoding : DirectColumnEncoding)
  | unsupported (reason : String)
  deriving DecidableEq, Repr

structure DirectColumnPlan where
  sourceIndex : ℕ
  sourceName : String
  targetType : MssqlType
  nullable : Bool
  encoding : DirectColumnEncoding

def DirectColumnPlan.fromMapping (mapping : SchemaMapping) (encoding : DirectColumnEncoding) : DirectColumnPlan :=
  ⟨mapping.arrow.index, mapping.arrow.name, mapping.mssql.ty, mapping.mssql.nullable, encoding⟩

structure DirectEncoderPlan where
  columns : List DirectColumnPlan

namespace DirectEncoderPlan

def columnCount (plan : DirectEncoderPlan) : ℕ := plan.columns.length

end DirectEncoderPlan

def unsupportedMappingDiagnostic (mapping : SchemaMapping) (reason : String) : Diagnostic :=
  (Diagnostic.error .directEncodingUnsupportedMapping reason).withField ⟨mapping.arrow.index, mapping.arrow.name⟩

variable [Externals]

def genericUnsupportedReason (mapping : SchemaMapping) : String :=
  s!"direct encoding is not implemented yet for Arrow {Externals.display mapping.arrow.dataType} to SQL Server {
    mapping.mssql.ty.toSql}"

def temporalSupport (mapping : SchemaMapping) : DirectMappingSupport :=
  match TemporalArrowToMssql.classify mapping 0 with
  | .ok classification => .supported (.temporal classification)
  | .error _ => .unsupported (genericUnsupportedReason mapping)

def fixedSizeBinarySupport (mapping : SchemaMapping) : DirectMappingSupport :=
  match FixedSizeBinaryArrowToMssql.classify mapping 0 with
  | .ok classification => .supported (.fixedSizeBinary classification)
  | .error _ => temporalSupport mapping

def variableWidthSupport (mapping : SchemaMapping) : DirectMappingSupport :=
  match VariableWidthArrowToMssql.classify mapping 0 with
  | .ok classification => .supported (.variableWidth classification)
  | .error _ => fixedSizeBinarySupport mapping

def uint64Support (mapping : SchemaMapping) : DirectMappingSupport :=
  match UInt64ArrowToMssql.classify mapping 0 with
  | .ok .decimal20_0 => .supported .uint64Decimal20_0
  | .ok .checkedBigInt => .supported (.primitive .uint64ToCheckedBigInt)
  | .error _ => variableWidthSupport mapping

def decimalSupport (mapping : SchemaMapping) : DirectMappingSupport :=
  match DecimalArrowToMssql.classify mapping 0 with
  | .ok classification => .supported (.decimal classification)
  | .error _ => uint64Support mapping

def supportMapping (mapping : SchemaMapping) : DirectMappingSupport :=
  match PrimitiveArrowToMssql.classify mapping 0 with
  | .ok classification => .supported (.primitive classification)
  | .error _ => decimalSupport mapping

def planColumn (mapping : SchemaMapping) : Outcome Diagnostic DirectColumnPlan :=
  match supportMapping mapping with
  | .supported encoding => .ok (DirectColumnPlan.fromMapping mapping encoding)
  | .unsupported reason => fail (unsupportedMappingDiagnostic mapping reason)

def DirectEncoderPlan.new (mappings : List SchemaMapping) : Result DirectEncoderPlan := do
  let (columns, diagnostics) ← gather mappings planColumn
  ensure (¬DiagnosticSet.hasErrors diagnostics) (.directEncoding diagnostics)
  pure ⟨columns⟩

structure DirectEncoder where
  mappings : List SchemaMapping
  runtimeContext : RuntimeConversionContext
  plan : DirectEncoderPlan

namespace DirectEncoder

def newWithContext (mappings : List SchemaMapping) (runtimeContext : RuntimeConversionContext) :
    Result DirectEncoder := do
  let plan ← DirectEncoderPlan.new mappings
  pure ⟨mappings, runtimeContext, plan⟩

omit [Externals] in
def mappingForColumnIndex (encoder : DirectEncoder) (columnIndex : ℕ) : Result SchemaMapping :=
  okOr encoder.mappings[columnIndex]? (invalidPayload
    s!"direct mapping index {columnIndex} is outside mapping count {encoder.mappings.length}")

end DirectEncoder

/-- The encodings the classifiers give to a mapping, each with the types it belongs to. -/
inductive Encodes : DataType → MssqlType → DirectColumnEncoding → Prop where
  | boolean : Encodes .boolean .bit (.primitive .booleanToBit)
  | uint8 : Encodes .uint8 .tinyInt (.primitive .uint8ToTinyInt)
  | int8 : Encodes .int8 .smallInt (.primitive .int8ToSmallInt)
  | int16 : Encodes .int16 .smallInt (.primitive .int16ToSmallInt)
  | int32 : Encodes .int32 .int (.primitive .int32ToInt)
  | uint16 : Encodes .uint16 .int (.primitive .uint16ToInt)
  | int64 : Encodes .int64 .bigInt (.primitive .int64ToBigInt)
  | uint32 : Encodes .uint32 .bigInt (.primitive .uint32ToBigInt)
  | uint64 : Encodes .uint64 .bigInt (.primitive .uint64ToCheckedBigInt)
  | float16 : Encodes .float16 .real (.primitive .float16ToReal)
  | float32 : Encodes .float32 .real (.primitive .float32ToReal)
  | float64 : Encodes .float64 (.float 53) (.primitive .float64ToFloat)
  | uint64Decimal : Encodes .uint64 (.decimal 20 0) .uint64Decimal20_0
  | decimal {dataType : DataType} {source : DecimalSource} {precision scale : ℕ} {arrowScale : ℤ}
      (hsource : (∃ p, dataType = .decimal32 p arrowScale ∧ source = .decimal32) ∨
        (∃ p, dataType = .decimal64 p arrowScale ∧ source = .decimal64) ∨
        (∃ p, dataType = .decimal128 p arrowScale ∧ source = .decimal128) ∨
        (∃ p, dataType = .decimal256 p arrowScale ∧ source = .decimal256))
      (hscale : scale < 38) (harrow : arrowScale < 256) (hsame : scale = arrowScale.toNat) :
      Encodes dataType (.decimal precision scale) (.decimal ⟨source, precision, scale, arrowScale⟩)
  | nVarChar {dataType : DataType} {length : MssqlTypeLength} (h : isArrowStringFamily dataType = true) :
      Encodes dataType (.nVarChar length) (.variableWidth (.stringToNVarChar length))
  | varBinary {dataType : DataType} {length : MssqlTypeLength} (h : isArrowBinaryFamily dataType = true) :
      Encodes dataType (.varBinary length) (.variableWidth (.bytesToVarBinary length))
  | fixedSizeBinary {length : ℕ} (h : length < 2 ^ 64) :
      Encodes (.fixedSizeBinary length) (.binary length) (.fixedSizeBinary (.fixedSizeBinaryToBinary length))
  | date32 : Encodes .date32 .date (.temporal .date32ToDate)
  | date64 : Encodes .date64 (.dateTime2 3) (.temporal .date64ToDateTime2)
  | time32Second (h : 0 ≤ 7) : Encodes (.time32 .second) (.time ⟨0, h⟩) (.temporal .time32SecondToTime)
  | time32Millisecond (h : 3 ≤ 7) :
      Encodes (.time32 .millisecond) (.time ⟨3, h⟩) (.temporal .time32MillisecondToTime)
  | time64Microsecond (h : 6 ≤ 7) :
      Encodes (.time64 .microsecond) (.time ⟨6, h⟩) (.temporal .time64MicrosecondToTime)
  | time64Nanosecond (h : 7 ≤ 7) : Encodes (.time64 .nanosecond) (.time ⟨7, h⟩) (.temporal .time64NanosecondToTime)
  | timestampDateTime2 {unit : TimeUnit} {timezone : Option String} {precision : ℕ}
      (hfree : isTimezoneFree timezone = true) (hprecision : precision ≤ 7) :
      Encodes (.timestamp unit timezone) (.dateTime2 precision) (.temporal (.timestampToDateTime2 unit))
  | timestampTzDateTime2 {unit : TimeUnit} {timezone : Option String} {precision : ℕ}
      (hzoned : isTimezoneFree timezone = false) (hprecision : precision ≤ 7) :
      Encodes (.timestamp unit timezone) (.dateTime2 precision) (.temporal (.timestampTzToDateTime2 unit))
  | timestampDateTime {unit : TimeUnit} {timezone : Option String} (hfree : isTimezoneFree timezone = true) :
      Encodes (.timestamp unit timezone) .dateTime (.temporal (.timestampToDateTime unit))
  | timestampTzDateTime {unit : TimeUnit} {timezone : Option String} (hzoned : isTimezoneFree timezone = false) :
      Encodes (.timestamp unit timezone) .dateTime (.temporal (.timestampTzToDateTime unit))
  | dateTimeOffset {unit : TimeUnit} {timezone : Option String} (hzoned : isTimezoneFree timezone = false) :
      Encodes (.timestamp unit timezone) (.dateTimeOffset 7) (.temporal (.timestampTzToDateTimeOffset unit))

end ArrowTiberius.Direct
