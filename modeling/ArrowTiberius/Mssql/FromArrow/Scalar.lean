import ArrowTiberius.Conversion.ArrowToMssql
import ArrowTiberius.Lib.Utf16
import ArrowTiberius.Mssql.Cell

namespace ArrowTiberius

open Checked

def decimalMaxUnscaled (precision : ℕ) : Option ℤ :=
  (checkedSigned 128 (10 ^ precision)).bind fun power => checkedSigned 128 (power - 1)

def decimalUnscaledFitsPrecision (value : ℤ) (precision : ℕ) : Bool :=
  if precision = 0 then false
  else
    match decimalMaxUnscaled precision with
    | none => false
    | some max => value ≤ max ∧ value ≥ -max

def normalizeNegativeScale (mapping : SchemaMapping) (rowIndex : ℕ) (unscaled arrowScale : ℤ) : Result ℤ :=
  if arrowScale ≥ 0 then .ok unscaled
  else do
    let factor ← okOr (checkedSigned 128 (10 ^ arrowScale.natAbs)) (rowError mapping rowIndex .decimalOutOfRange
      s!"negative decimal scale {arrowScale} normalization factor overflows")
    okOr (checkedSigned 128 (unscaled * factor)) (rowError mapping rowIndex .decimalOutOfRange
      s!"decimal value {unscaled} overflows while normalizing scale {arrowScale}")

def normalizeUnscaledDecimal (mapping : SchemaMapping) (rowIndex : ℕ) (unscaled arrowScale : ℤ) : Result ℤ :=
  if arrowScale ≥ 0 then .ok unscaled else normalizeNegativeScale mapping rowIndex unscaled arrowScale

def mssqlDecimalWithShape (mapping : SchemaMapping) (rowIndex : ℕ) (unscaled : ℤ) (precision scale : ℕ) :
    Result MssqlDecimal := do
  ensure (decimalUnscaledFitsPrecision unscaled precision) (rowError mapping rowIndex .decimalOutOfRange
    s!"decimal value {unscaled} does not fit planned precision {precision}")
  pure ⟨unscaled, scale⟩

def mssqlDecimalForClassification (mapping : SchemaMapping) (rowIndex : ℕ) (unscaled : ℤ)
    (classification : DecimalArrowToMssql) : Result MssqlDecimal :=
  mssqlDecimalWithShape mapping rowIndex unscaled classification.targetPrecision classification.targetScale

def notDecimal (mapping : SchemaMapping) (rowIndex : ℕ) : Error :=
  rowError mapping rowIndex .valueTypeMismatch "planned SQL Server type is not decimal"

def decimalScale (mapping : SchemaMapping) (rowIndex : ℕ) : Result ℕ :=
  match mapping.mssql.ty with
  | .decimal _ scale => do
    let scale ← okOr (checkedUnsigned 8 scale) (decimalScaleUnrepresentable mapping rowIndex scale)
    ensure (¬scale ≥ 38) (decimalScaleUnrepresentable mapping rowIndex scale)
    pure scale
  | _ => fail (notDecimal mapping rowIndex)

def mssqlDecimal (mapping : SchemaMapping) (rowIndex : ℕ) (unscaled : ℤ) (scale : ℕ) : Result MssqlDecimal :=
  match mapping.mssql.ty with
  | .decimal precision _ => mssqlDecimalWithShape mapping rowIndex unscaled precision scale
  | _ => fail (notDecimal mapping rowIndex)

def exceedsLength (length : MssqlTypeLength) (actual : ℕ) : Bool :=
  match length with
  | .bounded limit => actual > limit
  | .max => false

variable [Externals]

def classifyUInt64Decimal20_0 (mapping : SchemaMapping) (rowIndex : ℕ) : Result Unit := do
  let classification ← UInt64ArrowToMssql.classify mapping rowIndex
  match classification with
  | .decimal20_0 => .ok ()
  | .checkedBigInt => fail (rowError mapping rowIndex .valueTypeMismatch
      "planned UInt64 conversion is not decimal(20,0)")

def validateUInt64DecimalScaleCompatibility (mapping : SchemaMapping) (rowIndex plannedScale : ℕ) : Result Unit := do
  classifyUInt64Decimal20_0 mapping rowIndex
  ensure (plannedScale = 0) (rowError mapping rowIndex .schemaMismatch
    s!"planned SQL Server decimal scale {plannedScale} is incompatible with Arrow decimal scale 0")

def expectedDecimalPayload (mapping : SchemaMapping) (rowIndex : ℕ) (actual : String) : Error :=
  rowError mapping rowIndex .valueTypeMismatch s!"expected Arrow decimal-compatible payload, got {actual}"

def mssqlDecimalValue (mapping : SchemaMapping) (rowIndex : ℕ) (cell : ArrowCell) : Result MssqlDecimal :=
  if mapping.arrow.dataType = .uint64 then do
    let scale ← decimalScale mapping rowIndex
    validateUInt64DecimalScaleCompatibility mapping rowIndex scale
    match cell with
    | .uint64 value => do
      classifyUInt64Decimal20_0 mapping rowIndex
      mssqlDecimal mapping rowIndex value.toNat scale
    | cell => fail (expectedDecimalPayload mapping rowIndex (Externals.debug cell))
  else do
    let classification ← DecimalArrowToMssql.classify mapping rowIndex
    match cell, classification.source with
    | .decimal32 value, .decimal32 => do
      let value ← normalizeUnscaledDecimal mapping rowIndex value.val classification.arrowScale
      mssqlDecimalForClassification mapping rowIndex value classification
    | .decimal64 value, .decimal64 => do
      let value ← normalizeUnscaledDecimal mapping rowIndex value.val classification.arrowScale
      mssqlDecimalForClassification mapping rowIndex value classification
    | .decimal128 value, .decimal128 => do
      let value ← normalizeUnscaledDecimal mapping rowIndex value.val classification.arrowScale
      mssqlDecimalForClassification mapping rowIndex value classification
    | .decimal256 value, .decimal256 => do
      let value ← okOr (checkedSigned 128 value.val) (rowError mapping rowIndex .decimalOutOfRange
        "Arrow Decimal256 value does not fit runtime i128 decimal representation")
      let value ← normalizeUnscaledDecimal mapping rowIndex value classification.arrowScale
      mssqlDecimalForClassification mapping rowIndex value classification
    | cell, _ => fail (expectedDecimalPayload mapping rowIndex (Externals.debug (cell, classification)))

def isUInt64Decimal20_0Mapping (mapping : SchemaMapping) : Bool :=
  UInt64ArrowToMssql.classify mapping 0 matches .ok .decimal20_0

def supportsNullDecimalCell (mapping : SchemaMapping) : Bool :=
  match mapping.arrow.dataType with
  | .uint64 => isUInt64Decimal20_0Mapping mapping
  | .decimal32 _ _ | .decimal64 _ _ | .decimal128 _ _ | .decimal256 _ _ => (mapping.mssql.ty matches .decimal _ _)
  | _ => false

def classifyForScalar (mapping : SchemaMapping) (rowIndex : ℕ) : Option PrimitiveArrowToMssql :=
  (PrimitiveArrowToMssql.classify mapping rowIndex).toOption

def nonFiniteFloatError (mapping : SchemaMapping) (rowIndex : ℕ) (value : String) : Error :=
  rowError mapping rowIndex .nonFiniteFloat s!"non-finite floating point value {value} is not supported"

def primitiveTypeMismatch (mapping : SchemaMapping) (rowIndex : ℕ)
    (actual : Option PrimitiveArrowToMssql × ArrowCell) : Error :=
  rowError mapping rowIndex .valueTypeMismatch
    s!"Arrow primitive payload does not match planned primitive conversion: {Externals.debug actual}"

def realCell (mapping : SchemaMapping) (rowIndex : ℕ) (value : F32) : Result MssqlCell :=
  if value.isFinite then .ok (.real (some value))
  else fail (nonFiniteFloatError mapping rowIndex (Externals.display value))

def primitiveMssqlCell (mapping : SchemaMapping) (rowIndex : ℕ) (cell : ArrowCell) : Result MssqlCell :=
  match classifyForScalar mapping rowIndex, cell with
  | some .booleanToBit, .boolean value => .ok (.bit (some value))
  | some .uint8ToTinyInt, .uint8 value => .ok (.tinyInt (some value))
  | some .int8ToSmallInt, .int8 value => .ok (.smallInt (some (value.widen (by decide))))
  | some .int16ToSmallInt, .int16 value => .ok (.smallInt (some value))
  | some .int32ToInt, .int32 value => .ok (.int (some value))
  | some .uint16ToInt, .uint16 value => .ok (.int (some (SInt.ofNat value.toNat (by have := value.toNat_lt; omega))))
  | some .int64ToBigInt, .int64 value => .ok (.bigInt (some value))
  | some .uint32ToBigInt, .uint32 value =>
    .ok (.bigInt (some (SInt.ofNat value.toNat (by have := value.toNat_lt; omega))))
  | some .uint64ToCheckedBigInt, .uint64 value => do
    let value ← okOr (SInt.ofInt? 64 value.toNat) (rowError mapping rowIndex .integerOutOfRange
      s!"Arrow UInt64 value {value} does not fit planned SQL Server bigint")
    pure (.bigInt (some value))
  | some .float16ToReal, .float16 value => realCell mapping rowIndex value
  | some .float32ToReal, .float32 value => realCell mapping rowIndex value
  | some .float64ToFloat, .float64 value =>
    if value.isFinite then .ok (.float (some value))
    else fail (nonFiniteFloatError mapping rowIndex (Externals.display value))
  | classification, cell => fail (primitiveTypeMismatch mapping rowIndex (classification, cell))

def mssqlNvarcharValue (mapping : SchemaMapping) (rowIndex : ℕ) (cell : ArrowCell) : Result String :=
  match cell with
  | .utf8 value => .ok value
  | other => fail (rowError mapping rowIndex .valueTypeMismatch
      s!"expected Arrow UTF-8 payload, got {Externals.debug other}")

def mssqlVarbinaryValue (mapping : SchemaMapping) (rowIndex : ℕ) (cell : ArrowCell) : Result (List UInt8) :=
  match cell with
  | .binary value => .ok value
  | other => fail (rowError mapping rowIndex .valueTypeMismatch
      s!"expected Arrow binary payload, got {Externals.debug other}")

def nvarCharCell (mapping : SchemaMapping) (rowIndex : ℕ) (length : MssqlTypeLength) (cell : ArrowCell) :
    Result MssqlCell := do
  let classification ← VariableWidthArrowToMssql.classify mapping rowIndex
  match classification with
  | .stringToNVarChar classified => do
    assert (length = classified)
    let value ← mssqlNvarcharValue mapping rowIndex cell
    ensure (¬exceedsLength length (Utf16.encode value.toList).length) (rowError mapping rowIndex .valueTooLong
      s!"string value has {(Utf16.encode value.toList).length} UTF-16 code unit(s), exceeding planned {
        mapping.mssql.ty.toSql}")
    pure (.nVarChar (some value))
  | other => fail (unsupportedValueConversion mapping rowIndex
      s!"variable-width mapping {Externals.debug other} is not supported by nvarchar conversion")

def varBinaryCell (mapping : SchemaMapping) (rowIndex : ℕ) (length : MssqlTypeLength) (cell : ArrowCell) :
    Result MssqlCell := do
  let classification ← VariableWidthArrowToMssql.classify mapping rowIndex
  match classification with
  | .bytesToVarBinary classified => do
    assert (length = classified)
    let value ← mssqlVarbinaryValue mapping rowIndex cell
    ensure (¬exceedsLength length value.length) (rowError mapping rowIndex .valueTooLong
      s!"binary value has {value.length} byte(s), exceeding planned {mapping.mssql.ty.toSql}")
    pure (.varBinary (some value))
  | other => fail (unsupportedValueConversion mapping rowIndex
      s!"variable-width mapping {Externals.debug other} is not supported by varbinary conversion")

def binaryCell (mapping : SchemaMapping) (rowIndex length : ℕ) (cell : ArrowCell) : Result MssqlCell := do
  let classification ← FixedSizeBinaryArrowToMssql.classify mapping rowIndex
  match classification with
  | .fixedSizeBinaryToBinary classified => do
    assert (length = classified)
    let value ← mssqlVarbinaryValue mapping rowIndex cell
    ensure (value.length = length) (rowError mapping rowIndex .valueTypeMismatch s!"binary value has {
      value.length} byte(s), but planned {mapping.mssql.ty.toSql} requires exactly {length}")
    pure (.varBinary (some value))

end ArrowTiberius
