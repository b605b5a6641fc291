import ArrowTiberius.Direct.Types.Decimal
import ArrowTiberius.Direct.Types.FixedSizeBinary
import ArrowTiberius.Direct.Types.Primitive
import ArrowTiberius.Direct.Types.Temporal
import ArrowTiberius.Direct.Types.VariableWidth

namespace ArrowTiberius.Direct

open Checked

inductive BoundDirectColumn where
  | boolean (column : DirectColumnPlan) (array : Arr Bool)
  | uint8 (column : DirectColumnPlan) (array : Arr UInt8)
  | int8 (column : DirectColumnPlan) (array : Arr (SInt 8))
  | int16 (column : DirectColumnPlan) (array : Arr (SInt 16))
  | int32 (column : DirectColumnPlan) (array : Arr (SInt 32))
  | uint16 (column : DirectColumnPlan) (array : Arr UInt16)
  | int64 (column : DirectColumnPlan) (array : Arr (SInt 64))
  | uint32 (column : DirectColumnPlan) (array : Arr UInt32)
  | uint64 (column : DirectColumnPlan) (array : Arr UInt64)
  | uint64Decimal20_0 (column : DirectColumnPlan) (array : Arr UInt64)
  | decimal32 (column : DirectColumnPlan) (classification : DecimalArrowToMssql) (array : Arr (SInt 32))
  | decimal64 (column : DirectColumnPlan) (classification : DecimalArrowToMssql) (array : Arr (SInt 64))
  | decimal128 (column : DirectColumnPlan) (classification : DecimalArrowToMssql) (array : Arr (SInt 128))
  | decimal256 (column : DirectColumnPlan) (classification : DecimalArrowToMssql) (array : Arr (SInt 256))
  | float32 (column : DirectColumnPlan) (array : Arr F32)
  | float16 (column : DirectColumnPlan) (array : Arr F16)
  | float64 (column : DirectColumnPlan) (array : Arr F64)
  | utf8 (column : DirectColumnPlan) (array : Arr String)
  | largeUtf8 (column : DirectColumnPlan) (array : Arr String)
  | utf8View (column : DirectColumnPlan) (array : Arr String)
  | binary (column : DirectColumnPlan) (array : Arr (List UInt8))
  | largeBinary (column : DirectColumnPlan) (array : Arr (List UInt8))
  | binaryView (column : DirectColumnPlan) (array : Arr (List UInt8))
  | fixedSizeBinary (column : DirectColumnPlan) (classification : FixedSizeBinaryArrowToMssql)
      (array : Arr (List UInt8))
  | date32 (column : DirectColumnPlan) (mapping : SchemaMapping) (array : Arr (SInt 32))
  | date64 (column : DirectColumnPlan) (mapping : SchemaMapping) (array : Arr (SInt 64))
  | timestamp (unit : TimeUnit) (column : DirectColumnPlan) (mapping : SchemaMapping) (array : Arr (SInt 64))
  | time32Second (column : DirectColumnPlan) (mapping : SchemaMapping) (array : Arr (SInt 32))
  | time32Millisecond (column : DirectColumnPlan) (mapping : SchemaMapping) (array : Arr (SInt 32))
  | time64Microsecond (column : DirectColumnPlan) (mapping : SchemaMapping) (array : Arr (SInt 64))
  | time64Nanosecond (column : DirectColumnPlan) (mapping : SchemaMapping) (array : Arr (SInt 64))
  | dateTimeOffset (unit : TimeUnit) (column : DirectColumnPlan) (mapping : SchemaMapping) (array : Arr (SInt 64))

namespace BoundDirectColumn

variable [Externals]

def measureCellLengths (context : RuntimeConversionContext) :
    BoundDirectColumn → ColumnSlot → List ℕ → Result (List ℕ)
  | .boolean column array => Primitive.measureFixedPrimitiveColumnCellLengths array column
  | .uint8 column array => Primitive.measureFixedPrimitiveColumnCellLengths array column
  | .int8 column array => Primitive.measureFixedPrimitiveColumnCellLengths array column
  | .int16 column array => Primitive.measureFixedPrimitiveColumnCellLengths array column
  | .int32 column array => Primitive.measureFixedPrimitiveColumnCellLengths array column
  | .uint16 column array => Primitive.measureFixedPrimitiveColumnCellLengths array column
  | .int64 column array => Primitive.measureFixedPrimitiveColumnCellLengths array column
  | .uint32 column array => Primitive.measureFixedPrimitiveColumnCellLengths array column
  | .uint64 column array => Primitive.measureUint64CheckedBigintColumnCellLengths array column
  | .float16 column array => Primitive.measureFloat16ColumnCellLengths array column
  | .float32 column array => Primitive.measureFloat32ColumnCellLengths array column
  | .float64 column array => Primitive.measureFloat64ColumnCellLengths array column
  | .uint64Decimal20_0 column array => Decimal.measureUint64Decimal20CellLengths array column
  | .decimal32 column classification array => Decimal.measureDecimal32ColumnCellLengths array column classification
  | .decimal64 column classification array => Decimal.measureDecimal64ColumnCellLengths array column classification
  | .decimal128 column classification array => Decimal.measureDecimal128ColumnCellLengths array column classification
  | .decimal256 column classification array => Decimal.measureDecimal256ColumnCellLengths array column classification
  | .utf8 column array => VariableWidth.measureNvarcharColumnCellLengths array column
  | .largeUtf8 column array => VariableWidth.measureNvarcharColumnCellLengths array column
  | .utf8View column array => VariableWidth.measureNvarcharColumnCellLengths array column
  | .binary column array => VariableWidth.measureVarbinaryColumnCellLengths array column
  | .largeBinary column array => VariableWidth.measureVarbinaryColumnCellLengths array column
  | .binaryView column array => VariableWidth.measureVarbinaryColumnCellLengths array column
  | .fixedSizeBinary column classification array =>
    FixedSizeBinary.measureFixedSizeBinaryColumnCellLengths array column classification
  | .date32 column mapping array => Temporal.measureDate32ColumnCellLengths array mapping column
  | .date64 column mapping array => Temporal.measureDate64ColumnCellLengths array mapping column
  | .timestamp unit column mapping array =>
    Temporal.measureTimestampColumnCellLengths unit array mapping context column
  | .time32Second column mapping array => Temporal.measureTime32SecondColumnCellLengths array mapping column
  | .time32Millisecond column mapping array => Temporal.measureTime32MillisecondColumnCellLengths array mapping column
  | .time64Microsecond column mapping array => Temporal.measureTime64MicrosecondColumnCellLengths array mapping column
  | .time64Nanosecond column mapping array =>
    Temporal.measureTime64NanosecondColumnCellLengths array mapping context column
  | .dateTimeOffset unit column mapping array =>
    Temporal.measureDatetimeoffsetColumnCellLengths unit array mapping context column

def fillColumn (context : RuntimeConversionContext) :
    BoundDirectColumn → ColumnSlot → RowLayout → List UInt8 → Result (List UInt8)
  | .boolean column array => Primitive.fillBooleanColumn array column
  | .uint8 column array => Primitive.fillUint8Column array column
  | .int8 column array => Primitive.fillInt8Column array column
  | .int16 column array => Primitive.fillInt16Column array column
  | .int32 column array => Primitive.fillInt32Column array column
  | .uint16 column array => Primitive.fillUint16Column array column
  | .int64 column array => Primitive.fillInt64Column array column
  | .uint32 column array => Primitive.fillUint32Column array column
  | .uint64 column array => Primitive.fillUint64CheckedBigintColumn array column
  | .uint64Decimal20_0 column array => Decimal.fillUint64Decimal20Column array column
  | .decimal32 column classification array => Decimal.fillDecimal32Column array column classification
  | .decimal64 column classification array => Decimal.fillDecimal64Column array column classification
  | .decimal128 column classification array => Decimal.fillDecimal128Column array column classification
  | .decimal256 column classification array => Decimal.fillDecimal256Column array column classification
  | .float16 column array => Primitive.fillFloat16Column array column
  | .float32 column array => Primitive.fillFloat32Column array column
  | .float64 column array => Primitive.fillFloat64Column array column
  | .utf8 column array => VariableWidth.fillNvarcharColumn array column
  | .largeUtf8 column array => VariableWidth.fillNvarcharColumn array column
  | .utf8View column array => VariableWidth.fillNvarcharColumn array column
  | .binary column array => VariableWidth.fillVarbinaryColumn array column
  | .largeBinary column array => VariableWidth.fillVarbinaryColumn array column
  | .binaryView column array => VariableWidth.fillVarbinaryColumn array column
  | .fixedSizeBinary column classification array =>
    FixedSizeBinary.fillFixedSizeBinaryColumn array column classification
  | .date32 column _ array => Temporal.fillDate32Column array column
  | .date64 column _ array => Temporal.fillDate64Column array column
  | .timestamp unit column mapping array => Temporal.fillTimestampDirectColumn unit array mapping context column
  | .time32Second column mapping array => Temporal.fillTime32SecondDirectColumn array mapping column
  | .time32Millisecond column mapping array => Temporal.fillTime32MillisecondDirectColumn array mapping column
  | .time64Microsecond column mapping array => Temporal.fillTime64MicrosecondDirectColumn array mapping column
  | .time64Nanosecond column mapping array => Temporal.fillTime64NanosecondDirectColumn array mapping context column
  | .dateTimeOffset unit column mapping array =>
    Temporal.fillDatetimeoffsetDirectColumn unit array mapping context column

def appendCell (context : RuntimeConversionContext) :
    BoundDirectColumn → List UInt8 → ℕ → ℕ → Result (List UInt8)
  | .boolean column array => Primitive.appendBooleanCell array column
  | .uint8 column array => Primitive.appendUint8Cell array column
  | .int8 column array => Primitive.appendInt8Cell array column
  | .int16 column array => Primitive.appendInt16Cell array column
  | .int32 column array => Primitive.appendInt32Cell array column
  | .uint16 column array => Primitive.appendUint16Cell array column
  | .int64 column array => Primitive.appendInt64Cell array column
  | .uint32 column array => Primitive.appendUint32Cell array column
  | .uint64 column array => Primitive.appendUint64CheckedBigintCell array column
  | .uint64Decimal20_0 column array => Decimal.appendUint64Decimal20Cell array column
  | .decimal32 column classification array => Decimal.appendDecimal32Cell array column classification
  | .decimal64 column classification array => Decimal.appendDecimal64Cell array column classification
  | .decimal128 column classification array => Decimal.appendDecimal128Cell array column classification
  | .decimal256 column classification array => Decimal.appendDecimal256Cell array column classification
  | .float16 column array => Primitive.appendFloat16Cell array column
  | .float32 column array => Primitive.appendFloat32Cell array column
  | .float64 column array => Primitive.appendFloat64Cell array column
  | .utf8 column array => VariableWidth.appendNvarcharCell array column
  | .largeUtf8 column array => VariableWidth.appendNvarcharCell array column
  | .utf8View column array => VariableWidth.appendNvarcharCell array column
  | .binary column array => VariableWidth.appendVarbinaryCell array column
  | .largeBinary column array => VariableWidth.appendVarbinaryCell array column
  | .binaryView column array => VariableWidth.appendVarbinaryCell array column
  | .fixedSizeBinary column classification array =>
    FixedSizeBinary.appendFixedSizeBinaryCell array column classification
  | .date32 column mapping array => Temporal.appendDate32Cell array mapping column
  | .date64 column mapping array => Temporal.appendDate64Cell array mapping column
  | .timestamp unit column mapping array => Temporal.appendTimestampArrayCell unit array mapping context column
  | .time32Second column mapping array => Temporal.appendTime32SecondCell array mapping column
  | .time32Millisecond column mapping array => Temporal.appendTime32MillisecondCell array mapping column
  | .time64Microsecond column mapping array => Temporal.appendTime64MicrosecondCell array mapping column
  | .time64Nanosecond column mapping array => Temporal.appendTime64NanosecondCell array mapping context column
  | .dateTimeOffset unit column mapping array =>
    Temporal.appendDatetimeoffsetArrayCell unit array mapping context column

end BoundDirectColumn

section Bind

variable [Externals]

def runtimeTypeMismatch (array : ArrayRef) (column : DirectColumnPlan) : Error :=
  columnError column 0 .valueTypeMismatch
    s!"runtime Arrow type {Externals.display array.dataType} does not match planned direct column type"

def downcastDirectArray (kind : ArrayKind) (array : ArrayRef) (column : DirectColumnPlan) : Result (Arr kind.Elem) :=
  okOr (array.downcast kind) (runtimeTypeMismatch array column)

def downcastDirectFixedSizeBinary (array : ArrayRef) (column : DirectColumnPlan) : Result (Arr (List UInt8)) :=
  okOr array.downcastFixedSizeBinary (runtimeTypeMismatch array column)

def unsupportedPlannedDirectType (column : DirectColumnPlan) (targetFamily : String) (dataType : DataType) : Error :=
  columnError column 0 .valueConversionUnsupported
    s!"planned Arrow type {Externals.display dataType} is not supported by direct {targetFamily} binding"

def bindDirectNvarcharArray (array : ArrayRef) (column : DirectColumnPlan) (mapping : SchemaMapping) :
    Result BoundDirectColumn :=
  if isStringFamilyToNvarchar mapping then
    match array.dataType with
    | .utf8 => BoundDirectColumn.utf8 column <$> downcastDirectArray .utf8 array column
    | .largeUtf8 => BoundDirectColumn.largeUtf8 column <$> downcastDirectArray .largeUtf8 array column
    | .utf8View => BoundDirectColumn.utf8View column <$> downcastDirectArray .utf8View array column
    | other => fail (unsupportedPlannedDirectType column "nvarchar" other)
  else fail (unsupportedPlannedDirectType column "nvarchar" mapping.arrow.dataType)

def bindDirectVarbinaryArray (array : ArrayRef) (column : DirectColumnPlan) (mapping : SchemaMapping) :
    Result BoundDirectColumn :=
  if isBinaryFamilyToVarbinary mapping then
    match array.dataType with
    | .binary => BoundDirectColumn.binary column <$> downcastDirectArray .binary array column
    | .largeBinary => BoundDirectColumn.largeBinary column <$> downcastDirectArray .largeBinary array column
    | .binaryView => BoundDirectColumn.binaryView column <$> downcastDirectArray .binaryView array column
    | other => fail (unsupportedPlannedDirectType column "varbinary" other)
  else fail (unsupportedPlannedDirectType column "varbinary" mapping.arrow.dataType)

def bindDirectArray (encoder : DirectEncoder) (array : ArrayRef) (columnIndex : ℕ) (column : DirectColumnPlan) :
    Result BoundDirectColumn :=
  match column.encoding with
  | .primitive .booleanToBit => BoundDirectColumn.boolean column <$> downcastDirectArray .boolean array column
  | .primitive .uint8ToTinyInt => BoundDirectColumn.uint8 column <$> downcastDirectArray .uint8 array column
  | .primitive .int8ToSmallInt => BoundDirectColumn.int8 column <$> downcastDirectArray .int8 array column
  | .primitive .int16ToSmallInt => BoundDirectColumn.int16 column <$> downcastDirectArray .int16 array column
  | .primitive .int32ToInt => BoundDirectColumn.int32 column <$> downcastDirectArray .int32 array column
  | .primitive .uint16ToInt => BoundDirectColumn.uint16 column <$> downcastDirectArray .uint16 array column
  | .primitive .int64ToBigInt => BoundDirectColumn.int64 column <$> downcastDirectArray .int64 array column
  | .primitive .uint32ToBigInt => BoundDirectColumn.uint32 column <$> downcastDirectArray .uint32 array column
  | .primitive .uint64ToCheckedBigInt => BoundDirectColumn.uint64 column <$> downcastDirectArray .uint64 array column
  | .primitive .float16ToReal => BoundDirectColumn.float16 column <$> downcastDirectArray .float16 array column
  | .primitive .float32ToReal => BoundDirectColumn.float32 column <$> downcastDirectArray .float32 array column
  | .primitive .float64ToFloat => BoundDirectColumn.float64 column <$> downcastDirectArray .float64 array column
  | .uint64Decimal20_0 => BoundDirectColumn.uint64Decimal20_0 column <$> downcastDirectArray .uint64 array column
  | .decimal classification =>
    match classification.source with
    | .decimal32 =>
      BoundDirectColumn.decimal32 column classification <$> downcastDirectArray .decimal32 array column
    | .decimal64 =>
      BoundDirectColumn.decimal64 column classification <$> downcastDirectArray .decimal64 array column
    | .decimal128 =>
      BoundDirectColumn.decimal128 column classification <$> downcastDirectArray .decimal128 array column
    | .decimal256 =>
      BoundDirectColumn.decimal256 column classification <$> downcastDirectArray .decimal256 array column
  | .variableWidth (.stringToNVarChar _) => do
    let mapping ← encoder.mappingForColumnIndex columnIndex
    bindDirectNvarcharArray array column mapping
  | .variableWidth (.bytesToVarBinary _) => do
    let mapping ← encoder.mappingForColumnIndex columnIndex
    bindDirectVarbinaryArray array column mapping
  | .fixedSizeBinary classification =>
    BoundDirectColumn.fixedSizeBinary column classification <$> downcastDirectFixedSizeBinary array column
  | .temporal .date32ToDate => do
    let mapping ← encoder.mappingForColumnIndex columnIndex
    BoundDirectColumn.date32 column mapping <$> downcastDirectArray .date32 array column
  | .temporal .date64ToDateTime2 => do
    let mapping ← encoder.mappingForColumnIndex columnIndex
    BoundDirectColumn.date64 column mapping <$> downcastDirectArray .date64 array column
  | .temporal (.timestampToDateTime2 unit) | .temporal (.timestampTzToDateTime2 unit)
  | .temporal (.timestampToDateTime unit) | .temporal (.timestampTzToDateTime unit) => do
    let mapping ← encoder.mappingForColumnIndex columnIndex
    BoundDirectColumn.timestamp unit column mapping <$> downcastDirectArray (.timestamp unit) array column
  | .temporal .time32SecondToTime => do
    let mapping ← encoder.mappingForColumnIndex columnIndex
    BoundDirectColumn.time32Second column mapping <$> downcastDirectArray .time32Second array column
  | .temporal .time32MillisecondToTime => do
    let mapping ← encoder.mappingForColumnIndex columnIndex
    BoundDirectColumn.time32Millisecond column mapping <$> downcastDirectArray .time32Millisecond array column
  | .temporal .time64MicrosecondToTime => do
    let mapping ← encoder.mappingForColumnIndex columnIndex
    BoundDirectColumn.time64Microsecond column mapping <$> downcastDirectArray .time64Microsecond array column
  | .temporal .time64NanosecondToTime => do
    let mapping ← encoder.mappingForColumnIndex columnIndex
    BoundDirectColumn.time64Nanosecond column mapping <$> downcastDirectArray .time64Nanosecond array column
  | .temporal (.timestampTzToDateTimeOffset unit) => do
    let mapping ← encoder.mappingForColumnIndex columnIndex
    BoundDirectColumn.dateTimeOffset unit column mapping <$> downcastDirectArray (.timestamp unit) array column

def bindDirectColumns (encoder : DirectEncoder) (batch : RecordBatch) : Result (List BoundDirectColumn) :=
  collect encoder.plan.columns.zipIdx fun (column, columnIndex) => do
    let array ← okOr batch.columns[column.sourceIndex]? (columnError column 0 .valueTypeMismatch
      "planned direct column index is outside the runtime batch")
    bindDirectArray encoder array columnIndex column

end Bind

structure BoundDirectBatch where
  columns : List BoundDirectColumn
  runtimeContext : RuntimeConversionContext
  rowCount : ℕ

namespace BoundDirectBatch

variable [Externals]

def new (encoder : DirectEncoder) (batch : RecordBatch) : Result BoundDirectBatch := do
  let columns ← bindDirectColumns encoder batch
  pure ⟨columns, encoder.runtimeContext, batch.numRows⟩

def measureCellLengths (bound : BoundDirectBatch) : Result (List ℕ) :=
  if bound.rowCount = 0 then .ok []
  else do
    let columnCount := bound.columns.length
    let cellCount ← unsignedOp 64 (bound.rowCount * columnCount : ℕ)
    forEach bound.columns.zipIdx (List.replicate cellCount 0) fun cellLengths (column, columnIndex) =>
      column.measureCellLengths bound.runtimeContext ⟨columnIndex, columnCount⟩ cellLengths

def measureLayout (bound : BoundDirectBatch) : Result RowLayout :=
  if bound.rowCount = 0 then RowLayout.new [] [] [] 0
  else do
    let cellLengths ← bound.measureCellLengths
    buildFixedWidthRowLayout bound.rowCount bound.columns.length cellLengths

def fillColumns (bound : BoundDirectBatch) (layout : RowLayout) (bytes : List UInt8) : Result (List UInt8) :=
  forEach bound.columns.zipIdx bytes fun bytes (column, columnIndex) =>
    column.fillColumn bound.runtimeContext ⟨columnIndex, bound.columns.length⟩ layout bytes

end BoundDirectBatch

end ArrowTiberius.Direct
