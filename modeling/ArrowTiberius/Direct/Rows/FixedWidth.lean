import ArrowTiberius.Direct.Binding

namespace ArrowTiberius.Direct.FixedWidth

open Checked Tiling

variable {α : Type}

/-- The switches of the write profile that turn the fast path off; a build without profiling has both off. -/
structure FastPath where
  fixedWidthDisabled : Bool := false
  dateDisabled : Bool := false
  deriving DecidableEq, Repr

def cellLenPrefixLen : ℕ := 1

def fixedSizeBinaryLenPrefixLen : ℕ := 2

def checkedAdd (lhs rhs : ℕ) : Result ℕ :=
  okOr (Checked.checkedAdd 64 lhs rhs) (invalidPayload "direct encoded length overflowed usize")

structure FixedWidthColumn where
  column : BoundDirectColumn
  plan : DirectColumnPlan
  mapping : Option SchemaMapping
  nonNullCellLen : ℕ
  nullCellLen : ℕ

structure FixedWidthRowsLayout where
  rowTokenOffsets : List ℕ
  currentOffsets : List ℕ
  payloadLen : ℕ

structure FillState where
  currentOffsets : List ℕ
  bytes : List UInt8

def firstNullError (data : Arr α) (column : DirectColumnPlan) : Error :=
  columnError column (((List.range data.len).find? data.isNull).getD 0) .nullInNonNullableColumn
    "null value in non-nullable fixed-size direct column"

def fixedWidthColumnParts : BoundDirectColumn → Option (DirectColumnPlan × Option SchemaMapping)
  | .boolean column _ | .uint8 column _ | .int8 column _ | .int16 column _ | .int32 column _ | .uint16 column _
  | .int64 column _ | .uint32 column _ | .uint64 column _ | .float16 column _ | .float32 column _
  | .float64 column _ | .fixedSizeBinary column _ _ => some (column, none)
  | .date32 column mapping _ | .date64 column mapping _ | .timestamp _ column mapping _
  | .time32Second column mapping _ | .time32Millisecond column mapping _ | .time64Microsecond column mapping _
  | .time64Nanosecond column mapping _ | .dateTimeOffset _ column mapping _ => some (column, some mapping)
  | _ => none

def fixedWidthColumnArray : BoundDirectColumn → Option (Arr Unit)
  | .boolean _ array => some (array.map fun _ => ())
  | .uint8 _ array => some (array.map fun _ => ())
  | .int8 _ array => some (array.map fun _ => ())
  | .int16 _ array => some (array.map fun _ => ())
  | .int32 _ array => some (array.map fun _ => ())
  | .uint16 _ array => some (array.map fun _ => ())
  | .int64 _ array => some (array.map fun _ => ())
  | .uint32 _ array => some (array.map fun _ => ())
  | .uint64 _ array => some (array.map fun _ => ())
  | .float16 _ array => some (array.map fun _ => ())
  | .float32 _ array => some (array.map fun _ => ())
  | .float64 _ array => some (array.map fun _ => ())
  | .fixedSizeBinary _ _ array => some (array.map fun _ => ())
  | .date32 _ _ array => some (array.map fun _ => ())
  | .date64 _ _ array => some (array.map fun _ => ())
  | .timestamp _ _ _ array => some (array.map fun _ => ())
  | .time32Second _ _ array => some (array.map fun _ => ())
  | .time32Millisecond _ _ array => some (array.map fun _ => ())
  | .time64Microsecond _ _ array => some (array.map fun _ => ())
  | .time64Nanosecond _ _ array => some (array.map fun _ => ())
  | .dateTimeOffset _ _ _ array => some (array.map fun _ => ())
  | _ => none

def fixedWidthValueLen : DirectColumnEncoding → Option ℕ
  | .primitive .booleanToBit => some 1
  | .primitive .uint8ToTinyInt => some 1
  | .primitive .int8ToSmallInt | .primitive .int16ToSmallInt => some 2
  | .primitive .int32ToInt => some 4
  | .primitive .uint16ToInt => some 4
  | .primitive .int64ToBigInt => some 8
  | .primitive .uint32ToBigInt => some 8
  | .primitive .uint64ToCheckedBigInt => some 8
  | .primitive .float16ToReal | .primitive .float32ToReal => some 4
  | .primitive .float64ToFloat => some 8
  | .fixedSizeBinary _ => none
  | .uint64Decimal20_0 => none
  | .decimal _ => none
  | .variableWidth _ => none
  | .temporal _ => none

def fixedWidthNonNullCellLen (fastPath : FastPath) (column : DirectColumnPlan) : Option ℕ :=
  match column.encoding with
  | .fixedSizeBinary (.fixedSizeBinaryToBinary length) => Checked.checkedAdd 64 length fixedSizeBinaryLenPrefixLen
  | .temporal .date32ToDate => if fastPath.dateDisabled then none else some dateCellLen
  | .temporal .date64ToDateTime2 => if fastPath.dateDisabled then none else (datetime2CellLen 3).toOption
  | .temporal (.timestampToDateTime2 _) | .temporal (.timestampTzToDateTime2 _)
  | .temporal (.timestampToDateTime _) | .temporal (.timestampTzToDateTime _) =>
    match column.targetType with
    | .dateTime => if column.nullable then some datetimeCellLen else some datetimePayloadLen
    | .dateTime2 precision => (datetime2CellLen precision).toOption
    | _ => none
  | .temporal .time32SecondToTime => (timeCellLen 0).toOption
  | .temporal .time32MillisecondToTime => (timeCellLen 3).toOption
  | .temporal .time64MicrosecondToTime => (timeCellLen 6).toOption
  | .temporal .time64NanosecondToTime => (timeCellLen 7).toOption
  | .temporal (.timestampTzToDateTimeOffset _) => (datetimeoffsetCellLen 7).toOption
  | encoding => do
    let valueLen ← fixedWidthValueLen encoding
    if column.nullable then Checked.checkedAdd 64 valueLen cellLenPrefixLen else some valueLen

def fixedWidthNullCellLen (column : DirectColumnPlan) : Option ℕ :=
  match column.encoding with
  | .fixedSizeBinary _ => some fixedSizeBinaryLenPrefixLen
  | _ => some cellLenPrefixLen

def fixedWidthColumn (fastPath : FastPath) (column : BoundDirectColumn) : Option FixedWidthColumn := do
  let (plan, mapping) ← fixedWidthColumnParts column
  let nonNullCellLen ← fixedWidthNonNullCellLen fastPath plan
  let nullCellLen ← fixedWidthNullCellLen plan
  some ⟨column, plan, mapping, nonNullCellLen, nullCellLen⟩

def fixedWidthColumns (fastPath : FastPath) (columns : List BoundDirectColumn) : Option (List FixedWidthColumn) :=
  if fastPath.fixedWidthDisabled then none else columns.mapM (fixedWidthColumn fastPath)

def addNonNullableFixedWidthColumnLengths (nonNullCellLen : ℕ) (rowLengths : List ℕ) : Result (List ℕ) :=
  collect rowLengths fun rowLength => checkedAdd rowLength nonNullCellLen

def addNullableFixedWidthColumnLengths (data : Arr α) (nonNullCellLen nullCellLen : ℕ) (rowLengths : List ℕ) :
    Result (List ℕ) :=
  collect rowLengths.zipIdx fun (rowLength, rowIndex) =>
    checkedAdd rowLength (if data.isNull rowIndex then nullCellLen else nonNullCellLen)

def isTimestampEncoding : DirectColumnEncoding → Bool
  | .temporal (.timestampToDateTime2 _) | .temporal (.timestampTzToDateTime2 _)
  | .temporal (.timestampToDateTime _) | .temporal (.timestampTzToDateTime _)
  | .temporal (.timestampTzToDateTimeOffset _) => true
  | _ => false

section Cells

def fillRow (cell : ℕ → ℕ → List UInt8 → Result (List UInt8 × ℕ)) (s : FillState) (rowIndex : ℕ) :
    Result FillState := do
  let offset ← getIndex s.currentOffsets rowIndex
  let (bytes, len) ← cell rowIndex offset s.bytes
  let next ← unsignedOp 64 (offset + len : ℕ)
  let currentOffsets ← setIndex s.currentOffsets rowIndex next
  pure ⟨currentOffsets, bytes⟩

def writeFixedWidthValue (data : Arr α) (column : DirectColumnPlan) (valueLen : ℕ)
    (valueBytes : α → ℕ → Result (List UInt8)) (rowIndex offset : ℕ) (bytes : List UInt8) :
    Result (List UInt8 × ℕ) :=
  if column.nullable then
    if data.isNull rowIndex then do
      let bytes ← setIndex bytes offset 0
      pure (bytes, cellLenPrefixLen)
    else do
      let value ← valueBytes (data.value rowIndex) rowIndex
      let bytes ← setIndex bytes offset (UInt8.ofNat valueLen)
      let bytes ← modifyRange bytes (offset + cellLenPrefixLen) (offset + cellLenPrefixLen + valueLen)
        fun dst => copyFromSlice dst value
      pure (bytes, cellLenPrefixLen + valueLen)
  else do
    let value ← valueBytes (data.value rowIndex) rowIndex
    let bytes ← modifyRange bytes offset (offset + valueLen) fun dst => copyFromSlice dst value
    pure (bytes, valueLen)

def fillFixedWidthValues (data : Arr α) (column : DirectColumnPlan) (valueLen : ℕ)
    (valueBytes : α → ℕ → Result (List UInt8)) (s : FillState) : Result FillState :=
  forRange data.len s (fillRow (writeFixedWidthValue data column valueLen valueBytes))

def fillTaken (data : Arr α) (cell : ℕ → ℕ → List UInt8 → Result (List UInt8 × ℕ)) (s : FillState) :
    Result FillState :=
  forRange (min s.currentOffsets.length data.len) s (fillRow cell)

def writeBooleanFixedWidthValue (data : Arr Bool) (column : DirectColumnPlan) (rowIndex offset : ℕ)
    (bytes : List UInt8) : Result (List UInt8 × ℕ) :=
  if column.nullable then
    if data.isNull rowIndex then do
      let bytes ← setIndex bytes offset 0
      pure (bytes, cellLenPrefixLen)
    else do
      let bytes ← setIndex bytes offset 1
      let bytes ← setIndex bytes (offset + cellLenPrefixLen) (if data.value rowIndex then 1 else 0)
      pure (bytes, cellLenPrefixLen + 1)
  else do
    let bytes ← setIndex bytes offset (if data.value rowIndex then 1 else 0)
    pure (bytes, 1)

def fillBooleanFixedWidthColumn (data : Arr Bool) (column : DirectColumnPlan) : FillState → Result FillState :=
  fillTaken data (writeBooleanFixedWidthValue data column)

def writeCheckedFixedWidthValue (data : Arr α) (column : DirectColumnPlan) (valueLen : ℕ)
    (valueBytes : α → ℕ → Result (List UInt8)) (rowIndex offset : ℕ) (bytes : List UInt8) :
    Result (List UInt8 × ℕ) :=
  if column.nullable ∧ data.isNull rowIndex then do
    let bytes ← setIndex bytes offset 0
    pure (bytes, cellLenPrefixLen)
  else do
    let value ← valueBytes (data.value rowIndex) rowIndex
    if column.nullable then do
      let bytes ← setIndex bytes offset (UInt8.ofNat valueLen)
      let bytes ← modifyRange bytes (offset + cellLenPrefixLen) (offset + cellLenPrefixLen + valueLen)
        fun dst => copyFromSlice dst value
      pure (bytes, cellLenPrefixLen + valueLen)
    else do
      let bytes ← modifyRange bytes offset (offset + valueLen) fun dst => copyFromSlice dst value
      pure (bytes, valueLen)

def writeFixedSizeBinaryFixedWidthValue (data : Arr (List UInt8)) (column : DirectColumnPlan) (length : ℕ)
    (rowIndex offset : ℕ) (bytes : List UInt8) : Result (List UInt8 × ℕ) :=
  if data.isNull rowIndex then do
    ensure column.nullable (firstNullError data column)
    let bytes ← modifyRange bytes offset (offset + fixedSizeBinaryLenPrefixLen)
      fun dst => copyFromSlice dst (LittleEndian.encode 2 0xffff)
    pure (bytes, fixedSizeBinaryLenPrefixLen)
  else do
    let value := data.value rowIndex
    ensure (value.length = length) (columnError column rowIndex .valueTypeMismatch
      s!"fixed-size binary value has {value.length} byte(s), but planned {
        column.targetType.toSql} requires exactly {length}")
    let bytes ← modifyRange bytes offset (offset + fixedSizeBinaryLenPrefixLen)
      fun dst => copyFromSlice dst (LittleEndian.encode 2 length)
    let bytes ← modifyRange bytes (offset + fixedSizeBinaryLenPrefixLen)
      (offset + fixedSizeBinaryLenPrefixLen + length) fun dst => copyFromSlice dst value
    pure (bytes, fixedSizeBinaryLenPrefixLen + length)

def fillFixedSizeBinaryFixedWidthColumn (data : Arr (List UInt8)) (column : DirectColumnPlan)
    (classification : FixedSizeBinaryArrowToMssql) (s : FillState) : Result FillState := do
  let length := FixedSizeBinary.binaryLength classification
  ensure (length < 2 ^ 16) (invalidPayload "fixed-size binary length does not fit u16")
  fillTaken data (writeFixedSizeBinaryFixedWidthValue data column length) s

/-- A cell of a binary column: the length of the column is looked at before its first cell. -/
def fixedSizeBinaryFixedWidthCell (data : Arr (List UInt8)) (column : DirectColumnPlan)
    (classification : FixedSizeBinaryArrowToMssql) (rowIndex offset : ℕ) (bytes : List UInt8) :
    Result (List UInt8 × ℕ) := do
  let length := FixedSizeBinary.binaryLength classification
  ensure (length < 2 ^ 16) (invalidPayload "fixed-size binary length does not fit u16")
  writeFixedSizeBinaryFixedWidthValue data column length rowIndex offset bytes

end Cells

inductive TimestampFixedWidthValue where
  | dateTime (value : MssqlDateTime)
  | dateTime2 (value : MssqlDateTime2)

def timestampFixedWidthValueLen (column : DirectColumnPlan) : TimestampFixedWidthValue → Result ℕ
  | .dateTime _ => .ok (if column.nullable then datetimeCellLen else datetimePayloadLen)
  | .dateTime2 value => datetime2CellLen value.time.scale

def writeTimestampFixedWidthValue (cellBytes : List UInt8) (column : DirectColumnPlan) :
    TimestampFixedWidthValue → Result (List UInt8)
  | .dateTime value => if column.nullable then writeDatetimeCell cellBytes value else writeDatetimePayload cellBytes value
  | .dateTime2 value => writeDatetime2Cell cellBytes value

variable [Externals]

/-- `debug_assert!` panics only in the builds that have debug assertions. -/
def debugAssert (p : Prop) [Decidable p] : Result Unit :=
  if Externals.debugAssertions then assert p else .ok ()

def writeTemporalFixedWidthValue (kind : String) (data : Arr α) (column : DirectColumnPlan)
    (validateNull : ℕ → Result Unit) (value : α → ℕ → Result (ℕ × (List UInt8 → Result (List UInt8))))
    (rowIndex offset : ℕ) (bytes : List UInt8) : Result (List UInt8 × ℕ) :=
  if data.isNull rowIndex then do
    debugAssert column.nullable
    validateNull rowIndex
    let bytes ← setIndex bytes offset 0
    pure (bytes, cellLenPrefixLen)
  else do
    let (cellLen, write) ← value (data.value rowIndex) rowIndex
    let stop ← unsignedOp 64 (offset + cellLen : ℕ)
    ensure (stop ≤ bytes.length)
      (invalidPayload s!"fixed-width {kind} temporal cell range is outside payload")
    let bytes ← modifyRange bytes offset stop write
    pure (bytes, cellLen)

def date32FixedWidthCell (data : Arr (SInt 32)) (column : DirectColumnPlan) :
    ℕ → ℕ → List UInt8 → Result (List UInt8 × ℕ) :=
  writeTemporalFixedWidthValue "Date32" data column (fun _ => .ok ()) fun v rowIndex => do
    let value ← Temporal.mssqlDateFromArrowDate32 column rowIndex v
    pure (dateCellLen, (writeDateCell · value))

def fillDate32FixedWidthColumn (data : Arr (SInt 32)) (column : DirectColumnPlan) : FillState → Result FillState :=
  fillTaken data (date32FixedWidthCell data column)

def date64FixedWidthCell (data : Arr (SInt 64)) (column : DirectColumnPlan) :
    ℕ → ℕ → List UInt8 → Result (List UInt8 × ℕ) :=
  writeTemporalFixedWidthValue "Date64" data column (fun _ => .ok ()) fun v rowIndex => do
    let value ← Temporal.mssqlDatetime2FromArrowDate64 column rowIndex v
    let cellLen ← datetime2CellLen value.time.scale
    pure (cellLen, (writeDatetime2Cell · value))

def fillDate64FixedWidthColumn (data : Arr (SInt 64)) (column : DirectColumnPlan) : FillState → Result FillState :=
  fillTaken data (date64FixedWidthCell data column)

def timeFixedWidthCell (data : Arr α) (column : DirectColumnPlan) (value : α → ℕ → Result MssqlTime) :
    ℕ → ℕ → List UInt8 → Result (List UInt8 × ℕ) :=
  writeTemporalFixedWidthValue "time" data column (fun _ => .ok ()) fun v rowIndex => do
    let value ← value v rowIndex
    let cellLen ← timeCellLen value.scale
    pure (cellLen, (writeTimeCell · value))

def fillTimeFixedWidthColumn (data : Arr α) (column : DirectColumnPlan) (value : α → ℕ → Result MssqlTime) :
    FillState → Result FillState :=
  fillTaken data (timeFixedWidthCell data column value)

def timestampFixedWidthValue (mapping : SchemaMapping) (column : DirectColumnPlan) (rowIndex : ℕ)
    (sourceValue : SInt 64) (unit : TimeUnit) (policy : NanosecondPolicy) (rounding : DateTimeRounding) :
    Result TimestampFixedWidthValue :=
  match column.targetType with
  | .dateTime => TimestampFixedWidthValue.dateTime <$> timestampDatetime unit mapping rowIndex sourceValue policy rounding
  | .dateTime2 _ => TimestampFixedWidthValue.dateTime2 <$> timestampDatetime2 unit mapping rowIndex sourceValue policy
  | _ => fail (Temporal.unsupportedTimestampTarget column rowIndex)

def timestampFixedWidthCell (unit : TimeUnit) (data : Arr (SInt 64)) (mapping : SchemaMapping)
    (column : DirectColumnPlan) (context : RuntimeConversionContext) :
    ℕ → ℕ → List UInt8 → Result (List UInt8 × ℕ) :=
  writeTemporalFixedWidthValue "timestamp" data column
    (validateNullTimestampTimezoneMetadata mapping) fun v rowIndex => do
      validateMappingTimestampTimezoneMetadata mapping rowIndex
      let value ← timestampFixedWidthValue mapping column rowIndex v unit context.nanosecondPolicy
        context.datetimeRounding
      let cellLen ← timestampFixedWidthValueLen column value
      pure (cellLen, (writeTimestampFixedWidthValue · column value))

def fillTimestampFixedWidthColumn (unit : TimeUnit) (data : Arr (SInt 64)) (mapping : SchemaMapping)
    (column : DirectColumnPlan) (context : RuntimeConversionContext) : FillState → Result FillState :=
  fillTaken data (timestampFixedWidthCell unit data mapping column context)

def datetimeoffsetFixedWidthCell (unit : TimeUnit) (data : Arr (SInt 64)) (mapping : SchemaMapping)
    (column : DirectColumnPlan) (policy : NanosecondPolicy) : ℕ → ℕ → List UInt8 → Result (List UInt8 × ℕ) :=
  writeTemporalFixedWidthValue "datetimeoffset" data column
    (validateNullTimestampTimezoneMetadata mapping) fun v rowIndex => do
      validateMappingTimestampTimezoneMetadata mapping rowIndex
      let timezone ← Temporal.timestampTimezoneForDatetimeoffset mapping rowIndex
      let value ← timestampDatetimeoffset unit mapping rowIndex v timezone policy
      let cellLen ← datetimeoffsetCellLen value.datetime2.time.scale
      pure (cellLen, (writeDatetimeoffsetCell · value))

def fillDatetimeoffsetFixedWidthColumn (unit : TimeUnit) (data : Arr (SInt 64)) (mapping : SchemaMapping)
    (column : DirectColumnPlan) (policy : NanosecondPolicy) : FillState → Result FillState :=
  fillTaken data (datetimeoffsetFixedWidthCell unit data mapping column policy)

def fillFixedWidthColumn (context : RuntimeConversionContext) : BoundDirectColumn → Option (FillState → Result FillState)
  | .boolean plan array => some (fillBooleanFixedWidthColumn array plan)
  | .uint8 plan array => some (fillFixedWidthValues array plan 1 Primitive.uint8Bytes)
  | .int8 plan array => some (fillFixedWidthValues array plan 2 Primitive.int8Bytes)
  | .int16 plan array => some (fillFixedWidthValues array plan 2 Primitive.int16Bytes)
  | .int32 plan array => some (fillFixedWidthValues array plan 4 Primitive.int32Bytes)
  | .uint16 plan array => some (fillFixedWidthValues array plan 4 Primitive.uint16Bytes)
  | .int64 plan array => some (fillFixedWidthValues array plan 8 Primitive.int64Bytes)
  | .uint32 plan array => some (fillFixedWidthValues array plan 8 Primitive.uint32Bytes)
  | .uint64 plan array =>
    some (fillTaken array (writeCheckedFixedWidthValue array plan 8 (Primitive.uint64CheckedBigintBytes plan)))
  | .float16 plan array =>
    some (fillTaken array (writeCheckedFixedWidthValue array plan 4 (Primitive.float16Bytes plan)))
  | .float32 plan array =>
    some (fillTaken array (writeCheckedFixedWidthValue array plan 4 (Primitive.float32Bytes plan)))
  | .float64 plan array =>
    some (fillTaken array (writeCheckedFixedWidthValue array plan 8 (Primitive.float64Bytes plan)))
  | .fixedSizeBinary plan classification array =>
    some (fillFixedSizeBinaryFixedWidthColumn array plan classification)
  | .date32 plan _ array => some (fillDate32FixedWidthColumn array plan)
  | .date64 plan _ array => some (fillDate64FixedWidthColumn array plan)
  | .timestamp unit plan mapping array => some (fillTimestampFixedWidthColumn unit array mapping plan context)
  | .time32Second plan mapping array => some (fillTimeFixedWidthColumn array plan fun v rowIndex =>
      mssqlTimeFromArrowTime32Second mapping rowIndex v)
  | .time32Millisecond plan mapping array => some (fillTimeFixedWidthColumn array plan fun v rowIndex =>
      mssqlTimeFromArrowTime32Millisecond mapping rowIndex v)
  | .time64Microsecond plan mapping array => some (fillTimeFixedWidthColumn array plan fun v rowIndex =>
      mssqlTimeFromArrowTime64Microsecond mapping rowIndex v)
  | .time64Nanosecond plan mapping array => some (fillTimeFixedWidthColumn array plan fun v rowIndex =>
      mssqlTimeFromArrowTime64Nanosecond mapping rowIndex v context.nanosecondPolicy)
  | .dateTimeOffset unit plan mapping array =>
    some (fillDatetimeoffsetFixedWidthColumn unit array mapping plan context.nanosecondPolicy)
  | _ => none

def fixedWidthCell (context : RuntimeConversionContext) :
    BoundDirectColumn → ℕ → ℕ → List UInt8 → Result (List UInt8 × ℕ)
  | .boolean plan array => writeBooleanFixedWidthValue array plan
  | .uint8 plan array => writeFixedWidthValue array plan 1 Primitive.uint8Bytes
  | .int8 plan array => writeFixedWidthValue array plan 2 Primitive.int8Bytes
  | .int16 plan array => writeFixedWidthValue array plan 2 Primitive.int16Bytes
  | .int32 plan array => writeFixedWidthValue array plan 4 Primitive.int32Bytes
  | .uint16 plan array => writeFixedWidthValue array plan 4 Primitive.uint16Bytes
  | .int64 plan array => writeFixedWidthValue array plan 8 Primitive.int64Bytes
  | .uint32 plan array => writeFixedWidthValue array plan 8 Primitive.uint32Bytes
  | .uint64 plan array => writeCheckedFixedWidthValue array plan 8 (Primitive.uint64CheckedBigintBytes plan)
  | .float16 plan array => writeCheckedFixedWidthValue array plan 4 (Primitive.float16Bytes plan)
  | .float32 plan array => writeCheckedFixedWidthValue array plan 4 (Primitive.float32Bytes plan)
  | .float64 plan array => writeCheckedFixedWidthValue array plan 8 (Primitive.float64Bytes plan)
  | .fixedSizeBinary plan classification array => fixedSizeBinaryFixedWidthCell array plan classification
  | .date32 plan _ array => date32FixedWidthCell array plan
  | .date64 plan _ array => date64FixedWidthCell array plan
  | .timestamp unit plan mapping array => timestampFixedWidthCell unit array mapping plan context
  | .time32Second plan mapping array => timeFixedWidthCell array plan fun v rowIndex =>
      mssqlTimeFromArrowTime32Second mapping rowIndex v
  | .time32Millisecond plan mapping array => timeFixedWidthCell array plan fun v rowIndex =>
      mssqlTimeFromArrowTime32Millisecond mapping rowIndex v
  | .time64Microsecond plan mapping array => timeFixedWidthCell array plan fun v rowIndex =>
      mssqlTimeFromArrowTime64Microsecond mapping rowIndex v
  | .time64Nanosecond plan mapping array => timeFixedWidthCell array plan fun v rowIndex =>
      mssqlTimeFromArrowTime64Nanosecond mapping rowIndex v context.nanosecondPolicy
  | .dateTimeOffset unit plan mapping array =>
    datetimeoffsetFixedWidthCell unit array mapping plan context.nanosecondPolicy
  | _ => fun _ _ _ => crash

def validateFixedWidthTimestampTimezoneMetadata (data : Arr α) (mapping : SchemaMapping)
    (column : DirectColumnPlan) : Result Unit :=
  if isTimestampEncoding column.encoding then
    forRange data.len () fun _ rowIndex =>
      if data.isNull rowIndex then validateNullTimestampTimezoneMetadata mapping rowIndex
      else validateMappingTimestampTimezoneMetadata mapping rowIndex
  else .ok ()

def validateColumnTimezoneMetadata (data : Arr α) (column : FixedWidthColumn) : Result Unit :=
  match column.mapping with
  | some mapping => validateFixedWidthTimestampTimezoneMetadata data mapping column.plan
  | none => .ok ()

def addFixedWidthColumnLengths (rowLengths : List ℕ) (column : FixedWidthColumn) : Result (List ℕ) := do
  let array ← orCrash (fixedWidthColumnArray column.column)
  validateColumnTimezoneMetadata array column
  if column.plan.nullable then
    addNullableFixedWidthColumnLengths array column.nonNullCellLen column.nullCellLen rowLengths
  else do
    ensure (∀ rowIndex < array.len, array.isNull rowIndex = false) (firstNullError array column.plan)
    addNonNullableFixedWidthColumnLengths column.nonNullCellLen rowLengths

def placeRow (s : FixedWidthRowsLayout) (rowLength : ℕ) : Result FixedWidthRowsLayout := do
  let currentOffset ← checkedAdd s.payloadLen rowTokenLen
  let payloadLen ← checkedAdd s.payloadLen rowLength
  pure ⟨s.rowTokenOffsets ++ [s.payloadLen], s.currentOffsets ++ [currentOffset], payloadLen⟩

def measureFixedWidthRows (rowCount : ℕ) (columns : List FixedWidthColumn) : Result FixedWidthRowsLayout := do
  let rowLengths ← forEach columns (List.replicate rowCount rowTokenLen) addFixedWidthColumnLengths
  forEach rowLengths ⟨[], [], 0⟩ placeRow

omit [Externals] in
def validateRowLayoutCell (columnCount : ℕ) (cell : CellPosition) (index : ℕ) : Result Unit :=
  ensure (cell.rowIndex = index / columnCount ∧ cell.columnIndex = index % columnCount)
    (invalidPayload s!"fixed-width row layout cell {index} is for row {cell.rowIndex} column {
      cell.columnIndex}, expected row {index / columnCount} column {index % columnCount}")

omit [Externals] in
def validateRowLayoutCells (layout : RowLayout) (columnCount : ℕ) : Result Unit := do
  let expectedCellCount ← okOr (Checked.checkedMul 64 layout.rowCount columnCount)
    (invalidPayload "fixed-width row layout cell count overflowed usize")
  ensure (layout.cellPositions.length = expectedCellCount) (invalidPayload s!"fixed-width row layout has {
    layout.cellPositions.length} cell position(s), expected {expectedCellCount}")
  if columnCount = 0 then .ok ()
  else forEach layout.cellPositions.zipIdx () fun _ (cell, index) => validateRowLayoutCell columnCount cell index

omit [Externals] in
def firstCellPosition (layout : RowLayout) (rowIndex columnCount : ℕ) : Result CellPosition := do
  let cellIndex ← okOr (Checked.checkedMul 64 rowIndex columnCount)
    (invalidPayload "fixed-width row layout cell index overflowed usize")
  okOr layout.cellPositions[cellIndex]?
    (invalidPayload s!"fixed-width row layout is missing first cell for row {rowIndex}")

omit [Externals] in
def FixedWidthRowsLayout.fromRowLayout (layout : RowLayout) (columnCount : ℕ) : Result FixedWidthRowsLayout := do
  validateRowLayoutCells layout columnCount
  let currentOffsets ← if columnCount = 0 then
      collect layout.rowTokenOffsets fun rowOffset => checkedAdd rowOffset rowTokenLen
    else collect (List.range layout.rowCount) fun rowIndex => do
      let cell ← firstCellPosition layout rowIndex columnCount
      pure cell.offset
  pure ⟨layout.rowTokenOffsets, currentOffsets, layout.payloadLen⟩

def fillNextFixedWidthColumn (context : RuntimeConversionContext) (s : Option FillState)
    (column : FixedWidthColumn) : Result (Option FillState) :=
  match s, fillFixedWidthColumn context column.column with
  | some s, some fill => some <$> fill s
  | _, _ => .ok none

def fillFixedWidthColumns (context : RuntimeConversionContext) (columns : List FixedWidthColumn) (s : FillState) :
    Result (Option FillState) :=
  forEach columns (some s) (fillNextFixedWidthColumn context)

def encodeFixedWidthRows (context : RuntimeConversionContext) (columns : List FixedWidthColumn)
    (layout : FixedWidthRowsLayout) : Result (Option EncodedRowsPayload) := do
  let bytes ← forEach layout.rowTokenOffsets (List.replicate layout.payloadLen 0) writeRowToken
  match ← fillFixedWidthColumns context columns ⟨layout.currentOffsets, bytes⟩ with
  | none => .ok none
  | some s => do
    let payload ← EncodedRowsPayload.new s.bytes layout.rowTokenOffsets
    pure (some payload)

def tryEncodeFixedWidthRows (fastPath : FastPath) (bound : BoundDirectBatch) : Result (Option EncodedRowsPayload) :=
  if bound.rowCount = 0 then some <$> EncodedRowsPayload.new [] []
  else
    match fixedWidthColumns fastPath bound.columns with
    | none => .ok none
    | some columns => do
      let layout ← measureFixedWidthRows bound.rowCount columns
      encodeFixedWidthRows bound.runtimeContext columns layout

def tryEncodeFixedWidthRowsWithLayout (fastPath : FastPath) (bound : BoundDirectBatch) (layout : RowLayout) :
    Result (Option EncodedRowsPayload) :=
  if bound.rowCount = 0 then some <$> EncodedRowsPayload.new [] []
  else do
    ensure (layout.rowCount = bound.rowCount) (invalidPayload s!"fixed-width row layout has {
      layout.rowCount} row(s) but bound batch has {bound.rowCount} row(s)")
    match fixedWidthColumns fastPath bound.columns with
    | none => .ok none
    | some columns => do
      let layout ← FixedWidthRowsLayout.fromRowLayout layout bound.columns.length
      encodeFixedWidthRows bound.runtimeContext columns layout

end ArrowTiberius.Direct.FixedWidth
