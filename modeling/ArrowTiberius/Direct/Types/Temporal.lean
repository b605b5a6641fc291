import ArrowTiberius.Direct.Column
import ArrowTiberius.Direct.TemporalValue
import ArrowTiberius.Mssql.FromArrow.Temporal

namespace ArrowTiberius.Direct.Temporal

open Checked Tiling

variable {α : Type}

def mssqlDateFromArrowDate32 (column : DirectColumnPlan) (rowIndex : ℕ) (daysFromUnixEpoch : SInt 32) :
    Result MssqlDate := do
  let days ← signedOp 64 (daysFromUnixEpoch.val + sqlServerDateUnixEpochDays)
  if 0 ≤ days ∧ days ≤ sqlServerDateMaxDays then pure ⟨days.toNat⟩
  else fail (columnError column rowIndex .timestampOutOfRange
    s!"Arrow Date32 day offset {daysFromUnixEpoch.val} is outside SQL Server date range")

def mssqlDatetime2FromArrowDate64 (column : DirectColumnPlan) (rowIndex : ℕ) (millisecondsFromUnixEpoch : SInt 64) :
    Result MssqlDateTime2 := do
  let daysFromUnixEpoch := millisecondsFromUnixEpoch.val / millisecondsPerDay
  let millisecondsSinceMidnight := millisecondsFromUnixEpoch.val % millisecondsPerDay
  let days ← signedOp 64 (daysFromUnixEpoch + sqlServerDateUnixEpochDays)
  ensure (0 ≤ days ∧ days ≤ sqlServerDateMaxDays) (columnError column rowIndex .timestampOutOfRange
    s!"Arrow Date64 millisecond value {millisecondsFromUnixEpoch.val} is outside SQL Server datetime2 range")
  pure ⟨⟨days.toNat⟩, ⟨millisecondsSinceMidnight.toNat, 3⟩⟩

theorem mssqlDateFromArrowDate32_toOption {column : DirectColumnPlan} {mapping : SchemaMapping} {r s : ℕ}
    (value : SInt 32) : (mssqlDateFromArrowDate32 column r value).toOption =
      (ArrowTiberius.mssqlDateFromArrowDate32 mapping s value).toOption := by
  have hmax : (sqlServerDateMaxDays : ℤ) = ArrowTiberius.sqlServerDateMaxDays := rfl
  simp only [mssqlDateFromArrowDate32, ArrowTiberius.mssqlDateFromArrowDate32, toOption_bind, toOption_ensure,
    toOption_ite, pure_eq_ok, toOption_ok, toOption_fail, hmax]
  congr 1
  funext days
  by_cases h : 0 ≤ days ∧ days ≤ ArrowTiberius.sqlServerDateMaxDays
  · rw [if_pos h, if_pos h, Option.bind_some]
  · rw [if_neg h, if_neg h, Option.bind_none]

theorem mssqlDatetime2FromArrowDate64_toOption {column : DirectColumnPlan} {mapping : SchemaMapping} {r s : ℕ}
    (value : SInt 64) : (mssqlDatetime2FromArrowDate64 column r value).toOption =
      (ArrowTiberius.mssqlDatetime2FromArrowDate64 mapping s value).toOption := by
  have hmax : (sqlServerDateMaxDays : ℤ) = ArrowTiberius.sqlServerDateMaxDays := rfl
  simp only [mssqlDatetime2FromArrowDate64, ArrowTiberius.mssqlDatetime2FromArrowDate64, toOption_bind,
    toOption_ensure, pure_eq_ok, toOption_ok, hmax]

inductive TemporalValue where
  | date (value : MssqlDate)
  | time (value : MssqlTime)
  | dateTime2 (value : MssqlDateTime2)
  | dateTime (value : MssqlDateTime)
  | dateTimeOffset (value : MssqlDateTimeOffset)

def datetime2CellLenForValue (value : MssqlDateTime2) : Result ℕ := datetime2CellLen value.time.scale

def datetimeCellLenForColumn (column : DirectColumnPlan) : ℕ :=
  if column.nullable then datetimeCellLen else datetimePayloadLen

def timeCellLenForValue (value : MssqlTime) : Result ℕ := timeCellLen value.scale

def datetimeoffsetCellLenForValue (value : MssqlDateTimeOffset) : Result ℕ :=
  datetimeoffsetCellLen value.datetime2.time.scale

def temporalValueCellLen (column : DirectColumnPlan) : TemporalValue → Result ℕ
  | .date _ => .ok dateCellLen
  | .time value => timeCellLenForValue value
  | .dateTime2 value => datetime2CellLenForValue value
  | .dateTime _ => .ok (datetimeCellLenForColumn column)
  | .dateTimeOffset value => datetimeoffsetCellLenForValue value

def nullTemporalCellLenForColumn (column : DirectColumnPlan) (rowIndex : ℕ) : Result ℕ := do
  ensure column.nullable (columnError column rowIndex .nullInNonNullableColumn
    "null value in non-nullable direct temporal column")
  pure nullTemporalCellLen

def unsupportedTimestampTarget (column : DirectColumnPlan) (rowIndex : ℕ) : Error :=
  columnError column rowIndex .valueTypeMismatch
    s!"planned direct timestamp target {column.targetType.toSql} is not supported"

def cellBytesMut : List UInt8 → CellPosition → (List UInt8 → Result (List UInt8)) → Result (List UInt8) :=
  modifyCell "temporal cell end overflowed usize" "temporal cell range is outside payload"

def writeNullDirectTemporalCell (bytes : List UInt8) (cell : CellPosition) (column : DirectColumnPlan)
    (rowIndex : ℕ) : Result (List UInt8) := do
  let expectedLen ← nullTemporalCellLenForColumn column rowIndex
  checkPositionLen "null temporal cell" cell expectedLen
  cellBytesMut bytes cell writeNullTemporalCell

def writeDirectCell (kind : String) (expectedLen : Result ℕ) (write : List UInt8 → Result (List UInt8))
    (bytes : List UInt8) (cell : CellPosition) (column : DirectColumnPlan) : Result (List UInt8) := do
  let expectedLen ← expectedLen
  checkPositionLen kind cell expectedLen
  cellBytesMut bytes cell fun cellBytes => mapError (addColumnField column) (write cellBytes)

def writeDirectDateCell (bytes : List UInt8) (cell : CellPosition) (column : DirectColumnPlan) (value : MssqlDate) :
    Result (List UInt8) :=
  writeDirectCell "date cell" (.ok dateCellLen) (writeDateCell · value) bytes cell column

def writeDirectTimeCell (bytes : List UInt8) (cell : CellPosition) (column : DirectColumnPlan) (value : MssqlTime) :
    Result (List UInt8) :=
  writeDirectCell "time cell" (timeCellLenForValue value) (writeTimeCell · value) bytes cell column

def writeDirectDatetimeCell (bytes : List UInt8) (cell : CellPosition) (column : DirectColumnPlan)
    (value : MssqlDateTime) : Result (List UInt8) :=
  writeDirectCell "datetime cell" (.ok (datetimeCellLenForColumn column))
    (fun cellBytes => if column.nullable then writeDatetimeCell cellBytes value else writeDatetimePayload cellBytes value)
    bytes cell column

def writeDirectDatetime2Cell (bytes : List UInt8) (cell : CellPosition) (column : DirectColumnPlan)
    (value : MssqlDateTime2) : Result (List UInt8) :=
  writeDirectCell "datetime2 cell" (datetime2CellLenForValue value) (writeDatetime2Cell · value) bytes cell column

def writeDirectDatetimeoffsetCell (bytes : List UInt8) (cell : CellPosition) (column : DirectColumnPlan)
    (value : MssqlDateTimeOffset) : Result (List UInt8) :=
  writeDirectCell "datetimeoffset cell" (datetimeoffsetCellLenForValue value) (writeDatetimeoffsetCell · value) bytes
    cell column

def writeDirectTemporalValueCell (bytes : List UInt8) (cell : CellPosition) (column : DirectColumnPlan) :
    TemporalValue → Result (List UInt8)
  | .date value => writeDirectDateCell bytes cell column value
  | .time value => writeDirectTimeCell bytes cell column value
  | .dateTime2 value => writeDirectDatetime2Cell bytes cell column value
  | .dateTime value => writeDirectDatetimeCell bytes cell column value
  | .dateTimeOffset value => writeDirectDatetimeoffsetCell bytes cell column value

def appendDirectDatetimeCell (buf : List UInt8) (column : DirectColumnPlan) (value : MssqlDateTime) :
    Result (List UInt8) :=
  if column.nullable then mapError (addColumnField column) (appendDatetimeCell buf value)
  else do
    let bytes ← mapError (addColumnField column) (writeDatetimePayload (List.replicate datetimePayloadLen 0) value)
    pure (buf ++ bytes)

def appendDirectTemporalValueCell (buf : List UInt8) (column : DirectColumnPlan) :
    TemporalValue → Result (List UInt8)
  | .date value => mapError (addColumnField column) (appendDateCell buf value)
  | .time value => mapError (addColumnField column) (appendTimeCell buf value)
  | .dateTime2 value => mapError (addColumnField column) (appendDatetime2Cell buf value)
  | .dateTime value => appendDirectDatetimeCell buf column value
  | .dateTimeOffset value => mapError (addColumnField column) (appendDatetimeoffsetCell buf value)

def fillPlainColumn (data : Arr α) (column : DirectColumnPlan)
    (fillValue : α → ℕ → CellPosition → List UInt8 → Result (List UInt8)) (slot : ColumnSlot) (layout : RowLayout)
    (bytes : List UInt8) : Result (List UInt8) :=
  fillColumn data.len slot layout bytes cellPosition fun rowIndex cell bytes =>
    if data.isNull rowIndex then writeNullDirectTemporalCell bytes cell column rowIndex
    else fillValue (data.value rowIndex) rowIndex cell bytes

def fillTimeColumn (data : Arr α) (column : DirectColumnPlan) (value : α → ℕ → Result MssqlTime) :
    ColumnSlot → RowLayout → List UInt8 → Result (List UInt8) :=
  fillPlainColumn data column fun v rowIndex cell bytes => do
    let value ← value v rowIndex
    writeDirectTimeCell bytes cell column value

def fillDate32Column (data : Arr (SInt 32)) (column : DirectColumnPlan) :
    ColumnSlot → RowLayout → List UInt8 → Result (List UInt8) :=
  fillPlainColumn data column fun v rowIndex cell bytes => do
    let value ← mssqlDateFromArrowDate32 column rowIndex v
    writeDirectDateCell bytes cell column value

def fillDate64Column (data : Arr (SInt 64)) (column : DirectColumnPlan) :
    ColumnSlot → RowLayout → List UInt8 → Result (List UInt8) :=
  fillPlainColumn data column fun v rowIndex cell bytes => do
    let value ← mssqlDatetime2FromArrowDate64 column rowIndex v
    writeDirectDatetime2Cell bytes cell column value

variable [Externals]

def measureTemporalValues (data : Arr α) (mapping : SchemaMapping) (column : DirectColumnPlan)
    (valueLen : α → ℕ → Result ℕ) (slot : ColumnSlot) (cellLengths : List ℕ) : Result (List ℕ) :=
  measureColumn data.len slot cellLengths fun rowIndex =>
    if data.isNull rowIndex then do
      validateNullTimestampTimezoneMetadata mapping rowIndex
      nullTemporalCellLenForColumn column rowIndex
    else do
      validateMappingTimestampTimezoneMetadata mapping rowIndex
      valueLen (data.value rowIndex) rowIndex

def fillZonedColumn (data : Arr α) (mapping : SchemaMapping) (column : DirectColumnPlan)
    (fillValue : α → ℕ → CellPosition → List UInt8 → Result (List UInt8)) (slot : ColumnSlot) (layout : RowLayout)
    (bytes : List UInt8) : Result (List UInt8) :=
  fillColumn data.len slot layout bytes cellPosition fun rowIndex cell bytes =>
    if data.isNull rowIndex then do
      validateNullTimestampTimezoneMetadata mapping rowIndex
      writeNullDirectTemporalCell bytes cell column rowIndex
    else do
      validateMappingTimestampTimezoneMetadata mapping rowIndex
      fillValue (data.value rowIndex) rowIndex cell bytes

def fillTimestampColumn (data : Arr α) (mapping : SchemaMapping) (column : DirectColumnPlan)
    (value : α → ℕ → Result TemporalValue) : ColumnSlot → RowLayout → List UInt8 → Result (List UInt8) :=
  fillZonedColumn data mapping column fun v rowIndex cell bytes => do
    let value ← value v rowIndex
    writeDirectTemporalValueCell bytes cell column value

def fillDatetimeoffsetColumn (data : Arr α) (mapping : SchemaMapping) (column : DirectColumnPlan)
    (value : α → ℕ → Result MssqlDateTimeOffset) : ColumnSlot → RowLayout → List UInt8 → Result (List UInt8) :=
  fillZonedColumn data mapping column fun v rowIndex cell bytes => do
    let value ← value v rowIndex
    writeDirectDatetimeoffsetCell bytes cell column value

def appendTemporalValue (data : Arr α) (mapping : SchemaMapping) (column : DirectColumnPlan)
    (value : α → ℕ → Result (ℕ × TemporalValue)) (buf : List UInt8) (rowIndex measuredLen : ℕ) :
    Result (List UInt8) :=
  if data.isNull rowIndex then do
    validateNullTimestampTimezoneMetadata mapping rowIndex
    let expectedLen ← nullTemporalCellLenForColumn column rowIndex
    ensure (measuredLen = expectedLen) (invalidPayload s!"measured null temporal cell at row {rowIndex} column {
      column.sourceName} has length {measuredLen}, expected {expectedLen}")
    pure (appendNullTemporalCell buf)
  else do
    validateMappingTimestampTimezoneMetadata mapping rowIndex
    let (expectedLen, value) ← value (data.value rowIndex) rowIndex
    ensure (measuredLen = expectedLen) (invalidPayload s!"measured temporal cell at row {rowIndex} column {
      column.sourceName} has length {measuredLen}, expected {expectedLen}")
    appendDirectTemporalValueCell buf column value

def timestampTimezoneForDatetimeoffset (mapping : SchemaMapping) (rowIndex : ℕ) : Result String :=
  match mapping.arrow.dataType with
  | .timestamp _ (some timezone) => do
    ensure (¬timezone.isEmpty) (rowError mapping rowIndex .valueTypeMismatch
      "planned datetimeoffset mapping has empty Arrow timestamp timezone metadata")
    pure timezone
  | _ => fail (rowError mapping rowIndex .valueTypeMismatch
      "planned datetimeoffset mapping does not have Arrow timestamp timezone metadata")

def timestampValue (unit : TimeUnit) (mapping : SchemaMapping) (context : RuntimeConversionContext)
    (column : DirectColumnPlan) (value : SInt 64) (rowIndex : ℕ) : Result TemporalValue :=
  match column.targetType with
  | .dateTime => TemporalValue.dateTime <$>
      timestampDatetime unit mapping rowIndex value context.nanosecondPolicy context.datetimeRounding
  | .dateTime2 _ => TemporalValue.dateTime2 <$> timestampDatetime2 unit mapping rowIndex value context.nanosecondPolicy
  | _ => fail (unsupportedTimestampTarget column rowIndex)

def datetimeoffsetValue (unit : TimeUnit) (mapping : SchemaMapping) (context : RuntimeConversionContext)
    (value : SInt 64) (rowIndex : ℕ) : Result MssqlDateTimeOffset := do
  let timezone ← timestampTimezoneForDatetimeoffset mapping rowIndex
  timestampDatetimeoffset unit mapping rowIndex value timezone context.nanosecondPolicy

def measureDate32ColumnCellLengths (data : Arr (SInt 32)) (mapping : SchemaMapping) (column : DirectColumnPlan) :
    ColumnSlot → List ℕ → Result (List ℕ) :=
  measureTemporalValues data mapping column fun v rowIndex => do
    let _ ← mssqlDateFromArrowDate32 column rowIndex v
    pure dateCellLen

def measureDate64ColumnCellLengths (data : Arr (SInt 64)) (mapping : SchemaMapping) (column : DirectColumnPlan) :
    ColumnSlot → List ℕ → Result (List ℕ) :=
  measureTemporalValues data mapping column fun v rowIndex => do
    let value ← mssqlDatetime2FromArrowDate64 column rowIndex v
    datetime2CellLenForValue value

def measureTimestampColumnCellLengths (unit : TimeUnit) (data : Arr (SInt 64)) (mapping : SchemaMapping)
    (context : RuntimeConversionContext) (column : DirectColumnPlan) : ColumnSlot → List ℕ → Result (List ℕ) :=
  measureTemporalValues data mapping column fun v rowIndex => do
    let value ← timestampValue unit mapping context column v rowIndex
    temporalValueCellLen column value

def measureDatetimeoffsetColumnCellLengths (unit : TimeUnit) (data : Arr (SInt 64)) (mapping : SchemaMapping)
    (context : RuntimeConversionContext) (column : DirectColumnPlan) : ColumnSlot → List ℕ → Result (List ℕ) :=
  measureTemporalValues data mapping column fun v rowIndex => do
    let value ← datetimeoffsetValue unit mapping context v rowIndex
    datetimeoffsetCellLenForValue value

def measureTimeColumnCellLengths (data : Arr α) (mapping : SchemaMapping) (column : DirectColumnPlan)
    (value : α → ℕ → Result MssqlTime) : ColumnSlot → List ℕ → Result (List ℕ) :=
  measureTemporalValues data mapping column fun v rowIndex => do
    let value ← value v rowIndex
    timeCellLenForValue value

def fillTimestampDirectColumn (unit : TimeUnit) (data : Arr (SInt 64)) (mapping : SchemaMapping)
    (context : RuntimeConversionContext) (column : DirectColumnPlan) :
    ColumnSlot → RowLayout → List UInt8 → Result (List UInt8) :=
  fillTimestampColumn data mapping column (timestampValue unit mapping context column)

def fillDatetimeoffsetDirectColumn (unit : TimeUnit) (data : Arr (SInt 64)) (mapping : SchemaMapping)
    (context : RuntimeConversionContext) (column : DirectColumnPlan) :
    ColumnSlot → RowLayout → List UInt8 → Result (List UInt8) :=
  fillDatetimeoffsetColumn data mapping column (datetimeoffsetValue unit mapping context)

def appendDate32Cell (data : Arr (SInt 32)) (mapping : SchemaMapping) (column : DirectColumnPlan) :
    List UInt8 → ℕ → ℕ → Result (List UInt8) :=
  appendTemporalValue data mapping column fun v rowIndex => do
    let value ← mssqlDateFromArrowDate32 column rowIndex v
    pure (dateCellLen, .date value)

def appendDate64Cell (data : Arr (SInt 64)) (mapping : SchemaMapping) (column : DirectColumnPlan) :
    List UInt8 → ℕ → ℕ → Result (List UInt8) :=
  appendTemporalValue data mapping column fun v rowIndex => do
    let value ← mssqlDatetime2FromArrowDate64 column rowIndex v
    let len ← datetime2CellLenForValue value
    pure (len, .dateTime2 value)

def appendTimestampArrayCell (unit : TimeUnit) (data : Arr (SInt 64)) (mapping : SchemaMapping)
    (context : RuntimeConversionContext) (column : DirectColumnPlan) : List UInt8 → ℕ → ℕ → Result (List UInt8) :=
  appendTemporalValue data mapping column fun v rowIndex => do
    let value ← timestampValue unit mapping context column v rowIndex
    let len ← temporalValueCellLen column value
    pure (len, value)

def appendDatetimeoffsetArrayCell (unit : TimeUnit) (data : Arr (SInt 64)) (mapping : SchemaMapping)
    (context : RuntimeConversionContext) (column : DirectColumnPlan) : List UInt8 → ℕ → ℕ → Result (List UInt8) :=
  appendTemporalValue data mapping column fun v rowIndex => do
    let value ← datetimeoffsetValue unit mapping context v rowIndex
    let len ← datetimeoffsetCellLenForValue value
    pure (len, .dateTimeOffset value)

def appendTimeArrayCell (data : Arr α) (mapping : SchemaMapping) (column : DirectColumnPlan)
    (value : α → ℕ → Result MssqlTime) : List UInt8 → ℕ → ℕ → Result (List UInt8) :=
  appendTemporalValue data mapping column fun v rowIndex => do
    let value ← value v rowIndex
    let len ← timeCellLenForValue value
    pure (len, .time value)

def measureTime32SecondColumnCellLengths (data : Arr (SInt 32)) (mapping : SchemaMapping)
    (column : DirectColumnPlan) : ColumnSlot → List ℕ → Result (List ℕ) :=
  measureTimeColumnCellLengths data mapping column fun v rowIndex =>
    mssqlTimeFromArrowTime32Second mapping rowIndex v

omit [Externals] in
def fillTime32SecondDirectColumn (data : Arr (SInt 32)) (mapping : SchemaMapping)
    (column : DirectColumnPlan) : ColumnSlot → RowLayout → List UInt8 → Result (List UInt8) :=
  fillTimeColumn data column fun v rowIndex => mssqlTimeFromArrowTime32Second mapping rowIndex v

def appendTime32SecondCell (data : Arr (SInt 32)) (mapping : SchemaMapping)
    (column : DirectColumnPlan) : List UInt8 → ℕ → ℕ → Result (List UInt8) :=
  appendTimeArrayCell data mapping column fun v rowIndex => mssqlTimeFromArrowTime32Second mapping rowIndex v

def measureTime32MillisecondColumnCellLengths (data : Arr (SInt 32)) (mapping : SchemaMapping)
    (column : DirectColumnPlan) : ColumnSlot → List ℕ → Result (List ℕ) :=
  measureTimeColumnCellLengths data mapping column fun v rowIndex =>
    mssqlTimeFromArrowTime32Millisecond mapping rowIndex v

omit [Externals] in
def fillTime32MillisecondDirectColumn (data : Arr (SInt 32)) (mapping : SchemaMapping)
    (column : DirectColumnPlan) : ColumnSlot → RowLayout → List UInt8 → Result (List UInt8) :=
  fillTimeColumn data column fun v rowIndex => mssqlTimeFromArrowTime32Millisecond mapping rowIndex v

def appendTime32MillisecondCell (data : Arr (SInt 32)) (mapping : SchemaMapping)
    (column : DirectColumnPlan) : List UInt8 → ℕ → ℕ → Result (List UInt8) :=
  appendTimeArrayCell data mapping column fun v rowIndex => mssqlTimeFromArrowTime32Millisecond mapping rowIndex v

def measureTime64MicrosecondColumnCellLengths (data : Arr (SInt 64)) (mapping : SchemaMapping)
    (column : DirectColumnPlan) : ColumnSlot → List ℕ → Result (List ℕ) :=
  measureTimeColumnCellLengths data mapping column fun v rowIndex =>
    mssqlTimeFromArrowTime64Microsecond mapping rowIndex v

omit [Externals] in
def fillTime64MicrosecondDirectColumn (data : Arr (SInt 64)) (mapping : SchemaMapping)
    (column : DirectColumnPlan) : ColumnSlot → RowLayout → List UInt8 → Result (List UInt8) :=
  fillTimeColumn data column fun v rowIndex => mssqlTimeFromArrowTime64Microsecond mapping rowIndex v

def appendTime64MicrosecondCell (data : Arr (SInt 64)) (mapping : SchemaMapping)
    (column : DirectColumnPlan) : List UInt8 → ℕ → ℕ → Result (List UInt8) :=
  appendTimeArrayCell data mapping column fun v rowIndex => mssqlTimeFromArrowTime64Microsecond mapping rowIndex v

def measureTime64NanosecondColumnCellLengths (data : Arr (SInt 64)) (mapping : SchemaMapping) (context : RuntimeConversionContext)
    (column : DirectColumnPlan) : ColumnSlot → List ℕ → Result (List ℕ) :=
  measureTimeColumnCellLengths data mapping column fun v rowIndex =>
    mssqlTimeFromArrowTime64Nanosecond mapping rowIndex v context.nanosecondPolicy

omit [Externals] in
def fillTime64NanosecondDirectColumn (data : Arr (SInt 64)) (mapping : SchemaMapping) (context : RuntimeConversionContext)
    (column : DirectColumnPlan) : ColumnSlot → RowLayout → List UInt8 → Result (List UInt8) :=
  fillTimeColumn data column fun v rowIndex => mssqlTimeFromArrowTime64Nanosecond mapping rowIndex v context.nanosecondPolicy

def appendTime64NanosecondCell (data : Arr (SInt 64)) (mapping : SchemaMapping) (context : RuntimeConversionContext)
    (column : DirectColumnPlan) : List UInt8 → ℕ → ℕ → Result (List UInt8) :=
  appendTimeArrayCell data mapping column fun v rowIndex =>
    mssqlTimeFromArrowTime64Nanosecond mapping rowIndex v context.nanosecondPolicy

end ArrowTiberius.Direct.Temporal
