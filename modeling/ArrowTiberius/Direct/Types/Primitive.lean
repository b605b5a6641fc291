import ArrowTiberius.Direct.Column

namespace ArrowTiberius.Direct.Primitive

open Checked Tiling

variable {α : Type}

def cellLenPrefixLen : ℕ := 1

def nullInNonNullable (column : DirectColumnPlan) (rowIndex : ℕ) : Error :=
  columnError column rowIndex .nullInNonNullableColumn "null value in non-nullable direct primitive column"

def primitiveCellLen (data : Arr α) (column : DirectColumnPlan) (valueLen : ℕ) (validateValue : α → ℕ → Result Unit)
    (rowIndex : ℕ) : Result ℕ :=
  if data.isNull rowIndex then do
    ensure column.nullable (nullInNonNullable column rowIndex)
    pure cellLenPrefixLen
  else do
    validateValue (data.value rowIndex) rowIndex
    pure (if column.nullable then cellLenPrefixLen + valueLen else valueLen)

def measureCheckedPrimitiveColumnCellLengths (data : Arr α) (column : DirectColumnPlan) (valueLen : ℕ)
    (validateValue : α → ℕ → Result Unit) (slot : ColumnSlot) (cellLengths : List ℕ) : Result (List ℕ) :=
  measureColumn data.len slot cellLengths (primitiveCellLen data column valueLen validateValue)

def measurePrimitiveCellLengths (data : Arr α) (column : DirectColumnPlan) (valueLen : ℕ) (slot : ColumnSlot)
    (cellLengths : List ℕ) : Result (List ℕ) :=
  measureColumn data.len slot cellLengths (primitiveCellLen data column valueLen fun _ _ => .ok ())

def writeNullCell (bytes : List UInt8) (cell : CellPosition) : Result (List UInt8) := do
  ensure (cell.len = cellLenPrefixLen) (invalidPayload s!"null cell at row {cell.rowIndex} column {
    cell.columnIndex} has length {cell.len}, expected 1")
  ensure (cell.offset < bytes.length) (invalidPayload "null cell offset is outside payload")
  setIndex bytes cell.offset 0

def nullableLength (value : List UInt8) : Result ℕ :=
  okOr (checkedAdd 64 cellLenPrefixLen value.length) (invalidPayload "nullable primitive cell length overflowed usize")

def valueLenByte (value : List UInt8) : Result UInt8 := do
  ensure (value.length < 256) (invalidPayload "nullable primitive cell value length does not fit u8")
  pure (UInt8.ofNat value.length)

def writeNullablePrimitiveCell (bytes : List UInt8) (cell : CellPosition) (value : List UInt8) :
    Result (List UInt8) := do
  let expectedLen ← nullableLength value
  checkPositionLen "nullable primitive cell" cell expectedLen
  modifyCell "fixed-width cell end overflowed usize" "fixed-width cell range is outside payload" bytes cell
    fun cellBytes => do
      let len ← valueLenByte value
      let cellBytes ← setIndex cellBytes 0 len
      modifyRange cellBytes 1 cellBytes.length fun dst => copyFromSlice dst value

def writeFixedWidthCell (bytes : List UInt8) (cell : CellPosition) (value : List UInt8) : Result (List UInt8) := do
  checkPositionLen "fixed-width cell" cell value.length
  modifyCell "fixed-width cell end overflowed usize" "fixed-width cell range is outside payload" bytes cell
    fun cellBytes => copyFromSlice cellBytes value

def writePrimitiveCell (bytes : List UInt8) (cell : CellPosition) (column : DirectColumnPlan) (value : List UInt8) :
    Result (List UInt8) :=
  if column.nullable then writeNullablePrimitiveCell bytes cell value else writeFixedWidthCell bytes cell value

def fillPrimitiveCell (data : Arr α) (column : DirectColumnPlan) (valueBytes : α → ℕ → Result (List UInt8))
    (rowIndex : ℕ) (cell : CellPosition) (bytes : List UInt8) : Result (List UInt8) :=
  if data.isNull rowIndex then do
    ensure column.nullable (nullInNonNullable column rowIndex)
    writeNullCell bytes cell
  else do
    let value ← valueBytes (data.value rowIndex) rowIndex
    writePrimitiveCell bytes cell column value

def fillPrimitiveColumn (data : Arr α) (column : DirectColumnPlan) (valueBytes : α → ℕ → Result (List UInt8))
    (slot : ColumnSlot) (layout : RowLayout) (bytes : List UInt8) : Result (List UInt8) :=
  fillColumn data.len slot layout bytes cellPosition (fillPrimitiveCell data column valueBytes)

def appendNullCell (buf : List UInt8) (column : DirectColumnPlan) (rowIndex measuredLen : ℕ) :
    Result (List UInt8) := do
  ensure column.nullable (nullInNonNullable column rowIndex)
  ensure (measuredLen = cellLenPrefixLen) (invalidPayload s!"measured null primitive cell at row {rowIndex} column {
    column.sourceIndex} has length {measuredLen}, expected {cellLenPrefixLen}")
  pure (buf ++ [0])

def appendPrimitiveCell (buf : List UInt8) (column : DirectColumnPlan) (measuredLen : ℕ) (value : List UInt8) :
    Result (List UInt8) :=
  if column.nullable then do
    let expectedLen ← nullableLength value
    ensure (measuredLen = expectedLen) (invalidPayload s!"measured nullable primitive cell for column {
      column.sourceName} has length {measuredLen}, expected {expectedLen}")
    let len ← valueLenByte value
    pure (buf ++ [len] ++ value)
  else do
    ensure (measuredLen = value.length) (invalidPayload s!"measured fixed-width primitive cell for column {
      column.sourceName} has length {measuredLen}, expected {value.length}")
    pure (buf ++ value)

def appendPrimitiveArrayCell (data : Arr α) (column : DirectColumnPlan) (valueBytes : α → ℕ → Result (List UInt8))
    (buf : List UInt8) (rowIndex measuredLen : ℕ) : Result (List UInt8) :=
  if data.isNull rowIndex then appendNullCell buf column rowIndex measuredLen
  else do
    let value ← valueBytes (data.value rowIndex) rowIndex
    appendPrimitiveCell buf column measuredLen value

def booleanBytes (value : Bool) (_ : ℕ) : Result (List UInt8) := .ok [if value then 1 else 0]

def uint8Bytes (value : UInt8) (_ : ℕ) : Result (List UInt8) := .ok [value]

def int8Bytes (value : SInt 8) (_ : ℕ) : Result (List UInt8) := .ok (LittleEndian.encodeInt 2 value.val)

def int16Bytes (value : SInt 16) (_ : ℕ) : Result (List UInt8) := .ok (LittleEndian.encodeInt 2 value.val)

def int32Bytes (value : SInt 32) (_ : ℕ) : Result (List UInt8) := .ok (LittleEndian.encodeInt 4 value.val)

def uint16Bytes (value : UInt16) (_ : ℕ) : Result (List UInt8) := .ok (LittleEndian.encodeInt 4 value.toNat)

def int64Bytes (value : SInt 64) (_ : ℕ) : Result (List UInt8) := .ok (LittleEndian.encodeInt 8 value.val)

def uint32Bytes (value : UInt32) (_ : ℕ) : Result (List UInt8) := .ok (LittleEndian.encodeInt 8 value.toNat)

def uint64CheckedBigintBytes (column : DirectColumnPlan) (value : UInt64) (rowIndex : ℕ) : Result (List UInt8) := do
  let value ← okOr (SInt.ofInt? 64 value.toNat) (columnError column rowIndex .integerOutOfRange
    s!"Arrow UInt64 value {value} does not fit planned SQL Server bigint")
  pure (LittleEndian.encodeInt 8 value.val)

def fillBooleanColumn (data : Arr Bool) (column : DirectColumnPlan) :
    ColumnSlot → RowLayout → List UInt8 → Result (List UInt8) :=
  fillPrimitiveColumn data column booleanBytes

def appendBooleanCell (data : Arr Bool) (column : DirectColumnPlan) : List UInt8 → ℕ → ℕ → Result (List UInt8) :=
  appendPrimitiveArrayCell data column booleanBytes

def fillUint8Column (data : Arr UInt8) (column : DirectColumnPlan) :
    ColumnSlot → RowLayout → List UInt8 → Result (List UInt8) :=
  fillPrimitiveColumn data column uint8Bytes

def appendUint8Cell (data : Arr UInt8) (column : DirectColumnPlan) : List UInt8 → ℕ → ℕ → Result (List UInt8) :=
  appendPrimitiveArrayCell data column uint8Bytes

def fillInt8Column (data : Arr (SInt 8)) (column : DirectColumnPlan) :
    ColumnSlot → RowLayout → List UInt8 → Result (List UInt8) :=
  fillPrimitiveColumn data column int8Bytes

def appendInt8Cell (data : Arr (SInt 8)) (column : DirectColumnPlan) : List UInt8 → ℕ → ℕ → Result (List UInt8) :=
  appendPrimitiveArrayCell data column int8Bytes

def fillInt16Column (data : Arr (SInt 16)) (column : DirectColumnPlan) :
    ColumnSlot → RowLayout → List UInt8 → Result (List UInt8) :=
  fillPrimitiveColumn data column int16Bytes

def appendInt16Cell (data : Arr (SInt 16)) (column : DirectColumnPlan) : List UInt8 → ℕ → ℕ → Result (List UInt8) :=
  appendPrimitiveArrayCell data column int16Bytes

def fillInt32Column (data : Arr (SInt 32)) (column : DirectColumnPlan) :
    ColumnSlot → RowLayout → List UInt8 → Result (List UInt8) :=
  fillPrimitiveColumn data column int32Bytes

def appendInt32Cell (data : Arr (SInt 32)) (column : DirectColumnPlan) : List UInt8 → ℕ → ℕ → Result (List UInt8) :=
  appendPrimitiveArrayCell data column int32Bytes

def fillUint16Column (data : Arr UInt16) (column : DirectColumnPlan) :
    ColumnSlot → RowLayout → List UInt8 → Result (List UInt8) :=
  fillPrimitiveColumn data column uint16Bytes

def appendUint16Cell (data : Arr UInt16) (column : DirectColumnPlan) : List UInt8 → ℕ → ℕ → Result (List UInt8) :=
  appendPrimitiveArrayCell data column uint16Bytes

def fillInt64Column (data : Arr (SInt 64)) (column : DirectColumnPlan) :
    ColumnSlot → RowLayout → List UInt8 → Result (List UInt8) :=
  fillPrimitiveColumn data column int64Bytes

def appendInt64Cell (data : Arr (SInt 64)) (column : DirectColumnPlan) : List UInt8 → ℕ → ℕ → Result (List UInt8) :=
  appendPrimitiveArrayCell data column int64Bytes

def fillUint32Column (data : Arr UInt32) (column : DirectColumnPlan) :
    ColumnSlot → RowLayout → List UInt8 → Result (List UInt8) :=
  fillPrimitiveColumn data column uint32Bytes

def appendUint32Cell (data : Arr UInt32) (column : DirectColumnPlan) : List UInt8 → ℕ → ℕ → Result (List UInt8) :=
  appendPrimitiveArrayCell data column uint32Bytes

def fillUint64CheckedBigintColumn (data : Arr UInt64) (column : DirectColumnPlan) :
    ColumnSlot → RowLayout → List UInt8 → Result (List UInt8) :=
  fillPrimitiveColumn data column (uint64CheckedBigintBytes column)

def appendUint64CheckedBigintCell (data : Arr UInt64) (column : DirectColumnPlan) : List UInt8 → ℕ → ℕ → Result (List UInt8) :=
  appendPrimitiveArrayCell data column (uint64CheckedBigintBytes column)

def nonFiniteFloat (column : DirectColumnPlan) (rowIndex : ℕ) (value : String) : Error :=
  columnError column rowIndex .nonFiniteFloat s!"non-finite floating point value {value} is not supported"

section Externals

variable [Externals]

def validateFiniteFloat (column : DirectColumnPlan) (rowIndex : ℕ) (value : F64) : Result Unit :=
  ensure value.isFinite (nonFiniteFloat column rowIndex (Externals.display value))

def float32Bytes (column : DirectColumnPlan) (value : F32) (rowIndex : ℕ) : Result (List UInt8) := do
  ensure value.isFinite (nonFiniteFloat column rowIndex (Externals.display value))
  pure (LittleEndian.encode 4 value.bits.toNat)

def float16Bytes (column : DirectColumnPlan) (value : F16) (rowIndex : ℕ) : Result (List UInt8) :=
  float32Bytes column (Externals.f16ToF32 value) rowIndex

def float64Bytes (column : DirectColumnPlan) (value : F64) (rowIndex : ℕ) : Result (List UInt8) := do
  ensure value.isFinite (nonFiniteFloat column rowIndex (Externals.display value))
  pure (LittleEndian.encode 8 value.bits.toNat)

def fillFloat32Column (data : Arr F32) (column : DirectColumnPlan) :
    ColumnSlot → RowLayout → List UInt8 → Result (List UInt8) :=
  fillPrimitiveColumn data column (float32Bytes column)

def appendFloat32Cell (data : Arr F32) (column : DirectColumnPlan) : List UInt8 → ℕ → ℕ → Result (List UInt8) :=
  appendPrimitiveArrayCell data column (float32Bytes column)

def fillFloat16Column (data : Arr F16) (column : DirectColumnPlan) :
    ColumnSlot → RowLayout → List UInt8 → Result (List UInt8) :=
  fillPrimitiveColumn data column (float16Bytes column)

def appendFloat16Cell (data : Arr F16) (column : DirectColumnPlan) : List UInt8 → ℕ → ℕ → Result (List UInt8) :=
  appendPrimitiveArrayCell data column (float16Bytes column)

def fillFloat64Column (data : Arr F64) (column : DirectColumnPlan) :
    ColumnSlot → RowLayout → List UInt8 → Result (List UInt8) :=
  fillPrimitiveColumn data column (float64Bytes column)

def appendFloat64Cell (data : Arr F64) (column : DirectColumnPlan) : List UInt8 → ℕ → ℕ → Result (List UInt8) :=
  appendPrimitiveArrayCell data column (float64Bytes column)

def primitiveValueLen : DirectColumnEncoding → Result ℕ
  | .primitive .booleanToBit => .ok 1
  | .primitive .uint8ToTinyInt => .ok 1
  | .primitive .int8ToSmallInt | .primitive .int16ToSmallInt => .ok 2
  | .primitive .int32ToInt => .ok 4
  | .primitive .uint16ToInt => .ok 4
  | .primitive .int64ToBigInt => .ok 8
  | .primitive .uint32ToBigInt => .ok 8
  | .primitive .uint64ToCheckedBigInt => .ok 8
  | .primitive .float16ToReal | .primitive .float32ToReal => .ok 4
  | .primitive .float64ToFloat => .ok 8
  | .uint64Decimal20_0 =>
    fail (unsupportedBatch "direct primitive layout is not implemented for UInt64 decimal20_0")
  | .decimal classification => fail (unsupportedBatch
      s!"direct primitive layout is not implemented for decimal mapping {Externals.debug classification}")
  | .variableWidth other => fail (unsupportedBatch
      s!"direct primitive layout is not implemented for variable-width mapping {Externals.debug other}")
  | .fixedSizeBinary other => fail (unsupportedBatch
      s!"direct primitive layout is not implemented for fixed-size binary mapping {Externals.debug other}")
  | .temporal other => fail (unsupportedBatch
      s!"direct primitive layout is not implemented for temporal mapping {Externals.debug other}")

def measureFixedPrimitiveColumnCellLengths (data : Arr α) (column : DirectColumnPlan) (slot : ColumnSlot)
    (cellLengths : List ℕ) : Result (List ℕ) := do
  let valueLen ← primitiveValueLen column.encoding
  measurePrimitiveCellLengths data column valueLen slot cellLengths

def measureExpected (expected : PrimitiveArrowToMssql) (kind : String) (valueLen : ℕ) (data : Arr α)
    (column : DirectColumnPlan) (validateValue : α → ℕ → Result Unit) (slot : ColumnSlot) (cellLengths : List ℕ) :
    Result (List ℕ) := do
  ensure (column.encoding = .primitive expected) (unsupportedBatch
    s!"direct {kind} layout cannot measure mapping {Externals.debug column.encoding}")
  measureCheckedPrimitiveColumnCellLengths data column valueLen validateValue slot cellLengths

def measureUint64CheckedBigintColumnCellLengths (data : Arr UInt64) (column : DirectColumnPlan) :
    ColumnSlot → List ℕ → Result (List ℕ) :=
  measureExpected .uint64ToCheckedBigInt "UInt64 checked bigint" 8 data column fun value rowIndex => do
    let _ ← uint64CheckedBigintBytes column value rowIndex

def measureFloat32ColumnCellLengths (data : Arr F32) (column : DirectColumnPlan) :
    ColumnSlot → List ℕ → Result (List ℕ) :=
  measureExpected .float32ToReal "Float32" 4 data column fun value rowIndex =>
    validateFiniteFloat column rowIndex value.toF64

def measureFloat16ColumnCellLengths (data : Arr F16) (column : DirectColumnPlan) :
    ColumnSlot → List ℕ → Result (List ℕ) :=
  measureExpected .float16ToReal "Float16" 4 data column fun value rowIndex =>
    validateFiniteFloat column rowIndex (Externals.f16ToF32 value).toF64

def measureFloat64ColumnCellLengths (data : Arr F64) (column : DirectColumnPlan) :
    ColumnSlot → List ℕ → Result (List ℕ) :=
  measureExpected .float64ToFloat "Float64" 8 data column fun value rowIndex =>
    validateFiniteFloat column rowIndex value

end Externals

section Law

variable {data : Arr α} {column : DirectColumnPlan} {valueLen : ℕ} {validateValue : α → ℕ → Result Unit}
  {valueBytes : α → ℕ → Result (List UInt8)} {payloadOf : α → Option (List UInt8)}

def framing (column : DirectColumnPlan) : Tds.Framing := if column.nullable then .bytePrefixed else .plain

def cellBytes (data : Arr α) (column : DirectColumnPlan) (payloadOf : α → Option (List UInt8)) :
    ℕ → Option (List UInt8) :=
  columnBytes (framing column) (columnContent (nullContent column) data payloadOf)

theorem cellBytes_null {r : ℕ} {bytes : List UInt8} (hnull : data.isNull r = true) :
    cellBytes data column payloadOf r = some bytes ↔ column.nullable = true ∧ bytes = [0] := by
  rw [cellBytes, columnBytes_of_null hnull]
  by_cases hnullable : column.nullable = true <;> simp [nullContent, framing, Tds.frame, hnullable, eq_comm]

theorem cellBytes_value {r : ℕ} {bytes : List UInt8} (hnull : data.isNull r = false) :
    cellBytes data column payloadOf r = some bytes ↔ ∃ value, payloadOf (data.value r) = some value ∧
      bytes = if column.nullable then UInt8.ofNat value.length :: value else value := by
  rw [cellBytes, columnBytes_of_value hnull, Option.bind_eq_some_iff]
  apply exists_congr
  intro value
  by_cases hnullable : column.nullable = true <;> simp [framing, Tds.frame, hnullable, eq_comm]

theorem primitiveCellLen_eq_ok (hvalidate : ∀ v r, validateValue v r = .ok () ↔ (payloadOf v).isSome)
    (hlen : ∀ v value, payloadOf v = some value → value.length = valueLen) (r n : ℕ) :
    primitiveCellLen data column valueLen validateValue r = .ok n ↔
      ∃ bytes, cellBytes data column payloadOf r = some bytes ∧ n = bytes.length := by
  unfold primitiveCellLen
  by_cases hnull : data.isNull r = true
  · simp only [hnull, if_true, bind_unit_eq_ok, ensure_eq_ok, pure_eq_ok, Except.ok.injEq, cellBytes_null hnull]
    constructor
    · rintro ⟨hnullable, rfl⟩
      exact ⟨[0], ⟨hnullable, rfl⟩, rfl⟩
    · rintro ⟨_, ⟨hnullable, rfl⟩, rfl⟩
      exact ⟨hnullable, rfl⟩
  · rw [Bool.not_eq_true] at hnull
    simp only [hnull, Bool.false_eq_true, if_false, bind_unit_eq_ok, pure_eq_ok, Except.ok.injEq,
      cellBytes_value hnull, hvalidate, Option.isSome_iff_exists]
    constructor
    · rintro ⟨⟨value, hvalue⟩, rfl⟩
      refine ⟨_, ⟨value, hvalue, rfl⟩, ?_⟩
      rw [← hlen _ _ hvalue]
      split <;> simp [cellLenPrefixLen, Nat.add_comm]
    · rintro ⟨_, ⟨value, hvalue, rfl⟩, rfl⟩
      refine ⟨⟨value, hvalue⟩, ?_⟩
      rw [← hlen _ _ hvalue]
      split <;> simp [cellLenPrefixLen, Nat.add_comm]

theorem nullableLength_of_lt {value : List UInt8} (h : value.length < 256) :
    nullableLength value = .ok (value.length + 1) := by
  rw [nullableLength, checkedAdd_of_lt (by simp only [cellLenPrefixLen]; omega), okOr_some, cellLenPrefixLen,
    Nat.add_comm]

theorem valueLenByte_of_lt {value : List UInt8} (h : value.length < 256) :
    valueLenByte value = .ok (UInt8.ofNat value.length) := by
  rw [valueLenByte, ensure_of h, ok_bind, pure_eq_ok]

theorem writeNullCell_of {position : CellPosition} {bytes : List UInt8} (hlength : position.len = cellLenPrefixLen)
    (hinside : position.offset + position.len ≤ bytes.length) :
    writeNullCell bytes position = .ok (splice bytes position.offset [0]) := by
  have hpos : position.len = 1 := hlength
  rw [writeNullCell, ensure_of hlength, ok_bind, ensure_of (by omega), ok_bind, setIndex_of_lt (by omega)]

theorem writePrimitiveCell_of {position : CellPosition} {bytes value : List UInt8} (hvalue : value.length < 256)
    (hlength : position.len = (if column.nullable then UInt8.ofNat value.length :: value else value).length)
    (hinside : position.offset + position.len ≤ bytes.length) (haddressable : bytes.length < 2 ^ 64) :
    writePrimitiveCell bytes position column value = .ok (splice bytes position.offset
      (if column.nullable then UInt8.ofNat value.length :: value else value)) := by
  unfold writePrimitiveCell
  split
  case isTrue hnullable =>
    rw [if_pos hnullable, List.length_cons] at hlength
    rw [writeNullablePrimitiveCell, nullableLength_of_lt hvalue, ok_bind, checkPositionLen_of hlength, ok_bind]
    apply modifyCell_of (by simpa using hlength) hinside haddressable
    intro window hw
    rw [List.length_cons] at hw
    have hnext := @modifyRange_next Error _ window [UInt8.ofNat value.length] value 1 (value.length + 1)
      (fun dst => copyFromSlice dst value) rfl (Nat.add_comm _ _) (by simp; omega)
      fun _ hwindow => copyFromSlice_of_length hwindow
    rw [valueLenByte_of_lt hvalue, ok_bind, setIndex_of_lt (by omega), ok_bind,
      length_splice (by simp; omega), hw, hnext, splice_all (by simp [hw])]
    rfl
  case isFalse hnullable =>
    rw [if_neg hnullable] at hlength
    rw [writeFixedWidthCell, checkPositionLen_of hlength, ok_bind]
    apply modifyCell_of hlength hinside haddressable
    intro window hw
    apply copyFromSlice_of_length hw

theorem fillPrimitiveCell_of (hbytes : ∀ v r value, valueBytes v r = .ok value ↔ payloadOf v = some value)
    (hlen : ∀ v value, payloadOf v = some value → value.length < 256) {r : ℕ} {new : List UInt8}
    {position : CellPosition} {bytes : List UInt8} (hnew : cellBytes data column payloadOf r = some new)
    (hlength : position.len = new.length) (hinside : position.offset + position.len ≤ bytes.length)
    (haddressable : bytes.length < 2 ^ 64) :
    fillPrimitiveCell data column valueBytes r position bytes = .ok (splice bytes position.offset new) := by
  unfold fillPrimitiveCell
  split
  case isTrue hnull =>
    obtain ⟨hnullable, rfl⟩ := (cellBytes_null hnull).mp hnew
    rw [ensure_of hnullable, ok_bind, writeNullCell_of hlength hinside]
  case isFalse hnull =>
    obtain ⟨value, hvalue, rfl⟩ := (cellBytes_value (Bool.eq_false_iff.mpr hnull)).mp hnew
    rw [(hbytes _ _ _).mpr hvalue, ok_bind, writePrimitiveCell_of (hlen _ _ hvalue) hlength hinside haddressable]

theorem appendPrimitiveArrayCell_of (hbytes : ∀ v r value, valueBytes v r = .ok value ↔ payloadOf v = some value)
    (hlen : ∀ v value, payloadOf v = some value → value.length < 256) {r : ℕ} {bytes : List UInt8}
    (buf : List UInt8) (h : cellBytes data column payloadOf r = some bytes) :
    appendPrimitiveArrayCell data column valueBytes buf r bytes.length = .ok (buf ++ bytes) := by
  unfold appendPrimitiveArrayCell
  split
  case isTrue hnull =>
    obtain ⟨hnullable, rfl⟩ := (cellBytes_null hnull).mp h
    rw [appendNullCell, ensure_of hnullable, ok_bind, ensure_of (show [(0 : UInt8)].length = cellLenPrefixLen from rfl),
      ok_bind, pure_eq_ok]
  case isFalse hnull =>
    obtain ⟨value, hvalue, rfl⟩ := (cellBytes_value (Bool.eq_false_iff.mpr hnull)).mp h
    have hfits := hlen _ _ hvalue
    rw [(hbytes _ _ _).mpr hvalue, ok_bind, appendPrimitiveCell]
    split
    case isTrue =>
      rw [nullableLength_of_lt hfits, ok_bind, ensure_of (List.length_cons ..), ok_bind, valueLenByte_of_lt hfits,
        ok_bind, pure_eq_ok, List.append_assoc, List.singleton_append]
    case isFalse => rw [ensure_of rfl, ok_bind, pure_eq_ok]

theorem primitive_law (hvalidate : ∀ v r, validateValue v r = .ok () ↔ (payloadOf v).isSome)
    (hbytes : ∀ v r value, valueBytes v r = .ok value ↔ payloadOf v = some value) (hvalueLen : valueLen < 256)
    (hlen : ∀ v value, payloadOf v = some value → value.length = valueLen) :
    ColumnLaw data.len (cellBytes data column payloadOf)
      (measureCheckedPrimitiveColumnCellLengths data column valueLen validateValue)
      (fillPrimitiveColumn data column valueBytes) (appendPrimitiveArrayCell data column valueBytes) := by
  have hfits (v : α) (value : List UInt8) (h : payloadOf v = some value) : value.length < 256 := by
    rw [hlen v value h]
    exact hvalueLen
  apply ColumnLaw.of_cells
  · exact primitiveCellLen_eq_ok hvalidate hlen
  · intro r new position bytes hnew hlength hinside haddressable
    apply fillPrimitiveCell_of hbytes hfits hnew hlength hinside haddressable
  · intro r bytes buf h
    apply appendPrimitiveArrayCell_of hbytes hfits buf h

end Law

end ArrowTiberius.Direct.Primitive
