import ArrowTiberius.Direct.Column
import ArrowTiberius.Mssql.FromArrow.Scalar

namespace ArrowTiberius.Direct.VariableWidth

open Checked Tiling

variable {α : Type}

def boundedLenPrefixLen : ℕ := 2

def plpLenPrefixLen : ℕ := 8

def plpChunkLenPrefixLen : ℕ := 4

def plpTerminatorLen : ℕ := 4

def maxBoundedTdsValueLen : ℕ := 0xfffe

def maxPlpChunkLen : ℕ := 0xffffffff

def addLen (lhs rhs : ℕ) : Result ℕ :=
  okOr (checkedAdd 64 lhs rhs) (invalidPayload "direct variable-width row layout length overflowed usize")

def mulLen (lhs rhs : ℕ) : Result ℕ :=
  okOr (checkedMul 64 lhs rhs) (invalidPayload "direct variable-width value length overflowed usize")

def valueTooLong (column : DirectColumnPlan) (rowIndex : ℕ) (message : String) : Error :=
  columnError column rowIndex .valueTooLong message

def nullCellLen (column : DirectColumnPlan) (rowIndex : ℕ) (length : MssqlTypeLength) : Result ℕ := do
  ensure column.nullable (columnError column rowIndex .nullInNonNullableColumn
    "null value in non-nullable direct variable-width column")
  pure (match length with
    | .bounded _ => boundedLenPrefixLen
    | .max => plpLenPrefixLen)

def boundedCellLen (encodedBytes : ℕ) : Result ℕ := do
  ensure (encodedBytes ≤ maxBoundedTdsValueLen) (invalidPayload s!"bounded direct variable-width value length {
    encodedBytes} exceeds TDS row limit {maxBoundedTdsValueLen}")
  addLen boundedLenPrefixLen encodedBytes

def checkPlpChunkLen (len : ℕ) : Result Unit :=
  ensure (len ≤ maxPlpChunkLen) (invalidPayload s!"direct variable-width PLP chunk length {len} exceeds u32::MAX")

def plpCellLen (encodedBytes : ℕ) : Result ℕ := do
  checkPlpChunkLen encodedBytes
  let len ← addLen plpLenPrefixLen plpChunkLenPrefixLen
  let len ← addLen len encodedBytes
  if encodedBytes ≠ 0 then addLen len plpTerminatorLen else pure len

section Writers

def cellBytesMut : List UInt8 → CellPosition → (List UInt8 → Result (List UInt8)) → Result (List UInt8) :=
  modifyCell "variable-width cell end overflowed usize" "variable-width cell range is outside payload"

def writeUtf16le : List UInt8 → List ℕ → List UInt8
  | _ :: _ :: dst, unit :: units => LittleEndian.encode 2 unit ++ writeUtf16le dst units
  | dst, _ => dst

def checkShortLen (len : ℕ) : Result Unit :=
  ensure (len < 2 ^ 16) (invalidPayload "bounded variable-width cell length does not fit u16")

def writeU16Prefix (dst : List UInt8) (len : ℕ) : Result (List UInt8) := do
  checkShortLen len
  modifyRange dst 0 boundedLenPrefixLen fun dst => copyFromSlice dst (LittleEndian.encode 2 len)

def writePlpHeader (dst : List UInt8) (len : ℕ) : Result (List UInt8) := do
  checkPlpChunkLen len
  let dst ← modifyRange dst 0 plpLenPrefixLen fun dst =>
    copyFromSlice dst (LittleEndian.encode 8 0xfffffffffffffffe)
  modifyRange dst plpLenPrefixLen (plpLenPrefixLen + plpChunkLenPrefixLen) fun dst =>
    copyFromSlice dst (LittleEndian.encode 4 len)

def writePlpTerminator (dst : List UInt8) (offset : ℕ) : Result (List UInt8) :=
  if offset < dst.length then
    modifyRange dst offset (offset + plpTerminatorLen) fun dst => copyFromSlice dst (LittleEndian.encode 4 0)
  else .ok dst

def writeNullCell (bytes : List UInt8) (cell : CellPosition) (column : DirectColumnPlan) (rowIndex : ℕ)
    (length : MssqlTypeLength) : Result (List UInt8) := do
  let expectedLen ← nullCellLen column rowIndex length
  checkPositionLen "null variable-width cell" cell expectedLen
  cellBytesMut bytes cell fun dst =>
    match length with
    | .bounded _ => copyFromSlice dst (LittleEndian.encode 2 0xffff)
    | .max => copyFromSlice dst (LittleEndian.encode 8 0xffffffffffffffff)

def writeBoundedCell (kind : String) (bytes : List UInt8) (cell : CellPosition) (encodedBytes : ℕ)
    (write : List UInt8 → Result (List UInt8)) : Result (List UInt8) := do
  let expectedLen ← boundedCellLen encodedBytes
  checkPositionLen s!"bounded {kind} cell" cell expectedLen
  cellBytesMut bytes cell fun dst => do
    let dst ← writeU16Prefix dst encodedBytes
    modifyRange dst boundedLenPrefixLen dst.length write

def writePlpCell (kind : String) (bytes : List UInt8) (cell : CellPosition) (encodedBytes : ℕ)
    (write : List UInt8 → Result (List UInt8)) : Result (List UInt8) := do
  let expectedLen ← plpCellLen encodedBytes
  checkPositionLen s!"PLP {kind} cell" cell expectedLen
  cellBytesMut bytes cell fun dst => do
    let dst ← writePlpHeader dst encodedBytes
    let payloadStart := plpLenPrefixLen + plpChunkLenPrefixLen
    let payloadEnd := payloadStart + encodedBytes
    let dst ← modifyRange dst payloadStart payloadEnd write
    writePlpTerminator dst payloadEnd

def writeBoundedNvarcharCell (bytes : List UInt8) (cell : CellPosition) (value : String) (encodedBytes : ℕ) :
    Result (List UInt8) :=
  writeBoundedCell "nvarchar" bytes cell encodedBytes fun dst => .ok (writeUtf16le dst (Utf16.encode value.toList))

def writeBoundedPayloadCell (bytes : List UInt8) (cell : CellPosition) (value : List UInt8) : Result (List UInt8) :=
  writeBoundedCell "varbinary" bytes cell value.length fun dst => copyFromSlice dst value

def writePlpNvarcharCell (bytes : List UInt8) (cell : CellPosition) (value : String) (encodedBytes : ℕ) :
    Result (List UInt8) :=
  writePlpCell "nvarchar" bytes cell encodedBytes fun dst => .ok (writeUtf16le dst (Utf16.encode value.toList))

def writePlpPayloadCell (bytes : List UInt8) (cell : CellPosition) (value : List UInt8) : Result (List UInt8) :=
  writePlpCell "varbinary" bytes cell value.length fun dst => copyFromSlice dst value

def validateUtf16ByteLen (cell : String) (encodedBytes : ℕ) : Result Unit :=
  ensure (encodedBytes % 2 = 0) (invalidPayload s!"nvarchar cell {cell} has odd UTF-16 byte length {encodedBytes}")

def boundedEncodedBytes (cell : String) (len : ℕ) : Result ℕ := do
  ensure (boundedLenPrefixLen ≤ len) (invalidPayload s!"bounded nvarchar cell {cell} has length {
    len}, shorter than prefix length {boundedLenPrefixLen}")
  validateUtf16ByteLen cell (len - boundedLenPrefixLen)
  pure (len - boundedLenPrefixLen)

def plpEncodedBytes (cell : String) (len : ℕ) : Result ℕ :=
  let minimumNonNullLen := plpLenPrefixLen + plpChunkLenPrefixLen
  if len = minimumNonNullLen then .ok 0
  else do
    let nonEmptyOverhead := minimumNonNullLen + plpTerminatorLen
    ensure (nonEmptyOverhead ≤ len) (invalidPayload s!"PLP nvarchar cell {cell} has length {
      len}, shorter than non-empty overhead {nonEmptyOverhead}")
    validateUtf16ByteLen cell (len - nonEmptyOverhead)
    pure (len - nonEmptyOverhead)

def CellPosition.label (cell : CellPosition) : String := s!"at row {cell.rowIndex} column {cell.columnIndex}"

def rowLabel (column : DirectColumnPlan) (rowIndex : ℕ) : String := s!"at row {rowIndex} column {column.sourceName}"

def boundedNvarcharEncodedBytes (cell : CellPosition) : Result ℕ :=
  boundedEncodedBytes (CellPosition.label cell) cell.len

def plpNvarcharEncodedBytes (cell : CellPosition) : Result ℕ := plpEncodedBytes (CellPosition.label cell) cell.len

def plpNvarcharEncodedBytesFromLen (column : DirectColumnPlan) (rowIndex measuredLen : ℕ) : Result ℕ :=
  plpEncodedBytes (rowLabel column rowIndex) measuredLen

def stringTooLong (column : DirectColumnPlan) (rowIndex codeUnits : ℕ) : Error :=
  valueTooLong column rowIndex
    s!"string value has {codeUnits} UTF-16 code unit(s), exceeding planned {column.targetType.toSql}"

def bytesTooLong (column : DirectColumnPlan) (rowIndex encodedBytes : ℕ) : Error :=
  valueTooLong column rowIndex
    s!"binary value has {encodedBytes} byte(s), exceeding planned {column.targetType.toSql}"

def writeNvarcharCell (column : DirectColumnPlan) (length : MssqlTypeLength) (bytes : List UInt8)
    (cell : CellPosition) (rowIndex : ℕ) (value : String) : Result (List UInt8) :=
  match length with
  | .bounded limit => do
    let encodedBytes ← boundedNvarcharEncodedBytes cell
    ensure (¬encodedBytes / 2 > limit) (stringTooLong column rowIndex (encodedBytes / 2))
    writeBoundedNvarcharCell bytes cell value encodedBytes
  | .max => do
    let encodedBytes ← plpNvarcharEncodedBytes cell
    writePlpNvarcharCell bytes cell value encodedBytes

def writeVarbinaryCell (column : DirectColumnPlan) (length : MssqlTypeLength) (bytes : List UInt8)
    (cell : CellPosition) (rowIndex : ℕ) (value : List UInt8) : Result (List UInt8) :=
  match length with
  | .bounded limit => do
    ensure (¬value.length > limit) (bytesTooLong column rowIndex value.length)
    writeBoundedPayloadCell bytes cell value
  | .max => writePlpPayloadCell bytes cell value

end Writers

section Measure

def nvarcharValueLen (column : DirectColumnPlan) (length : MssqlTypeLength) (rowIndex : ℕ) (value : String) :
    Result ℕ := do
  let codeUnits := (Utf16.encode value.toList).length
  let encodedBytes ← mulLen codeUnits 2
  match length with
  | .bounded limit => do
    ensure (¬codeUnits > limit) (stringTooLong column rowIndex codeUnits)
    boundedCellLen encodedBytes
  | .max => plpCellLen encodedBytes

def varbinaryValueLen (column : DirectColumnPlan) (length : MssqlTypeLength) (rowIndex : ℕ) (value : List UInt8) :
    Result ℕ :=
  match length with
  | .bounded limit => do
    ensure (¬value.length > limit) (bytesTooLong column rowIndex value.length)
    boundedCellLen value.length
  | .max => plpCellLen value.length

end Measure

section Append

def appendNullCell (buf : List UInt8) (column : DirectColumnPlan) (rowIndex measuredLen : ℕ)
    (length : MssqlTypeLength) : Result (List UInt8) := do
  let expectedLen ← nullCellLen column rowIndex length
  ensure (measuredLen = expectedLen) (invalidPayload s!"measured null variable-width cell {
    rowLabel column rowIndex} has length {measuredLen}, expected {expectedLen}")
  pure (match length with
    | .bounded _ => buf ++ LittleEndian.encode 2 0xffff
    | .max => buf ++ LittleEndian.encode 8 0xffffffffffffffff)

def appendUtf16le (buf : List UInt8) (value : String) : List UInt8 :=
  (Utf16.encode value.toList).foldl (fun buf codeUnit => buf ++ LittleEndian.encode 2 codeUnit) buf

def appendPlpHeader (buf : List UInt8) (len : ℕ) : Result (List UInt8) := do
  checkPlpChunkLen len
  pure (buf ++ LittleEndian.encode 8 0xfffffffffffffffe ++ LittleEndian.encode 4 len)

def appendPlpTerminator (buf : List UInt8) (len : ℕ) : List UInt8 :=
  if len ≠ 0 then buf ++ LittleEndian.encode 4 0 else buf

def appendBoundedNvarcharCell (buf : List UInt8) (value : String) (encodedBytes : ℕ) : Result (List UInt8) := do
  checkShortLen encodedBytes
  pure (appendUtf16le (buf ++ LittleEndian.encode 2 encodedBytes) value)

def appendBoundedPayloadCell (buf : List UInt8) (column : DirectColumnPlan) (rowIndex measuredLen : ℕ)
    (value : List UInt8) : Result (List UInt8) := do
  let expectedLen ← boundedCellLen value.length
  ensure (measuredLen = expectedLen) (invalidPayload s!"measured bounded varbinary cell {
    rowLabel column rowIndex} has length {measuredLen}, expected {expectedLen}")
  checkShortLen value.length
  pure (buf ++ LittleEndian.encode 2 value.length ++ value)

def appendPlpNvarcharCell (buf : List UInt8) (value : String) (encodedBytes : ℕ) : Result (List UInt8) := do
  let buf ← appendPlpHeader buf encodedBytes
  pure (appendPlpTerminator (appendUtf16le buf value) encodedBytes)

def appendPlpPayloadCell (buf : List UInt8) (column : DirectColumnPlan) (rowIndex measuredLen : ℕ)
    (value : List UInt8) : Result (List UInt8) := do
  let expectedLen ← plpCellLen value.length
  ensure (measuredLen = expectedLen) (invalidPayload s!"measured PLP varbinary cell {
    rowLabel column rowIndex} has length {measuredLen}, expected {expectedLen}")
  let buf ← appendPlpHeader buf value.length
  pure (appendPlpTerminator (buf ++ value) value.length)

def appendNvarcharValue (column : DirectColumnPlan) (length : MssqlTypeLength) (buf : List UInt8)
    (rowIndex measuredLen : ℕ) (value : String) : Result (List UInt8) :=
  match length with
  | .bounded limit => do
    let encodedBytes ← boundedEncodedBytes (rowLabel column rowIndex) measuredLen
    ensure (¬encodedBytes / 2 > limit) (stringTooLong column rowIndex (encodedBytes / 2))
    appendBoundedNvarcharCell buf value encodedBytes
  | .max => do
    let encodedBytes ← plpNvarcharEncodedBytesFromLen column rowIndex measuredLen
    appendPlpNvarcharCell buf value encodedBytes

def appendVarbinaryValue (column : DirectColumnPlan) (length : MssqlTypeLength) (buf : List UInt8)
    (rowIndex measuredLen : ℕ) (value : List UInt8) : Result (List UInt8) :=
  match length with
  | .bounded limit => do
    ensure (¬value.length > limit) (bytesTooLong column rowIndex value.length)
    appendBoundedPayloadCell buf column rowIndex measuredLen value
  | .max => appendPlpPayloadCell buf column rowIndex measuredLen value

end Append

section Column

variable (data : Arr α) (column : DirectColumnPlan) (length : MssqlTypeLength)

def cellLen (valueLen : ℕ → α → Result ℕ) (rowIndex : ℕ) : Result ℕ :=
  if data.isNull rowIndex then nullCellLen column rowIndex length else valueLen rowIndex (data.value rowIndex)

def fillCell (writeValue : List UInt8 → CellPosition → ℕ → α → Result (List UInt8)) (rowIndex : ℕ)
    (cell : CellPosition) (bytes : List UInt8) : Result (List UInt8) :=
  if data.isNull rowIndex then writeNullCell bytes cell column rowIndex length
  else writeValue bytes cell rowIndex (data.value rowIndex)

def appendCell (appendValue : List UInt8 → ℕ → ℕ → α → Result (List UInt8)) (buf : List UInt8)
    (rowIndex measuredLen : ℕ) : Result (List UInt8) :=
  if data.isNull rowIndex then appendNullCell buf column rowIndex measuredLen length
  else appendValue buf rowIndex measuredLen (data.value rowIndex)

end Column

section Externals

variable [Externals]

def nvarcharLength (column : DirectColumnPlan) (action : String) : Result MssqlTypeLength :=
  match column.encoding with
  | .variableWidth (.stringToNVarChar length) => .ok length
  | other => fail (unsupportedBatch s!"direct nvarchar {action} mapping {Externals.debug other}")

def varbinaryLength (column : DirectColumnPlan) (action : String) : Result MssqlTypeLength :=
  match column.encoding with
  | .variableWidth (.bytesToVarBinary length) => .ok length
  | other => fail (unsupportedBatch s!"direct varbinary {action} mapping {Externals.debug other}")

def measureNvarcharColumnCellLengths (data : Arr String) (column : DirectColumnPlan) (slot : ColumnSlot)
    (cellLengths : List ℕ) : Result (List ℕ) := do
  let length ← nvarcharLength column "layout cannot measure"
  measureColumn data.len slot cellLengths (cellLen data column length (nvarcharValueLen column length))

def measureVarbinaryColumnCellLengths (data : Arr (List UInt8)) (column : DirectColumnPlan) (slot : ColumnSlot)
    (cellLengths : List ℕ) : Result (List ℕ) := do
  let length ← varbinaryLength column "layout cannot measure"
  measureColumn data.len slot cellLengths (cellLen data column length (varbinaryValueLen column length))

def fillNvarcharColumn (data : Arr String) (column : DirectColumnPlan) (slot : ColumnSlot) (layout : RowLayout)
    (bytes : List UInt8) : Result (List UInt8) := do
  let length ← nvarcharLength column "fill cannot encode"
  fillColumn data.len slot layout bytes cellPosition
    (fillCell data column length (writeNvarcharCell column length))

def fillVarbinaryColumn (data : Arr (List UInt8)) (column : DirectColumnPlan) (slot : ColumnSlot) (layout : RowLayout)
    (bytes : List UInt8) : Result (List UInt8) := do
  let length ← varbinaryLength column "fill cannot encode"
  fillColumn data.len slot layout bytes cellPosition
    (fillCell data column length (writeVarbinaryCell column length))

def appendNvarcharCell (data : Arr String) (column : DirectColumnPlan) (buf : List UInt8)
    (rowIndex measuredLen : ℕ) : Result (List UInt8) := do
  let length ← nvarcharLength column "append cannot encode"
  appendCell data column length (appendNvarcharValue column length) buf rowIndex measuredLen

def appendVarbinaryCell (data : Arr (List UInt8)) (column : DirectColumnPlan) (buf : List UInt8)
    (rowIndex measuredLen : ℕ) : Result (List UInt8) := do
  let length ← varbinaryLength column "append cannot encode"
  appendCell data column length (appendVarbinaryValue column length) buf rowIndex measuredLen

end Externals

section Law

def framing : MssqlTypeLength → Tds.Framing
  | .bounded _ => .shortPrefixed
  | .max => .plp

def nvarcharPayload (length : MssqlTypeLength) (value : String) : Option (List UInt8) :=
  if exceedsLength length (Utf16.encode value.toList).length then none else some (Tds.encodeUtf16 value)

def varbinaryPayload (length : MssqlTypeLength) (value : List UInt8) : Option (List UInt8) :=
  if exceedsLength length value.length then none else some value

def cellBytes (data : Arr α) (column : DirectColumnPlan) (length : MssqlTypeLength)
    (payloadOf : α → Option (List UInt8)) : ℕ → Option (List UInt8) :=
  columnBytes (framing length) (columnContent (nullContent column) data payloadOf)

theorem addLen_of_lt {lhs rhs : ℕ} (h : lhs + rhs < 2 ^ 64) : addLen lhs rhs = .ok (lhs + rhs) := by
  rw [addLen, checkedAdd_of_lt h, okOr_some]

theorem boundedCellLen_eq_ok {payload : List UInt8} {n : ℕ} : boundedCellLen payload.length = .ok n ↔
    ∃ bytes, Tds.wire .shortPrefixed (some payload) = some bytes ∧ n = bytes.length := by
  simp only [Tds.wire_eq_some, Tds.Fits]
  constructor
  · intro hn
    obtain ⟨hfits, hadd⟩ := bind_unit_eq_ok.mp hn
    have hle : payload.length ≤ 0xfffe := ensure_eq_ok.mp hfits
    rw [addLen_of_lt (by simp only [boundedLenPrefixLen]; omega)] at hadd
    exact ⟨_, ⟨hle, rfl⟩, by simp [← Except.ok.inj hadd, Tds.frame, boundedLenPrefixLen]⟩
  · rintro ⟨_, ⟨hle, rfl⟩, rfl⟩
    have hlimit : payload.length ≤ maxBoundedTdsValueLen := hle
    rw [boundedCellLen, ensure_of hlimit, ok_bind, addLen_of_lt (by simp only [boundedLenPrefixLen]; omega)]
    simp [Tds.frame, boundedLenPrefixLen]

theorem length_frame_plp (payload : List UInt8) : (Tds.frame .plp (some payload)).length =
    12 + payload.length + if payload.length = 0 then 0 else 4 := by
  rw [Tds.frame]
  by_cases h : payload = []
  · simp [h]
  · have hpos : payload.length ≠ 0 := by simpa using h
    simp [h]
    omega

theorem plpCellLen_of_le {n : ℕ} (h : n ≤ 0xffffffff) :
    plpCellLen n = .ok (12 + n + if n = 0 then 0 else 4) := by
  have hcheck : checkPlpChunkLen n = .ok () := ensure_of h
  rw [plpCellLen, hcheck, ok_bind, plpLenPrefixLen, plpChunkLenPrefixLen, addLen_of_lt (by decide), ok_bind,
    addLen_of_lt (by omega), ok_bind]
  by_cases hzero : n = 0
  · rw [if_neg (not_not.mpr hzero), if_pos hzero, pure_eq_ok, hzero]
  · rw [if_pos hzero, if_neg hzero, plpTerminatorLen, addLen_of_lt (by omega)]

theorem plpCellLen_eq_ok {payload : List UInt8} {n : ℕ} : plpCellLen payload.length = .ok n ↔
    ∃ bytes, Tds.wire .plp (some payload) = some bytes ∧ n = bytes.length := by
  simp only [Tds.wire_eq_some, Tds.Fits]
  constructor
  · intro hn
    obtain ⟨hfits, -⟩ := bind_unit_eq_ok.mp hn
    have hle : payload.length ≤ 0xffffffff := ensure_eq_ok.mp hfits
    rw [plpCellLen_of_le hle] at hn
    exact ⟨_, ⟨hle, rfl⟩, by rw [← Except.ok.inj hn, length_frame_plp]⟩
  · rintro ⟨_, ⟨hle, rfl⟩, rfl⟩
    rw [plpCellLen_of_le hle, length_frame_plp]

theorem writeUtf16le_of_length {dst : List UInt8} {units : List ℕ} (h : dst.length = 2 * units.length) :
    writeUtf16le dst units = units.flatMap (LittleEndian.encode 2) := by
  induction units generalizing dst with
  | nil =>
    have hnil : dst = [] := by simpa using h
    rw [hnil]
    rfl
  | cons unit units ih =>
    obtain _ | ⟨a, _ | ⟨b, dst⟩⟩ := dst
    · simp at h
    · simp only [List.length_cons, List.length_nil] at h
      omega
    · simp only [List.length_cons] at h
      rw [writeUtf16le, ih (by omega), List.flatMap_cons]

theorem appendUtf16le_eq (buf : List UInt8) (value : String) :
    appendUtf16le buf value = buf ++ Tds.encodeUtf16 value := by
  unfold appendUtf16le Tds.encodeUtf16
  induction Utf16.encode value.toList generalizing buf with
  | nil => simp
  | cons unit units ih => rw [List.foldl_cons, ih, List.flatMap_cons, List.append_assoc]

theorem boundedEncodedBytes_of {label : String} {n : ℕ} (h : n % 2 = 0) :
    boundedEncodedBytes label (2 + n) = .ok n := by
  rw [boundedEncodedBytes, ensure_of (by simp [boundedLenPrefixLen]), ok_bind]
  have hsub : 2 + n - boundedLenPrefixLen = n := Nat.add_sub_cancel_left 2 n
  rw [hsub, validateUtf16ByteLen, ensure_of h, ok_bind, pure_eq_ok]

theorem plpEncodedBytes_of {label : String} {n : ℕ} (h : n % 2 = 0) :
    plpEncodedBytes label (12 + n + if n = 0 then 0 else 4) = .ok n := by
  unfold plpEncodedBytes
  by_cases hzero : n = 0
  · rw [hzero]
    rfl
  · have hlen : ¬12 + n + 4 = plpLenPrefixLen + plpChunkLenPrefixLen := by
      simp only [plpLenPrefixLen, plpChunkLenPrefixLen]
      omega
    have hsub : 12 + n + 4 - (plpLenPrefixLen + plpChunkLenPrefixLen + plpTerminatorLen) = n := by
      simp only [plpLenPrefixLen, plpChunkLenPrefixLen, plpTerminatorLen]
      omega
    rw [if_neg hzero]
    simp only [if_neg hlen]
    rw [ensure_of (by simp only [plpLenPrefixLen, plpChunkLenPrefixLen, plpTerminatorLen]; omega), ok_bind, hsub,
      validateUtf16ByteLen, ensure_of h, ok_bind, pure_eq_ok]

theorem writeU16Prefix_of {dst : List UInt8} {n : ℕ} (hn : n < 2 ^ 16) (hdst : 2 ≤ dst.length) :
    writeU16Prefix dst n = .ok (splice dst 0 (LittleEndian.encode 2 n)) := by
  rw [writeU16Prefix, checkShortLen, ensure_of hn, ok_bind]
  apply modifyRange_of_le (by decide) hdst
  intro window hw
  apply copyFromSlice_of_length (by rw [hw]; simp)

theorem writePlpHeader_of {dst : List UInt8} {n : ℕ} (hn : n ≤ 0xffffffff) (hdst : 12 ≤ dst.length) :
    writePlpHeader dst n =
      .ok (splice dst 0 (LittleEndian.encode 8 0xfffffffffffffffe ++ LittleEndian.encode 4 n)) := by
  have hcheck : checkPlpChunkLen n = .ok () := ensure_of hn
  rw [writePlpHeader, hcheck, ok_bind, modifyRange_of_le (by decide) (by simp only [plpLenPrefixLen]; omega)
    fun window hw => copyFromSlice_of_length (by rw [hw]; simp [plpLenPrefixLen]), ok_bind]
  apply modifyRange_next (by simp [plpLenPrefixLen]) (by simp [plpLenPrefixLen, plpChunkLenPrefixLen]) (by simpa)
  intro window hw
  apply copyFromSlice_of_length hw

variable {position : CellPosition} {bytes new payload : List UInt8} {write : List UInt8 → Result (List UInt8)}

theorem writeBoundedCell_of {kind : String} (hnew : Tds.wire .shortPrefixed (some payload) = some new)
    (hlength : position.len = new.length) (hinside : position.offset + position.len ≤ bytes.length)
    (haddressable : bytes.length < 2 ^ 64)
    (hwrite : ∀ window : List UInt8, window.length = payload.length → write window = .ok payload) :
    writeBoundedCell kind bytes position payload.length write = .ok (splice bytes position.offset new) := by
  rw [writeBoundedCell, boundedCellLen_eq_ok.mpr ⟨new, hnew, rfl⟩, ok_bind, checkPositionLen_of hlength, ok_bind,
    cellBytesMut]
  obtain ⟨hfits, rfl⟩ := Tds.wire_eq_some.mp hnew
  have hle : payload.length ≤ 0xfffe := hfits
  apply modifyCell_of hlength hinside haddressable
  intro window hw
  have hw' : window.length = 2 + payload.length := by
    rw [hw, Tds.frame, List.length_append, LittleEndian.length_encode]
  rw [writeU16Prefix_of (by omega) (by omega), ok_bind, modifyRange_next (by simp [boundedLenPrefixLen])
    (by rw [length_splice (by simp; omega), hw']; simp) (by simp; omega) hwrite, splice_all (by simp; omega)]
  rfl

theorem writePlpTerminator_of {dst done : List UInt8} (hdst : dst.length = done.length + 4) :
    writePlpTerminator (splice dst 0 done) done.length = .ok (done ++ LittleEndian.encode 4 0) := by
  rw [writePlpTerminator, if_pos (by rw [length_splice (by omega)]; omega), modifyRange_next rfl
    (by simp [plpTerminatorLen]) (by simp; omega) fun _ hw => copyFromSlice_of_length hw, splice_all (by simp; omega)]

theorem writePlpCell_of {kind : String} (hnew : Tds.wire .plp (some payload) = some new)
    (hlength : position.len = new.length) (hinside : position.offset + position.len ≤ bytes.length)
    (haddressable : bytes.length < 2 ^ 64)
    (hwrite : ∀ window : List UInt8, window.length = payload.length → write window = .ok payload) :
    writePlpCell kind bytes position payload.length write = .ok (splice bytes position.offset new) := by
  rw [writePlpCell, plpCellLen_eq_ok.mpr ⟨new, hnew, rfl⟩, ok_bind, checkPositionLen_of hlength, ok_bind,
    cellBytesMut]
  obtain ⟨hfits, rfl⟩ := Tds.wire_eq_some.mp hnew
  have hle : payload.length ≤ 0xffffffff := hfits
  apply modifyCell_of hlength hinside haddressable
  intro window hw
  rw [length_frame_plp] at hw
  have hdone : (LittleEndian.encode 8 0xfffffffffffffffe ++ LittleEndian.encode 4 payload.length ++
    payload).length = 12 + payload.length := by simp; omega
  rw [writePlpHeader_of hle (by omega), ok_bind]
  dsimp only
  rw [modifyRange_next (by simp [plpLenPrefixLen, plpChunkLenPrefixLen])
    (by simp [plpLenPrefixLen, plpChunkLenPrefixLen]) (by simp; omega) hwrite, ok_bind,
    show plpLenPrefixLen + plpChunkLenPrefixLen + payload.length = 12 + payload.length from rfl, ← hdone, Tds.frame]
  by_cases hzero : payload = []
  · have hlen : payload.length = 0 := by rw [hzero]; rfl
    rw [if_pos hlen] at hw
    rw [writePlpTerminator, if_neg (by rw [length_splice (by omega)]; omega), splice_all (by omega), if_pos hzero,
      List.append_nil]
  · have hlen : payload.length ≠ 0 := by simpa using hzero
    rw [if_neg hlen] at hw
    rw [writePlpTerminator_of (by omega), if_neg hzero]

section Column

variable {data : Arr α} {column : DirectColumnPlan} {length : MssqlTypeLength} {payloadOf : α → Option (List UInt8)}
  {valueLen : ℕ → α → Result ℕ} {writeValue : List UInt8 → CellPosition → ℕ → α → Result (List UInt8)}
  {appendValue : List UInt8 → ℕ → ℕ → α → Result (List UInt8)} {r : ℕ}

def nullBytes (length : MssqlTypeLength) : List UInt8 := Tds.frame (framing length) none

theorem cellBytes_null (hnull : data.isNull r = true) :
    cellBytes data column length payloadOf r = some bytes ↔ column.nullable = true ∧ bytes = nullBytes length := by
  rw [cellBytes, columnBytes_of_null hnull, nullContent_wire_eq_some, Tds.wire_eq_some]
  cases length <;> simp [framing, Tds.Fits, nullBytes]

theorem cellBytes_value (hnull : data.isNull r = false) : cellBytes data column length payloadOf r = some bytes ↔
    ∃ payload, payloadOf (data.value r) = some payload ∧ Tds.wire (framing length) (some payload) = some bytes := by
  rw [cellBytes, columnBytes_of_value hnull, Option.bind_eq_some_iff]

theorem nullCellLen_eq_ok {n : ℕ} :
    nullCellLen column r length = .ok n ↔ column.nullable = true ∧ n = (nullBytes length).length := by
  simp only [nullCellLen, bind_unit_eq_ok, ensure_eq_ok, pure_eq_ok, Except.ok.injEq]
  cases length <;> exact and_congr_right fun _ => eq_comm

theorem writeNullCell_of (hnullable : column.nullable = true) (hlength : position.len = (nullBytes length).length)
    (hinside : position.offset + position.len ≤ bytes.length) (haddressable : bytes.length < 2 ^ 64) :
    writeNullCell bytes position column r length = .ok (splice bytes position.offset (nullBytes length)) := by
  rw [writeNullCell, nullCellLen_eq_ok.mpr ⟨hnullable, rfl⟩, ok_bind, checkPositionLen_of hlength, ok_bind,
    cellBytesMut]
  apply modifyCell_of hlength hinside haddressable
  intro window hw
  cases length <;> apply copyFromSlice_of_length hw

theorem appendNullCell_of (hnullable : column.nullable = true) (buf : List UInt8) :
    appendNullCell buf column r (nullBytes length).length length = .ok (buf ++ nullBytes length) := by
  unfold appendNullCell
  rw [nullCellLen_eq_ok.mpr ⟨hnullable, rfl⟩, ok_bind, ensure_of rfl, ok_bind, pure_eq_ok]
  cases length <;> rfl

theorem variableWidth_law
    (hmeasure : ∀ r v n, valueLen r v = .ok n ↔ ∃ payload, payloadOf v = some payload ∧
      ∃ bytes, Tds.wire (framing length) (some payload) = some bytes ∧ n = bytes.length)
    (hwrite : ∀ r v payload new position bytes, payloadOf v = some payload →
      Tds.wire (framing length) (some payload) = some new → position.len = new.length →
      position.offset + position.len ≤ bytes.length → bytes.length < 2 ^ 64 →
      writeValue bytes position r v = .ok (splice bytes position.offset new))
    (happend : ∀ r v payload bytes buf, payloadOf v = some payload →
      Tds.wire (framing length) (some payload) = some bytes →
      appendValue buf r bytes.length v = .ok (buf ++ bytes)) :
    ColumnLaw data.len (cellBytes data column length payloadOf)
      (fun slot cellLengths => measureColumn data.len slot cellLengths (cellLen data column length valueLen))
      (fun slot layout bytes => fillColumn data.len slot layout bytes cellPosition
        (fillCell data column length writeValue))
      (appendCell data column length appendValue) := by
  apply ColumnLaw.of_cells
  · intro r n
    unfold cellLen
    split
    case isTrue hnull => simp [nullCellLen_eq_ok, cellBytes_null hnull]
    case isFalse hnull =>
      rw [hmeasure]
      simp only [cellBytes_value (Bool.eq_false_iff.mpr hnull)]
      constructor
      · rintro ⟨payload, hpayload, bytes, hbytes, rfl⟩
        exact ⟨bytes, ⟨payload, hpayload, hbytes⟩, rfl⟩
      · rintro ⟨bytes, ⟨payload, hpayload, hbytes⟩, rfl⟩
        exact ⟨payload, hpayload, bytes, hbytes, rfl⟩
  · intro r new position bytes hnew hlength hinside haddressable
    unfold fillCell
    split
    case isTrue hnull =>
      obtain ⟨hnullable, rfl⟩ := (cellBytes_null hnull).mp hnew
      apply writeNullCell_of hnullable hlength hinside haddressable
    case isFalse hnull =>
      obtain ⟨payload, hpayload, hwire⟩ := (cellBytes_value (Bool.eq_false_iff.mpr hnull)).mp hnew
      apply hwrite r _ payload new position bytes hpayload hwire hlength hinside haddressable
  · intro r bytes buf h
    unfold appendCell
    split
    case isTrue hnull =>
      obtain ⟨hnullable, rfl⟩ := (cellBytes_null hnull).mp h
      apply appendNullCell_of hnullable
    case isFalse hnull =>
      obtain ⟨payload, hpayload, hwire⟩ := (cellBytes_value (Bool.eq_false_iff.mpr hnull)).mp h
      apply happend r _ payload bytes buf hpayload hwire

end Column

section Members

variable {column : DirectColumnPlan} {length : MssqlTypeLength} {r : ℕ}

theorem nvarcharPayload_eq_some {value : String} : nvarcharPayload length value = some payload ↔
    exceedsLength length (Utf16.encode value.toList).length = false ∧ payload = Tds.encodeUtf16 value := by
  unfold nvarcharPayload
  split <;> simp [*, eq_comm]

theorem varbinaryPayload_eq_some {value : List UInt8} : varbinaryPayload length value = some payload ↔
    exceedsLength length value.length = false ∧ payload = value := by
  unfold varbinaryPayload
  split <;> simp [*, eq_comm]

theorem exceedsLength_bounded {limit n : ℕ} : exceedsLength (.bounded limit) n = false ↔ ¬n > limit := by
  simp [exceedsLength]

theorem mulLen_of_lt {lhs rhs : ℕ} (h : lhs * rhs < 2 ^ 64) : mulLen lhs rhs = .ok (lhs * rhs) := by
  rw [mulLen, checkedMul_of_lt h, okOr_some]

theorem length_le_of_wire {framing : MssqlTypeLength} (h : Tds.wire (VariableWidth.framing framing) (some payload) =
    some bytes) : payload.length ≤ 0xffffffff := by
  obtain ⟨hfits, -⟩ := Tds.wire_eq_some.mp h
  cases framing with
  | bounded limit =>
    have hle : payload.length ≤ 0xfffe := hfits
    omega
  | max => exact hfits

theorem nvarcharValueLen_eq_ok {value : String} {n : ℕ} : nvarcharValueLen column length r value = .ok n ↔
    ∃ payload, nvarcharPayload length value = some payload ∧
      ∃ bytes, Tds.wire (framing length) (some payload) = some bytes ∧ n = bytes.length := by
  have hdouble : (Utf16.encode value.toList).length * 2 = (Tds.encodeUtf16 value).length := by simp [Nat.mul_comm]
  simp only [nvarcharPayload_eq_some]
  constructor
  · intro h
    obtain ⟨encodedBytes, hmul, h⟩ := bind_eq_ok.mp h
    have hmul' : encodedBytes = (Tds.encodeUtf16 value).length := by
      rw [mulLen, okOr_eq_ok, checkedMul_eq_some, hdouble] at hmul
      exact hmul.2
    subst hmul'
    cases length with
    | bounded limit =>
      obtain ⟨hlimit, h⟩ := bind_unit_eq_ok.mp h
      exact ⟨_, ⟨exceedsLength_bounded.mpr (ensure_eq_ok.mp hlimit), rfl⟩, boundedCellLen_eq_ok.mp h⟩
    | max => exact ⟨_, ⟨rfl, rfl⟩, plpCellLen_eq_ok.mp h⟩
  · rintro ⟨_, ⟨hlimit, rfl⟩, bytes, hbytes, rfl⟩
    have hle := length_le_of_wire hbytes
    rw [nvarcharValueLen, mulLen_of_lt (by omega), ok_bind, hdouble]
    cases length with
    | bounded limit =>
      dsimp only
      rw [ensure_of (exceedsLength_bounded.mp hlimit), ok_bind]
      exact boundedCellLen_eq_ok.mpr ⟨bytes, hbytes, rfl⟩
    | max => exact plpCellLen_eq_ok.mpr ⟨bytes, hbytes, rfl⟩

theorem varbinaryValueLen_eq_ok {value : List UInt8} {n : ℕ} : varbinaryValueLen column length r value = .ok n ↔
    ∃ payload, varbinaryPayload length value = some payload ∧
      ∃ bytes, Tds.wire (framing length) (some payload) = some bytes ∧ n = bytes.length := by
  simp only [varbinaryPayload_eq_some]
  constructor
  · intro h
    cases length with
    | bounded limit =>
      obtain ⟨hlimit, h⟩ := bind_unit_eq_ok.mp h
      exact ⟨_, ⟨exceedsLength_bounded.mpr (ensure_eq_ok.mp hlimit), rfl⟩, boundedCellLen_eq_ok.mp h⟩
    | max => exact ⟨_, ⟨rfl, rfl⟩, plpCellLen_eq_ok.mp h⟩
  · rintro ⟨_, ⟨hlimit, rfl⟩, bytes, hbytes, rfl⟩
    unfold varbinaryValueLen
    cases length with
    | bounded limit =>
      dsimp only
      rw [ensure_of (exceedsLength_bounded.mp hlimit), ok_bind]
      exact boundedCellLen_eq_ok.mpr ⟨bytes, hbytes, rfl⟩
    | max => exact plpCellLen_eq_ok.mpr ⟨bytes, hbytes, rfl⟩

theorem length_frame_short (payload : List UInt8) :
    (Tds.frame .shortPrefixed (some payload)).length = 2 + payload.length := by
  rw [Tds.frame, List.length_append, LittleEndian.length_encode]

theorem writeNvarcharCell_of {value : String} (hpayload : nvarcharPayload length value = some payload)
    (hnew : Tds.wire (framing length) (some payload) = some new) (hlength : position.len = new.length)
    (hinside : position.offset + position.len ≤ bytes.length) (haddressable : bytes.length < 2 ^ 64) :
    writeNvarcharCell column length bytes position r value = .ok (splice bytes position.offset new) := by
  obtain ⟨hlimit, rfl⟩ := nvarcharPayload_eq_some.mp hpayload
  have heven : (Tds.encodeUtf16 value).length % 2 = 0 := by simp
  have hwrite (window : List UInt8) (hw : window.length = (Tds.encodeUtf16 value).length) :
      (.ok (writeUtf16le window (Utf16.encode value.toList)) : Result (List UInt8)) =
        .ok (Tds.encodeUtf16 value) := by
    rw [writeUtf16le_of_length (hw.trans (Tds.length_encodeUtf16 value))]
    rfl
  cases length with
  | bounded limit =>
    obtain ⟨-, rfl⟩ := Tds.wire_eq_some.mp hnew
    have hhalf : (Tds.encodeUtf16 value).length / 2 = (Utf16.encode value.toList).length := by simp
    simp only [writeNvarcharCell, boundedNvarcharEncodedBytes]
    rw [hlength, framing, length_frame_short, boundedEncodedBytes_of heven, ok_bind, hhalf,
      ensure_of (exceedsLength_bounded.mp hlimit), ok_bind]
    exact writeBoundedCell_of hnew hlength hinside haddressable hwrite
  | max =>
    obtain ⟨-, rfl⟩ := Tds.wire_eq_some.mp hnew
    simp only [writeNvarcharCell, plpNvarcharEncodedBytes]
    rw [hlength, framing, length_frame_plp, plpEncodedBytes_of heven, ok_bind]
    exact writePlpCell_of hnew hlength hinside haddressable hwrite

theorem writeVarbinaryCell_of {value : List UInt8} (hpayload : varbinaryPayload length value = some payload)
    (hnew : Tds.wire (framing length) (some payload) = some new) (hlength : position.len = new.length)
    (hinside : position.offset + position.len ≤ bytes.length) (haddressable : bytes.length < 2 ^ 64) :
    writeVarbinaryCell column length bytes position r value = .ok (splice bytes position.offset new) := by
  obtain ⟨hlimit, rfl⟩ := varbinaryPayload_eq_some.mp hpayload
  have hwrite (window : List UInt8) (hw : window.length = payload.length) :
      (copyFromSlice window payload : Result (List UInt8)) = .ok payload := copyFromSlice_of_length hw
  cases length with
  | bounded limit =>
    simp only [writeVarbinaryCell]
    rw [ensure_of (exceedsLength_bounded.mp hlimit), ok_bind]
    exact writeBoundedCell_of hnew hlength hinside haddressable hwrite
  | max => exact writePlpCell_of hnew hlength hinside haddressable hwrite

theorem checkShortLen_of {n : ℕ} (h : n ≤ 0xfffe) : checkShortLen n = .ok () := ensure_of (by omega)

theorem appendPlpTerminator_eq (buf payload : List UInt8) : appendPlpTerminator buf payload.length =
    buf ++ if payload = [] then [] else LittleEndian.encode 4 0 := by
  unfold appendPlpTerminator
  by_cases h : payload = []
  · simp [h]
  · have hlen : payload.length ≠ 0 := by simpa using h
    rw [if_pos hlen, if_neg h]

theorem appendPlpHeader_of {n : ℕ} (h : n ≤ 0xffffffff) (buf : List UInt8) : appendPlpHeader buf n =
    .ok (buf ++ LittleEndian.encode 8 0xfffffffffffffffe ++ LittleEndian.encode 4 n) := by
  have hcheck : checkPlpChunkLen n = .ok () := ensure_of h
  rw [appendPlpHeader, hcheck, ok_bind, pure_eq_ok]

theorem appendNvarcharValue_of {value : String} (hpayload : nvarcharPayload length value = some payload)
    (hbytes : Tds.wire (framing length) (some payload) = some bytes) (buf : List UInt8) :
    appendNvarcharValue column length buf r bytes.length value = .ok (buf ++ bytes) := by
  obtain ⟨hlimit, rfl⟩ := nvarcharPayload_eq_some.mp hpayload
  have heven : (Tds.encodeUtf16 value).length % 2 = 0 := by simp
  obtain ⟨hfits, rfl⟩ := Tds.wire_eq_some.mp hbytes
  cases length with
  | bounded limit =>
    have hhalf : (Tds.encodeUtf16 value).length / 2 = (Utf16.encode value.toList).length := by simp
    simp only [appendNvarcharValue]
    rw [framing, length_frame_short, boundedEncodedBytes_of heven, ok_bind, hhalf,
      ensure_of (exceedsLength_bounded.mp hlimit), ok_bind, appendBoundedNvarcharCell, checkShortLen_of hfits,
      ok_bind, pure_eq_ok, appendUtf16le_eq, List.append_assoc]
    rfl
  | max =>
    simp only [appendNvarcharValue, plpNvarcharEncodedBytesFromLen]
    rw [framing, length_frame_plp, plpEncodedBytes_of heven, ok_bind, appendPlpNvarcharCell,
      appendPlpHeader_of hfits, ok_bind, pure_eq_ok, appendUtf16le_eq, appendPlpTerminator_eq, Tds.frame]
    simp only [List.append_assoc]

theorem appendVarbinaryValue_of {value : List UInt8} (hpayload : varbinaryPayload length value = some payload)
    (hbytes : Tds.wire (framing length) (some payload) = some bytes) (buf : List UInt8) :
    appendVarbinaryValue column length buf r bytes.length value = .ok (buf ++ bytes) := by
  obtain ⟨hlimit, rfl⟩ := varbinaryPayload_eq_some.mp hpayload
  obtain ⟨hfits, rfl⟩ := Tds.wire_eq_some.mp hbytes
  cases length with
  | bounded limit =>
    simp only [appendVarbinaryValue]
    rw [ensure_of (exceedsLength_bounded.mp hlimit), ok_bind, appendBoundedPayloadCell,
      boundedCellLen_eq_ok.mpr ⟨_, hbytes, rfl⟩, ok_bind, ensure_of rfl, ok_bind, checkShortLen_of hfits, ok_bind,
      pure_eq_ok, List.append_assoc]
    rfl
  | max =>
    simp only [appendVarbinaryValue]
    rw [appendPlpPayloadCell, plpCellLen_eq_ok.mpr ⟨_, hbytes, rfl⟩, ok_bind, ensure_of rfl, ok_bind,
      appendPlpHeader_of hfits, ok_bind, pure_eq_ok, appendPlpTerminator_eq, framing, Tds.frame]
    simp only [List.append_assoc]

variable [Externals]

theorem nvarchar_law {data : Arr String} (h : column.encoding = .variableWidth (.stringToNVarChar length)) :
    ColumnLaw data.len (cellBytes data column length (nvarcharPayload length))
      (measureNvarcharColumnCellLengths data column) (fillNvarcharColumn data column)
      (appendNvarcharCell data column) := by
  have hlength (action : String) : nvarcharLength column action = .ok length := by rw [nvarcharLength, h]
  unfold measureNvarcharColumnCellLengths fillNvarcharColumn appendNvarcharCell
  simp only [hlength, ok_bind]
  apply variableWidth_law
  · intro r v n
    exact nvarcharValueLen_eq_ok
  · intro r v payload new position bytes hpayload hnew hlength hinside haddressable
    exact writeNvarcharCell_of hpayload hnew hlength hinside haddressable
  · intro r v payload bytes buf hpayload hbytes
    exact appendNvarcharValue_of hpayload hbytes buf

theorem varbinary_law {data : Arr (List UInt8)} (h : column.encoding = .variableWidth (.bytesToVarBinary length)) :
    ColumnLaw data.len (cellBytes data column length (varbinaryPayload length))
      (measureVarbinaryColumnCellLengths data column) (fillVarbinaryColumn data column)
      (appendVarbinaryCell data column) := by
  have hlength (action : String) : varbinaryLength column action = .ok length := by rw [varbinaryLength, h]
  unfold measureVarbinaryColumnCellLengths fillVarbinaryColumn appendVarbinaryCell
  simp only [hlength, ok_bind]
  apply variableWidth_law
  · intro r v n
    exact varbinaryValueLen_eq_ok
  · intro r v payload new position bytes hpayload hnew hlength hinside haddressable
    exact writeVarbinaryCell_of hpayload hnew hlength hinside haddressable
  · intro r v payload bytes buf hpayload hbytes
    exact appendVarbinaryValue_of hpayload hbytes buf

end Members

end Law

end ArrowTiberius.Direct.VariableWidth
