import ArrowTiberius.Direct.Column

namespace ArrowTiberius.Direct.FixedSizeBinary

open Checked Tiling

def lenPrefixLen : ℕ := 2

def addLen (lhs rhs : ℕ) : Result ℕ :=
  okOr (checkedAdd 64 lhs rhs) (invalidPayload
    s!"direct fixed-size binary row payload length overflow while adding {lhs} and {rhs}")

def binaryLength : FixedSizeBinaryArrowToMssql → ℕ
  | .fixedSizeBinaryToBinary length => length

def nullCellLen (column : DirectColumnPlan) (rowIndex : ℕ) : Result ℕ := do
  ensure column.nullable (columnError column rowIndex .nullInNonNullableColumn
    "null value in non-nullable direct fixed-size binary column")
  pure lenPrefixLen

def nonNullCellLen (length : ℕ) : Result ℕ := addLen lenPrefixLen length

def validateBinaryValueLen (value : List UInt8) (column : DirectColumnPlan) (rowIndex expectedLen : ℕ) : Result Unit :=
  ensure (value.length = expectedLen) (columnError column rowIndex .valueTypeMismatch
    s!"fixed-size binary value has {value.length} byte(s), but planned {column.targetType.toSql} requires exactly {
      expectedLen}")

def cellBytesMut : List UInt8 → CellPosition → (List UInt8 → Result (List UInt8)) → Result (List UInt8) :=
  modifyCell "fixed-size binary cell end overflowed usize" "fixed-size binary cell position is outside payload"

def cellPosition (layout : RowLayout) (slot : ColumnSlot) (rowIndex : ℕ) : Result CellPosition :=
  cellPositionOr (invalidPayload "fixed-size binary layout cell index overflowed usize")
    (invalidPayload s!"fixed-size binary cell position missing for row {rowIndex} column {slot.columnIndex}") layout slot
    rowIndex

def checkLength (length : ℕ) : Result Unit :=
  ensure (length < 2 ^ 16) (invalidPayload "fixed-size binary length does not fit u16")

def writeLenPrefix (bytes : List UInt8) (length : ℕ) : Result (List UInt8) := do
  checkLength length
  modifyRange bytes 0 lenPrefixLen fun dst => copyFromSlice dst (LittleEndian.encode 2 length)

def writeNullCell (bytes : List UInt8) (cell : CellPosition) (column : DirectColumnPlan) (rowIndex : ℕ) :
    Result (List UInt8) := do
  let expectedLen ← nullCellLen column rowIndex
  checkPositionLen "null fixed-size binary cell" cell expectedLen
  cellBytesMut bytes cell fun dst => copyFromSlice dst (LittleEndian.encode 2 0xffff)

def writeBinaryCell (bytes : List UInt8) (cell : CellPosition) (column : DirectColumnPlan)
    (rowIndex expectedValueLen : ℕ) (value : List UInt8) : Result (List UInt8) := do
  validateBinaryValueLen value column rowIndex expectedValueLen
  let expectedCellLen ← nonNullCellLen expectedValueLen
  checkPositionLen "fixed-size binary cell" cell expectedCellLen
  cellBytesMut bytes cell fun dst => do
    let dst ← writeLenPrefix dst expectedValueLen
    modifyRange dst lenPrefixLen dst.length fun dst => copyFromSlice dst value

def checkMeasuredLen (kind : String) (column : DirectColumnPlan) (rowIndex measuredLen expectedLen : ℕ) :
    Result Unit :=
  ensure (measuredLen = expectedLen) (invalidPayload s!"measured {kind} at row {rowIndex} column {
    column.sourceName} has length {measuredLen}, expected {expectedLen}")

def writeLenPrefixToBuffer (buf : List UInt8) (length : ℕ) : Result (List UInt8) := do
  checkLength length
  pure (buf ++ LittleEndian.encode 2 length)

section Column

variable (data : Arr (List UInt8)) (column : DirectColumnPlan) (classification : FixedSizeBinaryArrowToMssql)

def measureFixedSizeBinaryColumnCellLengths (slot : ColumnSlot) (cellLengths : List ℕ) : Result (List ℕ) :=
  measureColumn data.len slot cellLengths fun rowIndex =>
    if data.isNull rowIndex then nullCellLen column rowIndex
    else do
      validateBinaryValueLen (data.value rowIndex) column rowIndex (binaryLength classification)
      nonNullCellLen (binaryLength classification)

def fillFixedSizeBinaryColumn (slot : ColumnSlot) (layout : RowLayout) (bytes : List UInt8) : Result (List UInt8) :=
  fillColumn data.len slot layout bytes cellPosition fun rowIndex cell bytes =>
    if data.isNull rowIndex then writeNullCell bytes cell column rowIndex
    else writeBinaryCell bytes cell column rowIndex (binaryLength classification) (data.value rowIndex)

def appendFixedSizeBinaryCell (buf : List UInt8) (rowIndex measuredLen : ℕ) : Result (List UInt8) :=
  if data.isNull rowIndex then do
    let expectedLen ← nullCellLen column rowIndex
    checkMeasuredLen "null fixed-size binary cell" column rowIndex measuredLen expectedLen
    pure (buf ++ LittleEndian.encode 2 0xffff)
  else do
    validateBinaryValueLen (data.value rowIndex) column rowIndex (binaryLength classification)
    let expectedLen ← nonNullCellLen (binaryLength classification)
    checkMeasuredLen "fixed-size binary cell" column rowIndex measuredLen expectedLen
    let buf ← writeLenPrefixToBuffer buf (binaryLength classification)
    pure (buf ++ data.value rowIndex)

end Column

section Law

variable {data : Arr (List UInt8)} {column : DirectColumnPlan} {length r : ℕ} {bytes : List UInt8}
  {position : CellPosition}

def payload (length : ℕ) (value : List UInt8) : Option (List UInt8) := if value.length = length then some value else none

def cellBytes (data : Arr (List UInt8)) (column : DirectColumnPlan) (length : ℕ) : ℕ → Option (List UInt8) :=
  columnBytes .shortPrefixed (columnContent (nullContent column) data (payload length))

def nullBytes : List UInt8 := LittleEndian.encode 2 0xffff

theorem cellBytes_null (hnull : data.isNull r = true) :
    cellBytes data column length r = some bytes ↔ column.nullable = true ∧ bytes = nullBytes := by
  rw [cellBytes, columnBytes_of_null hnull, nullContent_wire_eq_some, Tds.wire_eq_some]
  exact and_congr_right fun _ => ⟨fun h => h.2, fun h => ⟨trivial, h⟩⟩

theorem cellBytes_value (hlength : length ≤ 0xfffe) (hnull : data.isNull r = false) :
    cellBytes data column length r = some bytes ↔
      (data.value r).length = length ∧ bytes = LittleEndian.encode 2 length ++ data.value r := by
  rw [cellBytes, columnBytes_of_value hnull, payload]
  by_cases hvalue : (data.value r).length = length
  · have hfits : Tds.Fits .shortPrefixed (some (data.value r)) := by
      rw [← hvalue] at hlength
      exact hlength
    rw [if_pos hvalue, Option.bind_some, Tds.wire_eq_some, Tds.frame, hvalue]
    exact ⟨fun h => ⟨rfl, h.2⟩, fun h => ⟨hfits, h.2⟩⟩
  · simp [hvalue]

theorem nullCellLen_eq_ok {n : ℕ} : nullCellLen column r = .ok n ↔ column.nullable = true ∧ n = nullBytes.length := by
  simp only [nullCellLen, bind_unit_eq_ok, ensure_eq_ok, pure_eq_ok, Except.ok.injEq]
  exact and_congr_right fun _ => eq_comm

theorem validateBinaryValueLen_eq_ok {value : List UInt8} {u : Unit} :
    validateBinaryValueLen value column r length = .ok u ↔ value.length = length := ensure_eq_ok

theorem nonNullCellLen_of (hlength : length < 2 ^ 16) : nonNullCellLen length = .ok (2 + length) := by
  rw [nonNullCellLen, addLen, checkedAdd_of_lt (by simp only [lenPrefixLen]; omega), okOr_some, lenPrefixLen]

theorem nonNullCellLen_eq_ok {n : ℕ} : nonNullCellLen length = .ok n ↔ 2 + length < 2 ^ 64 ∧ n = 2 + length := by
  rw [nonNullCellLen, addLen, okOr_eq_ok, checkedAdd_eq_some, lenPrefixLen]

def piece (data : Arr (List UInt8)) (column : DirectColumnPlan) (length rowIndex : ℕ) : Option (List UInt8) :=
  if data.isNull rowIndex then if column.nullable then some nullBytes else none
  else if (data.value rowIndex).length = length ∧ 2 + length < 2 ^ 64 then
    some (LittleEndian.encode 2 length ++ data.value rowIndex)
  else none

def cellLength (data : Arr (List UInt8)) (column : DirectColumnPlan) (length rowIndex : ℕ) : Option ℕ :=
  if data.isNull rowIndex then if column.nullable then some lenPrefixLen else none
  else if (data.value rowIndex).length = length ∧ 2 + length < 2 ^ 64 then some (2 + length) else none

theorem length_piece : (piece data column length r).map List.length = cellLength data column length r := by
  unfold piece cellLength
  by_cases hnull : data.isNull r = true
  · rw [if_pos hnull, if_pos hnull]
    split <;> rfl
  · rw [if_neg hnull, if_neg hnull]
    split
    case isTrue h => rw [Option.map_some, List.length_append, LittleEndian.length_encode, h.1]
    case isFalse => rfl

theorem measures_cellLength : MeasuresColumn data.len (cellLength data column length)
    (measureFixedSizeBinaryColumnCellLengths data column (.fixedSizeBinaryToBinary length)) := by
  intro k columns entry cellLengths hk
  apply measureColumn_table hk
  intro r _ n
  unfold cellLength
  split
  case isTrue =>
    rw [nullCellLen_eq_ok]
    split
    case isTrue hnullable => exact ⟨fun h => congrArg some h.2.symm, fun h => ⟨hnullable, (Option.some.inj h).symm⟩⟩
    case isFalse hnullable => exact ⟨fun h => absurd h.1 hnullable, fun h => by cases h⟩
  case isFalse =>
    rw [bind_unit_eq_ok, validateBinaryValueLen_eq_ok, binaryLength, nonNullCellLen_eq_ok]
    split
    case isTrue h => exact ⟨fun hn => congrArg some hn.2.2.symm, fun hn => ⟨h.1, h.2, (Option.some.inj hn).symm⟩⟩
    case isFalse h => exact ⟨fun hn => absurd ⟨hn.1, hn.2.1⟩ h, fun hn => by cases hn⟩

theorem checkLength_of (hlength : length < 2 ^ 16) : checkLength length = .ok () := ensure_of hlength

theorem append_value {buf : List UInt8} (hlength : length < 2 ^ 16) (hnull : data.isNull r = false)
    (hvalue : (data.value r).length = length) :
    appendFixedSizeBinaryCell data column (.fixedSizeBinaryToBinary length) buf r (2 + length) =
      .ok (buf ++ (LittleEndian.encode 2 length ++ data.value r)) := by
  rw [appendFixedSizeBinaryCell, if_neg (Bool.eq_false_iff.mp hnull), validateBinaryValueLen, binaryLength,
    ensure_of hvalue, ok_bind, nonNullCellLen_of hlength, ok_bind, checkMeasuredLen, ensure_of rfl, ok_bind,
    writeLenPrefixToBuffer, checkLength_of hlength, ok_bind, pure_eq_ok, ok_bind, pure_eq_ok, List.append_assoc]

theorem writeNullCell_of (hnullable : column.nullable = true) (hlength : position.len = nullBytes.length)
    (hinside : position.offset + position.len ≤ bytes.length) (haddressable : bytes.length < 2 ^ 64) :
    writeNullCell bytes position column r = .ok (splice bytes position.offset nullBytes) := by
  rw [writeNullCell, nullCellLen_eq_ok.mpr ⟨hnullable, rfl⟩, ok_bind, checkPositionLen_of hlength, ok_bind,
    cellBytesMut]
  apply modifyCell_of hlength hinside haddressable
  intro window hw
  exact copyFromSlice_of_length hw

theorem writeBinaryCell_of {value : List UInt8} (hvalue : value.length = length) (hlimit : length < 2 ^ 16)
    (hlength : position.len = (LittleEndian.encode 2 length ++ value).length)
    (hinside : position.offset + position.len ≤ bytes.length) (haddressable : bytes.length < 2 ^ 64) :
    writeBinaryCell bytes position column r length value =
      .ok (splice bytes position.offset (LittleEndian.encode 2 length ++ value)) := by
  have hlen : position.len = 2 + length := by
    rw [hlength, List.length_append, LittleEndian.length_encode, hvalue]
  rw [writeBinaryCell, validateBinaryValueLen, ensure_of hvalue, ok_bind, nonNullCellLen_of hlimit, ok_bind,
    checkPositionLen_of hlen, ok_bind, cellBytesMut]
  apply modifyCell_of hlength hinside haddressable
  intro window hw
  have hw' : window.length = 2 + length := by
    rw [hw, List.length_append, LittleEndian.length_encode, hvalue]
  have hlenPrefix : writeLenPrefix window length = .ok (splice window 0 (LittleEndian.encode 2 length)) := by
    rw [writeLenPrefix, checkLength_of hlimit, ok_bind]
    apply modifyRange_of_le (by decide) (by simp only [lenPrefixLen]; omega)
    intro dst hdst
    apply copyFromSlice_of_length (by rw [hdst]; simp [lenPrefixLen])
  rw [hlenPrefix, ok_bind, modifyRange_next (by simp [lenPrefixLen])
    (by rw [length_splice (by simp; omega), hw', hvalue]; simp) (by simp; omega)
    fun _ hdst => copyFromSlice_of_length hdst, splice_all (by simp; omega)]

theorem writeBinaryCell_of_long {value : List UInt8} (hvalue : value.length = length) (hlong : ¬length < 2 ^ 16)
    (hlength : position.len = 2 + length) (hinside : position.offset + position.len ≤ bytes.length)
    (haddressable : bytes.length < 2 ^ 64) : writeBinaryCell bytes position column r length value =
      fail (invalidPayload "fixed-size binary length does not fit u16") := by
  have hmeasured : nonNullCellLen length = .ok (2 + length) := nonNullCellLen_eq_ok.mpr ⟨by omega, rfl⟩
  rw [writeBinaryCell, validateBinaryValueLen, ensure_of hvalue, ok_bind, hmeasured, ok_bind,
    checkPositionLen_of hlength, ok_bind, cellBytesMut, modifyCell, checkedAdd_of_lt (by omega), okOr_some, ok_bind,
    ensure_of hinside, ok_bind, modifyRange, if_pos ⟨by omega, hinside⟩, writeLenPrefix, checkLength,
    ensure, if_neg hlong, fail_bind, fail_bind, fail_bind]

theorem fills_piece (hshort : ∀ r < data.len, data.isNull r = false → length < 2 ^ 16) :
    FillsColumn data.len (piece data column length)
      (fillFixedSizeBinaryColumn data column (.fixedSizeBinaryToBinary length)) := by
  intro k columns len layout cell new hk hlays hcells hfits hlen hnew
  apply fillColumn_grid hk hlays hcells hfits hlen fun r hr => (hnew r hr).2
  intro r hr position bytes hposition hinside haddressable
  obtain ⟨hpiece, -⟩ := hnew r hr
  unfold piece at hpiece
  by_cases hnull : data.isNull r = true
  · rw [if_pos hnull] at hpiece ⊢
    split at hpiece
    case isTrue hnullable =>
      rw [← Option.some.inj hpiece] at hposition ⊢
      exact writeNullCell_of hnullable hposition hinside haddressable
    case isFalse => cases hpiece
  · rw [if_neg hnull] at hpiece ⊢
    split at hpiece
    case isTrue hvalue =>
      rw [← Option.some.inj hpiece] at hposition ⊢
      exact writeBinaryCell_of hvalue.1 (hshort r hr (Bool.eq_false_iff.mpr hnull)) hposition hinside haddressable
    case isFalse => cases hpiece

theorem not_fills_of_long (hlong : ¬length < 2 ^ 16) (hr : r < data.len) (hnull : data.isNull r = false)
    (slot : ColumnSlot) (layout : RowLayout) (bytes out : List UInt8) :
    fillFixedSizeBinaryColumn data column (.fixedSizeBinaryToBinary length) slot layout bytes ≠ .ok out := by
  intro hfilled
  obtain ⟨bytes', out', hturn⟩ := forEach_turn (List.mem_range.mpr hr) hfilled
  obtain ⟨position, -, hcell⟩ := bind_eq_ok.mp hturn
  dsimp only at hcell
  rw [if_neg (Bool.eq_false_iff.mp hnull), writeBinaryCell] at hcell
  obtain ⟨_, -, hcell⟩ := bind_eq_ok.mp hcell
  obtain ⟨_, -, hcell⟩ := bind_eq_ok.mp hcell
  obtain ⟨_, -, hcell⟩ := bind_eq_ok.mp hcell
  obtain ⟨_, -, hcell⟩ := bind_eq_ok.mp hcell
  obtain ⟨_, -, hcell⟩ := bind_eq_ok.mp hcell
  obtain ⟨window, _, hwindow⟩ := window_of_modifyRange hcell
  obtain ⟨_, hprefix, -⟩ := bind_eq_ok.mp hwindow
  obtain ⟨_, hlength, -⟩ := bind_eq_ok.mp hprefix
  exact hlong (ensure_eq_ok.mp hlength)

theorem fixed_size_binary_law (hlimit : length ≤ 0xfffe) :
    ColumnLaw data.len (cellBytes data column length)
      (measureFixedSizeBinaryColumnCellLengths data column (.fixedSizeBinaryToBinary length))
      (fillFixedSizeBinaryColumn data column (.fixedSizeBinaryToBinary length))
      (appendFixedSizeBinaryCell data column (.fixedSizeBinaryToBinary length)) := by
  have hlength : length < 2 ^ 16 := by omega
  apply ColumnLaw.of_cells
  · intro r n
    by_cases hnull : data.isNull r = true
    · simp [hnull, nullCellLen_eq_ok, cellBytes_null hnull]
    · simp only [if_neg hnull, bind_unit_eq_ok, validateBinaryValueLen_eq_ok, binaryLength,
        nonNullCellLen_of hlength, Except.ok.injEq, cellBytes_value hlimit (Bool.eq_false_iff.mpr hnull)]
      constructor
      · rintro ⟨hvalue, rfl⟩
        exact ⟨_, ⟨hvalue, rfl⟩, by simp [hvalue]⟩
      · rintro ⟨_, ⟨hvalue, rfl⟩, rfl⟩
        exact ⟨hvalue, by simp [hvalue]⟩
  · intro r new position bytes hnew hposition hinside haddressable
    by_cases hnull : data.isNull r = true
    · obtain ⟨hnullable, rfl⟩ := (cellBytes_null hnull).mp hnew
      rw [if_pos hnull]
      apply writeNullCell_of hnullable hposition hinside haddressable
    · obtain ⟨hvalue, rfl⟩ := (cellBytes_value hlimit (Bool.eq_false_iff.mpr hnull)).mp hnew
      rw [if_neg hnull]
      apply writeBinaryCell_of hvalue hlength hposition hinside haddressable
  · intro r bytes buf h
    by_cases hnull : data.isNull r = true
    · obtain ⟨hnullable, rfl⟩ := (cellBytes_null hnull).mp h
      rw [appendFixedSizeBinaryCell, if_pos hnull, nullCellLen_eq_ok.mpr ⟨hnullable, rfl⟩, ok_bind,
        checkMeasuredLen, ensure_of rfl, ok_bind,
        pure_eq_ok, nullBytes]
    · obtain ⟨hvalue, rfl⟩ := (cellBytes_value hlimit (Bool.eq_false_iff.mpr hnull)).mp h
      rw [List.length_append, LittleEndian.length_encode, hvalue]
      exact append_value hlength (Bool.eq_false_iff.mpr hnull) hvalue

end Law

end ArrowTiberius.Direct.FixedSizeBinary
