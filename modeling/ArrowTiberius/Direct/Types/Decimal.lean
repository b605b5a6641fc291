import ArrowTiberius.Direct.Column

namespace ArrowTiberius.Direct.Decimal

open Checked Tiling

variable {α : Type}

def nullDecimalCellLen : ℕ := 1

def decimalSignLen : ℕ := 1

def decimalPrecisionFrom (magnitude digits : ℕ) : ℕ :=
  if magnitude ≥ 10 then decimalPrecisionFrom (magnitude / 10) (digits + 1) else digits
termination_by magnitude

def decimalPrecision (magnitude : ℕ) : ℕ := decimalPrecisionFrom magnitude 1

def decimalMagnitudeLen (magnitude : ℕ) : ℕ :=
  let precision := decimalPrecision magnitude
  if 1 ≤ precision ∧ precision ≤ 9 then 4
  else if 10 ≤ precision ∧ precision ≤ 19 then 8
  else if 20 ≤ precision ∧ precision ≤ 28 then 12
  else 16

def decimalValueLen (unscaled : ℤ) : ℕ := decimalSignLen + decimalMagnitudeLen unscaled.natAbs

def decimalCellLen (unscaled : ℤ) : ℕ := nullDecimalCellLen + decimalValueLen unscaled

def decimalSign (unscaled : ℤ) : UInt8 := if unscaled < 0 then 0 else 1

def writeDecimalMagnitude (dst : List UInt8) (magnitude : ℕ) : Result (List UInt8) :=
  match decimalMagnitudeLen magnitude with
  | 4 => copyFromSlice dst (LittleEndian.encode 4 magnitude)
  | 8 => copyFromSlice dst (LittleEndian.encode 8 magnitude)
  | 12 => do
    let dst ← modifyRange dst 0 8 fun dst => copyFromSlice dst (LittleEndian.encode 8 magnitude)
    modifyRange dst 8 12 fun dst => copyFromSlice dst (LittleEndian.encode 4 (magnitude / 2 ^ 64))
  | 16 => copyFromSlice dst (LittleEndian.encode 16 magnitude)
  | other => fail (invalidPayload s!"unsupported decimal magnitude length {other}")

def writeDecimalValue (dst : List UInt8) (unscaled : ℤ) : Result (List UInt8) := do
  let dst ← setIndex dst 0 (UInt8.ofNat (decimalValueLen unscaled))
  let dst ← setIndex dst 1 (decimalSign unscaled)
  modifyRange dst 2 dst.length fun dst => writeDecimalMagnitude dst unscaled.natAbs

def writeNullDecimalCell (dst : List UInt8) : Result (List UInt8) := do
  ensure (dst.length = nullDecimalCellLen) (invalidPayload
    s!"null decimal cell has length {dst.length}, expected {nullDecimalCellLen}")
  setIndex dst 0 0

def writeDecimalCell (dst : List UInt8) (unscaled : ℤ) : Result (List UInt8) := do
  ensure (dst.length = decimalCellLen unscaled) (invalidPayload
    s!"decimal cell has length {dst.length}, expected {decimalCellLen unscaled}")
  writeDecimalValue dst unscaled

def appendNullDecimalCell (buf : List UInt8) : List UInt8 := buf ++ [0]

def appendDecimalMagnitude (buf : List UInt8) (magnitude : ℕ) : Result (List UInt8) :=
  match decimalMagnitudeLen magnitude with
  | 4 => .ok (buf ++ LittleEndian.encode 4 magnitude)
  | 8 => .ok (buf ++ LittleEndian.encode 8 magnitude)
  | 12 => .ok (buf ++ LittleEndian.encode 8 magnitude ++ LittleEndian.encode 4 (magnitude / 2 ^ 64))
  | 16 => .ok (buf ++ LittleEndian.encode 8 magnitude ++ LittleEndian.encode 8 (magnitude / 2 ^ 64))
  | other => fail (invalidPayload s!"unsupported decimal magnitude length {other}")

def appendDecimalCell (buf : List UInt8) (unscaled : ℤ) : Result (List UInt8) :=
  appendDecimalMagnitude (buf ++ [UInt8.ofNat (decimalValueLen unscaled)] ++ [decimalSign unscaled]) unscaled.natAbs

section Family

variable (kind : String) (data : Arr α) (column : DirectColumnPlan) (value : α → ℕ → Result ℤ)

def nullCellLen (rowIndex : ℕ) : Result ℕ := do
  ensure column.nullable (columnError column rowIndex .nullInNonNullableColumn
    s!"null value in non-nullable direct {kind} column")
  pure nullDecimalCellLen

def valueCellLen (rowIndex : ℕ) : Result ℕ :=
  if data.isNull rowIndex then nullCellLen kind column rowIndex
  else do
    let unscaled ← value (data.value rowIndex) rowIndex
    pure (decimalCellLen unscaled)

def cellBytesMut (bytes : List UInt8) (cell : CellPosition) :
    (List UInt8 → Result (List UInt8)) → Result (List UInt8) :=
  modifyCell s!"{kind} cell end overflowed usize" s!"{kind} cell range is outside payload" bytes cell

def writeNullCell (bytes : List UInt8) (cell : CellPosition) (rowIndex : ℕ) : Result (List UInt8) := do
  let expectedLen ← nullCellLen kind column rowIndex
  checkPositionLen s!"null {kind} cell" cell expectedLen
  cellBytesMut kind bytes cell writeNullDecimalCell

def writeCell (onError : Error → Error) (bytes : List UInt8) (cell : CellPosition) (unscaled : ℤ) :
    Result (List UInt8) := do
  checkPositionLen s!"{kind} cell" cell (decimalCellLen unscaled)
  cellBytesMut kind bytes cell fun cellBytes => mapError onError (writeDecimalCell cellBytes unscaled)

def fillCell (onError : Error → Error) (rowIndex : ℕ) (cell : CellPosition) (bytes : List UInt8) :
    Result (List UInt8) :=
  if data.isNull rowIndex then writeNullCell kind column bytes cell rowIndex
  else do
    let unscaled ← value (data.value rowIndex) rowIndex
    writeCell kind onError bytes cell unscaled

def checkMeasuredLen (cell : String) (rowIndex measuredLen expectedLen : ℕ) : Result Unit :=
  ensure (measuredLen = expectedLen) (invalidPayload s!"measured {cell} at row {rowIndex} column {
    column.sourceName} has length {measuredLen}, expected {expectedLen}")

def appendCell (buf : List UInt8) (rowIndex measuredLen : ℕ) : Result (List UInt8) :=
  if data.isNull rowIndex then do
    let expectedLen ← nullCellLen kind column rowIndex
    checkMeasuredLen column s!"null {kind} cell" rowIndex measuredLen expectedLen
    pure (appendNullDecimalCell buf)
  else do
    let unscaled ← value (data.value rowIndex) rowIndex
    checkMeasuredLen column s!"{kind} cell" rowIndex measuredLen (decimalCellLen unscaled)
    appendDecimalCell buf unscaled

end Family

def decimalMaxUnscaled (precision : ℕ) : Option ℤ :=
  (checkedSigned 128 (10 ^ precision)).bind fun power => checkedSigned 128 (power - 1)

def decimalUnscaledFitsPrecision (value : ℤ) (precision : ℕ) : Bool :=
  if precision = 0 then false
  else
    match decimalMaxUnscaled precision with
    | none => false
    | some max => value ≤ max ∧ value ≥ -max

def normalizeNegativeScale (column : DirectColumnPlan) (rowIndex : ℕ) (unscaled arrowScale : ℤ) : Result ℤ :=
  if arrowScale ≥ 0 then .ok unscaled
  else do
    let factor ← okOr (checkedSigned 128 (10 ^ arrowScale.natAbs)) (columnError column rowIndex .decimalOutOfRange
      s!"negative decimal scale {arrowScale} normalization factor overflows")
    okOr (checkedSigned 128 (unscaled * factor)) (columnError column rowIndex .decimalOutOfRange
      s!"decimal value {unscaled} overflows while normalizing scale {arrowScale}")

def normalizedDecimalValue (column : DirectColumnPlan) (classification : DecimalArrowToMssql) (rowIndex : ℕ)
    (unscaled : ℤ) : Result ℤ := do
  let unscaled ← normalizeNegativeScale column rowIndex unscaled classification.arrowScale
  ensure (decimalUnscaledFitsPrecision unscaled classification.targetPrecision) (columnError column rowIndex
    .decimalOutOfRange s!"decimal value {unscaled} does not fit planned precision {classification.targetPrecision}")
  pure unscaled

def decimal256ToI128 (value : SInt 256) (column : DirectColumnPlan) (rowIndex : ℕ) : Result ℤ :=
  okOr (checkedSigned 128 value.val) (columnError column rowIndex .decimalOutOfRange
    "Arrow Decimal256 value does not fit runtime i128 decimal representation")

def decimalValue {w : ℕ} (column : DirectColumnPlan) (classification : DecimalArrowToMssql) (value : SInt w)
    (rowIndex : ℕ) : Result ℤ :=
  normalizedDecimalValue column classification rowIndex value.val

def decimal256Value (column : DirectColumnPlan) (classification : DecimalArrowToMssql) (value : SInt 256)
    (rowIndex : ℕ) : Result ℤ := do
  let value ← decimal256ToI128 value column rowIndex
  normalizedDecimalValue column classification rowIndex value

section Members

variable (data : Arr α) (column : DirectColumnPlan) (value : α → ℕ → Result ℤ)

def measureDecimalValues (slot : ColumnSlot) (cellLengths : List ℕ) : Result (List ℕ) :=
  measureColumn data.len slot cellLengths (valueCellLen "decimal" data column value)

def fillDecimalValues (slot : ColumnSlot) (layout : RowLayout) (bytes : List UInt8) : Result (List UInt8) :=
  fillColumn data.len slot layout bytes cellPosition (fillCell "decimal" data column value (addColumnField column))

def appendDecimalValue (buf : List UInt8) (rowIndex measuredLen : ℕ) : Result (List UInt8) :=
  appendCell "decimal" data column value buf rowIndex measuredLen

end Members

def measureDecimal32ColumnCellLengths (data : Arr (SInt 32)) (column : DirectColumnPlan)
    (classification : DecimalArrowToMssql) : ColumnSlot → List ℕ → Result (List ℕ) :=
  measureDecimalValues data column (decimalValue column classification)

def measureDecimal64ColumnCellLengths (data : Arr (SInt 64)) (column : DirectColumnPlan)
    (classification : DecimalArrowToMssql) : ColumnSlot → List ℕ → Result (List ℕ) :=
  measureDecimalValues data column (decimalValue column classification)

def measureDecimal128ColumnCellLengths (data : Arr (SInt 128)) (column : DirectColumnPlan)
    (classification : DecimalArrowToMssql) : ColumnSlot → List ℕ → Result (List ℕ) :=
  measureDecimalValues data column (decimalValue column classification)

def measureDecimal256ColumnCellLengths (data : Arr (SInt 256)) (column : DirectColumnPlan)
    (classification : DecimalArrowToMssql) : ColumnSlot → List ℕ → Result (List ℕ) :=
  measureDecimalValues data column (decimal256Value column classification)

def fillDecimal32Column (data : Arr (SInt 32)) (column : DirectColumnPlan) (classification : DecimalArrowToMssql) :
    ColumnSlot → RowLayout → List UInt8 → Result (List UInt8) :=
  fillDecimalValues data column (decimalValue column classification)

def fillDecimal64Column (data : Arr (SInt 64)) (column : DirectColumnPlan) (classification : DecimalArrowToMssql) :
    ColumnSlot → RowLayout → List UInt8 → Result (List UInt8) :=
  fillDecimalValues data column (decimalValue column classification)

def fillDecimal128Column (data : Arr (SInt 128)) (column : DirectColumnPlan) (classification : DecimalArrowToMssql) :
    ColumnSlot → RowLayout → List UInt8 → Result (List UInt8) :=
  fillDecimalValues data column (decimalValue column classification)

def fillDecimal256Column (data : Arr (SInt 256)) (column : DirectColumnPlan) (classification : DecimalArrowToMssql) :
    ColumnSlot → RowLayout → List UInt8 → Result (List UInt8) :=
  fillDecimalValues data column (decimal256Value column classification)

def appendDecimal32Cell (data : Arr (SInt 32)) (column : DirectColumnPlan) (classification : DecimalArrowToMssql) :
    List UInt8 → ℕ → ℕ → Result (List UInt8) :=
  appendDecimalValue data column (decimalValue column classification)

def appendDecimal64Cell (data : Arr (SInt 64)) (column : DirectColumnPlan) (classification : DecimalArrowToMssql) :
    List UInt8 → ℕ → ℕ → Result (List UInt8) :=
  appendDecimalValue data column (decimalValue column classification)

def appendDecimal128Cell (data : Arr (SInt 128)) (column : DirectColumnPlan) (classification : DecimalArrowToMssql) :
    List UInt8 → ℕ → ℕ → Result (List UInt8) :=
  appendDecimalValue data column (decimalValue column classification)

def appendDecimal256Cell (data : Arr (SInt 256)) (column : DirectColumnPlan) (classification : DecimalArrowToMssql) :
    List UInt8 → ℕ → ℕ → Result (List UInt8) :=
  appendDecimalValue data column (decimal256Value column classification)

def uint64Value (value : UInt64) (_ : ℕ) : Result ℤ := .ok value.toNat

def measureUint64Decimal20CellLengths (data : Arr UInt64) (column : DirectColumnPlan) (slot : ColumnSlot)
    (cellLengths : List ℕ) : Result (List ℕ) :=
  measureColumn data.len slot cellLengths (valueCellLen "UInt64 decimal20_0" data column uint64Value)

def fillUint64Decimal20Column (data : Arr UInt64) (column : DirectColumnPlan) (slot : ColumnSlot) (layout : RowLayout)
    (bytes : List UInt8) : Result (List UInt8) :=
  fillColumn data.len slot layout bytes cellPosition (fillCell "UInt64 decimal20_0" data column uint64Value id)

def appendUint64Decimal20Cell (data : Arr UInt64) (column : DirectColumnPlan) (buf : List UInt8)
    (rowIndex measuredLen : ℕ) : Result (List UInt8) :=
  appendCell "UInt64 decimal20_0" data column uint64Value buf rowIndex measuredLen

theorem decimalPrecisionFrom_eq (magnitude digits : ℕ) :
    decimalPrecisionFrom magnitude digits + 1 = digits + Tds.decimalDigits magnitude := by
  fun_induction decimalPrecisionFrom magnitude digits with
  | case1 magnitude digits h ih =>
    rw [ih, Tds.decimalDigits, Tds.decimalDigits, Nat.toDigits_of_base_le (by decide) h, List.length_append,
      List.length_singleton]
    omega
  | case2 magnitude digits h =>
    rw [Tds.decimalDigits, Nat.toDigits_of_lt_base (by omega), List.length_singleton]

theorem decimalPrecision_eq (magnitude : ℕ) : decimalPrecision magnitude = Tds.decimalDigits magnitude := by
  have h := decimalPrecisionFrom_eq magnitude 1
  rw [decimalPrecision]
  omega

theorem decimalMagnitudeLen_eq (magnitude : ℕ) : decimalMagnitudeLen magnitude = Tds.decimalLength magnitude := by
  have hpos : 0 < Tds.decimalDigits magnitude := Nat.length_toDigits_pos
  simp only [decimalMagnitudeLen, decimalPrecision_eq, Tds.decimalLength]
  split_ifs <;> omega

theorem decimalLength_cases (magnitude : ℕ) : Tds.decimalLength magnitude = 4 ∨ Tds.decimalLength magnitude = 8 ∨
    Tds.decimalLength magnitude = 12 ∨ Tds.decimalLength magnitude = 16 := by
  unfold Tds.decimalLength
  split_ifs <;> simp

theorem encode_halves (magnitude w : ℕ) : LittleEndian.encode (8 + w) magnitude =
    LittleEndian.encode 8 magnitude ++ LittleEndian.encode w (magnitude / 2 ^ 64) := LittleEndian.encode_add 8 w _

theorem writeDecimalMagnitude_of_length {dst : List UInt8} {magnitude : ℕ}
    (h : dst.length = Tds.decimalLength magnitude) :
    writeDecimalMagnitude dst magnitude = .ok (LittleEndian.encode (Tds.decimalLength magnitude) magnitude) := by
  unfold writeDecimalMagnitude
  rw [decimalMagnitudeLen_eq]
  obtain h4 | h8 | h12 | h16 := decimalLength_cases magnitude
  · rw [h4] at h ⊢
    apply copyFromSlice_of_length (by simpa using h)
  · rw [h8] at h ⊢
    apply copyFromSlice_of_length (by simpa using h)
  · rw [h12] at h ⊢
    have hfirst := @modifyRange_next Error _ dst [] (LittleEndian.encode 8 magnitude) 0 8
      (fun dst => copyFromSlice dst (LittleEndian.encode 8 magnitude)) rfl (by simp) (by simp [h])
      fun _ hw => copyFromSlice_of_length hw
    have hnil : splice dst 0 [] = dst := by simp [splice]
    rw [hnil, List.nil_append] at hfirst
    simp only [hfirst, ok_bind]
    rw [modifyRange_next (by simp) (by simp) (by simp [h]) fun _ hw => copyFromSlice_of_length hw,
      splice_all (by simp [h]), ← encode_halves magnitude 4]
  · rw [h16] at h ⊢
    apply copyFromSlice_of_length (by simpa using h)

theorem appendDecimalMagnitude_eq (buf : List UInt8) (magnitude : ℕ) : appendDecimalMagnitude buf magnitude =
    .ok (buf ++ LittleEndian.encode (Tds.decimalLength magnitude) magnitude) := by
  unfold appendDecimalMagnitude
  rw [decimalMagnitudeLen_eq]
  obtain h4 | h8 | h12 | h16 := decimalLength_cases magnitude
  · rw [h4]
    rfl
  · rw [h8]
    rfl
  · rw [h12]
    exact congrArg Except.ok ((List.append_assoc _ _ _).trans (congrArg (buf ++ ·) (encode_halves magnitude 4).symm))
  · rw [h16]
    exact congrArg Except.ok ((List.append_assoc _ _ _).trans (congrArg (buf ++ ·) (encode_halves magnitude 8).symm))

def unscaledBytes (unscaled : ℤ) : List UInt8 :=
  decimalSign unscaled :: LittleEndian.encode (Tds.decimalLength unscaled.natAbs) unscaled.natAbs

@[simp] theorem length_unscaledBytes (unscaled : ℤ) :
    (unscaledBytes unscaled).length = 1 + Tds.decimalLength unscaled.natAbs := by
  simp [unscaledBytes, Nat.add_comm]

theorem decimalValueLen_eq (unscaled : ℤ) : decimalValueLen unscaled = (unscaledBytes unscaled).length := by
  rw [decimalValueLen, decimalMagnitudeLen_eq, length_unscaledBytes, decimalSignLen]

theorem decimalCellLen_eq (unscaled : ℤ) :
    decimalCellLen unscaled = (Tds.frame .bytePrefixed (some (unscaledBytes unscaled))).length := by
  rw [decimalCellLen, decimalValueLen_eq, Tds.frame, List.length_cons, nullDecimalCellLen, Nat.add_comm]

theorem writeDecimalCell_of_length {dst : List UInt8} {unscaled : ℤ} (h : dst.length = decimalCellLen unscaled) :
    writeDecimalCell dst unscaled = .ok (Tds.frame .bytePrefixed (some (unscaledBytes unscaled))) := by
  have hlen : dst.length = 2 + Tds.decimalLength unscaled.natAbs := by
    rw [h, decimalCellLen_eq, Tds.frame, List.length_cons, length_unscaledBytes]
    omega
  have hsign : (setIndex (splice dst 0 [UInt8.ofNat (decimalValueLen unscaled)]) 1 (decimalSign unscaled) :
      Result (List UInt8)) = .ok (splice dst 0 [UInt8.ofNat (decimalValueLen unscaled), decimalSign unscaled]) := by
    have hindex : 1 < (splice dst 0 [UInt8.ofNat (decimalValueLen unscaled)]).length := by
      rw [length_splice (by simp; omega)]
      omega
    rw [setIndex_of_lt hindex]
    have happend := @splice_splice _ dst [UInt8.ofNat (decimalValueLen unscaled)] [decimalSign unscaled] 0
    exact congrArg Except.ok (happend (by simp; omega))
  rw [writeDecimalCell, ensure_of h, ok_bind, writeDecimalValue, setIndex_of_lt (by omega), ok_bind, hsign, ok_bind,
    length_splice (by simp; omega), hlen,
    modifyRange_next (by simp) (by simp) (by simp [hlen]) fun _ hw =>
      writeDecimalMagnitude_of_length (by simpa using hw),
    splice_all (by simp [hlen]; omega), decimalValueLen_eq]
  rfl

theorem appendDecimalCell_eq (buf : List UInt8) (unscaled : ℤ) :
    appendDecimalCell buf unscaled = .ok (buf ++ Tds.frame .bytePrefixed (some (unscaledBytes unscaled))) := by
  rw [appendDecimalCell, appendDecimalMagnitude_eq, decimalValueLen_eq]
  simp [Tds.frame, unscaledBytes]

section Law

variable {kind : String} {data : Arr α} {column : DirectColumnPlan} {value : α → ℕ → Result ℤ}
  {onError : Error → Error} {payloadOf : α → Option (List UInt8)}

def cellBytes (data : Arr α) (column : DirectColumnPlan) (payloadOf : α → Option (List UInt8)) :
    ℕ → Option (List UInt8) :=
  columnBytes .bytePrefixed (columnContent (nullContent column) data payloadOf)

theorem cellBytes_null {r : ℕ} {bytes : List UInt8} (hnull : data.isNull r = true) :
    cellBytes data column payloadOf r = some bytes ↔ column.nullable = true ∧ bytes = [0] := by
  rw [cellBytes, columnBytes_of_null hnull, nullContent_wire_eq_some, Tds.wire_bytePrefixed, Option.some.injEq]
  exact and_congr_right fun _ => eq_comm

theorem cellBytes_value (hpayload : ∀ v r bytes, payloadOf v = some bytes ↔
      ∃ unscaled, value v r = .ok unscaled ∧ bytes = unscaledBytes unscaled) {r : ℕ} {bytes : List UInt8}
    (hnull : data.isNull r = false) : cellBytes data column payloadOf r = some bytes ↔ ∃ unscaled,
      value (data.value r) r = .ok unscaled ∧ bytes = Tds.frame .bytePrefixed (some (unscaledBytes unscaled)) := by
  rw [cellBytes, columnBytes_of_value hnull, Option.bind_eq_some_iff]
  simp only [hpayload _ r, Tds.wire_bytePrefixed, Option.some.injEq]
  constructor
  · rintro ⟨_, ⟨unscaled, hvalue, rfl⟩, rfl⟩
    exact ⟨unscaled, hvalue, rfl⟩
  · rintro ⟨unscaled, hvalue, rfl⟩
    exact ⟨_, ⟨unscaled, hvalue, rfl⟩, rfl⟩

theorem nullCellLen_eq_ok {r n : ℕ} : nullCellLen kind column r = .ok n ↔ column.nullable = true ∧ n = 1 := by
  simp only [nullCellLen, bind_unit_eq_ok, ensure_eq_ok, pure_eq_ok, Except.ok.injEq]
  exact and_congr_right fun _ => eq_comm

theorem decimal_law (hpayload : ∀ v r bytes, payloadOf v = some bytes ↔
      ∃ unscaled, value v r = .ok unscaled ∧ bytes = unscaledBytes unscaled) :
    ColumnLaw data.len (cellBytes data column payloadOf)
      (fun slot cellLengths => measureColumn data.len slot cellLengths (valueCellLen kind data column value))
      (fun slot layout bytes => fillColumn data.len slot layout bytes cellPosition
        (fillCell kind data column value onError))
      (appendCell kind data column value) := by
  apply ColumnLaw.of_cells
  · intro r n
    unfold valueCellLen
    split
    case isTrue hnull => simp [nullCellLen_eq_ok, cellBytes_null hnull]
    case isFalse hnull =>
      simp only [cellBytes_value hpayload (Bool.eq_false_iff.mpr hnull), bind_eq_ok, pure_eq_ok, Except.ok.injEq]
      constructor
      · rintro ⟨unscaled, hvalue, rfl⟩
        exact ⟨_, ⟨unscaled, hvalue, rfl⟩, decimalCellLen_eq unscaled⟩
      · rintro ⟨_, ⟨unscaled, hvalue, rfl⟩, rfl⟩
        exact ⟨unscaled, hvalue, decimalCellLen_eq unscaled⟩
  · intro r new position bytes hnew hlength hinside haddressable
    unfold fillCell
    split
    case isTrue hnull =>
      obtain ⟨hnullable, rfl⟩ := (cellBytes_null hnull).mp hnew
      have hone : position.len = 1 := hlength
      rw [writeNullCell, nullCellLen_eq_ok.mpr ⟨hnullable, rfl⟩, ok_bind, checkPositionLen_of hone, ok_bind,
        cellBytesMut]
      apply modifyCell_of hlength hinside haddressable
      intro window hw
      have hw1 : window.length = 1 := hw
      rw [writeNullDecimalCell, ensure_of (show window.length = nullDecimalCellLen from hw), ok_bind,
        setIndex_of_lt (by omega), splice_all (by simp [hw1])]
    case isFalse hnull =>
      obtain ⟨unscaled, hvalue, rfl⟩ := (cellBytes_value hpayload (Bool.eq_false_iff.mpr hnull)).mp hnew
      rw [hvalue, ok_bind, writeCell, checkPositionLen_of (hlength.trans (decimalCellLen_eq unscaled).symm), ok_bind,
        cellBytesMut]
      apply modifyCell_of hlength hinside haddressable
      intro window hw
      rw [writeDecimalCell_of_length (hw.trans (decimalCellLen_eq unscaled).symm)]
      rfl
  · intro r bytes buf h
    unfold appendCell
    split
    case isTrue hnull =>
      obtain ⟨hnullable, rfl⟩ := (cellBytes_null hnull).mp h
      rw [nullCellLen_eq_ok.mpr ⟨hnullable, rfl⟩, ok_bind, checkMeasuredLen,
        ensure_of (show [(0 : UInt8)].length = 1 from rfl), ok_bind, pure_eq_ok, appendNullDecimalCell]
    case isFalse hnull =>
      obtain ⟨unscaled, hvalue, rfl⟩ := (cellBytes_value hpayload (Bool.eq_false_iff.mpr hnull)).mp h
      rw [hvalue, ok_bind, checkMeasuredLen, ensure_of (decimalCellLen_eq unscaled).symm, ok_bind,
        appendDecimalCell_eq]

end Law

end ArrowTiberius.Direct.Decimal
