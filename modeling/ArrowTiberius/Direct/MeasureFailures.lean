import ArrowTiberius.Direct.Refinement
import ArrowTiberius.Direct.Slicing
import ArrowTiberius.Mssql.FromArrow.Validity

namespace ArrowTiberius.Direct

open Checked Tiling

def RefusesValue (e : Error) : Prop := ∃ d : Diagnostic, e = valueConversionError d ∧ d.code ≠ .schemaMismatch

def RefusesShape (e : Error) : Prop := ∃ d : Diagnostic, e = valueConversionError d ∧ d.code = .schemaMismatch

def sourceField (mapping : SchemaMapping) : FieldRef := ⟨mapping.arrow.index, mapping.arrow.name⟩

def columnField (column : DirectColumnPlan) : FieldRef := ⟨column.sourceIndex, column.sourceName⟩

def RefusesCell (field : FieldRef) (rowIndex : ℕ) (e : Error) : Prop :=
  ∃ d : Diagnostic, e = valueConversionError d ∧ d.code ≠ .schemaMismatch ∧ d.field = some field ∧
    d.row = some rowIndex

theorem RefusesCell.refusesValue {field : FieldRef} {rowIndex : ℕ} {e : Error} (h : RefusesCell field rowIndex e) :
    RefusesValue e := by
  obtain ⟨d, hd, hcode, -⟩ := h
  exact ⟨d, hd, hcode⟩

theorem refusesCell_columnError {column : DirectColumnPlan} {rowIndex : ℕ} {code : DiagnosticCode} {message : String}
    (h : code ≠ .schemaMismatch) :
    RefusesCell (columnField column) rowIndex (columnError column rowIndex code message) := ⟨_, rfl, h, rfl, rfl⟩

theorem refusesCell_rowError {mapping : SchemaMapping} {rowIndex : ℕ} {code : DiagnosticCode} {message : String}
    (h : code ≠ .schemaMismatch) :
    RefusesCell (sourceField mapping) rowIndex (rowError mapping rowIndex code message) := ⟨_, rfl, h, rfl, rfl⟩

theorem refusesCell_of_isValueError {mapping : SchemaMapping} {rowIndex : ℕ} {e : Error}
    (h : IsValueError mapping rowIndex e) : RefusesCell (sourceField mapping) rowIndex e := by
  cases h with
  | code hcode =>
    apply refusesCell_rowError
    rintro rfl
    revert hcode
    decide
  | decimalPrecision | decimalNormalization | decimalDowncast => exact refusesCell_rowError (by decide)

theorem refusesCell_of_failsWith {α : Type} {mapping : SchemaMapping} {rowIndex : ℕ} {x : Result α}
    (h : FailsWith (IsValueError mapping rowIndex) x) : FailsWith (RefusesCell (sourceField mapping) rowIndex) x :=
  h.mono fun _ => refusesCell_of_isValueError

def RefusesOnlyValues (rows : ℕ) (measure : ColumnSlot → List ℕ → Result (List ℕ)) : Prop :=
  ∀ (k columns : ℕ) (cellLengths : List ℕ), k < columns → cellLengths.length = rows * columns →
    FailsWith RefusesValue (measure ⟨k, columns⟩ cellLengths)

theorem refusesOnlyValues_measureColumn {rows : ℕ} {cellLen : ℕ → Result ℕ}
    (h : ∀ r < rows, FailsWith RefusesValue (cellLen r)) :
    RefusesOnlyValues rows fun slot cellLengths => measureColumn rows slot cellLengths cellLen := by
  intro k columns cellLengths hk hlength
  apply failsWith_forEach (fun cellLengths => cellLengths.length = rows * columns) _ hlength
  intro r hr s hs
  have hrow : r < rows := List.mem_range.mp hr
  have hindex : r * columns + k < s.length := by
    have hnext := Nat.mul_le_mul_right columns (Nat.succ_le_of_lt hrow)
    rw [Nat.succ_mul] at hnext
    omega
  constructor
  · apply failsWith_bind (h r hrow)
    intro n _
    rw [setIndex_of_lt hindex]
    exact failsWith_ok _
  · intro s' hs'
    obtain ⟨n, -, hset⟩ := bind_eq_ok.mp hs'
    rw [setIndex_of_lt hindex] at hset
    cases hset
    rw [length_splice (Nat.succ_le_of_lt hindex)]
    exact hs

def MeasuresCells (field : FieldRef) (rows : ℕ) (measure : ℕ → ColumnSlot → List ℕ → Result (List ℕ)) : Prop :=
  ∃ cellLen : ℕ → Result ℕ,
    (∀ n slot cellLengths, measure n slot cellLengths = measureColumn n slot cellLengths cellLen) ∧
      ∀ r < rows, FailsWith (RefusesCell field r) (cellLen r)

theorem MeasuresCells.of_eq {field : FieldRef} {rows : ℕ}
    {measure measure' : ℕ → ColumnSlot → List ℕ → Result (List ℕ)} (h : MeasuresCells field rows measure)
    (hsame : ∀ n slot cellLengths, measure' n slot cellLengths = measure n slot cellLengths) : MeasuresCells field rows measure' := by
  obtain ⟨cellLen, hmeasure, hfails⟩ := h
  exact ⟨cellLen, fun n slot cellLengths => (hsame n slot cellLengths).trans (hmeasure n slot cellLengths), hfails⟩

theorem MeasuresCells.refusesOnlyValues {field : FieldRef} {rows : ℕ}
    {measure : ℕ → ColumnSlot → List ℕ → Result (List ℕ)} (h : MeasuresCells field rows measure) :
    RefusesOnlyValues rows (measure rows) := by
  obtain ⟨cellLen, hmeasure, hfails⟩ := h
  intro k columns cellLengths hk hlength
  rw [hmeasure]
  apply refusesOnlyValues_measureColumn _ k columns cellLengths hk hlength
  intro r hr
  exact (hfails r hr).mono fun _ => RefusesCell.refusesValue

section Families

variable {column : DirectColumnPlan} {α : Type} {data : Arr α}

theorem refusesCell_null (column : DirectColumnPlan) (rowIndex : ℕ) (message : String) :
    FailsWith (RefusesCell (columnField column) rowIndex)
      (ensure column.nullable (columnError column rowIndex .nullInNonNullableColumn message)) :=
  failsWith_ensure fun _ => refusesCell_columnError (by decide)

theorem measuresCells_primitive {valueLen : ℕ} {validateValue : α → ℕ → Result Unit}
    (h : ∀ value r, FailsWith (RefusesCell (columnField column) r) (validateValue value r)) :
    MeasuresCells (columnField column) data.len fun n =>
      Primitive.measureCheckedPrimitiveColumnCellLengths (data.slice 0 n) column valueLen validateValue := by
  refine ⟨Primitive.primitiveCellLen data column valueLen validateValue, ?_, ?_⟩
  · intro n slot cellLengths
    dsimp only
    rw [Arr.slice_zero]
    rfl
  · intro r _
    unfold Primitive.primitiveCellLen
    split
    · exact failsWith_bind (refusesCell_null column r _) fun _ _ => failsWith_ok _
    · exact failsWith_bind (h _ r) fun _ _ => failsWith_ok _

theorem measuresCells_decimal {kind : String} {value : α → ℕ → Result ℤ}
    (h : ∀ v r, FailsWith (RefusesCell (columnField column) r) (value v r)) :
    MeasuresCells (columnField column) data.len fun n slot cellLengths =>
      measureColumn n slot cellLengths (Decimal.valueCellLen kind (data.slice 0 n) column value) := by
  refine ⟨Decimal.valueCellLen kind data column value, ?_, ?_⟩
  · intro n slot cellLengths
    dsimp only
    rw [Arr.slice_zero]
    rfl
  · intro r _
    unfold Decimal.valueCellLen
    split
    · exact failsWith_bind (refusesCell_null column r _) fun _ _ => failsWith_ok _
    · exact failsWith_bind (h _ r) fun _ _ => failsWith_ok _

theorem refusesCell_normalizedDecimalValue (column : DirectColumnPlan) (classification : DecimalArrowToMssql)
    (rowIndex : ℕ) (unscaled : ℤ) : FailsWith (RefusesCell (columnField column) rowIndex)
      (Decimal.normalizedDecimalValue column classification rowIndex unscaled) := by
  have hnormalize : FailsWith (RefusesCell (columnField column) rowIndex)
      (Decimal.normalizeNegativeScale column rowIndex unscaled classification.arrowScale) := by
    unfold Decimal.normalizeNegativeScale
    split
    · exact failsWith_ok _
    · apply failsWith_bind (failsWith_okOr fun _ => refusesCell_columnError (by decide))
      intro factor _
      exact failsWith_okOr fun _ => refusesCell_columnError (by decide)
  apply failsWith_bind hnormalize
  intro _ _
  exact failsWith_bind (failsWith_ensure fun _ => refusesCell_columnError (by decide)) fun _ _ => failsWith_ok _

theorem measuresCells_variableWidth {length : MssqlTypeLength} {valueLen : ℕ → α → Result ℕ}
    (h : ∀ r < data.len, data.isNull r = false →
      FailsWith (RefusesCell (columnField column) r) (valueLen r (data.value r))) :
    MeasuresCells (columnField column) data.len fun n slot cellLengths =>
      measureColumn n slot cellLengths (VariableWidth.cellLen (data.slice 0 n) column length valueLen) := by
  refine ⟨VariableWidth.cellLen data column length valueLen, ?_, ?_⟩
  · intro n slot cellLengths
    dsimp only
    rw [Arr.slice_zero]
    rfl
  · intro r hr
    unfold VariableWidth.cellLen
    split
    case isTrue => exact failsWith_bind (refusesCell_null column r _) fun _ _ => failsWith_ok _
    case isFalse hvalue => exact h r hr (Bool.eq_false_iff.mpr hvalue)

def wireLimit : MssqlTypeLength → ℕ
  | .bounded _ => VariableWidth.maxBoundedTdsValueLen
  | .max => VariableWidth.maxPlpChunkLen

theorem refusesCell_nvarcharValueLen {length : MssqlTypeLength} {value : String} (r : ℕ)
    (h : (Tds.encodeUtf16 value).length ≤ wireLimit length) :
    FailsWith (RefusesCell (columnField column) r) (VariableWidth.nvarcharValueLen column length r value) := by
  rw [Tds.length_encodeUtf16] at h
  cases length with
  | bounded limit =>
    have hlimit : 2 * (Utf16.encode value.toList).length ≤ 0xfffe := h
    have hmul : VariableWidth.mulLen (Utf16.encode value.toList).length 2 =
        .ok ((Utf16.encode value.toList).length * 2) := by
      rw [VariableWidth.mulLen, checkedMul_of_lt (by omega), okOr_some]
    have hfits : (Utf16.encode value.toList).length * 2 ≤ VariableWidth.maxBoundedTdsValueLen := by
      rw [mul_comm]
      exact hlimit
    unfold VariableWidth.nvarcharValueLen
    dsimp only
    rw [hmul, ok_bind]
    apply failsWith_bind (failsWith_ensure fun _ => refusesCell_columnError (by decide))
    intro _ _
    rw [VariableWidth.boundedCellLen, ensure_of hfits, ok_bind,
      VariableWidth.addLen_of_lt (by simp only [VariableWidth.boundedLenPrefixLen]; omega)]
    exact failsWith_ok _
  | max =>
    have hlimit : 2 * (Utf16.encode value.toList).length ≤ 0xffffffff := h
    have hmul : VariableWidth.mulLen (Utf16.encode value.toList).length 2 =
        .ok ((Utf16.encode value.toList).length * 2) := by
      rw [VariableWidth.mulLen, checkedMul_of_lt (by omega), okOr_some]
    unfold VariableWidth.nvarcharValueLen
    dsimp only
    rw [hmul, ok_bind, VariableWidth.plpCellLen_of_le (by omega)]
    exact failsWith_ok _

theorem refusesCell_varbinaryValueLen {length : MssqlTypeLength} {value : List UInt8} (r : ℕ)
    (h : value.length ≤ wireLimit length) :
    FailsWith (RefusesCell (columnField column) r) (VariableWidth.varbinaryValueLen column length r value) := by
  cases length with
  | bounded limit =>
    have hlimit : value.length ≤ 0xfffe := h
    have hfits : value.length ≤ VariableWidth.maxBoundedTdsValueLen := h
    apply failsWith_bind (failsWith_ensure fun _ => refusesCell_columnError (by decide))
    intro _ _
    rw [VariableWidth.boundedCellLen, ensure_of hfits, ok_bind,
      VariableWidth.addLen_of_lt (by simp only [VariableWidth.boundedLenPrefixLen]; omega)]
    exact failsWith_ok _
  | max =>
    have hlimit : value.length ≤ 0xffffffff := h
    unfold VariableWidth.varbinaryValueLen
    rw [VariableWidth.plpCellLen_of_le hlimit]
    exact failsWith_ok _

theorem measuresCells_fixedSizeBinary {data : Arr (List UInt8)} {length : ℕ} (h : length ≤ 8000) :
    MeasuresCells (columnField column) data.len fun n =>
      FixedSizeBinary.measureFixedSizeBinaryColumnCellLengths (data.slice 0 n) column
        (.fixedSizeBinaryToBinary length) := by
  refine ⟨fun rowIndex => if data.isNull rowIndex then FixedSizeBinary.nullCellLen column rowIndex else do
    FixedSizeBinary.validateBinaryValueLen (data.value rowIndex) column rowIndex length
    FixedSizeBinary.nonNullCellLen length, ?_, ?_⟩
  · intro n slot cellLengths
    dsimp only
    rw [Arr.slice_zero]
    rfl
  · intro r _
    dsimp only
    split
    · exact failsWith_bind (refusesCell_null column r _) fun _ _ => failsWith_ok _
    · apply failsWith_bind (failsWith_ensure fun _ => refusesCell_columnError (by decide))
      intro _ _
      rw [FixedSizeBinary.nonNullCellLen_of (by omega)]
      exact failsWith_ok _

end Families

section Temporal

variable {mapping : SchemaMapping} {column : DirectColumnPlan} {α : Type} {data : Arr α} {r : ℕ}

theorem refusesCell_timePayloadLen {field : FieldRef} {scale : ℕ} (h : scale ≤ 7) :
    FailsWith (RefusesCell field r) (timePayloadLen scale) := by
  rw [timePayloadLen_of_le h]
  exact failsWith_ok _

variable [Externals] (hsource : columnField column = sourceField mapping)

include hsource

theorem measuresCells_temporal {valueLen : α → ℕ → Result ℕ}
    (h : ∀ v r, FailsWith (RefusesCell (sourceField mapping) r) (valueLen v r)) :
    MeasuresCells (sourceField mapping) data.len fun n =>
      Temporal.measureTemporalValues (data.slice 0 n) mapping column valueLen := by
  refine ⟨fun rowIndex => if data.isNull rowIndex then do
      validateNullTimestampTimezoneMetadata mapping rowIndex
      Temporal.nullTemporalCellLenForColumn column rowIndex
    else do
      validateMappingTimestampTimezoneMetadata mapping rowIndex
      valueLen (data.value rowIndex) rowIndex, ?_, ?_⟩
  · intro n slot cellLengths
    dsimp only
    rw [Arr.slice_zero]
    rfl
  · intro r _
    dsimp only
    split
    · apply failsWith_bind (refusesCell_of_failsWith failsWith_validateNullTimestampTimezoneMetadata)
      intro _ _
      rw [← hsource]
      exact failsWith_bind (refusesCell_null column r _) fun _ _ => failsWith_ok _
    · apply failsWith_bind (refusesCell_of_failsWith failsWith_validateMappingTimestampTimezoneMetadata)
      intro _ _
      exact h _ r

theorem measuresCells_time {value : α → ℕ → Result MssqlTime}
    (hfails : ∀ v r, FailsWith (IsValueError mapping r) (value v r))
    (hscale : ∀ v r time, value v r = .ok time → time.scale ≤ 7) :
    MeasuresCells (sourceField mapping) data.len fun n =>
      Temporal.measureTimeColumnCellLengths (data.slice 0 n) mapping column value := by
  apply measuresCells_temporal hsource
  intro v r
  apply failsWith_bind (refusesCell_of_failsWith (hfails v r))
  intro time htime
  exact failsWith_bind (refusesCell_timePayloadLen (hscale v r time htime)) fun _ _ => failsWith_ok _

theorem measuresCells_date32 {data : Arr (SInt 32)} : MeasuresCells (sourceField mapping) data.len fun n =>
    Temporal.measureDate32ColumnCellLengths (data.slice 0 n) mapping column := by
  apply measuresCells_temporal hsource
  intro v r
  have hfits := fitsSigned_32.mp v.fits
  have hdays : fitsSigned 64 (v.val + sqlServerDateUnixEpochDays) :=
    fitsSigned_64.mpr (by unfold sqlServerDateUnixEpochDays; omega)
  have hvalue : FailsWith (RefusesCell (sourceField mapping) r) (Temporal.mssqlDateFromArrowDate32 column r v) := by
    apply failsWith_bind (failsWith_signedOp hdays)
    intro days _
    split
    · exact failsWith_ok _
    · rw [← hsource]
      exact failsWith_fail.mpr (refusesCell_columnError (by decide))
  exact failsWith_bind hvalue fun _ _ => failsWith_ok _

theorem measuresCells_date64 {data : Arr (SInt 64)} : MeasuresCells (sourceField mapping) data.len fun n =>
    Temporal.measureDate64ColumnCellLengths (data.slice 0 n) mapping column := by
  apply measuresCells_temporal hsource
  intro v r
  have hfits := fitsSigned_64.mp v.fits
  have hdays : fitsSigned 64 (v.val / millisecondsPerDay + sqlServerDateUnixEpochDays) :=
    fitsSigned_64.mpr (by unfold millisecondsPerDay sqlServerDateUnixEpochDays; omega)
  have hvalue : FailsWith (RefusesCell (sourceField mapping) r)
      (Temporal.mssqlDatetime2FromArrowDate64 column r v) := by
    apply failsWith_bind (failsWith_signedOp hdays)
    intro days _
    rw [← hsource]
    exact failsWith_bind (failsWith_ensure fun _ => refusesCell_columnError (by decide)) fun _ _ => failsWith_ok _
  apply failsWith_bind hvalue
  intro datetime hdatetime
  obtain ⟨_, -, hdatetime⟩ := bind_eq_ok.mp hdatetime
  obtain ⟨-, hdatetime⟩ := bind_unit_eq_ok.mp hdatetime
  cases hdatetime
  exact failsWith_bind (refusesCell_timePayloadLen (show 3 ≤ 7 by decide)) fun _ _ => failsWith_ok _

theorem measuresCells_timestamp {unit : TimeUnit} {context : RuntimeConversionContext} {data : Arr (SInt 64)}
    (hsame : mapping.mssql.ty = column.targetType)
    (hty : column.targetType = .dateTime ∨ ∃ precision ≤ 7, column.targetType = .dateTime2 precision) :
    MeasuresCells (sourceField mapping) data.len fun n =>
      Temporal.measureTimestampColumnCellLengths unit (data.slice 0 n) mapping context column := by
  apply measuresCells_temporal hsource
  intro v r
  unfold Temporal.timestampValue
  rcases hty with hty | ⟨precision, hprecision, hty⟩
  · rw [hty]
    apply failsWith_bind (failsWith_map _ (refusesCell_of_failsWith (failsWith_timestampDatetime unit v _ _)))
    intro value hvalue
    obtain ⟨datetime, -, rfl⟩ := map_eq_ok.mp hvalue
    exact failsWith_ok _
  · rw [hty]
    have hmapping : mapping.mssql.ty = .dateTime2 precision := hsame.trans hty
    apply failsWith_bind (failsWith_map _ (refusesCell_of_failsWith (failsWith_timestampDatetime2 hmapping hprecision)))
    intro value hvalue
    obtain ⟨datetime, hdatetime, rfl⟩ := map_eq_ok.mp hvalue
    have hvalid := validDateTime2_of_timestamp hmapping hprecision hdatetime
    exact failsWith_bind (refusesCell_timePayloadLen hvalid.2.1) fun _ _ => failsWith_ok _

theorem measuresCells_datetimeoffset {unit : TimeUnit} {context : RuntimeConversionContext}
    {data : Arr (SInt 64)} : MeasuresCells (sourceField mapping) data.len fun n =>
      Temporal.measureDatetimeoffsetColumnCellLengths unit (data.slice 0 n) mapping context column := by
  apply measuresCells_temporal hsource
  intro v r
  have htimezone : FailsWith (RefusesCell (sourceField mapping) r)
      (Temporal.timestampTimezoneForDatetimeoffset mapping r) := by
    unfold Temporal.timestampTimezoneForDatetimeoffset
    split
    · exact failsWith_bind (failsWith_ensure fun _ => refusesCell_rowError (by decide)) fun _ _ => failsWith_ok _
    · exact failsWith_fail.mpr (refusesCell_rowError (by decide))
  have hvalue : FailsWith (RefusesCell (sourceField mapping) r)
      (Temporal.datetimeoffsetValue unit mapping context v r) := by
    apply failsWith_bind htimezone
    intro timezone _
    exact refusesCell_of_failsWith (failsWith_timestampDatetimeoffset unit v timezone _)
  apply failsWith_bind hvalue
  intro offset hoffset
  obtain ⟨timezone, -, hoffset⟩ := bind_eq_ok.mp hoffset
  have hvalid := validDateTimeOffset_of_timestamp hoffset
  exact failsWith_bind (refusesCell_timePayloadLen hvalid.1.2.1) fun _ _ => failsWith_ok _

end Temporal

section Bind

variable [Externals] {encoder : DirectEncoder} {array : ArrayRef} {i : ℕ} {column : DirectColumnPlan}
  {mapping : SchemaMapping} {encoding : DirectColumnEncoding} {bound : BoundDirectColumn}
  {context : RuntimeConversionContext}

theorem measuresCells_of_primitive {classification : PrimitiveArrowToMssql}
    (hbind : bindDirectArray encoder array i column = .ok bound)
    (henc : column.encoding = .primitive classification) :
    MeasuresCells (columnField column) array.len fun n => (bound.slice 0 n).measureCellLengths context := by
  unfold bindDirectArray at hbind
  rw [henc] at hbind
  have hexpected {expected : PrimitiveArrowToMssql} {kind : String} {valueLen : ℕ} {α : Type} {data : Arr α}
      {validateValue : α → ℕ → Result Unit} (hsame : classification = expected)
      (h : ∀ value r, FailsWith (RefusesCell (columnField column) r) (validateValue value r)) :
      MeasuresCells (columnField column) data.len fun n =>
        Primitive.measureExpected expected kind valueLen (data.slice 0 n) column validateValue := by
    apply (measuresCells_primitive h).of_eq
    intro n slot cellLengths
    unfold Primitive.measureExpected
    rw [ensure_of (hsame ▸ henc), ok_bind]
  cases classification with
  | uint64ToCheckedBigInt =>
    obtain ⟨data, hdata, rfl⟩ := map_eq_ok.mp hbind
    rw [← len_of_downcast hdata]
    apply hexpected rfl
    intro value r
    apply failsWith_bind (failsWith_bind (failsWith_okOr fun _ => refusesCell_columnError (by decide)) _)
    · exact fun _ _ => failsWith_ok _
    · exact fun _ _ => failsWith_ok _
  | float16ToReal | float32ToReal | float64ToFloat =>
    obtain ⟨data, hdata, rfl⟩ := map_eq_ok.mp hbind
    rw [← len_of_downcast hdata]
    apply hexpected rfl
    intro value r
    exact failsWith_ensure fun _ => refusesCell_columnError (by decide)
  | _ =>
    obtain ⟨data, hdata, rfl⟩ := map_eq_ok.mp hbind
    rw [← len_of_downcast hdata]
    apply (measuresCells_primitive fun _ _ => failsWith_ok ()).of_eq
    intro n slot cellLengths
    simp only [BoundDirectColumn.slice, BoundDirectColumn.measureCellLengths,
      Primitive.measureFixedPrimitiveColumnCellLengths, henc, Primitive.primitiveValueLen, ok_bind]
    rfl

theorem measuresCells_of_decimal {classification : DecimalArrowToMssql}
    (hbind : bindDirectArray encoder array i column = .ok bound) (henc : column.encoding = .decimal classification) :
    MeasuresCells (columnField column) array.len fun n => (bound.slice 0 n).measureCellLengths context := by
  unfold bindDirectArray at hbind
  rw [henc] at hbind
  dsimp only at hbind
  rcases hsource : classification.source with _ | _ | _ | _
  all_goals
    rw [hsource] at hbind
    obtain ⟨data, hdata, rfl⟩ := map_eq_ok.mp hbind
    rw [← len_of_downcast hdata]
    apply measuresCells_decimal
    intro v r
  case decimal256 =>
    apply failsWith_bind (failsWith_okOr fun _ => refusesCell_columnError (by decide))
    intro value _
    exact refusesCell_normalizedDecimalValue column classification r value
  all_goals exact refusesCell_normalizedDecimalValue column classification r v.val

def WithinWireLimit : MssqlType → ArrowCell → Prop
  | .nVarChar length, .utf8 value => (Tds.encodeUtf16 value).length ≤ wireLimit length
  | .varBinary length, .binary value => value.length ≤ wireLimit length
  | _, _ => True

theorem extractAs_of_downcast {kind : ArrayKind} {cell : kind.Elem → ArrowCell} {data : Arr kind.Elem}
    (hdata : downcastDirectArray kind array column = .ok data) (r : ℕ) :
    extractAs kind cell array mapping r = .ok (cell (data.value r)) ∧ data.isNull = array.isNull := by
  rw [downcastDirectArray_eq_ok] at hdata
  constructor
  · rw [extractAs, downcastArray, hdata, okOr_some, ok_bind, pure_eq_ok]
  · by_cases hkind : array.dataType.arrayKind = kind
    · obtain ⟨data', hdata', -, hisNull⟩ := array.downcast_eq_some hkind
      rw [hdata', Option.some.injEq] at hdata
      rw [← hdata, hisNull]
    · rw [ArrayRef.downcast_eq_none hkind] at hdata
      cases hdata

omit [Externals] in
theorem encodes_nVarChar {dataType : DataType} {ty : MssqlType} {length : MssqlTypeLength}
    (h : Encodes dataType ty (.variableWidth (.stringToNVarChar length))) :
    ty = .nVarChar length ∧ isArrowStringFamily dataType = true := by
  cases h with
  | nVarChar hfamily => exact ⟨rfl, hfamily⟩

omit [Externals] in
theorem encodes_varBinary {dataType : DataType} {ty : MssqlType} {length : MssqlTypeLength}
    (h : Encodes dataType ty (.variableWidth (.bytesToVarBinary length))) :
    ty = .varBinary length ∧ isArrowBinaryFamily dataType = true := by
  cases h with
  | varBinary hfamily => exact ⟨rfl, hfamily⟩

def ColumnWithinWireLimit (mapping : SchemaMapping) (array : ArrayRef) : Prop :=
  ∀ r < array.len, ∀ cell, extractArrowCell array mapping r = .ok cell → WithinWireLimit mapping.mssql.ty cell

theorem measuresCells_of_string {length : MssqlTypeLength}
    (hbind : bindDirectNvarcharArray array column mapping = .ok bound)
    (hencodes : Encodes mapping.arrow.dataType mapping.mssql.ty (.variableWidth (.stringToNVarChar length)))
    (henc : column.encoding = .variableWidth (.stringToNVarChar length))
    (hwire : ColumnWithinWireLimit mapping array) :
    MeasuresCells (columnField column) array.len fun n => (bound.slice 0 n).measureCellLengths context := by
  obtain ⟨hty, hfamily⟩ := encodes_nVarChar hencodes
  have hmeasure {data : Arr String} (hlen : data.len = array.len)
      (hvalue : ∀ r, extractUtf8Cell array mapping r = .ok (.utf8 (data.value r)) ∧ data.isNull = array.isNull) :
      MeasuresCells (columnField column) array.len fun n =>
        VariableWidth.measureNvarcharColumnCellLengths (data.slice 0 n) column := by
    have hcells := @measuresCells_variableWidth column _ data length (VariableWidth.nvarcharValueLen column length) (by
      intro r hr hnull
      obtain ⟨hcell, hisNull⟩ := hvalue r
      have hlimit := hwire r (hlen ▸ hr) _ ((extractArrowCell_string hfamily (hisNull ▸ hnull)).trans hcell)
      rw [hty] at hlimit
      exact refusesCell_nvarcharValueLen r hlimit)
    rw [hlen] at hcells
    apply hcells.of_eq
    intro n slot cellLengths
    unfold VariableWidth.measureNvarcharColumnCellLengths VariableWidth.nvarcharLength
    rw [henc]
    rfl
  unfold extractUtf8Cell at hmeasure
  cases bindsText_of_bind hbind with
  | utf8 hdt hdata | largeUtf8 hdt hdata | utf8View hdt hdata =>
    apply hmeasure (len_of_downcast hdata)
    intro r
    rw [hdt]
    exact extractAs_of_downcast hdata r

theorem measuresCells_of_bytes {length : MssqlTypeLength}
    (hbind : bindDirectVarbinaryArray array column mapping = .ok bound)
    (hencodes : Encodes mapping.arrow.dataType mapping.mssql.ty (.variableWidth (.bytesToVarBinary length)))
    (henc : column.encoding = .variableWidth (.bytesToVarBinary length))
    (hwire : ColumnWithinWireLimit mapping array) :
    MeasuresCells (columnField column) array.len fun n => (bound.slice 0 n).measureCellLengths context := by
  obtain ⟨hty, hfamily⟩ := encodes_varBinary hencodes
  have hmeasure {data : Arr (List UInt8)} (hlen : data.len = array.len)
      (hvalue : ∀ r, extractBinaryCell array mapping r = .ok (.binary (data.value r)) ∧ data.isNull = array.isNull) :
      MeasuresCells (columnField column) array.len fun n =>
        VariableWidth.measureVarbinaryColumnCellLengths (data.slice 0 n) column := by
    have hcells := @measuresCells_variableWidth column _ data length (VariableWidth.varbinaryValueLen column length) (by
      intro r hr hnull
      obtain ⟨hcell, hisNull⟩ := hvalue r
      have hlimit := hwire r (hlen ▸ hr) _ ((extractArrowCell_binary hfamily (hisNull ▸ hnull)).trans hcell)
      rw [hty] at hlimit
      exact refusesCell_varbinaryValueLen r hlimit)
    rw [hlen] at hcells
    apply hcells.of_eq
    intro n slot cellLengths
    unfold VariableWidth.measureVarbinaryColumnCellLengths VariableWidth.varbinaryLength
    rw [henc]
    rfl
  unfold extractBinaryCell at hmeasure
  cases bindsBytes_of_bind hbind with
  | binary hdt hdata | largeBinary hdt hdata | binaryView hdt hdata =>
    apply hmeasure (len_of_downcast hdata)
    intro r
    rw [hdt]
    exact extractAs_of_downcast hdata r

theorem measuresCells_of_temporal {classification : TemporalArrowToMssql}
    (hbind : bindDirectArray encoder array i column = .ok bound) (hmapping : encoder.mappings[i]? = some mapping)
    (hsource : columnField column = sourceField mapping) (hty : mapping.mssql.ty = column.targetType)
    (henc : column.encoding = .temporal classification)
    (hencodes : Encodes mapping.arrow.dataType column.targetType (.temporal classification)) :
    MeasuresCells (sourceField mapping) array.len fun n => (bound.slice 0 n).measureCellLengths context := by
  have hmapping' := mappingForColumnIndex_eq_ok.mpr hmapping
  unfold bindDirectArray at hbind
  rw [henc, hmapping'] at hbind
  generalize mapping.arrow.dataType = dataType at hencodes
  generalize htarget : column.targetType = ty at hencodes
  have htime {α : Type} {data : Arr α} {increments : α → ℤ} {incrementsPerDay : ℤ} {scale : ℕ} {unitName : String}
      (hscale : scale ≤ 7) : MeasuresCells (sourceField mapping) data.len fun n =>
        Temporal.measureTimeColumnCellLengths (data.slice 0 n) mapping column
          fun v r => Time.mssqlTimeFromI64 mapping r (increments v) incrementsPerDay scale unitName := by
    apply measuresCells_time hsource
    · exact fun v r => failsWith_mssqlTimeFromI64 _ _ _ _
    · intro v r time htime
      rw [(mssqlTimeFromI64_eq_ok.mp htime).2]
      exact hscale
  cases hencodes with
  | date32 =>
    obtain ⟨data, hdata, rfl⟩ := map_eq_ok.mp hbind
    rw [← len_of_downcast hdata]
    exact measuresCells_date32 hsource
  | date64 =>
    obtain ⟨data, hdata, rfl⟩ := map_eq_ok.mp hbind
    rw [← len_of_downcast hdata]
    exact measuresCells_date64 hsource
  | time32Second | time32Millisecond | time64Microsecond =>
    obtain ⟨data, hdata, rfl⟩ := map_eq_ok.mp hbind
    rw [← len_of_downcast hdata]
    exact htime (by decide)
  | time64Nanosecond =>
    obtain ⟨data, hdata, rfl⟩ := map_eq_ok.mp hbind
    rw [← len_of_downcast hdata]
    have hfails (v : SInt 64) (r : ℕ) : FailsWith (IsValueError mapping r)
        (mssqlTimeFromArrowTime64Nanosecond mapping r v context.nanosecondPolicy) :=
      failsWith_mssqlTimeFromNanoseconds _ _
    exact measuresCells_time hsource hfails fun _ _ _ h => (validTime_of_nanoseconds h).1
  | timestampDateTime | timestampTzDateTime =>
    obtain ⟨data, hdata, rfl⟩ := map_eq_ok.mp hbind
    rw [← len_of_downcast hdata]
    exact measuresCells_timestamp hsource hty (.inl htarget)
  | timestampDateTime2 _ hprecision | timestampTzDateTime2 _ hprecision =>
    obtain ⟨data, hdata, rfl⟩ := map_eq_ok.mp hbind
    rw [← len_of_downcast hdata]
    exact measuresCells_timestamp hsource hty (.inr ⟨_, hprecision, htarget⟩)
  | dateTimeOffset =>
    obtain ⟨data, hdata, rfl⟩ := map_eq_ok.mp hbind
    rw [← len_of_downcast hdata]
    exact measuresCells_datetimeoffset hsource

theorem measuresCells_of_bind (hencodes : Encodes mapping.arrow.dataType mapping.mssql.ty encoding)
    (hlimit : ∀ length, mapping.mssql.ty = .binary length → length ≤ 8000)
    (hmapping : encoder.mappings[i]? = some mapping)
    (hbind : bindDirectArray encoder array i (DirectColumnPlan.fromMapping mapping encoding) = .ok bound)
    (hwire : ColumnWithinWireLimit mapping array) :
    MeasuresCells (sourceField mapping) array.len fun n => (bound.slice 0 n).measureCellLengths context := by
  cases encoding with
  | primitive classification => exact measuresCells_of_primitive hbind rfl
  | decimal classification => exact measuresCells_of_decimal hbind rfl
  | variableWidth classification =>
    unfold bindDirectArray at hbind
    rw [mappingForColumnIndex_eq_ok.mpr hmapping] at hbind
    cases classification with
    | stringToNVarChar length => exact measuresCells_of_string hbind hencodes rfl hwire
    | bytesToVarBinary length => exact measuresCells_of_bytes hbind hencodes rfl hwire
  | temporal classification => exact measuresCells_of_temporal hbind hmapping rfl rfl rfl hencodes
  | uint64Decimal20_0 =>
    obtain ⟨data, hdata, rfl⟩ := map_eq_ok.mp hbind
    rw [← len_of_downcast hdata]
    exact measuresCells_decimal fun _ _ => failsWith_ok _
  | fixedSizeBinary classification =>
    obtain ⟨data, hdata, rfl⟩ := map_eq_ok.mp hbind
    rw [← len_of_downcastFixedSizeBinary hdata]
    obtain ⟨length⟩ := classification
    generalize hdataType : mapping.arrow.dataType = dataType at hencodes
    generalize hty : mapping.mssql.ty = ty at hencodes hlimit
    cases hencodes
    exact measuresCells_fixedSizeBinary (hlimit length rfl)

theorem slice_of_bind (hbind : bindDirectArray encoder array i column = .ok bound) :
    bound.slice 0 array.len = bound := by
  have hslice := @bindDirectArray_slice _ encoder array column 0 array.len i
  rw [ArrayRef.slice_zero, hbind] at hslice
  exact (Except.ok.inj hslice).symm

end Bind

section Conversion

variable [Externals] {mapping : SchemaMapping} {array : ArrayRef} {encoding : DirectColumnEncoding}
  {context : RuntimeConversionContext} {r : ℕ}

omit [Externals] in
theorem refusesCell_convertDecimal (classification : DecimalArrowToMssql) (unscaled : ℤ) :
    FailsWith (RefusesCell (sourceField mapping) r) (convertDecimal mapping r classification unscaled) := by
  have hnormalize : FailsWith (RefusesCell (sourceField mapping) r)
      (normalizeUnscaledDecimal mapping r unscaled classification.arrowScale) := by
    unfold normalizeUnscaledDecimal normalizeNegativeScale
    split
    · exact failsWith_ok _
    · apply failsWith_bind (failsWith_okOr fun _ => refusesCell_rowError (by decide))
      intro factor _
      exact failsWith_okOr fun _ => refusesCell_rowError (by decide)
  apply failsWith_bind hnormalize
  intro value _
  exact failsWith_bind (failsWith_ensure fun _ => refusesCell_rowError (by decide)) fun _ _ => failsWith_ok _

theorem refusesCell_convertCell (hencodes : Encodes mapping.arrow.dataType mapping.mssql.ty encoding)
    (hcompatible : arrowTypeCompatibleWithMapping array.dataType mapping = true) :
    FailsWith (RefusesCell (sourceField mapping) r) (do
      let cell ← extractArrowCell array mapping r
      mssqlCellFromArrowCell context mapping cell r) := by
  by_cases hinhabitable : Inhabitable encoding
  · exact refusesCell_of_failsWith (failsWith_mssqlCellFromArrowCell hencodes hinhabitable hcompatible)
  · cases encoding with
    | decimal classification =>
      obtain ⟨cell, hcell, rfl | hkind⟩ := @extractArrowCell_of_compatible _ array mapping r hencodes.isExtractable
        hcompatible
      · rw [hcell, ok_bind, mssqlCellFromArrowCell_null hencodes]
        exact refusesCell_of_failsWith failsWith_convertNull
      · rw [hcell, ok_bind, mssqlCellFromArrowCell_value hencodes hkind]
        have hconvert (unscaled : ℤ) : FailsWith (RefusesCell (sourceField mapping) r) (do
            let value ← convertDecimal mapping r classification unscaled
            pure (MssqlCell.decimal (some value))) :=
          failsWith_bind (refusesCell_convertDecimal classification unscaled) fun _ _ => failsWith_ok _
        obtain ⟨p, s, hdt, -⟩ | ⟨p, s, hdt, -⟩ | ⟨p, s, hdt, -⟩ | ⟨p, s, hdt, -⟩ := decimal_sources hencodes
        all_goals
          rw [hdt] at hkind
          cases hkind
        case inr.inr.inr.decimal256 =>
          apply failsWith_bind (failsWith_okOr fun _ => refusesCell_rowError (by decide))
          intro value _
          exact hconvert value
        all_goals exact hconvert _
    | _ => exact absurd trivial hinhabitable

end Conversion

section Batch

variable [Externals] {encoder : DirectEncoder} {batch : RecordBatch} {mappings : List SchemaMapping}
  {context : RuntimeConversionContext}

/-- Every column of the batch is within the limits of the wire. -/
def WithinWireLimits (mappings : List SchemaMapping) (batch : RecordBatch) : Prop :=
  ∀ (i : ℕ) mapping array, mappings[i]? = some mapping → batch.columns[i]? = some array →
    ColumnWithinWireLimit mapping array

omit [Externals] in
theorem fits_none (framing : Tds.Framing) : Tds.Fits framing none := by cases framing <;> trivial

theorem fits_of_withinWireLimit {mapping : SchemaMapping} {array : ArrayRef} {encoding : DirectColumnEncoding} {r : ℕ}
    {cell : MssqlCell} (hencodes : Encodes mapping.arrow.dataType mapping.mssql.ty encoding)
    (hcompatible : arrowTypeCompatibleWithMapping array.dataType mapping = true)
    (hlimit : ∀ length, mapping.mssql.ty = .binary length → length ≤ 8000)
    (hwire : ColumnWithinWireLimit mapping array) (hr : r < array.len)
    (hcell : semanticCell context mapping array r = some cell) :
    Tds.Fits (Tds.framingOf mapping.mssql.ty mapping.mssql.nullable) (Tds.payload cell) := by
  obtain ⟨arrowCell, harrow, hkind⟩ := @extractArrowCell_of_compatible _ array mapping r hencodes.isExtractable
    hcompatible
  have hwithin := hwire r hr arrowCell harrow
  rw [semanticCell, harrow, ok_bind, toOption_eq_some] at hcell
  rcases hkind with rfl | hkind
  · rw [mssqlCellFromArrowCell_null hencodes] at hcell
    obtain ⟨-, hcell⟩ := bind_unit_eq_ok.mp hcell
    obtain ⟨-, hcell⟩ := bind_unit_eq_ok.mp hcell
    cases hcell
    rw [Tds.payload_nullCell]
    exact fits_none _
  · rw [mssqlCellFromArrowCell_value hencodes hkind] at hcell
    generalize mapping.arrow.dataType = dataType at hencodes hkind
    generalize hty : mapping.mssql.ty = ty at hencodes hlimit hwithin ⊢
    cases hencodes with
    | @nVarChar _ length hfamily =>
      obtain rfl | rfl | rfl := isArrowStringFamily_iff.mp hfamily
      all_goals
        cases hkind
        obtain ⟨-, hcell⟩ := bind_unit_eq_ok.mp hcell
        cases hcell
        cases length <;> exact hwithin
    | @varBinary _ length hfamily =>
      obtain rfl | rfl | rfl := isArrowBinaryFamily_iff.mp hfamily
      all_goals
        cases hkind
        obtain ⟨-, hcell⟩ := bind_unit_eq_ok.mp hcell
        cases hcell
        cases length <;> exact hwithin
    | @fixedSizeBinary length =>
      cases hkind with
      | fixedSizeBinary _ value hvalue =>
        cases hcell
        have hle := hlimit length rfl
        have hlength : value.length = length := by simpa using hvalue
        change value.length ≤ 0xfffe
        omega
    | _ => cases mapping.mssql.nullable <;> trivial

theorem cellsFit_of_withinWireLimits (hencoder : DirectEncoder.newWithContext mappings context = .ok encoder)
    (hshape : validateRecordBatchEncodingShape batch mappings = .ok ()) (hlimit : BinaryWithinLimit mappings)
    (hwire : WithinWireLimits mappings batch) : CellsFit context mappings batch := by
  intro i mapping hmapping r hr cell hcell
  obtain ⟨array, harray, -, hcompatible⟩ := column_of_shape hshape hmapping
  obtain ⟨encoding, -, hencodes⟩ := planned_column hencoder hmapping
  have hsemantic : semanticCell context mapping array r = some cell := by
    rw [batchCell, hmapping, harray] at hcell
    exact hcell
  have hlen : array.len = batch.numRows := batch.sized array (List.mem_of_getElem? harray)
  exact fits_of_withinWireLimit hencodes hcompatible (hlimit mapping (List.mem_of_getElem? hmapping))
    (hwire i mapping array hmapping harray) (hlen.symm ▸ hr) hsemantic

theorem refusesShape_validate (batch : RecordBatch) (mappings : List SchemaMapping) :
    FailsWith RefusesShape (validateRecordBatchEncodingShape batch mappings) := by
  have hcount : FailsWith RefusesShape (validateSchemaFieldCountAgainstMappings batch.schema mappings) := by
    unfold validateSchemaFieldCountAgainstMappings
    split
    · exact failsWith_fail.mpr ⟨_, rfl, rfl⟩
    · exact failsWith_ensure fun _ => ⟨_, rfl, rfl⟩
  have hfield (position : ℕ) (field : Field) (mapping : SchemaMapping) :
      FailsWith RefusesShape (validateSchemaFieldShapeAgainstMapping position field mapping) := by
    apply failsWith_bind (failsWith_ensure fun _ => ⟨_, rfl, rfl⟩)
    intro _ _
    apply failsWith_bind (failsWith_ensure fun _ => ⟨_, rfl, rfl⟩)
    intro _ _
    exact failsWith_ensure fun _ => ⟨_, rfl, rfl⟩
  apply failsWith_bind
  · apply failsWith_bind hcount
    intro _ _
    exact failsWith_forEach (fun _ => True) (fun x _ _ _ => ⟨hfield x.2 x.1.1 x.1.2, fun _ _ => trivial⟩) trivial
  · intro _ _
    apply failsWith_forEach (fun _ => True) _ trivial
    intro x _ _ _
    exact ⟨failsWith_ensure fun _ => ⟨_, rfl, rfl⟩, fun _ _ => trivial⟩

omit [Externals] in
theorem replicate_eq_table (rows columns : ℕ) :
    List.replicate (rows * columns) 0 = table rows columns fun _ _ => 0 := by
  apply Eq.symm
  apply List.eq_replicate_iff.mpr
  refine ⟨length_table _ _ _, ?_⟩
  intro n hn
  obtain ⟨r, -, c, -, rfl⟩ := mem_table.mp hn
  rfl

theorem refusesValue_measureCellLengths {bound : BoundDirectBatch}
    (hencoder : DirectEncoder.newWithContext mappings context = .ok encoder)
    (hlimit : BinaryWithinLimit mappings) (hbound : BoundDirectBatch.new encoder batch = .ok bound)
    (hwire : WithinWireLimits mappings batch)
    (hshape : validateRecordBatchEncodingShape batch mappings = .ok ())
    (hcells : bound.rowCount * bound.columns.length < 2 ^ 64) : FailsWith RefusesValue bound.measureCellLengths := by
  have hlawful := lawful_of_new hencoder hlimit hbound
  obtain ⟨hcolumns, hcontext, hrows⟩ := boundBatch_new_eq_ok.mp hbound
  obtain ⟨hmappings, -⟩ := newWithContext_eq_ok.mp hencoder
  have hcount : fitsUnsigned 64 (bound.rowCount * bound.columns.length : ℕ) :=
    fitsUnsigned_64.mpr ⟨by positivity, by exact_mod_cast hcells⟩
  unfold BoundDirectBatch.measureCellLengths
  split
  · exact failsWith_ok _
  · apply failsWith_bind (by rw [unsignedOp_of_fits hcount]; exact failsWith_ok _)
    intro cellCount hcellCount
    obtain ⟨-, rfl⟩ := unsignedOp_eq_ok.mp hcellCount
    rw [Int.toNat_natCast, replicate_eq_table]
    apply failsWith_forEach (fun s => ∃ entry, s = table bound.rowCount bound.columns.length entry) _ ⟨_, rfl⟩
    rintro ⟨column, k⟩ hmem _ ⟨entry, rfl⟩
    have hcolumn : bound.columns[k]? = some column := List.mem_zipIdx_iff_getElem?.mp hmem
    obtain ⟨hk, -⟩ := List.getElem?_eq_some_iff.mp hcolumn
    obtain ⟨mapping, encoding, array, hmapping, hencodes, harray, hbind⟩ := bound_column hencoder hcolumns hcolumn
    obtain ⟨_, harray', hindex, -⟩ := column_of_shape hshape hmapping
    rw [hindex] at harray
    constructor
    · have hcells := @measuresCells_of_bind _ encoder array k mapping encoding column bound.runtimeContext hencodes
        (hlimit mapping (List.mem_of_getElem? hmapping)) (hmappings ▸ hmapping) hbind
        (hwire k mapping array hmapping harray)
      have hrefuses := hcells.refusesOnlyValues
      rw [slice_of_bind hbind] at hrefuses
      apply hrefuses k _ _ hk
      rw [length_table, hrows, batch.sized array (List.mem_of_getElem? harray)]
    · intro s' hs'
      exact ⟨_, (((hlawful column (List.mem_of_getElem? hcolumn)).measures hk).mp hs').2⟩

def IsInvalidPayload (e : Error) : Prop := ∃ message, e = invalidPayload message

omit [Externals] in
theorem isInvalidPayload_measuredBatch {rows columns : ℕ} {cellLengths : List ℕ}
    (hlength : cellLengths.length = rows * columns) :
    FailsWith IsInvalidPayload (MeasuredDirectBatch.new rows columns cellLengths) := by
  have hrow (r : ℕ) (hr : r < rows) : FailsWith IsInvalidPayload (measureRowLength columns cellLengths r) := by
    apply failsWith_forEach (fun _ => True) _ trivial
    intro c hc rowLen _
    have hnext := Nat.mul_le_mul_right columns (Nat.succ_le_of_lt hr)
    rw [Nat.succ_mul] at hnext
    have hindex : r * columns + c < cellLengths.length := by
      have hcolumn := List.mem_range.mp hc
      omega
    rw [getIndex_of_getElem? (List.getElem?_eq_getElem hindex), ok_bind]
    exact ⟨failsWith_okOr fun _ => ⟨_, rfl⟩, fun _ _ => trivial⟩
  apply failsWith_bind (failsWith_okOr fun _ => ⟨_, rfl⟩)
  intro expectedCellCount _
  apply failsWith_bind (failsWith_ensure fun _ => ⟨_, rfl⟩)
  intro _ _
  apply failsWith_bind
  · apply failsWith_forEach (fun _ => True) _ trivial
    rintro r hr ⟨rowLengths, payloadLen⟩ _
    constructor
    · apply failsWith_bind (hrow r (List.mem_range.mp hr))
      intro rowLen _
      exact failsWith_bind (failsWith_okOr fun _ => ⟨_, rfl⟩) fun _ _ => failsWith_ok _
    · exact fun _ _ => trivial
  · exact fun _ _ => failsWith_ok _

variable (hencoder : DirectEncoder.newWithContext mappings context = .ok encoder)
  (hlimit : BinaryWithinLimit mappings) (hwire : WithinWireLimits mappings batch)
  (hshape : validateRecordBatchEncodingShape batch mappings = .ok ())
  (hcells : batch.numRows * mappings.length < 2 ^ 64)

include hencoder hlimit hwire hshape hcells

theorem measureBatch_of_unconvertible
    (hnone : ∃ r < batch.numRows, ∃ i < mappings.length, batchCell context mappings batch r i = none) :
    ∃ e, encoder.measureBatch batch = .error (.error e) ∧ RefusesValue e := by
  obtain ⟨hmappings, -⟩ := newWithContext_eq_ok.mp hencoder
  obtain ⟨bound, hbound, hcolumns, hrows, hbytes⟩ := exists_bound hencoder hshape
  obtain ⟨r, hr, i, hi, hcell⟩ := hnone
  have hzero : ¬batch.numRows = 0 := by omega
  have hfails := refusesValue_measureCellLengths hencoder hlimit hbound hwire hshape (by rwa [hrows, hcolumns])
  have hnot (cellLengths : List ℕ) : bound.measureCellLengths ≠ .ok cellLengths := by
    intro hok
    have haccepts := ((lawful_of_new hencoder hlimit hbound).measureCellLengths_eq_ok.mp hok).2.1
    obtain ⟨bytes, hbytes'⟩ := Option.isSome_iff_exists.mp (haccepts r (hrows ▸ hr) i (hcolumns ▸ hi))
    rw [hbytes] at hbytes'
    obtain ⟨_, _, _, hcell', -⟩ := batchBytes_eq_some.mp hbytes'
    rw [hcell] at hcell'
    cases hcell'
  rw [DirectEncoder.measureBatch, hmappings, hshape, ok_bind, if_neg hzero, measureCellLengths, hbound, ok_bind]
  cases hmeasured : bound.measureCellLengths with
  | ok cellLengths => exact absurd hmeasured (hnot cellLengths)
  | error fault =>
    rw [hmeasured] at hfails
    cases hfails with
    | error he => exact ⟨_, rfl, he⟩

theorem measureBatch_of_convertible
    (hsome : ∀ r < batch.numRows, ∀ i < mappings.length, (batchCell context mappings batch r i).isSome) :
    (∃ m, encoder.measureBatch batch = .ok m) ∨
      2 ^ 64 ≤ encodedLength context mappings batch ∧
        ∃ e, encoder.measureBatch batch = .error (.error e) ∧ IsInvalidPayload e := by
  have hfits := cellsFit_of_withinWireLimits hencoder hshape hlimit hwire
  have hall : ∀ r < batch.numRows, ∀ i < mappings.length, (batchBytes context mappings batch r i).isSome :=
    fun r hr i hi => (batchBytes_isSome hfits hr hi).mpr (hsome r hr i hi)
  by_cases haddressable : encodedLength context mappings batch < 2 ^ 64
  · exact .inl ((exists_measureBatch hencoder hlimit hshape).mpr ⟨hall, haddressable⟩)
  · have hnot : ¬∃ m, encoder.measureBatch batch = .ok m :=
      fun h => haddressable ((exists_measureBatch hencoder hlimit hshape).mp h).2
    refine .inr ⟨by omega, ?_⟩
    obtain ⟨hmappings, -⟩ := newWithContext_eq_ok.mp hencoder
    obtain ⟨bound, hbound, hcolumns, hrows, hbytes⟩ := exists_bound hencoder hshape
    have haccepts : bound.Accepts := by
      intro r hr i hi
      rw [hbytes]
      exact hall r (hrows ▸ hr) i (hcolumns ▸ hi)
    have hmeasured : bound.measureCellLengths = .ok _ :=
      (lawful_of_new hencoder hlimit hbound).measureCellLengths_eq_ok.mpr
        ⟨by rwa [hrows, hcolumns], haccepts, rfl⟩
    have hcount : encoder.plan.columnCount = bound.columns.length :=
      (length_planColumns hencoder).trans hcolumns.symm
    have hpayload := @isInvalidPayload_measuredBatch bound.rowCount bound.columns.length
      (table bound.rowCount bound.columns.length bound.cellLength) (length_table _ _ _)
    rw [DirectEncoder.measureBatch, hmappings, hshape, ok_bind] at hnot ⊢
    by_cases hzero : batch.numRows = 0
    · rw [if_pos hzero] at hnot
      exact absurd ⟨_, rfl⟩ hnot
    · rw [if_neg hzero, measureCellLengths, hbound, ok_bind, hmeasured, ok_bind, hcount, ← hrows] at hnot ⊢
      cases hnew : MeasuredDirectBatch.new bound.rowCount bound.columns.length
          (table bound.rowCount bound.columns.length bound.cellLength) with
      | ok m => exact absurd ⟨m, hnew⟩ hnot
      | error fault =>
        rw [hnew] at hpayload
        cases hpayload with
        | error he => exact ⟨_, rfl, he⟩

end Batch

end ArrowTiberius.Direct
