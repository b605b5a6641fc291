import ArrowTiberius.Direct.Binding
import ArrowTiberius.Direct.PlanSpec
import ArrowTiberius.Direct.Types.TemporalMembers

namespace ArrowTiberius.Direct

open Checked Tiling

namespace Primitive

variable {α : Type}

def writtenBytes (data : Arr α) (column : DirectColumnPlan) (valueBytes : α → ℕ → Result (List UInt8)) :
    ℕ → Option (List UInt8) :=
  cellBytes data column fun value => (valueBytes value 0).toOption

variable [Externals] {data : Arr α} {column : DirectColumnPlan} {valueBytes : α → ℕ → Result (List UInt8)}
  {valueLen : ℕ}

theorem fixed_primitive_law (henc : primitiveValueLen column.encoding = .ok valueLen) (hvalueLen : valueLen < 256)
    (hbytes : ∀ v r, ∃ value, valueBytes v r = .ok value ∧ valueBytes v 0 = .ok value ∧ value.length = valueLen) :
    ColumnLaw data.len (writtenBytes data column valueBytes) (measureFixedPrimitiveColumnCellLengths data column)
      (fillPrimitiveColumn data column valueBytes) (appendPrimitiveArrayCell data column valueBytes) := by
  have h : ColumnLaw data.len (writtenBytes data column valueBytes)
      (measureCheckedPrimitiveColumnCellLengths data column valueLen fun _ _ => .ok ())
      (fillPrimitiveColumn data column valueBytes) (appendPrimitiveArrayCell data column valueBytes) := by
    apply primitive_law _ _ hvalueLen
    · intro v value hvalue
      obtain ⟨_, -, hv, hlen⟩ := hbytes v 0
      rw [hv, toOption_ok, Option.some.injEq] at hvalue
      rwa [← hvalue]
    · intro v r
      obtain ⟨_, -, hv, -⟩ := hbytes v r
      simp [hv]
    · intro v r value
      obtain ⟨_, hr, hv, -⟩ := hbytes v r
      rw [hr, hv, toOption_ok, Option.some.injEq, Except.ok.injEq]
  unfold measureFixedPrimitiveColumnCellLengths
  simp only [henc, ok_bind]
  exact h

theorem checked_primitive_law {expected : PrimitiveArrowToMssql} {kind : String}
    {validateValue : α → ℕ → Result Unit} (henc : column.encoding = .primitive expected) (hvalueLen : valueLen < 256)
    (hvalidate : ∀ v r, validateValue v r = .ok () ↔ (valueBytes v 0).toOption.isSome)
    (hrow : ∀ v r, (valueBytes v r).toOption = (valueBytes v 0).toOption)
    (hlen : ∀ v value, valueBytes v 0 = .ok value → value.length = valueLen) :
    ColumnLaw data.len (writtenBytes data column valueBytes)
      (measureExpected expected kind valueLen data column validateValue)
      (fillPrimitiveColumn data column valueBytes) (appendPrimitiveArrayCell data column valueBytes) := by
  have h : ColumnLaw data.len (writtenBytes data column valueBytes)
      (measureCheckedPrimitiveColumnCellLengths data column valueLen validateValue)
      (fillPrimitiveColumn data column valueBytes) (appendPrimitiveArrayCell data column valueBytes) := by
    apply primitive_law hvalidate _ hvalueLen
    · intro v value hvalue
      exact hlen v value (toOption_eq_some.mp hvalue)
    · intro v r value
      rw [← hrow v r, toOption_eq_some]
  unfold measureExpected
  simp only [ensure_of henc, ok_bind]
  exact h

theorem uint64_law {data : Arr UInt64} (henc : column.encoding = .primitive .uint64ToCheckedBigInt) :
    ColumnLaw data.len (writtenBytes data column (uint64CheckedBigintBytes column))
      (measureUint64CheckedBigintColumnCellLengths data column) (fillUint64CheckedBigintColumn data column)
      (appendUint64CheckedBigintCell data column) := by
  have hrow (v : UInt64) (r : ℕ) :
      (uint64CheckedBigintBytes column v r).toOption = (uint64CheckedBigintBytes column v 0).toOption := by
    simp [uint64CheckedBigintBytes]
  apply checked_primitive_law henc (by decide) _ hrow
  · intro v value hvalue
    simp only [uint64CheckedBigintBytes, bind_eq_ok, okOr_eq_ok, pure_eq_ok, Except.ok.injEq] at hvalue
    obtain ⟨_, -, rfl⟩ := hvalue
    simp
  · intro v r
    simp only [← hrow v r, Option.isSome_iff_exists, toOption_eq_some, bind_eq_ok, pure_eq_ok, and_true]

theorem float_law {data : Arr α} {expected : PrimitiveArrowToMssql} {kind : String}
    {validateValue : α → ℕ → Result Unit} {finite : α → Bool} {payload : α → List UInt8}
    {onInfinite : α → ℕ → Error} (henc : column.encoding = .primitive expected) (hvalueLen : valueLen < 256)
    (hvalidate : ∀ v r, validateValue v r = .ok () ↔ finite v = true) (hlen : ∀ v, (payload v).length = valueLen)
    (hbytes : ∀ v r, valueBytes v r = (do
      ensure (finite v) (onInfinite v r)
      pure (payload v))) :
    ColumnLaw data.len (writtenBytes data column valueBytes)
      (measureExpected expected kind valueLen data column validateValue)
      (fillPrimitiveColumn data column valueBytes) (appendPrimitiveArrayCell data column valueBytes) := by
  apply checked_primitive_law henc hvalueLen
  · intro v r
    rw [hvalidate, hbytes]
    by_cases h : finite v = true <;> simp [h]
  · intro v r
    simp [hbytes]
  · intro v value hvalue
    rw [hbytes, bind_unit_eq_ok, pure_eq_ok, Except.ok.injEq] at hvalue
    rw [← hvalue.2, hlen]

theorem float16_law {data : Arr F16} (henc : column.encoding = .primitive .float16ToReal) :
    ColumnLaw data.len (writtenBytes data column (float16Bytes column)) (measureFloat16ColumnCellLengths data column)
      (fillFloat16Column data column) (appendFloat16Cell data column) := by
  have hbytes (v : F16) (r : ℕ) : float16Bytes column v r = (do
      ensure (Externals.f16ToF32 v).isFinite
        (nonFiniteFloat column r (Externals.display (Externals.f16ToF32 v)))
      pure (LittleEndian.encode 4 (Externals.f16ToF32 v).bits.toNat)) := rfl
  apply float_law henc (by decide) _ _ hbytes
  · intro v r
    rw [← F32.isFinite_toF64]
    exact ensure_eq_ok
  · intro v
    simp

theorem float32_law {data : Arr F32} (henc : column.encoding = .primitive .float32ToReal) :
    ColumnLaw data.len (writtenBytes data column (float32Bytes column)) (measureFloat32ColumnCellLengths data column)
      (fillFloat32Column data column) (appendFloat32Cell data column) := by
  have hbytes (v : F32) (r : ℕ) : float32Bytes column v r = (do
      ensure v.isFinite (nonFiniteFloat column r (Externals.display v))
      pure (LittleEndian.encode 4 v.bits.toNat)) := rfl
  apply float_law henc (by decide) _ _ hbytes
  · intro v r
    rw [← F32.isFinite_toF64]
    exact ensure_eq_ok
  · intro v
    simp

theorem float64_law {data : Arr F64} (henc : column.encoding = .primitive .float64ToFloat) :
    ColumnLaw data.len (writtenBytes data column (float64Bytes column)) (measureFloat64ColumnCellLengths data column)
      (fillFloat64Column data column) (appendFloat64Cell data column) := by
  have hbytes (v : F64) (r : ℕ) : float64Bytes column v r = (do
      ensure v.isFinite (nonFiniteFloat column r (Externals.display v))
      pure (LittleEndian.encode 8 v.bits.toNat)) := rfl
  apply float_law henc (by decide) _ _ hbytes
  · intro v r
    exact ensure_eq_ok
  · intro v
    simp

end Primitive

theorem Decimal.value_law {α : Type} {kind : String} {data : Arr α} {column : DirectColumnPlan}
    {value : α → ℕ → Result ℤ} {onError : Error → Error}
    (hrow : ∀ v r, (value v r).toOption = (value v 0).toOption) :
    ColumnLaw data.len (Decimal.cellBytes data column fun v => (value v 0).toOption.map Decimal.unscaledBytes)
      (fun slot cellLengths => measureColumn data.len slot cellLengths (Decimal.valueCellLen kind data column value))
      (fun slot layout bytes => fillColumn data.len slot layout bytes cellPosition
        (Decimal.fillCell kind data column value onError))
      (Decimal.appendCell kind data column value) := by
  apply Decimal.decimal_law
  intro v r bytes
  simp only [← hrow v r, Option.map_eq_some_iff, toOption_eq_some, eq_comm]

theorem Decimal.normalizedDecimalValue_toOption (column : DirectColumnPlan) (classification : DecimalArrowToMssql)
    (r s : ℕ) (unscaled : ℤ) : (Decimal.normalizedDecimalValue column classification r unscaled).toOption =
      (Decimal.normalizedDecimalValue column classification s unscaled).toOption := by
  have hscale : (Decimal.normalizeNegativeScale column r unscaled classification.arrowScale).toOption =
      (Decimal.normalizeNegativeScale column s unscaled classification.arrowScale).toOption := by
    unfold Decimal.normalizeNegativeScale
    split
    · rfl
    · simp only [toOption_bind, toOption_okOr]
  simp only [Decimal.normalizedDecimalValue, toOption_bind, toOption_ensure, hscale]

theorem Decimal.decimalValue_toOption {w : ℕ} {column : DirectColumnPlan} {classification : DecimalArrowToMssql}
    (v : SInt w) (r : ℕ) : (Decimal.decimalValue column classification v r).toOption =
      (Decimal.decimalValue column classification v 0).toOption :=
  Decimal.normalizedDecimalValue_toOption column classification r 0 v.val

theorem Decimal.decimal256Value_toOption {column : DirectColumnPlan} {classification : DecimalArrowToMssql}
    (v : SInt 256) (r : ℕ) : (Decimal.decimal256Value column classification v r).toOption =
      (Decimal.decimal256Value column classification v 0).toOption := by
  unfold Decimal.decimal256Value Decimal.decimal256ToI128
  generalize checkedSigned 128 v.val = narrowed
  rcases narrowed with _ | value
  · rfl
  · exact Decimal.normalizedDecimalValue_toOption column classification r 0 value

def AnnouncesLength (ty : MssqlType) : Prop := ∀ length, ty = .binary length → length ≤ 0xfffe

namespace BoundDirectColumn

variable [Externals]

def valueLength : DirectColumnEncoding → MssqlTypeLength
  | .variableWidth (.stringToNVarChar length) | .variableWidth (.bytesToVarBinary length) => length
  | _ => .max

def cellBytes (context : RuntimeConversionContext) : BoundDirectColumn → ℕ → Option (List UInt8)
  | .boolean column array => Primitive.writtenBytes array column Primitive.booleanBytes
  | .uint8 column array => Primitive.writtenBytes array column Primitive.uint8Bytes
  | .int8 column array => Primitive.writtenBytes array column Primitive.int8Bytes
  | .int16 column array => Primitive.writtenBytes array column Primitive.int16Bytes
  | .int32 column array => Primitive.writtenBytes array column Primitive.int32Bytes
  | .uint16 column array => Primitive.writtenBytes array column Primitive.uint16Bytes
  | .int64 column array => Primitive.writtenBytes array column Primitive.int64Bytes
  | .uint32 column array => Primitive.writtenBytes array column Primitive.uint32Bytes
  | .uint64 column array => Primitive.writtenBytes array column (Primitive.uint64CheckedBigintBytes column)
  | .float16 column array => Primitive.writtenBytes array column (Primitive.float16Bytes column)
  | .float32 column array => Primitive.writtenBytes array column (Primitive.float32Bytes column)
  | .float64 column array => Primitive.writtenBytes array column (Primitive.float64Bytes column)
  | .uint64Decimal20_0 column array => Decimal.cellBytes array column fun v =>
      (Decimal.uint64Value v 0).toOption.map Decimal.unscaledBytes
  | .decimal32 column classification array => Decimal.cellBytes array column fun v =>
      (Decimal.decimalValue column classification v 0).toOption.map Decimal.unscaledBytes
  | .decimal64 column classification array => Decimal.cellBytes array column fun v =>
      (Decimal.decimalValue column classification v 0).toOption.map Decimal.unscaledBytes
  | .decimal128 column classification array => Decimal.cellBytes array column fun v =>
      (Decimal.decimalValue column classification v 0).toOption.map Decimal.unscaledBytes
  | .decimal256 column classification array => Decimal.cellBytes array column fun v =>
      (Decimal.decimal256Value column classification v 0).toOption.map Decimal.unscaledBytes
  | .utf8 column array | .largeUtf8 column array | .utf8View column array =>
    VariableWidth.cellBytes array column (valueLength column.encoding)
      (VariableWidth.nvarcharPayload (valueLength column.encoding))
  | .binary column array | .largeBinary column array | .binaryView column array =>
    VariableWidth.cellBytes array column (valueLength column.encoding)
      (VariableWidth.varbinaryPayload (valueLength column.encoding))
  | .fixedSizeBinary column classification array =>
    FixedSizeBinary.cellBytes array column (FixedSizeBinary.binaryLength classification)
  | .date32 column mapping array => Temporal.cellBytes array mapping column fun v =>
      (Temporal.TemporalValue.date <$> mssqlDateFromArrowDate32 mapping 0 v).toOption
  | .date64 column mapping array => Temporal.cellBytes array mapping column fun v =>
      (Temporal.TemporalValue.dateTime2 <$> mssqlDatetime2FromArrowDate64 mapping 0 v).toOption
  | .timestamp unit column mapping array => Temporal.cellBytes array mapping column fun v =>
      (Temporal.timestampValue unit mapping context column v 0).toOption
  | .time32Second column mapping array => Temporal.cellBytes array mapping column fun v =>
      (Temporal.TemporalValue.time <$> mssqlTimeFromArrowTime32Second mapping 0 v).toOption
  | .time32Millisecond column mapping array => Temporal.cellBytes array mapping column fun v =>
      (Temporal.TemporalValue.time <$> mssqlTimeFromArrowTime32Millisecond mapping 0 v).toOption
  | .time64Microsecond column mapping array => Temporal.cellBytes array mapping column fun v =>
      (Temporal.TemporalValue.time <$> mssqlTimeFromArrowTime64Microsecond mapping 0 v).toOption
  | .time64Nanosecond column mapping array => Temporal.cellBytes array mapping column fun v =>
      (Temporal.TemporalValue.time <$> mssqlTimeFromArrowTime64Nanosecond mapping 0 v context.nanosecondPolicy).toOption
  | .dateTimeOffset unit column mapping array => Temporal.cellBytes array mapping column fun v =>
      (Temporal.TemporalValue.dateTimeOffset <$> Temporal.datetimeoffsetValue unit mapping context v 0).toOption

/-- The three passes over the column agree, cell by cell, with `cellBytes`. -/
def Lawful (context : RuntimeConversionContext) (rows : ℕ) (bound : BoundDirectColumn) : Prop :=
  ColumnLaw rows (bound.cellBytes context) (bound.measureCellLengths context) (bound.fillColumn context)
    (bound.appendCell context)

end BoundDirectColumn

section Bind

variable [Externals] {encoder : DirectEncoder} {array : ArrayRef} {i : ℕ} {column : DirectColumnPlan}
  {mapping : SchemaMapping} {encoding : DirectColumnEncoding} {bound : BoundDirectColumn}
  {context : RuntimeConversionContext}

theorem downcastDirectArray_eq_ok {kind : ArrayKind} {data : Arr kind.Elem} :
    downcastDirectArray kind array column = .ok data ↔ array.downcast kind = some data := okOr_eq_ok

theorem len_of_downcast {kind : ArrayKind} {data : Arr kind.Elem}
    (h : downcastDirectArray kind array column = .ok data) : data.len = array.len := by
  rw [downcastDirectArray_eq_ok] at h
  by_cases hkind : array.dataType.arrayKind = kind
  · obtain ⟨data', hdata', hlen, -⟩ := array.downcast_eq_some hkind
    rw [hdata', Option.some.injEq] at h
    rw [← h, hlen]
  · rw [ArrayRef.downcast_eq_none hkind] at h
    cases h

theorem len_of_downcastFixedSizeBinary {data : Arr (List UInt8)}
    (h : downcastDirectFixedSizeBinary array column = .ok data) : data.len = array.len := by
  have hsome : array.downcastFixedSizeBinary = some data := okOr_eq_ok.mp h
  obtain ⟨dataType, arr⟩ := array
  unfold ArrayRef.downcastFixedSizeBinary at hsome
  unfold ArrayRef.len
  dsimp only at hsome ⊢
  clear h
  generalize dataType.arrayKind = kind at *
  cases kind with
  | fixedSizeBinary n =>
    cases hsome
    rfl
  | _ => cases hsome

omit [Externals] in
theorem mappingForColumnIndex_eq_ok : encoder.mappingForColumnIndex i = .ok mapping ↔
    encoder.mappings[i]? = some mapping := okOr_eq_ok

/-- The arrays that a column of text is bound to. -/
inductive BindsText (array : ArrayRef) (column : DirectColumnPlan) : BoundDirectColumn → Prop
  | utf8 {data : Arr String} (hdt : array.dataType = .utf8)
    (hdata : downcastDirectArray .utf8 array column = .ok data) : BindsText array column (.utf8 column data)
  | largeUtf8 {data : Arr String} (hdt : array.dataType = .largeUtf8)
    (hdata : downcastDirectArray .largeUtf8 array column = .ok data) : BindsText array column (.largeUtf8 column data)
  | utf8View {data : Arr String} (hdt : array.dataType = .utf8View)
    (hdata : downcastDirectArray .utf8View array column = .ok data) : BindsText array column (.utf8View column data)

inductive BindsBytes (array : ArrayRef) (column : DirectColumnPlan) : BoundDirectColumn → Prop
  | binary {data : Arr (List UInt8)} (hdt : array.dataType = .binary)
    (hdata : downcastDirectArray .binary array column = .ok data) : BindsBytes array column (.binary column data)
  | largeBinary {data : Arr (List UInt8)} (hdt : array.dataType = .largeBinary)
    (hdata : downcastDirectArray .largeBinary array column = .ok data) :
    BindsBytes array column (.largeBinary column data)
  | binaryView {data : Arr (List UInt8)} (hdt : array.dataType = .binaryView)
    (hdata : downcastDirectArray .binaryView array column = .ok data) :
    BindsBytes array column (.binaryView column data)

theorem bindsText_of_bind (h : bindDirectNvarcharArray array column mapping = .ok bound) :
    BindsText array column bound := by
  unfold bindDirectNvarcharArray at h
  split at h
  case isFalse => cases h
  case isTrue =>
    split at h
    case h_4 => cases h
    all_goals
      obtain ⟨data, hdata, rfl⟩ := map_eq_ok.mp h
      constructor <;> assumption

theorem bindsBytes_of_bind (h : bindDirectVarbinaryArray array column mapping = .ok bound) :
    BindsBytes array column bound := by
  unfold bindDirectVarbinaryArray at h
  split at h
  case isFalse => cases h
  case isTrue =>
    split at h
    case h_4 => cases h
    all_goals
      obtain ⟨data, hdata, rfl⟩ := map_eq_ok.mp h
      constructor <;> assumption

theorem lawful_of_primitive {classification : PrimitiveArrowToMssql}
    (hbind : bindDirectArray encoder array i column = .ok bound)
    (henc : column.encoding = .primitive classification) : bound.Lawful context array.len := by
  unfold bindDirectArray at hbind
  rw [henc] at hbind
  cases classification with
  | uint64ToCheckedBigInt =>
    obtain ⟨data, hdata, rfl⟩ := map_eq_ok.mp hbind
    rw [← len_of_downcast hdata]
    exact Primitive.uint64_law henc
  | float16ToReal =>
    obtain ⟨data, hdata, rfl⟩ := map_eq_ok.mp hbind
    rw [← len_of_downcast hdata]
    exact Primitive.float16_law henc
  | float32ToReal =>
    obtain ⟨data, hdata, rfl⟩ := map_eq_ok.mp hbind
    rw [← len_of_downcast hdata]
    exact Primitive.float32_law henc
  | float64ToFloat =>
    obtain ⟨data, hdata, rfl⟩ := map_eq_ok.mp hbind
    rw [← len_of_downcast hdata]
    exact Primitive.float64_law henc
  | _ =>
    obtain ⟨data, hdata, rfl⟩ := map_eq_ok.mp hbind
    rw [← len_of_downcast hdata]
    apply Primitive.fixed_primitive_law (by rw [henc]; rfl) (by decide)
    intro v r
    exact ⟨_, rfl, rfl, by simp⟩

theorem lawful_of_decimal {classification : DecimalArrowToMssql}
    (hbind : bindDirectArray encoder array i column = .ok bound) (henc : column.encoding = .decimal classification) :
    bound.Lawful context array.len := by
  unfold bindDirectArray at hbind
  rw [henc] at hbind
  dsimp only at hbind
  rcases hsource : classification.source with _ | _ | _ | _
  all_goals
    rw [hsource] at hbind
    obtain ⟨data, hdata, rfl⟩ := map_eq_ok.mp hbind
    rw [← len_of_downcast hdata]
  case decimal256 => exact Decimal.value_law Decimal.decimal256Value_toOption
  all_goals exact Decimal.value_law Decimal.decimalValue_toOption

theorem nvarchar_law_of_encoding {data : Arr String} {length : MssqlTypeLength}
    (henc : column.encoding = .variableWidth (.stringToNVarChar length)) :
    ColumnLaw data.len (VariableWidth.cellBytes data column (BoundDirectColumn.valueLength column.encoding)
        (VariableWidth.nvarcharPayload (BoundDirectColumn.valueLength column.encoding)))
      (VariableWidth.measureNvarcharColumnCellLengths data column) (VariableWidth.fillNvarcharColumn data column)
      (VariableWidth.appendNvarcharCell data column) := by
  have hlength : BoundDirectColumn.valueLength column.encoding = length := by rw [henc]; rfl
  rw [hlength]
  exact VariableWidth.nvarchar_law henc

theorem varbinary_law_of_encoding {data : Arr (List UInt8)} {length : MssqlTypeLength}
    (henc : column.encoding = .variableWidth (.bytesToVarBinary length)) :
    ColumnLaw data.len (VariableWidth.cellBytes data column (BoundDirectColumn.valueLength column.encoding)
        (VariableWidth.varbinaryPayload (BoundDirectColumn.valueLength column.encoding)))
      (VariableWidth.measureVarbinaryColumnCellLengths data column) (VariableWidth.fillVarbinaryColumn data column)
      (VariableWidth.appendVarbinaryCell data column) := by
  have hlength : BoundDirectColumn.valueLength column.encoding = length := by rw [henc]; rfl
  rw [hlength]
  exact VariableWidth.varbinary_law henc

theorem lawful_of_variableWidth {classification : VariableWidthArrowToMssql}
    (hbind : bindDirectArray encoder array i column = .ok bound)
    (henc : column.encoding = .variableWidth classification) : bound.Lawful context array.len := by
  unfold bindDirectArray at hbind
  rw [henc] at hbind
  cases classification with
  | stringToNVarChar length =>
    obtain ⟨mapping, -, hbind⟩ := bind_eq_ok.mp hbind
    cases bindsText_of_bind hbind with
    | utf8 _ hdata | largeUtf8 _ hdata | utf8View _ hdata =>
      rw [← len_of_downcast hdata]
      exact nvarchar_law_of_encoding henc
  | bytesToVarBinary length =>
    obtain ⟨mapping, -, hbind⟩ := bind_eq_ok.mp hbind
    cases bindsBytes_of_bind hbind with
    | binary _ hdata | largeBinary _ hdata | binaryView _ hdata =>
      rw [← len_of_downcast hdata]
      exact varbinary_law_of_encoding henc

theorem lawful_of_temporal {classification : TemporalArrowToMssql}
    (hbind : bindDirectArray encoder array i column = .ok bound) (hmapping : encoder.mappings[i]? = some mapping)
    (hty : mapping.mssql.ty = column.targetType) (henc : column.encoding = .temporal classification)
    (hencodes : Encodes mapping.arrow.dataType column.targetType (.temporal classification)) :
    bound.Lawful context array.len := by
  have hmapping' := mappingForColumnIndex_eq_ok.mpr hmapping
  unfold bindDirectArray at hbind
  rw [henc, hmapping'] at hbind
  generalize mapping.arrow.dataType = dataType at hencodes
  generalize htarget : column.targetType = ty at hencodes
  have hne (h : ty ≠ .dateTime) : column.targetType ≠ .dateTime := by rwa [htarget]
  cases hencodes with
  | date32 =>
    obtain ⟨data, hdata, rfl⟩ := map_eq_ok.mp hbind
    rw [← len_of_downcast hdata]
    exact Temporal.date32_law (hne nofun)
  | date64 =>
    obtain ⟨data, hdata, rfl⟩ := map_eq_ok.mp hbind
    rw [← len_of_downcast hdata]
    exact Temporal.date64_law (hne nofun)
  | time32Second =>
    obtain ⟨data, hdata, rfl⟩ := map_eq_ok.mp hbind
    rw [← len_of_downcast hdata]
    exact Temporal.time_law (Temporal.time_values (by decide) (by decide) (hne nofun))
  | time32Millisecond =>
    obtain ⟨data, hdata, rfl⟩ := map_eq_ok.mp hbind
    rw [← len_of_downcast hdata]
    exact Temporal.time_law (Temporal.time_values (by decide) (by decide) (hne nofun))
  | time64Microsecond =>
    obtain ⟨data, hdata, rfl⟩ := map_eq_ok.mp hbind
    rw [← len_of_downcast hdata]
    exact Temporal.time_law (Temporal.time_values (by decide) (by decide) (hne nofun))
  | time64Nanosecond =>
    obtain ⟨data, hdata, rfl⟩ := map_eq_ok.mp hbind
    rw [← len_of_downcast hdata]
    exact Temporal.time_law (Temporal.time64Nanosecond_values (hne nofun))
  | timestampDateTime | timestampTzDateTime =>
    obtain ⟨data, hdata, rfl⟩ := map_eq_ok.mp hbind
    rw [← len_of_downcast hdata]
    exact Temporal.timestamp_law hty (.inl htarget)
  | timestampDateTime2 _ hprecision | timestampTzDateTime2 _ hprecision =>
    obtain ⟨data, hdata, rfl⟩ := map_eq_ok.mp hbind
    rw [← len_of_downcast hdata]
    exact Temporal.timestamp_law hty (.inr ⟨_, hprecision, htarget⟩)
  | dateTimeOffset =>
    obtain ⟨data, hdata, rfl⟩ := map_eq_ok.mp hbind
    rw [← len_of_downcast hdata]
    exact Temporal.datetimeoffset_law (hne nofun)

/-- A column bound to its mapping's encoding obeys the law of columns. -/
theorem lawful_of_bind (hencodes : Encodes mapping.arrow.dataType mapping.mssql.ty encoding)
    (hlimit : AnnouncesLength mapping.mssql.ty) (hmapping : encoder.mappings[i]? = some mapping)
    (hbind : bindDirectArray encoder array i (DirectColumnPlan.fromMapping mapping encoding) = .ok bound) :
    bound.Lawful context array.len := by
  cases encoding with
  | primitive classification => exact lawful_of_primitive hbind rfl
  | decimal classification => exact lawful_of_decimal hbind rfl
  | variableWidth classification => exact lawful_of_variableWidth hbind rfl
  | temporal classification => exact lawful_of_temporal hbind hmapping rfl rfl hencodes
  | uint64Decimal20_0 =>
    obtain ⟨data, hdata, rfl⟩ := map_eq_ok.mp hbind
    rw [← len_of_downcast hdata]
    exact Decimal.value_law fun v r => rfl
  | fixedSizeBinary classification =>
    obtain ⟨data, hdata, rfl⟩ := map_eq_ok.mp hbind
    rw [← len_of_downcastFixedSizeBinary hdata]
    obtain ⟨length⟩ := classification
    generalize mapping.arrow.dataType = dataType at hencodes
    generalize mapping.mssql.ty = ty at *
    cases hencodes
    exact FixedSizeBinary.fixed_size_binary_law (hlimit length rfl)

end Bind

end ArrowTiberius.Direct
