import ArrowTiberius.Direct.EncodeBatch

namespace ArrowTiberius.Direct

open Checked Tiling

namespace BoundDirectColumn

def slice (offset length : ℕ) : BoundDirectColumn → BoundDirectColumn
  | .boolean column array => .boolean column (array.slice offset length)
  | .uint8 column array => .uint8 column (array.slice offset length)
  | .int8 column array => .int8 column (array.slice offset length)
  | .int16 column array => .int16 column (array.slice offset length)
  | .int32 column array => .int32 column (array.slice offset length)
  | .uint16 column array => .uint16 column (array.slice offset length)
  | .int64 column array => .int64 column (array.slice offset length)
  | .uint32 column array => .uint32 column (array.slice offset length)
  | .uint64 column array => .uint64 column (array.slice offset length)
  | .float16 column array => .float16 column (array.slice offset length)
  | .float32 column array => .float32 column (array.slice offset length)
  | .float64 column array => .float64 column (array.slice offset length)
  | .uint64Decimal20_0 column array => .uint64Decimal20_0 column (array.slice offset length)
  | .decimal32 column classification array => .decimal32 column classification (array.slice offset length)
  | .decimal64 column classification array => .decimal64 column classification (array.slice offset length)
  | .decimal128 column classification array => .decimal128 column classification (array.slice offset length)
  | .decimal256 column classification array => .decimal256 column classification (array.slice offset length)
  | .utf8 column array => .utf8 column (array.slice offset length)
  | .largeUtf8 column array => .largeUtf8 column (array.slice offset length)
  | .utf8View column array => .utf8View column (array.slice offset length)
  | .binary column array => .binary column (array.slice offset length)
  | .largeBinary column array => .largeBinary column (array.slice offset length)
  | .binaryView column array => .binaryView column (array.slice offset length)
  | .fixedSizeBinary column classification array =>
    .fixedSizeBinary column classification (array.slice offset length)
  | .date32 column mapping array => .date32 column mapping (array.slice offset length)
  | .date64 column mapping array => .date64 column mapping (array.slice offset length)
  | .timestamp unit column mapping array => .timestamp unit column mapping (array.slice offset length)
  | .time32Second column mapping array => .time32Second column mapping (array.slice offset length)
  | .time32Millisecond column mapping array => .time32Millisecond column mapping (array.slice offset length)
  | .time64Microsecond column mapping array => .time64Microsecond column mapping (array.slice offset length)
  | .time64Nanosecond column mapping array => .time64Nanosecond column mapping (array.slice offset length)
  | .dateTimeOffset unit column mapping array => .dateTimeOffset unit column mapping (array.slice offset length)

variable [Externals] {context : RuntimeConversionContext}

theorem cellBytes_slice (column : BoundDirectColumn) (offset length r : ℕ) :
    (column.slice offset length).cellBytes context r = column.cellBytes context (offset + r) := by
  cases column <;> rfl

end BoundDirectColumn

section Bind

variable [Externals] {encoder : DirectEncoder} {array : ArrayRef} {column : DirectColumnPlan} {offset length : ℕ}

omit [Externals] in
theorem map_map_comm {α β : Type} {x : Result α} {f : α → β} {g : α → α} {h : β → β} (hfg : ∀ a, f (g a) = h (f a)) :
    f <$> g <$> x = h <$> f <$> x := by
  cases x with
  | error e => rfl
  | ok a => exact congrArg Except.ok (hfg a)

omit [Externals] in
theorem okOr_map {α β ε : Type} (f : α → β) (o : Option α) (e : ε) : okOr (o.map f) e = f <$> okOr o e := by
  cases o <;> rfl

theorem downcastDirectArray_slice (kind : ArrayKind) :
    downcastDirectArray kind (array.slice offset length) column =
      (Arr.slice · offset length) <$> downcastDirectArray kind array column := by
  rw [downcastDirectArray, ArrayRef.downcast_slice, okOr_map]
  rfl

theorem downcastDirectFixedSizeBinary_slice :
    downcastDirectFixedSizeBinary (array.slice offset length) column =
      (Arr.slice · offset length) <$> downcastDirectFixedSizeBinary array column := by
  rw [downcastDirectFixedSizeBinary, ArrayRef.downcastFixedSizeBinary_slice, okOr_map]
  rfl

theorem bindDirectArray_slice (i : ℕ) :
    bindDirectArray encoder (array.slice offset length) i column =
      BoundDirectColumn.slice offset length <$> bindDirectArray encoder array i column := by
  have hmapping {bind : SchemaMapping → Result BoundDirectColumn} {bind' : SchemaMapping → Result BoundDirectColumn}
      (h : ∀ mapping, bind mapping = BoundDirectColumn.slice offset length <$> bind' mapping) :
      (encoder.mappingForColumnIndex i >>= bind) =
        BoundDirectColumn.slice offset length <$> (encoder.mappingForColumnIndex i >>= bind') := by
    cases encoder.mappingForColumnIndex i with
    | error e => rfl
    | ok mapping => exact h mapping
  have htype : (array.slice offset length).dataType = array.dataType := rfl
  unfold bindDirectArray
  simp only [downcastDirectArray_slice]
  split
  case h_14 classification _ =>
    split <;> exact map_map_comm fun _ => rfl
  case h_15 =>
    apply hmapping
    intro mapping
    unfold bindDirectNvarcharArray
    simp only [downcastDirectArray_slice]
    rw [htype]
    split
    case isFalse => rfl
    case isTrue =>
      split
      case h_4 => rfl
      all_goals exact map_map_comm fun _ => rfl
  case h_16 =>
    apply hmapping
    intro mapping
    unfold bindDirectVarbinaryArray
    simp only [downcastDirectArray_slice]
    rw [htype]
    split
    case isFalse => rfl
    case isTrue =>
      split
      case h_4 => rfl
      all_goals exact map_map_comm fun _ => rfl
  case h_17 =>
    rw [downcastDirectFixedSizeBinary_slice]
    exact map_map_comm fun _ => rfl
  all_goals
    first
      | exact map_map_comm fun _ => rfl
      | exact hmapping fun mapping => map_map_comm fun _ => rfl

end Bind

namespace BoundDirectBatch

def slice (bound : BoundDirectBatch) (start count : ℕ) : BoundDirectBatch where
  columns := bound.columns.map (BoundDirectColumn.slice start count)
  runtimeContext := bound.runtimeContext
  rowCount := count

variable [Externals] {bound : BoundDirectBatch} {start count : ℕ}

theorem cellBytes_slice (bound : BoundDirectBatch) (start count r i : ℕ) :
    (bound.slice start count).cellBytes r i = bound.cellBytes (start + r) i := by
  simp only [cellBytes, slice, List.getElem?_map]
  cases bound.columns[i]? with
  | none => rfl
  | some column => exact column.cellBytes_slice start count r

theorem bytes_slice (bound : BoundDirectBatch) (start count r i : ℕ) :
    (bound.slice start count).bytes r i = bound.bytes (start + r) i := by
  rw [bytes, bytes, cellBytes_slice]

theorem cellLength_slice (bound : BoundDirectBatch) (start count : ℕ) :
    (bound.slice start count).cellLength = fun r => bound.cellLength (start + r) := by
  funext r i
  rw [cellLength, cellLength, bytes_slice]

omit [Externals] in
@[simp] theorem length_columns_slice (bound : BoundDirectBatch) (start count : ℕ) :
    (bound.slice start count).columns.length = bound.columns.length := List.length_map _

theorem Accepts.slice (h : bound.Accepts) (hle : start + count ≤ bound.rowCount) :
    (bound.slice start count).Accepts := by
  intro r hr i hi
  have hrow : r < count := hr
  rw [length_columns_slice] at hi
  rw [cellBytes_slice]
  exact h (start + r) (by omega) i hi

theorem Fits.slice (h : bound.Fits) (hle : start + count ≤ bound.rowCount) : (bound.slice start count).Fits := by
  obtain ⟨hfits, hcells⟩ := h
  have hsum := rowStart_add bound.columns.length rowTokenLen bound.cellLength start count
  have hend : rowStart bound.columns.length rowTokenLen bound.cellLength (start + count) ≤
      rowStart bound.columns.length rowTokenLen bound.cellLength bound.rowCount := rowStart_mono hle
  have hmul := Nat.mul_le_mul_right bound.columns.length (show count ≤ bound.rowCount by omega)
  rw [Fits, length_columns_slice, cellLength_slice]
  change rowStart _ _ _ count < _ ∧ count * _ < _
  constructor <;> omega

end BoundDirectBatch

section Batch

variable [Externals] {encoder : DirectEncoder} {batch : RecordBatch} {bound : BoundDirectBatch} {start count : ℕ}
  {mappings : List SchemaMapping}

omit [Externals] in
theorem getElem?_columns_slice (h : start + count ≤ batch.numRows) (i : ℕ) :
    (batch.slice start count h).columns[i]? = batch.columns[i]?.map (ArrayRef.slice · start count) :=
  List.getElem?_map

theorem bindDirectColumns_slice (h : start + count ≤ batch.numRows) {columns : List BoundDirectColumn}
    (hbind : bindDirectColumns encoder batch = .ok columns) :
    bindDirectColumns encoder (batch.slice start count h) =
      .ok (columns.map (BoundDirectColumn.slice start count)) := by
  obtain ⟨hlength, hcolumns⟩ := collect_eq_ok_iff_getElem?.mp hbind
  refine collect_eq_ok_iff_getElem?.mpr ⟨by rw [List.length_map, hlength], ?_⟩
  rintro i ⟨column, k⟩ sliced hx hsliced
  rw [List.getElem?_map, Option.map_eq_some_iff] at hsliced
  obtain ⟨b, hb, rfl⟩ := hsliced
  obtain ⟨array, harray, hbound⟩ := bind_eq_ok.mp (hcolumns i _ b hx hb)
  refine bind_eq_ok.mpr ⟨array.slice start count, ?_, ?_⟩
  · rw [okOr_eq_ok] at harray ⊢
    rw [getElem?_columns_slice, harray, Option.map_some]
  · rw [bindDirectArray_slice, hbound, map_ok]

theorem boundBatch_new_slice (h : start + count ≤ batch.numRows)
    (hbound : BoundDirectBatch.new encoder batch = .ok bound) :
    BoundDirectBatch.new encoder (batch.slice start count h) = .ok (bound.slice start count) := by
  obtain ⟨hcolumns, hcontext, -⟩ := boundBatch_new_eq_ok.mp hbound
  exact boundBatch_new_eq_ok.mpr ⟨bindDirectColumns_slice h hcolumns, hcontext, rfl⟩

theorem shape_slice (h : start + count ≤ batch.numRows)
    (hshape : validateRecordBatchEncodingShape batch mappings = .ok ()) :
    validateRecordBatchEncodingShape (batch.slice start count h) mappings = .ok () := by
  obtain ⟨hlength, hfields, hcolumns⟩ := validateRecordBatchEncodingShape_eq_ok.mp hshape
  refine validateRecordBatchEncodingShape_eq_ok.mpr ⟨hlength, hfields, fun i sliced mapping hsliced hmapping => ?_⟩
  rw [getElem?_columns_slice, Option.map_eq_some_iff] at hsliced
  obtain ⟨array, harray, rfl⟩ := hsliced
  exact hcolumns i array mapping harray hmapping

end Batch

end ArrowTiberius.Direct
