import ArrowTiberius.Arrow.Value

namespace ArrowTiberius

open Checked

/-- An array by its accessors, which are pure. -/
structure Arr (α : Type) where
  len : ℕ
  isNull : ℕ → Bool
  value : ℕ → α

namespace Arr

variable {α β : Type}

def map (f : α → β) (a : Arr α) : Arr β := ⟨a.len, a.isNull, fun i => f (a.value i)⟩

def slice (a : Arr α) (offset length : ℕ) : Arr α :=
  ⟨length, fun i => a.isNull (offset + i), fun i => a.value (offset + i)⟩

theorem slice_zero (a : Arr α) (length : ℕ) : a.slice 0 length = ⟨length, a.isNull, a.value⟩ := by
  simp only [slice, Nat.zero_add]

end Arr

inductive ArrayKind where
  | boolean
  | int8
  | int16
  | int32
  | int64
  | uint8
  | uint16
  | uint32
  | uint64
  | float16
  | float32
  | float64
  | utf8
  | largeUtf8
  | utf8View
  | binary
  | largeBinary
  | binaryView
  | fixedSizeBinary (length : ℕ)
  | decimal32
  | decimal64
  | decimal128
  | decimal256
  | date32
  | date64
  | time32Second
  | time32Millisecond
  | time64Microsecond
  | time64Nanosecond
  | timestamp (unit : TimeUnit)
  | other
  deriving DecidableEq

abbrev ArrayKind.Elem : ArrayKind → Type
  | .boolean => Bool
  | .int8 => SInt 8
  | .int16 => SInt 16
  | .int32 | .decimal32 | .date32 | .time32Second | .time32Millisecond => SInt 32
  | .int64 | .decimal64 | .date64 | .time64Microsecond | .time64Nanosecond | .timestamp _ => SInt 64
  | .uint8 => UInt8
  | .uint16 => UInt16
  | .uint32 => UInt32
  | .uint64 => UInt64
  | .float16 => F16
  | .float32 => F32
  | .float64 => F64
  | .utf8 | .largeUtf8 | .utf8View => String
  | .binary | .largeBinary | .binaryView => List UInt8
  | .fixedSizeBinary length => { bytes : List UInt8 // bytes.length = length }
  | .decimal128 => SInt 128
  | .decimal256 => SInt 256
  | .other => Unit

def DataType.arrayKind : DataType → ArrayKind
  | .boolean => .boolean
  | .int8 => .int8
  | .int16 => .int16
  | .int32 => .int32
  | .int64 => .int64
  | .uint8 => .uint8
  | .uint16 => .uint16
  | .uint32 => .uint32
  | .uint64 => .uint64
  | .float16 => .float16
  | .float32 => .float32
  | .float64 => .float64
  | .utf8 => .utf8
  | .largeUtf8 => .largeUtf8
  | .utf8View => .utf8View
  | .binary => .binary
  | .largeBinary => .largeBinary
  | .binaryView => .binaryView
  | .fixedSizeBinary length => .fixedSizeBinary length.toNat
  | .decimal32 _ _ => .decimal32
  | .decimal64 _ _ => .decimal64
  | .decimal128 _ _ => .decimal128
  | .decimal256 _ _ => .decimal256
  | .date32 => .date32
  | .date64 => .date64
  | .time32 .second => .time32Second
  | .time32 .millisecond => .time32Millisecond
  | .time64 .microsecond => .time64Microsecond
  | .time64 .nanosecond => .time64Nanosecond
  | .timestamp unit _ => .timestamp unit
  | _ => .other

structure ArrayRef where
  dataType : DataType
  data : Arr dataType.arrayKind.Elem

namespace ArrayRef

def len (a : ArrayRef) : ℕ := a.data.len

def isNull (a : ArrayRef) (i : ℕ) : Bool := a.data.isNull i

def slice (a : ArrayRef) (offset length : ℕ) : ArrayRef := ⟨a.dataType, a.data.slice offset length⟩

theorem slice_zero (a : ArrayRef) : a.slice 0 a.len = a := by
  obtain ⟨dataType, data⟩ := a
  simp only [slice, Arr.slice_zero, len]

def downcast (kind : ArrayKind) (a : ArrayRef) : Option (Arr kind.Elem) :=
  if h : a.dataType.arrayKind = kind then some (h ▸ a.data) else none

def downcastFixedSizeBinary (a : ArrayRef) : Option (Arr (List UInt8)) :=
  match a.dataType.arrayKind, a.data with
  | .fixedSizeBinary _, data => some (data.map Subtype.val)
  | _, _ => none

theorem downcast_eq_some {kind : ArrayKind} {a : ArrayRef} (h : a.dataType.arrayKind = kind) :
    ∃ data, a.downcast kind = some data ∧ data.len = a.len ∧ data.isNull = a.isNull := by
  subst h
  exact ⟨a.data, by simp [downcast], rfl, rfl⟩

theorem downcast_eq_none {kind : ArrayKind} {a : ArrayRef} (h : a.dataType.arrayKind ≠ kind) :
    a.downcast kind = none := dif_neg h

theorem downcast_slice (kind : ArrayKind) (a : ArrayRef) (offset length : ℕ) :
    (a.slice offset length).downcast kind = (a.downcast kind).map (Arr.slice · offset length) := by
  by_cases h : a.dataType.arrayKind = kind
  · subst h
    simp [downcast, slice]
  · rw [downcast_eq_none h, downcast_eq_none (by exact h), Option.map_none]

theorem downcastFixedSizeBinary_slice (a : ArrayRef) (offset length : ℕ) :
    (a.slice offset length).downcastFixedSizeBinary =
      a.downcastFixedSizeBinary.map (Arr.slice · offset length) := by
  obtain ⟨dataType, data⟩ := a
  simp only [downcastFixedSizeBinary, slice]
  generalize dataType.arrayKind = kind at data
  cases kind <;> rfl

theorem downcastFixedSizeBinary_eq_some {a : ArrayRef} {n : ℤ} (h : a.dataType = .fixedSizeBinary n) :
    ∃ data, a.downcastFixedSizeBinary = some data ∧ data.len = a.len ∧ data.isNull = a.isNull ∧
      ∀ i, (data.value i).length = n.toNat := by
  obtain ⟨dataType, data⟩ := a
  subst h
  exact ⟨data.map Subtype.val, rfl, rfl, rfl, fun i => (data.value i).property⟩

end ArrayRef

/-- A batch of columns that agree with the schema in number and type and with each other in length. -/
structure RecordBatch where
  schema : List Field
  numRows : ℕ
  columns : List ArrayRef
  typed : columns.map ArrayRef.dataType = schema.map Field.dataType
  sized : ∀ column ∈ columns, column.len = numRows
  addressable : numRows < 2 ^ 64

namespace RecordBatch

theorem length_columns (batch : RecordBatch) : batch.columns.length = batch.schema.length := by
  simpa using congrArg List.length batch.typed

def slice (batch : RecordBatch) (offset length : ℕ) (h : offset + length ≤ batch.numRows) : RecordBatch where
  schema := batch.schema
  numRows := length
  columns := batch.columns.map (ArrayRef.slice · offset length)
  typed := by rw [List.map_map]; exact batch.typed
  sized := by
    simp only [List.mem_map]
    rintro _ ⟨column, -, rfl⟩
    rfl
  addressable := by have := batch.addressable; omega

end RecordBatch

end ArrowTiberius
