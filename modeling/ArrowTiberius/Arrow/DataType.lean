import Mathlib.Data.Int.Notation
import Mathlib.Tactic.Common

namespace ArrowTiberius

inductive TimeUnit where
  | second
  | millisecond
  | microsecond
  | nanosecond
  deriving DecidableEq, Repr

inductive IntervalUnit where
  | yearMonth
  | dayTime
  | monthDayNano
  deriving DecidableEq, Repr

inductive NestedKind where
  | list
  | listView
  | fixedSizeList
  | largeList
  | largeListView
  | struct
  | union
  | dictionary
  | map
  | runEndEncoded
  deriving DecidableEq, Repr

/-- Arrow data types. The types that hold child fields are only compared and printed here, so they
carry the text of their children. -/
inductive DataType where
  | null
  | boolean
  | int8
  | int16
  | int32
  | int64
  | uint8
  | uint16
  | uint32
  | uint64
  | float16
  | float32
  | float64
  | timestamp (unit : TimeUnit) (timezone : Option String)
  | date32
  | date64
  | time32 (unit : TimeUnit)
  | time64 (unit : TimeUnit)
  | duration (unit : TimeUnit)
  | interval (unit : IntervalUnit)
  | binary
  | fixedSizeBinary (length : ℤ)
  | largeBinary
  | binaryView
  | utf8
  | largeUtf8
  | utf8View
  | decimal32 (precision : ℕ) (scale : ℤ)
  | decimal64 (precision : ℕ) (scale : ℤ)
  | decimal128 (precision : ℕ) (scale : ℤ)
  | decimal256 (precision : ℕ) (scale : ℤ)
  | nested (kind : NestedKind) (children : String)
  deriving DecidableEq

structure Field where
  name : String
  dataType : DataType
  isNullable : Bool
  deriving DecidableEq

structure ArrowFieldRef where
  index : ℕ
  name : String
  nullable : Bool
  dataType : DataType
  deriving DecidableEq

def isArrowStringFamily : DataType → Bool
  | .utf8 | .largeUtf8 | .utf8View => true
  | _ => false

def isArrowBinaryFamily : DataType → Bool
  | .binary | .largeBinary | .binaryView => true
  | _ => false

theorem isArrowStringFamily_iff {t : DataType} :
    isArrowStringFamily t = true ↔ t = .utf8 ∨ t = .largeUtf8 ∨ t = .utf8View := by
  cases t <;> simp [isArrowStringFamily]

theorem isArrowBinaryFamily_iff {t : DataType} :
    isArrowBinaryFamily t = true ↔ t = .binary ∨ t = .largeBinary ∨ t = .binaryView := by
  cases t <;> simp [isArrowBinaryFamily]

end ArrowTiberius
