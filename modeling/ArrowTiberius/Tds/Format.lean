import ArrowTiberius.Lib.LittleEndian
import ArrowTiberius.Lib.Utf16
import ArrowTiberius.Mssql.Cell
import ArrowTiberius.Mssql.Types

namespace ArrowTiberius.Tds

open LittleEndian

/-- How the cells of a column tell null from a value and say how long a value is. -/
inductive Framing where
  | plain
  | bytePrefixed
  | shortPrefixed
  | plp
  deriving DecidableEq, Repr

def timeLength (scale : ℕ) : ℕ := if scale ≤ 2 then 3 else if scale ≤ 4 then 4 else 5

def decimalDigits (magnitude : ℕ) : ℕ := (Nat.toDigits 10 magnitude).length

def decimalLength (magnitude : ℕ) : ℕ :=
  if decimalDigits magnitude ≤ 9 then 4
  else if decimalDigits magnitude ≤ 19 then 8
  else if decimalDigits magnitude ≤ 28 then 12
  else 16

def encodeUtf16 (text : String) : List UInt8 := (Utf16.encode text.toList).flatMap (encode 2)

def encodeDecimal (value : MssqlDecimal) : List UInt8 :=
  (if value.unscaled < 0 then 0 else 1) :: encode (decimalLength value.unscaled.natAbs) value.unscaled.natAbs

def encodeDate (value : MssqlDate) : List UInt8 := encode 3 value.days

def encodeTime (value : MssqlTime) : List UInt8 := encode (timeLength value.scale) value.increments

def encodeDateTime (value : MssqlDateTime) : List UInt8 :=
  encodeInt 4 value.days ++ encode 4 value.secondsFragments

def encodeDateTime2 (value : MssqlDateTime2) : List UInt8 := encodeTime value.time ++ encodeDate value.date

def encodeDateTimeOffset (value : MssqlDateTimeOffset) : List UInt8 :=
  encodeDateTime2 value.datetime2 ++ encodeInt 2 value.offsetMinutes

def payload : MssqlCell → Option (List UInt8)
  | .bit value => value.map fun b => [if b then 1 else 0]
  | .tinyInt value => value.map fun n => [n]
  | .smallInt value => value.map fun n => encodeInt 2 n.val
  | .int value => value.map fun n => encodeInt 4 n.val
  | .bigInt value => value.map fun n => encodeInt 8 n.val
  | .decimal value => value.map encodeDecimal
  | .date value => value.map encodeDate
  | .time value => value.map encodeTime
  | .dateTime value => value.map encodeDateTime
  | .dateTime2 value => value.map encodeDateTime2
  | .dateTimeOffset value => value.map encodeDateTimeOffset
  | .real value => value.map fun x => encode 4 x.bits.toNat
  | .float value => value.map fun x => encode 8 x.bits.toNat
  | .nVarChar value => value.map encodeUtf16
  | .varBinary value => value

def frame : Framing → Option (List UInt8) → List UInt8
  | .plain, none => []
  | .plain, some bytes => bytes
  | .bytePrefixed, none => [0]
  | .bytePrefixed, some bytes => UInt8.ofNat bytes.length :: bytes
  | .shortPrefixed, none => encode 2 0xffff
  | .shortPrefixed, some bytes => encode 2 bytes.length ++ bytes
  | .plp, none => encode 8 0xffffffffffffffff
  | .plp, some bytes =>
    encode 8 0xfffffffffffffffe ++ encode 4 bytes.length ++ bytes ++ if bytes = [] then [] else encode 4 0

def Fits : Framing → Option (List UInt8) → Prop
  | .shortPrefixed, some bytes => bytes.length ≤ 0xfffe
  | .plp, some bytes => bytes.length ≤ 0xffffffff
  | _, _ => True

instance (framing : Framing) (content : Option (List UInt8)) : Decidable (Fits framing content) := by
  unfold Fits
  split <;> infer_instance

def wire (framing : Framing) (content : Option (List UInt8)) : Option (List UInt8) :=
  if Fits framing content then some (frame framing content) else none

def encodeCell (framing : Framing) (cell : MssqlCell) : List UInt8 := frame framing (payload cell)

def framingOf (ty : MssqlType) (nullable : Bool) : Framing :=
  match ty with
  | .bit | .tinyInt | .smallInt | .int | .bigInt | .real | .float _ | .dateTime =>
    if nullable then .bytePrefixed else .plain
  | .decimal _ _ | .date | .time _ | .dateTime2 _ | .dateTimeOffset _ => .bytePrefixed
  | .nVarChar (.bounded _) | .varBinary (.bounded _) | .binary _ => .shortPrefixed
  | .nVarChar .max | .varBinary .max => .plp

@[simp] theorem wire_plain (content : Option (List UInt8)) : wire .plain content = some (frame .plain content) := by
  simp [wire, Fits]

@[simp] theorem wire_bytePrefixed (content : Option (List UInt8)) :
    wire .bytePrefixed content = some (frame .bytePrefixed content) := by
  simp [wire, Fits]

theorem wire_eq_some {framing : Framing} {content : Option (List UInt8)} {bytes : List UInt8} :
    wire framing content = some bytes ↔ Fits framing content ∧ bytes = frame framing content := by
  unfold wire
  split <;> simp [*, eq_comm]

@[simp] theorem length_encodeTime (value : MssqlTime) : (encodeTime value).length = timeLength value.scale :=
  length_encode _ _

@[simp] theorem length_encodeDate (value : MssqlDate) : (encodeDate value).length = 3 := length_encode _ _

@[simp] theorem length_encodeDateTime (value : MssqlDateTime) : (encodeDateTime value).length = 8 := by
  simp [encodeDateTime]

@[simp] theorem length_encodeDateTime2 (value : MssqlDateTime2) :
    (encodeDateTime2 value).length = timeLength value.time.scale + 3 := by
  simp [encodeDateTime2]

@[simp] theorem length_encodeDateTimeOffset (value : MssqlDateTimeOffset) :
    (encodeDateTimeOffset value).length = timeLength value.datetime2.time.scale + 5 := by
  simp [encodeDateTimeOffset]

@[simp] theorem length_encodeDecimal (value : MssqlDecimal) :
    (encodeDecimal value).length = 1 + decimalLength value.unscaled.natAbs := by
  simp [encodeDecimal, Nat.add_comm]

theorem length_flatMap_encode (width : ℕ) (xs : List ℕ) : (xs.flatMap (encode width)).length = width * xs.length := by
  induction xs with
  | nil => simp
  | cons x xs ih => simp [ih, Nat.mul_add, Nat.add_comm]

@[simp] theorem length_encodeUtf16 (text : String) :
    (encodeUtf16 text).length = 2 * (Utf16.encode text.toList).length :=
  length_flatMap_encode _ _

end ArrowTiberius.Tds
