import ArrowTiberius.Tds.CellCodec

namespace ArrowTiberius.Tds

inductive ColumnType where
  | null
  | bit
  | int1
  | int2
  | int4
  | int8
  | datetime4
  | float4
  | float8
  | money
  | datetime
  | money4
  | guid
  | intn
  | bitn
  | decimaln
  | numericn
  | floatn
  | datetimen
  | daten
  | timen
  | datetime2
  | datetimeOffsetn
  | bigVarBin
  | bigVarChar
  | bigBinary
  | bigChar
  | nVarchar
  | nChar
  | xml
  | udt
  | text
  | image
  | nText
  | ssVariant
  deriving DecidableEq, Repr

inductive FixedLenType where
  | null
  | int1
  | bit
  | int2
  | int4
  | datetime4
  | float4
  | money
  | datetime
  | float8
  | money4
  | int8
  deriving DecidableEq, Repr

inductive VarLenType where
  | guid
  | intn
  | bitn
  | decimaln
  | numericn
  | floatn
  | money
  | datetimen
  | daten
  | timen
  | datetime2
  | datetimeOffsetn
  | bigVarBin
  | bigVarChar
  | bigBinary
  | bigChar
  | nVarchar
  | nChar
  | xml
  | udt
  | text
  | image
  | nText
  | ssVariant
  deriving DecidableEq, Repr

inductive TypeInfo where
  | fixedLen (ty : FixedLenType)
  | varLenSized (ty : VarLenType) (len : ℕ)
  | varLenSizedPrecision (ty : VarLenType) (size precision scale : ℕ)
  | xml (size : ℕ)
  deriving DecidableEq, Repr

def TypeInfo.isFixedLen : TypeInfo → Bool
  | .fixedLen _ => true
  | _ => false

structure BulkLoadColumn where
  ordinal : ℕ
  name : String
  isNullable : Bool
  columnType : ColumnType
  typeInfo : TypeInfo
  deriving DecidableEq

def DeclaredAs (info : TypeInfo) : ColumnType → Prop
  | .bit => info = .fixedLen .bit
  | .bitn => info = .varLenSized .bitn 1
  | .int1 => info = .fixedLen .int1 ∨ info = .varLenSized .intn 1
  | .int2 => info = .fixedLen .int2 ∨ info = .varLenSized .intn 2
  | .int4 => info = .fixedLen .int4 ∨ info = .varLenSized .intn 4
  | .int8 => info = .fixedLen .int8 ∨ info = .varLenSized .intn 8
  | .float4 => info = .fixedLen .float4 ∨ info = .varLenSized .floatn 4
  | .float8 => info = .fixedLen .float8 ∨ info = .varLenSized .floatn 8
  | .datetime => info = .fixedLen .datetime
  | .datetimen => ∃ len, info = .varLenSized .datetimen len
  | .decimaln => ∃ size precision scale, info = .varLenSizedPrecision .decimaln size precision scale
  | .daten => ∃ len, info = .varLenSized .daten len
  | .timen => ∃ scale, info = .varLenSized .timen scale
  | .datetime2 => ∃ scale, info = .varLenSized .datetime2 scale
  | .datetimeOffsetn => ∃ scale, info = .varLenSized .datetimeOffsetn scale
  | .bigVarBin => ∃ len, info = .varLenSized .bigVarBin len
  | .bigBinary => ∃ len, info = .varLenSized .bigBinary len
  | .nVarchar => ∃ len, info = .varLenSized .nVarchar len
  | _ => True

def ColumnType.isNumber : ColumnType → Bool
  | .bit | .bitn | .int1 | .int2 | .int4 | .int8 | .float4 | .float8 => true
  | _ => false

/-- The rule of the protocol: numbers and bits have the plain token where they may not be null and the
length-prefixed one where they may. -/
structure BulkLoadColumn.FollowsTds (column : BulkLoadColumn) : Prop where
  declared : DeclaredAs column.typeInfo column.columnType
  plain : column.columnType.isNumber = true → column.typeInfo.isFixedLen = !column.isNullable

inductive Content where
  | bit
  | integer (width : ℕ)
  | floating (width : ℕ)
  | decimal (precision scale : ℕ)
  | date
  | time (width : ℕ)
  | dateTime (width : ℕ)
  | dateTime2 (width : ℕ)
  | dateTimeOffset (width : ℕ)
  | text
  | bytes
  | binary (length : ℕ)
  deriving DecidableEq, Repr

structure CellFormat where
  framing : Framing
  content : Content
  deriving DecidableEq, Repr

def fixedLenFormat : FixedLenType → Option CellFormat
  | .bit => some ⟨.plain, .bit⟩
  | .int1 => some ⟨.plain, .integer 1⟩
  | .int2 => some ⟨.plain, .integer 2⟩
  | .int4 => some ⟨.plain, .integer 4⟩
  | .int8 => some ⟨.plain, .integer 8⟩
  | .float4 => some ⟨.plain, .floating 4⟩
  | .float8 => some ⟨.plain, .floating 8⟩
  | .datetime => some ⟨.plain, .dateTime 8⟩
  | .datetime4 => some ⟨.plain, .dateTime 4⟩
  | .null | .money | .money4 => none

/-- A maximum length of `0xffff` stands for no maximum, and values are sent in chunks. -/
def lengthFraming (len : ℕ) : Framing := if len = 0xffff then .plp else .shortPrefixed

def varLenFormat (len : ℕ) : VarLenType → Option CellFormat
  | .bitn => some ⟨.bytePrefixed, .bit⟩
  | .intn => some ⟨.bytePrefixed, .integer len⟩
  | .floatn => some ⟨.bytePrefixed, .floating len⟩
  | .datetimen => some ⟨.bytePrefixed, .dateTime len⟩
  | .daten => some ⟨.bytePrefixed, .date⟩
  | .timen => some ⟨.bytePrefixed, .time (timeLength len)⟩
  | .datetime2 => some ⟨.bytePrefixed, .dateTime2 (timeLength len + 3)⟩
  | .datetimeOffsetn => some ⟨.bytePrefixed, .dateTimeOffset (timeLength len + 5)⟩
  | .nVarchar => some ⟨lengthFraming len, .text⟩
  | .bigVarBin => some ⟨lengthFraming len, .bytes⟩
  | .bigBinary => some ⟨.shortPrefixed, .binary len⟩
  | _ => none

def TypeInfo.cellFormat : TypeInfo → Option CellFormat
  | .fixedLen ty => fixedLenFormat ty
  | .varLenSized ty len => varLenFormat len ty
  | .varLenSizedPrecision .decimaln _ precision scale | .varLenSizedPrecision .numericn _ precision scale =>
    some ⟨.bytePrefixed, .decimal precision scale⟩
  | .varLenSizedPrecision _ _ _ _ => none
  | .xml _ => none

def contentOf : MssqlType → Content
  | .bit => .bit
  | .tinyInt => .integer 1
  | .smallInt => .integer 2
  | .int => .integer 4
  | .bigInt => .integer 8
  | .real => .floating 4
  | .float _ => .floating 8
  | .decimal precision scale => .decimal precision scale.toNat
  | .date => .date
  | .time precision => .time (timeLength precision.get)
  | .dateTime => .dateTime 8
  | .dateTime2 precision => .dateTime2 (timeLength precision + 3)
  | .dateTimeOffset precision => .dateTimeOffset (timeLength precision + 5)
  | .nVarChar _ => .text
  | .varBinary _ => .bytes
  | .binary length => .binary length

def cellFormatOf (ty : MssqlType) (nullable : Bool) : CellFormat := ⟨framingOf ty nullable, contentOf ty⟩

def Content.Describes : Content → List UInt8 → Prop
  | .bit, value => value.length = 1
  | .date, value => value.length = 3
  | .integer width, value | .floating width, value | .time width, value | .dateTime width, value
  | .dateTime2 width, value | .dateTimeOffset width, value | .binary width, value => value.length = width
  | .decimal _ _, value => value.length ∈ [5, 9, 13, 17]
  | .text, value => Even value.length
  | .bytes, _ => True

def CellFormat.Describes (format : CellFormat) (cell : List UInt8) : Prop :=
  ∃ content, cell = frame format.framing content ∧ (content = none → format.framing ≠ .plain) ∧
    ∀ bytes ∈ content, format.content.Describes bytes

theorem length_encodeDecimal_mem (value : MssqlDecimal) : (encodeDecimal value).length ∈ [5, 9, 13, 17] := by
  rw [length_encodeDecimal, decimalLength]
  split_ifs <;> decide

theorem contentOf_describes {ty : MssqlType} {cell : MssqlCell} (h : SqlCellOf ty cell) :
    ∃ bytes, payload cell = some bytes ∧ (contentOf ty).Describes bytes := by
  cases h with
  | decimal => exact ⟨_, rfl, length_encodeDecimal_mem _⟩
  | date => exact ⟨_, rfl, length_encodeDate _⟩
  | time _ hscale =>
    refine ⟨_, rfl, ?_⟩
    rw [contentOf, ← hscale]
    exact length_encodeTime _
  | dateTime => exact ⟨_, rfl, length_encodeDateTime _⟩
  | dateTime2 => exact ⟨_, rfl, length_encodeDateTime2 _⟩
  | dateTimeOffset => exact ⟨_, rfl, length_encodeDateTimeOffset _⟩
  | nVarChar =>
    refine ⟨_, rfl, ?_⟩
    rw [contentOf, Content.Describes, length_encodeUtf16]
    exact even_two_mul _
  | varBinary => exact ⟨_, rfl, trivial⟩
  | _ => exact ⟨_, rfl, rfl⟩

theorem framingOf_nullable (ty : MssqlType) : framingOf ty true ≠ .plain := by
  intro hplain
  have hnull := readable_null ty
  rw [hplain] at hnull
  exact hnull

theorem cellFormatOf_describes {ty : MssqlType} {nullable : Bool} {cell : MssqlCell} (h : Holds ty nullable cell) :
    (cellFormatOf ty nullable).Describes (encodeCell (framingOf ty nullable) cell) := by
  refine ⟨payload cell, rfl, ?_⟩
  obtain ⟨rfl, rfl⟩ | h := h
  · rw [payload_nullCell]
    exact ⟨fun _ => framingOf_nullable ty, nofun⟩
  · obtain ⟨bytes, hbytes, hdescribes⟩ := contentOf_describes h
    rw [hbytes]
    refine ⟨nofun, fun other hother => ?_⟩
    cases hother
    exact hdescribes

end ArrowTiberius.Tds
