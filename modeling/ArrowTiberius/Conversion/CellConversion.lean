import ArrowTiberius.Direct.PlanSpec
import ArrowTiberius.Write.RecordBatch

namespace ArrowTiberius

open Checked Direct

inductive CellOf : DataType → ArrowCell → Prop where
  | boolean (value : Bool) : CellOf .boolean (.boolean value)
  | int8 (value : SInt 8) : CellOf .int8 (.int8 value)
  | int16 (value : SInt 16) : CellOf .int16 (.int16 value)
  | int32 (value : SInt 32) : CellOf .int32 (.int32 value)
  | int64 (value : SInt 64) : CellOf .int64 (.int64 value)
  | uint8 (value : UInt8) : CellOf .uint8 (.uint8 value)
  | uint16 (value : UInt16) : CellOf .uint16 (.uint16 value)
  | uint32 (value : UInt32) : CellOf .uint32 (.uint32 value)
  | uint64 (value : UInt64) : CellOf .uint64 (.uint64 value)
  | float16 (value : F32) : CellOf .float16 (.float16 value)
  | float32 (value : F32) : CellOf .float32 (.float32 value)
  | float64 (value : F64) : CellOf .float64 (.float64 value)
  | decimal32 (precision : ℕ) (scale : ℤ) (value : SInt 32) : CellOf (.decimal32 precision scale) (.decimal32 value)
  | decimal64 (precision : ℕ) (scale : ℤ) (value : SInt 64) : CellOf (.decimal64 precision scale) (.decimal64 value)
  | decimal128 (precision : ℕ) (scale : ℤ) (value : SInt 128) :
      CellOf (.decimal128 precision scale) (.decimal128 value)
  | decimal256 (precision : ℕ) (scale : ℤ) (value : SInt 256) :
      CellOf (.decimal256 precision scale) (.decimal256 value)
  | date32 (value : SInt 32) : CellOf .date32 (.date32 value)
  | date64 (value : SInt 64) : CellOf .date64 (.date64 value)
  | time32Second (value : SInt 32) : CellOf (.time32 .second) (.time32Second value)
  | time32Millisecond (value : SInt 32) : CellOf (.time32 .millisecond) (.time32Millisecond value)
  | time64Microsecond (value : SInt 64) : CellOf (.time64 .microsecond) (.time64Microsecond value)
  | time64Nanosecond (value : SInt 64) : CellOf (.time64 .nanosecond) (.time64Nanosecond value)
  | timestamp (unit : TimeUnit) (timezone : Option String) (value : SInt 64) :
      CellOf (.timestamp unit timezone) (.timestamp unit value)
  | utf8 (value : String) : CellOf .utf8 (.utf8 value)
  | largeUtf8 (value : String) : CellOf .largeUtf8 (.utf8 value)
  | utf8View (value : String) : CellOf .utf8View (.utf8 value)
  | binary (value : List UInt8) : CellOf .binary (.binary value)
  | largeBinary (value : List UInt8) : CellOf .largeBinary (.binary value)
  | binaryView (value : List UInt8) : CellOf .binaryView (.binary value)
  | fixedSizeBinary (length : ℤ) (value : List UInt8) (h : value.length = length.toNat) :
      CellOf (.fixedSizeBinary length) (.binary value)

def isExtractable : DataType → Bool
  | .null | .duration _ | .interval _ | .nested _ _ => false
  | .time32 .microsecond | .time32 .nanosecond | .time64 .second | .time64 .millisecond => false
  | _ => true

theorem compatible_string {runtime : DataType} {mapping : SchemaMapping}
    (hcompatible : arrowTypeCompatibleWithMapping runtime mapping = true)
    (h : isArrowStringFamily mapping.arrow.dataType = true) : isArrowStringFamily runtime = true := by
  rcases arrowTypeCompatibleWithMapping_iff.mp hcompatible with rfl | ⟨hruntime, -⟩ | ⟨-, hbinary, -⟩
  · exact h
  · exact hruntime
  · rcases isArrowStringFamily_iff.mp h with h | h | h <;> simp [h, isArrowBinaryFamily] at hbinary

theorem compatible_binary {runtime : DataType} {mapping : SchemaMapping}
    (hcompatible : arrowTypeCompatibleWithMapping runtime mapping = true)
    (h : isArrowBinaryFamily mapping.arrow.dataType = true) : isArrowBinaryFamily runtime = true := by
  rcases arrowTypeCompatibleWithMapping_iff.mp hcompatible with rfl | ⟨-, hstring, -⟩ | ⟨hruntime, -⟩
  · exact h
  · rcases isArrowBinaryFamily_iff.mp h with h | h | h <;> simp [h, isArrowStringFamily] at hstring
  · exact hruntime

theorem compatible_eq {runtime : DataType} {mapping : SchemaMapping}
    (hcompatible : arrowTypeCompatibleWithMapping runtime mapping = true)
    (hstring : isArrowStringFamily mapping.arrow.dataType = false)
    (hbinary : isArrowBinaryFamily mapping.arrow.dataType = false) : runtime = mapping.arrow.dataType := by
  rcases arrowTypeCompatibleWithMapping_iff.mp hcompatible with h | ⟨-, h, -⟩ | ⟨-, h, -⟩
  · exact h
  · simp [h] at hstring
  · simp [h] at hbinary

variable [Externals]

theorem extractAs_eq_ok {kind : ArrayKind} {cell : kind.Elem → ArrowCell} {array : ArrayRef} {mapping : SchemaMapping}
    {rowIndex : ℕ} (h : array.dataType.arrayKind = kind) :
    ∃ value, extractAs kind cell array mapping rowIndex = .ok (cell value) := by
  obtain ⟨data, hdata, -⟩ := array.downcast_eq_some h
  exact ⟨data.value rowIndex, by simp [extractAs, downcastArray, hdata]⟩

theorem extractUtf8Cell_of_family {array : ArrayRef} (mapping : SchemaMapping) (rowIndex : ℕ)
    (h : isArrowStringFamily array.dataType = true) :
    ∃ value, extractUtf8Cell array mapping rowIndex = .ok (.utf8 value) := by
  rcases isArrowStringFamily_iff.mp h with hdt | hdt | hdt
  all_goals
    simp only [extractUtf8Cell, hdt]
    exact extractAs_eq_ok (by rw [hdt])

theorem extractBinaryCell_of_family {array : ArrayRef} (mapping : SchemaMapping) (rowIndex : ℕ)
    (h : isArrowBinaryFamily array.dataType = true) :
    ∃ value, extractBinaryCell array mapping rowIndex = .ok (.binary value) := by
  rcases isArrowBinaryFamily_iff.mp h with hdt | hdt | hdt
  all_goals
    simp only [extractBinaryCell, hdt]
    exact extractAs_eq_ok (by rw [hdt])

theorem extractArrowCell_of_value {array : ArrayRef} {mapping : SchemaMapping} {rowIndex : ℕ}
    (hextractable : isExtractable mapping.arrow.dataType = true)
    (hcompatible : arrowTypeCompatibleWithMapping array.dataType mapping = true)
    (hnull : array.isNull rowIndex = false) :
    ∃ cell, extractArrowCell array mapping rowIndex = .ok cell ∧ CellOf mapping.arrow.dataType cell := by
  rw [extractArrowCell, if_neg (Bool.eq_false_iff.mp hnull)]
  have hextract {kind : ArrayKind} (cell : kind.Elem → ArrowCell) (hkind : array.dataType.arrayKind = kind)
      (hcell : ∀ value, CellOf mapping.arrow.dataType (cell value)) :
      ∃ c, extractAs kind cell array mapping rowIndex = .ok c ∧ CellOf mapping.arrow.dataType c := by
    obtain ⟨value, hvalue⟩ := @extractAs_eq_ok _ kind cell array mapping rowIndex hkind
    exact ⟨cell value, hvalue, hcell value⟩
  have hsame := compatible_eq hcompatible
  have hstring := compatible_string hcompatible
  have hbinary := compatible_binary hcompatible
  generalize mapping.arrow.dataType = dataType at *
  cases dataType with
  | utf8 | largeUtf8 | utf8View =>
    obtain ⟨value, hvalue⟩ := extractUtf8Cell_of_family mapping rowIndex (hstring rfl)
    exact ⟨.utf8 value, hvalue, by constructor⟩
  | binary | largeBinary | binaryView =>
    obtain ⟨value, hvalue⟩ := extractBinaryCell_of_family mapping rowIndex (hbinary rfl)
    exact ⟨.binary value, hvalue, by constructor⟩
  | fixedSizeBinary =>
    obtain ⟨data, hdata, -, -, hlength⟩ := ArrayRef.downcastFixedSizeBinary_eq_some (hsame rfl rfl)
    exact ⟨.binary (data.value rowIndex), by simp [hdata], .fixedSizeBinary _ _ (hlength rowIndex)⟩
  | time32 unit =>
    cases unit with
    | second | millisecond => exact hextract _ (by rw [hsame rfl rfl]; rfl) fun value => by constructor
    | microsecond | nanosecond => cases hextractable
  | time64 unit =>
    cases unit with
    | microsecond | nanosecond => exact hextract _ (by rw [hsame rfl rfl]; rfl) fun value => by constructor
    | second | millisecond => cases hextractable
  | null | duration | interval | nested => cases hextractable
  | _ => exact hextract _ (by rw [hsame rfl rfl]; rfl) fun value => by constructor

theorem extractArrowCell_of_compatible {array : ArrayRef} {mapping : SchemaMapping} {rowIndex : ℕ}
    (hextractable : isExtractable mapping.arrow.dataType = true)
    (hcompatible : arrowTypeCompatibleWithMapping array.dataType mapping = true) :
    ∃ cell, extractArrowCell array mapping rowIndex = .ok cell ∧
      (cell = .null ∨ CellOf mapping.arrow.dataType cell) := by
  by_cases hnull : array.isNull rowIndex = true
  · exact ⟨.null, if_pos hnull, .inl rfl⟩
  · obtain ⟨cell, hcell, hkind⟩ := extractArrowCell_of_value hextractable hcompatible (Bool.eq_false_iff.mpr hnull)
    exact ⟨cell, hcell, .inr hkind⟩

omit [Externals] in
theorem Direct.Encodes.isExtractable {dataType : DataType} {ty : MssqlType} {encoding : DirectColumnEncoding}
    (h : Encodes dataType ty encoding) : isExtractable dataType = true := by
  cases h with
  | nVarChar h => rcases isArrowStringFamily_iff.mp h with rfl | rfl | rfl <;> rfl
  | varBinary h => rcases isArrowBinaryFamily_iff.mp h with rfl | rfl | rfl <;> rfl
  | decimal hsource => rcases hsource with ⟨p, rfl, -⟩ | ⟨p, rfl, -⟩ | ⟨p, rfl, -⟩ | ⟨p, rfl, -⟩ <;> rfl
  | _ => rfl

def MssqlType.nullCell : MssqlType → MssqlCell
  | .bit => .bit none
  | .tinyInt => .tinyInt none
  | .smallInt => .smallInt none
  | .int => .int none
  | .bigInt => .bigInt none
  | .real => .real none
  | .float _ => .float none
  | .nVarChar _ => .nVarChar none
  | .varBinary _ | .binary _ => .varBinary none
  | .decimal _ _ => .decimal none
  | .date => .date none
  | .time _ => .time none
  | .dateTime => .dateTime none
  | .dateTime2 _ => .dateTime2 none
  | .dateTimeOffset _ => .dateTimeOffset none

def convertDecimal (mapping : SchemaMapping) (rowIndex : ℕ) (classification : DecimalArrowToMssql) (unscaled : ℤ) :
    Result MssqlDecimal := do
  let value ← normalizeUnscaledDecimal mapping rowIndex unscaled classification.arrowScale
  mssqlDecimalForClassification mapping rowIndex value classification

/-- What a column does with a value, read off its encoding alone. -/
def convertValue (encoding : DirectColumnEncoding) (context : RuntimeConversionContext) (mapping : SchemaMapping)
    (rowIndex : ℕ) (cell : ArrowCell) : Result MssqlCell :=
  match encoding, cell with
  | .primitive _, .boolean value => .ok (.bit (some value))
  | .primitive _, .uint8 value => .ok (.tinyInt (some value))
  | .primitive _, .int8 value => .ok (.smallInt (some (value.widen SInt.eight_le_sixteen)))
  | .primitive _, .int16 value => .ok (.smallInt (some value))
  | .primitive _, .int32 value => .ok (.int (some value))
  | .primitive _, .uint16 value =>
    .ok (.int (some (SInt.ofNat value.toNat (SInt.uint16_lt value))))
  | .primitive _, .int64 value => .ok (.bigInt (some value))
  | .primitive _, .uint32 value =>
    .ok (.bigInt (some (SInt.ofNat value.toNat (SInt.uint32_lt value))))
  | .primitive _, .uint64 value => do
    let value ← okOr (SInt.ofInt? 64 value.toNat) (rowError mapping rowIndex .integerOutOfRange
      s!"Arrow UInt64 value {value} does not fit planned SQL Server bigint")
    pure (.bigInt (some value))
  | .primitive _, .float16 value => realCell mapping rowIndex value
  | .primitive _, .float32 value => realCell mapping rowIndex value
  | .primitive _, .float64 value =>
    if value.isFinite then .ok (.float (some value))
    else fail (nonFiniteFloatError mapping rowIndex (Externals.display value))
  | .uint64Decimal20_0, .uint64 value => do
    let value ← mssqlDecimalWithShape mapping rowIndex value.toNat 20 0
    pure (.decimal (some value))
  | .decimal classification, .decimal32 value => do
    let value ← convertDecimal mapping rowIndex classification value.val
    pure (.decimal (some value))
  | .decimal classification, .decimal64 value => do
    let value ← convertDecimal mapping rowIndex classification value.val
    pure (.decimal (some value))
  | .decimal classification, .decimal128 value => do
    let value ← convertDecimal mapping rowIndex classification value.val
    pure (.decimal (some value))
  | .decimal classification, .decimal256 value => do
    let value ← okOr (checkedSigned 128 value.val) (rowError mapping rowIndex .decimalOutOfRange
      "Arrow Decimal256 value does not fit runtime i128 decimal representation")
    let value ← convertDecimal mapping rowIndex classification value
    pure (.decimal (some value))
  | .variableWidth (.stringToNVarChar length), .utf8 value => do
    ensure (¬exceedsLength length (Utf16.encode value.toList).length) (rowError mapping rowIndex .valueTooLong
      s!"string value has {(Utf16.encode value.toList).length} UTF-16 code unit(s), exceeding planned {
        mapping.mssql.ty.toSql}")
    pure (.nVarChar (some value))
  | .variableWidth (.bytesToVarBinary length), .binary value => do
    ensure (¬exceedsLength length value.length) (rowError mapping rowIndex .valueTooLong
      s!"binary value has {value.length} byte(s), exceeding planned {mapping.mssql.ty.toSql}")
    pure (.varBinary (some value))
  | .fixedSizeBinary _, .binary value => .ok (.varBinary (some value))
  | .temporal .date32ToDate, .date32 value => do
    let value ← mssqlDateFromArrowDate32 mapping rowIndex value
    pure (.date (some value))
  | .temporal .date64ToDateTime2, .date64 value => do
    let value ← mssqlDatetime2FromArrowDate64 mapping rowIndex value
    pure (.dateTime2 (some value))
  | .temporal .time32SecondToTime, .time32Second value => do
    let value ← mssqlTimeFromArrowTime32Second mapping rowIndex value
    pure (.time (some value))
  | .temporal .time32MillisecondToTime, .time32Millisecond value => do
    let value ← mssqlTimeFromArrowTime32Millisecond mapping rowIndex value
    pure (.time (some value))
  | .temporal .time64MicrosecondToTime, .time64Microsecond value => do
    let value ← mssqlTimeFromArrowTime64Microsecond mapping rowIndex value
    pure (.time (some value))
  | .temporal .time64NanosecondToTime, .time64Nanosecond value => do
    let value ← mssqlTimeFromArrowTime64Nanosecond mapping rowIndex value context.nanosecondPolicy
    pure (.time (some value))
  | .temporal (.timestampToDateTime2 unit), .timestamp _ value
  | .temporal (.timestampTzToDateTime2 unit), .timestamp _ value => do
    validateMappingTimestampTimezoneMetadata mapping rowIndex
    let value ← timestampDatetime2 unit mapping rowIndex value context.nanosecondPolicy
    pure (.dateTime2 (some value))
  | .temporal (.timestampToDateTime unit), .timestamp _ value
  | .temporal (.timestampTzToDateTime unit), .timestamp _ value => do
    validateMappingTimestampTimezoneMetadata mapping rowIndex
    let value ← timestampDatetime unit mapping rowIndex value context.nanosecondPolicy context.datetimeRounding
    pure (.dateTime (some value))
  | .temporal (.timestampTzToDateTimeOffset unit), .timestamp _ value => do
    let value ← timestampDatetimeoffset unit mapping rowIndex value ((timestampTimezone mapping).getD "")
      context.nanosecondPolicy
    pure (.dateTimeOffset (some value))
  | _, _ => crash

def convertNull (mapping : SchemaMapping) (rowIndex : ℕ) : Result MssqlCell := do
  ensure mapping.mssql.nullable (rowError mapping rowIndex .nullInNonNullableColumn
    "null value in non-nullable planned column")
  validateNullTimestampTimezoneMetadata mapping rowIndex
  pure mapping.mssql.ty.nullCell

section Conversion

variable {context : RuntimeConversionContext} {mapping : SchemaMapping} {rowIndex : ℕ}

theorem nvarCharCell_eq {length : MssqlTypeLength} {value : String}
    (h : isArrowStringFamily mapping.arrow.dataType = true) (hty : mapping.mssql.ty = .nVarChar length) :
    nvarCharCell mapping rowIndex length (.utf8 value) = (do
      ensure (¬exceedsLength length (Utf16.encode value.toList).length) (rowError mapping rowIndex .valueTooLong
        s!"string value has {(Utf16.encode value.toList).length} UTF-16 code unit(s), exceeding planned {
          mapping.mssql.ty.toSql}")
      pure (.nVarChar (some value))) := by
  have hclassify : VariableWidthArrowToMssql.classify mapping rowIndex = .ok (.stringToNVarChar length) := by
    rw [variableWidth_classify_eq_ok, hty]
    exact .nVarChar h
  rw [nvarCharCell, hclassify, ok_bind]
  dsimp only
  rw [assert_of rfl, ok_bind, mssqlNvarcharValue, ok_bind]

theorem varBinaryCell_eq {length : MssqlTypeLength} {value : List UInt8}
    (h : isArrowBinaryFamily mapping.arrow.dataType = true) (hty : mapping.mssql.ty = .varBinary length) :
    varBinaryCell mapping rowIndex length (.binary value) = (do
      ensure (¬exceedsLength length value.length) (rowError mapping rowIndex .valueTooLong
        s!"binary value has {value.length} byte(s), exceeding planned {mapping.mssql.ty.toSql}")
      pure (.varBinary (some value))) := by
  have hclassify : VariableWidthArrowToMssql.classify mapping rowIndex = .ok (.bytesToVarBinary length) := by
    rw [variableWidth_classify_eq_ok, hty]
    exact .varBinary h
  rw [varBinaryCell, hclassify, ok_bind]
  dsimp only
  rw [assert_of rfl, ok_bind, mssqlVarbinaryValue, ok_bind]

theorem binaryCell_eq {length : ℕ} {value : List UInt8} (hdt : mapping.arrow.dataType = .fixedSizeBinary length)
    (hty : mapping.mssql.ty = .binary length) (hbound : length < 2 ^ 64) (hvalue : value.length = length) :
    binaryCell mapping rowIndex length (.binary value) = .ok (.varBinary (some value)) := by
  have hclassify : FixedSizeBinaryArrowToMssql.classify mapping rowIndex = .ok (.fixedSizeBinaryToBinary length) := by
    rw [fixedSizeBinary_classify_eq_ok, hdt, hty]
    exact .fixedSizeBinary hbound
  rw [binaryCell, hclassify, ok_bind]
  dsimp only
  rw [assert_of rfl, ok_bind, mssqlVarbinaryValue, ok_bind, ensure_of hvalue, ok_bind, pure_eq_ok]

theorem primitiveMssqlCell_eq {cell : ArrowCell} {classification : PrimitiveArrowToMssql}
    (hencodes : Encodes mapping.arrow.dataType mapping.mssql.ty (.primitive classification))
    (hcell : CellOf mapping.arrow.dataType cell) : primitiveMssqlCell mapping rowIndex cell =
      convertValue (.primitive classification) context mapping rowIndex cell := by
  have hclassify : classifyForScalar mapping rowIndex = some classification := by
    rw [classifyForScalar, primitive_classify_eq_ok.mpr hencodes]
    rfl
  unfold primitiveMssqlCell
  rw [hclassify]
  generalize mapping.arrow.dataType = dataType at *
  generalize mapping.mssql.ty = ty at *
  cases hencodes <;> cases hcell <;> rfl

theorem mssqlDecimalValue_uint64 {value : UInt64} (hdt : mapping.arrow.dataType = .uint64)
    (hty : mapping.mssql.ty = .decimal 20 0) :
    mssqlDecimalValue mapping rowIndex (.uint64 value) = mssqlDecimalWithShape mapping rowIndex value.toNat 20 0 := by
  have hclassify : classifyUInt64Decimal20_0 mapping rowIndex = .ok () := by
    simp [classifyUInt64Decimal20_0, UInt64ArrowToMssql.classify, hdt, hty]
  have hscale : decimalScale mapping rowIndex = .ok 0 := by
    simp [decimalScale, hty, checkedUnsigned, fitsUnsigned, ensure]
  rw [mssqlDecimalValue, if_pos hdt, hscale, ok_bind, validateUInt64DecimalScaleCompatibility, hclassify, ok_bind,
    ensure_of rfl, ok_bind]
  simp only [ok_bind, mssqlDecimal, hty]

theorem mssqlDecimalValue_eq {cell : ArrowCell} {classification : DecimalArrowToMssql}
    (hencodes : Encodes mapping.arrow.dataType mapping.mssql.ty (.decimal classification))
    (hcell : CellOf mapping.arrow.dataType cell) : (do
      let value ← mssqlDecimalValue mapping rowIndex cell
      pure (.decimal (some value))) = convertValue (.decimal classification) context mapping rowIndex cell := by
  rw [mssqlDecimalValue, decimal_classify_eq_ok.mpr hencodes]
  generalize mapping.arrow.dataType = dataType at *
  generalize mapping.mssql.ty = ty at *
  cases hencodes with
  | decimal hsource =>
    rcases hsource with ⟨p, rfl, rfl⟩ | ⟨p, rfl, rfl⟩ | ⟨p, rfl, rfl⟩ | ⟨p, rfl, rfl⟩
    all_goals
      cases hcell
      rw [if_neg nofun, ok_bind]
    case decimal.inr.inr.inr.decimal256 => simp only [convertValue, convertDecimal, bind_assoc]
    all_goals rfl

theorem temporalCell_eq {cell : ArrowCell} {classification : TemporalArrowToMssql}
    (hencodes : Encodes mapping.arrow.dataType mapping.mssql.ty (.temporal classification))
    (hcell : CellOf mapping.arrow.dataType cell) : mssqlCellFromArrowCell context mapping cell rowIndex =
      convertValue (.temporal classification) context mapping rowIndex cell := by
  have hclassify : TemporalArrowToMssql.classify mapping rowIndex = .ok classification :=
    temporal_classify_eq_ok.mpr hencodes
  unfold mssqlCellFromArrowCell
  generalize hdt : mapping.arrow.dataType = dataType at *
  generalize hty : mapping.mssql.ty = ty at *
  cases hencodes with
  | date32 =>
    cases hcell
    simp only [mssqlDateValue, hclassify, ok_bind, convertValue]
  | date64 =>
    cases hcell
    simp only [mssqlDatetime2Value, datetime2MappingKind, hdt, hty, ok_bind, convertValue]
  | time32Second | time32Millisecond | time64Microsecond | time64Nanosecond =>
    cases hcell
    simp only [mssqlTimeValue, hclassify, ok_bind, convertValue]
    rfl
  | timestampDateTime2 _ hprecision | timestampTzDateTime2 _ hprecision =>
    cases hcell
    have hkind : datetime2MappingKind mapping rowIndex = .ok .timestamp := by
      simp only [datetime2MappingKind, hdt, hty]
      exact if_pos hprecision
    simp only [mssqlDatetime2Value, hkind, ok_bind, convertValue, bind_assoc]
  | timestampDateTime | timestampTzDateTime =>
    cases hcell
    simp only [mssqlDatetimeValue, datetimeMappingKind, hdt, hty, ok_bind, convertValue, bind_assoc]
  | @dateTimeOffset unit timezone hzoned =>
    cases hcell
    obtain ⟨text, rfl⟩ : ∃ text, timezone = some text := by
      cases timezone with
      | none => simp [isTimezoneFree] at hzoned
      | some text => exact ⟨text, rfl⟩
    simp only [mssqlDatetimeoffsetValue, hclassify, timestampTimezone, hdt, ok_bind, convertValue, if_true,
      Option.getD_some]

theorem mssqlCellFromArrowCell_value {cell : ArrowCell} {encoding : DirectColumnEncoding}
    (hencodes : Encodes mapping.arrow.dataType mapping.mssql.ty encoding)
    (hcell : CellOf mapping.arrow.dataType cell) :
    mssqlCellFromArrowCell context mapping cell rowIndex = convertValue encoding context mapping rowIndex cell := by
  cases encoding with
  | primitive classification =>
    rw [← primitiveMssqlCell_eq hencodes hcell]
    unfold mssqlCellFromArrowCell
    generalize mapping.arrow.dataType = dataType at *
    generalize mapping.mssql.ty = ty at *
    cases hencodes <;> cases hcell <;> rfl
  | uint64Decimal20_0 =>
    unfold mssqlCellFromArrowCell
    generalize hdt : mapping.arrow.dataType = dataType at *
    generalize hty : mapping.mssql.ty = ty at *
    cases hencodes
    cases hcell
    simp only [mssqlDecimalValue_uint64 hdt hty, convertValue]
  | decimal classification =>
    rw [← mssqlDecimalValue_eq hencodes hcell]
    unfold mssqlCellFromArrowCell
    generalize mapping.arrow.dataType = dataType at *
    generalize mapping.mssql.ty = ty at *
    cases hencodes with
    | decimal hsource =>
      rcases hsource with ⟨p, rfl, -⟩ | ⟨p, rfl, -⟩ | ⟨p, rfl, -⟩ | ⟨p, rfl, -⟩ <;> cases hcell <;> rfl
  | variableWidth classification =>
    unfold mssqlCellFromArrowCell
    generalize hdt : mapping.arrow.dataType = dataType at *
    generalize hty : mapping.mssql.ty = ty at *
    cases hencodes with
    | nVarChar h =>
      have heq (value : String) := @nvarCharCell_eq _ mapping rowIndex _ value (hdt ▸ h) hty
      rcases isArrowStringFamily_iff.mp h with rfl | rfl | rfl <;> cases hcell <;>
        simp only [heq, hty, convertValue]
    | varBinary h =>
      have heq (value : List UInt8) := @varBinaryCell_eq _ mapping rowIndex _ value (hdt ▸ h) hty
      rcases isArrowBinaryFamily_iff.mp h with rfl | rfl | rfl <;> cases hcell <;>
        simp only [heq, hty, convertValue]
  | fixedSizeBinary classification =>
    unfold mssqlCellFromArrowCell
    generalize hdt : mapping.arrow.dataType = dataType at *
    generalize hty : mapping.mssql.ty = ty at *
    cases hencodes with
    | fixedSizeBinary hbound =>
      cases hcell with
      | fixedSizeBinary _ value hvalue => exact binaryCell_eq hdt hty hbound (by simpa using hvalue)
  | temporal classification => exact temporalCell_eq hencodes hcell

theorem mssqlCellFromArrowCell_null {encoding : DirectColumnEncoding}
    (hencodes : Encodes mapping.arrow.dataType mapping.mssql.ty encoding) :
    mssqlCellFromArrowCell context mapping .null rowIndex = convertNull mapping rowIndex := by
  have hnull : nullMssqlCell mapping rowIndex = (do
      validateNullTimestampTimezoneMetadata mapping rowIndex
      pure mapping.mssql.ty.nullCell) := by
    unfold nullMssqlCell
    generalize hdt : mapping.arrow.dataType = dataType at *
    generalize hty : mapping.mssql.ty = ty at *
    cases hencodes with
    | decimal hsource =>
      rcases hsource with ⟨p, rfl, -⟩ | ⟨p, rfl, -⟩ | ⟨p, rfl, -⟩ | ⟨p, rfl, -⟩ <;>
        simp [supportsNullDecimalCell, validateNullTimestampTimezoneMetadata, hdt, hty, MssqlType.nullCell]
    | uint64Decimal =>
      simp [supportsNullDecimalCell, isUInt64Decimal20_0Mapping, UInt64ArrowToMssql.classify,
        validateNullTimestampTimezoneMetadata, hdt, hty, MssqlType.nullCell]
    | nVarChar h =>
      rcases isArrowStringFamily_iff.mp h with rfl | rfl | rfl <;>
        simp [validateNullTimestampTimezoneMetadata, hdt, MssqlType.nullCell]
    | varBinary h =>
      rcases isArrowBinaryFamily_iff.mp h with rfl | rfl | rfl <;>
        simp [validateNullTimestampTimezoneMetadata, hdt, MssqlType.nullCell]
    | _ =>
      simp [nullTimeCell, nullDatetimeCell, nullDatetime2Cell, nullDatetimeoffsetCell, datetimeMappingKind,
        datetime2MappingKind, TemporalArrowToMssql.classify, validateNullTimestampTimezoneMetadata,
        sqlServerDatetime2TimestampScale, MssqlType.nullCell, *]
  rw [mssqlCellFromArrowCell, hnull, convertNull]

end Conversion

end ArrowTiberius
