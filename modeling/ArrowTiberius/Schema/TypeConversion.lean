import ArrowTiberius.Arrow.DataType
import ArrowTiberius.Externals
import ArrowTiberius.Mssql.Types
import ArrowTiberius.Schema.Policy

namespace ArrowTiberius

open Checked

def sqlServerMaxDecimalPrecision : ℕ := 38

def sqlServerMaxBinaryLen : ℕ := 8000

def planningDiagnostic (code : DiagnosticCode) (index : ℕ) (field : Field) (message : String) : Diagnostic :=
  (Diagnostic.error code message).withField ⟨index, field.name⟩

def policyRequiredForArrowToMssql (index : ℕ) (field : Field) (message : String) : Diagnostic :=
  planningDiagnostic .profileDependentConversion index field message

def observedDataRequiredForArrowToMssql (index : ℕ) (field : Field) (message : String) : Diagnostic :=
  planningDiagnostic .observedDataRequired index field message

def decimalOutOfRangeForArrowToMssql (index : ℕ) (field : Field) (message : String) : Diagnostic :=
  planningDiagnostic .decimalOutOfRange index field message

def fixedSizeBinaryOutOfRangeForArrowToMssql (index : ℕ) (field : Field) (message : String) : Diagnostic :=
  planningDiagnostic .unsupportedArrowType index field message

def unsupportedArrowTypeFamily : DataType → String
  | .null => "null"
  | .float16 => "16-bit floating-point"
  | .time32 _ | .time64 _ => "time-only"
  | .duration _ => "duration"
  | .interval _ => "interval"
  | .fixedSizeBinary _ => "fixed-size binary"
  | .nested .dictionary _ | .nested .runEndEncoded _ => "encoded"
  | .nested _ _ => "nested"
  | _ => "unsupported"

def planArrowUInt64AsMssqlType (policy : UInt64Policy) (index : ℕ) (field : Field) : Outcome Diagnostic MssqlType :=
  match policy with
  | .reject => fail (policyRequiredForArrowToMssql index field
      "UInt64 requires UInt64Policy::Decimal20_0 or UInt64Policy::CheckedBigInt")
  | .decimal20_0 => .ok (.decimal 20 0)
  | .checkedBigInt => .ok .bigInt

def planArrowStringAsMssqlType (policy : StringPolicy) (index : ℕ) (field : Field) : Outcome Diagnostic MssqlType :=
  match policy with
  | .nVarCharMax => .ok (.nVarChar .max)
  | .nVarChar length => .ok (.nVarChar (.bounded length))
  | .observedNVarChar => fail (observedDataRequiredForArrowToMssql index field
      "ObservedNVarChar requires observed values or statistics")

def planArrowBinaryAsMssqlType (policy : BinaryPolicy) (index : ℕ) (field : Field) : Outcome Diagnostic MssqlType :=
  match policy with
  | .varBinaryMax => .ok (.varBinary .max)
  | .varBinary length => .ok (.varBinary (.bounded length))
  | .observedVarBinary => fail (observedDataRequiredForArrowToMssql index field
      "ObservedVarBinary requires observed values or statistics")

def planArrowFixedSizeBinaryAsMssqlType (length : ℤ) (index : ℕ) (field : Field) : Outcome Diagnostic MssqlType := do
  let length ← okOr (checkedUnsigned 64 length) (fixedSizeBinaryOutOfRangeForArrowToMssql index field
    "fixed-size binary length must be non-negative")
  ensure (1 ≤ length ∧ length ≤ sqlServerMaxBinaryLen) (fixedSizeBinaryOutOfRangeForArrowToMssql index field
    s!"fixed-size binary length {length} is outside SQL Server binary(n) range 1..={sqlServerMaxBinaryLen}")
  pure (.binary length)

def normalizeArrowDecimalShape (precision : ℕ) (scale : ℤ) (policy : DecimalPolicy) (index : ℕ) (field : Field) :
    Outcome Diagnostic (ℕ × ℤ) := do
  ensure (precision ≠ 0) (decimalOutOfRangeForArrowToMssql index field
    "decimal precision must be at least 1 for SQL Server")
  let (precision, scale) ← (
    if scale < 0 then
      match policy with
      | .rejectNegativeScale => fail (policyRequiredForArrowToMssql index field
          "negative decimal scale requires DecimalPolicy::NormalizeNegativeScale")
      | .normalizeNegativeScale => do
        let normalized ← okOr (checkedUnsigned 8 (precision + scale.natAbs)) (decimalOutOfRangeForArrowToMssql
          index field "normalized decimal precision overflows u8")
        pure (normalized, 0)
    else .ok (precision, scale) : Outcome Diagnostic (ℕ × ℤ))
  ensure (¬precision > sqlServerMaxDecimalPrecision) (decimalOutOfRangeForArrowToMssql index field
    s!"decimal precision {precision} exceeds SQL Server maximum precision 38")
  let scaleAsU8 ← okOr (checkedUnsigned 8 scale) (decimalOutOfRangeForArrowToMssql index field
    s!"decimal scale {scale} must be non-negative")
  ensure (¬scaleAsU8 > precision) (decimalOutOfRangeForArrowToMssql index field
    s!"decimal scale {scale} cannot exceed precision {precision}")
  pure (precision, scale)

theorem normalizeArrowDecimalShape_eq_ok {precision : ℕ} {scale : ℤ} {policy : DecimalPolicy} {index : ℕ}
    {field : Field} {shape : ℕ × ℤ} (h : normalizeArrowDecimalShape precision scale policy index field = .ok shape) :
    1 ≤ shape.1 ∧ shape.1 ≤ 38 ∧ -38 < scale ∧ shape.2 = scale.toNat ∧ shape.2 ≤ shape.1 ∧
      shape.1 = precision + (-scale).toNat := by
  simp only [normalizeArrowDecimalShape, bind_eq_ok, ensure_eq_ok, okOr_eq_ok, checkedUnsigned_eq_some, pure_eq_ok,
    Except.ok.injEq] at h
  obtain ⟨_, hpositive, ⟨precision', scale'⟩, hshape, _, hprecision, scaleAsU8, ⟨hfits, rfl⟩, _, hle, rfl⟩ := h
  have hnormalized : scale' = scale.toNat ∧
      precision' = precision + (if scale < 0 then scale.natAbs else 0) := by
    split at hshape
    case isTrue hneg =>
      cases policy with
      | rejectNegativeScale => simp at hshape
      | normalizeNegativeScale =>
        simp only [bind_eq_ok, okOr_eq_ok, checkedUnsigned_eq_some, Except.ok.injEq, Prod.mk.injEq] at hshape
        obtain ⟨_, ⟨-, rfl⟩, rfl, rfl⟩ := hshape
        rw [if_pos hneg]
        omega
    case isFalse hneg =>
      cases hshape
      rw [if_neg hneg]
      omega
  obtain ⟨hscale, hwidth⟩ := hnormalized
  unfold sqlServerMaxDecimalPrecision at hprecision
  split at hwidth <;> simp only <;> omega

def planArrowDecimalAsMssqlType (precision : ℕ) (scale : ℤ) (policy : DecimalPolicy) (index : ℕ) (field : Field) :
    Outcome Diagnostic MssqlType := do
  let (precision, scale) ← normalizeArrowDecimalShape precision scale policy index field
  pure (.decimal precision scale)

def planArrowDecimal256AsMssqlType (precision : ℕ) (scale : ℤ) (decimalPolicy : DecimalPolicy)
    (decimal256Policy : Decimal256Policy) (index : ℕ) (field : Field) : Outcome Diagnostic MssqlType :=
  match decimal256Policy with
  | .checkedDowncast => planArrowDecimalAsMssqlType precision scale decimalPolicy index field
  | .reject => fail (policyRequiredForArrowToMssql index field
      "Decimal256 requires Decimal256Policy::CheckedDowncast")

def planArrowDate64AsMssqlType (policy : Date64Policy) (index : ℕ) (field : Field) : Outcome Diagnostic MssqlType :=
  match policy with
  | .rejectNonMidnight => fail (observedDataRequiredForArrowToMssql index field
      "Date64 requires observed values to verify every value is midnight")
  | .timestampDateTime2 => .ok (.dateTime2 3)

def planTimestampPolicyAsMssqlType (policy : TimestampPolicy) (index : ℕ) (field : Field) :
    Outcome Diagnostic MssqlType :=
  match policy with
  | .dateTime => .ok .dateTime
  | .dateTime2 precision =>
    if precision ≤ 7 then .ok (.dateTime2 precision)
    else fail (policyRequiredForArrowToMssql index field
      s!"datetime2 precision {precision} is outside SQL Server range 0..=7")

/-- Arrow writes a timestamp without a time zone with no text or with an empty one. -/
def hasTimezone (timezone : Option String) : Bool := timezone.any fun timezone => !timezone.isEmpty

def planArrowTimestampAsMssqlType (timezone : Option String) (timezonePolicy : TimezonePolicy)
    (timestampPolicy : TimestampPolicy) (index : ℕ) (field : Field) : Outcome Diagnostic MssqlType :=
  if hasTimezone timezone ∧ timezonePolicy = .reject then
    fail (policyRequiredForArrowToMssql index field
      "timezone-aware timestamps require TimezonePolicy::DateTimeOffset or TimezonePolicy::NormalizeUtcDateTime2")
  else if hasTimezone timezone ∧ timezonePolicy = .dateTimeOffset then .ok (.dateTimeOffset 7)
  else planTimestampPolicyAsMssqlType timestampPolicy index field

variable [Externals]

def unsupportedArrowTypeForArrowToMssql (index : ℕ) (field : Field) (dataType : DataType) : Diagnostic :=
  let family := unsupportedArrowTypeFamily dataType
  planningDiagnostic .unsupportedArrowType index field
    s!"{family} Arrow type {Externals.debug dataType} is not supported for Arrow-to-MSSQL planning"

def planArrowDataTypeAsMssqlType (index : ℕ) (field : Field) (options : PlanOptions) : Outcome Diagnostic MssqlType :=
  match field.dataType with
  | .boolean => .ok .bit
  | .int8 | .int16 => .ok .smallInt
  | .int32 => .ok .int
  | .int64 => .ok .bigInt
  | .uint8 => .ok .tinyInt
  | .uint16 => .ok .int
  | .uint32 => .ok .bigInt
  | .uint64 => planArrowUInt64AsMssqlType options.uint64Policy index field
  | .float16 | .float32 => .ok .real
  | .float64 => .ok (.float 53)
  | .utf8 | .largeUtf8 | .utf8View => planArrowStringAsMssqlType options.stringPolicy index field
  | .binary | .largeBinary | .binaryView => planArrowBinaryAsMssqlType options.binaryPolicy index field
  | .fixedSizeBinary length => planArrowFixedSizeBinaryAsMssqlType length index field
  | .decimal32 precision scale | .decimal64 precision scale | .decimal128 precision scale =>
    planArrowDecimalAsMssqlType precision scale options.decimalPolicy index field
  | .decimal256 precision scale =>
    planArrowDecimal256AsMssqlType precision scale options.decimalPolicy options.decimal256Policy index field
  | .date32 => .ok .date
  | .date64 => planArrowDate64AsMssqlType options.date64Policy index field
  | .time32 .second => .ok (.time .zero)
  | .time32 .millisecond => .ok (.time .three)
  | .time64 .microsecond => .ok (.time .six)
  | .time64 .nanosecond => .ok (.time .seven)
  | .timestamp _ timezone =>
    planArrowTimestampAsMssqlType timezone options.timezonePolicy options.timestampPolicy index field
  | other => fail (unsupportedArrowTypeForArrowToMssql index field other)

theorem planArrowDataTypeAsMssqlType_family {a b : Field} {index : ℕ} {options : PlanOptions} (hname : a.name = b.name)
    (hfamily : (isArrowStringFamily a.dataType ∧ isArrowStringFamily b.dataType) ∨
      (isArrowBinaryFamily a.dataType ∧ isArrowBinaryFamily b.dataType)) :
    planArrowDataTypeAsMssqlType index a options = planArrowDataTypeAsMssqlType index b options := by
  have hstring : planArrowStringAsMssqlType options.stringPolicy index a =
      planArrowStringAsMssqlType options.stringPolicy index b := by
    simp [planArrowStringAsMssqlType, observedDataRequiredForArrowToMssql, planningDiagnostic, hname]
  have hbinary : planArrowBinaryAsMssqlType options.binaryPolicy index a =
      planArrowBinaryAsMssqlType options.binaryPolicy index b := by
    simp [planArrowBinaryAsMssqlType, observedDataRequiredForArrowToMssql, planningDiagnostic, hname]
  simp only [isArrowStringFamily_iff, isArrowBinaryFamily_iff] at hfamily
  rcases hfamily with ⟨ha | ha | ha, hb | hb | hb⟩ | ⟨ha | ha | ha, hb | hb | hb⟩ <;>
    simp [planArrowDataTypeAsMssqlType, ha, hb, hstring, hbinary]

end ArrowTiberius
