import ArrowTiberius.Schema.TypeConversion

namespace ArrowTiberius

open Checked

/-- The parameters SQL Server admits. -/
def MssqlType.Admitted : MssqlType → Prop
  | .nVarChar (.bounded length) => 1 ≤ length ∧ length ≤ 4000
  | .varBinary (.bounded length) => 1 ≤ length ∧ length ≤ 8000
  | .binary length => 1 ≤ length ∧ length ≤ 8000
  | .decimal precision scale => (1 ≤ precision ∧ precision ≤ 38) ∧ 0 ≤ scale ∧ scale ≤ precision
  | .dateTime2 precision => precision ≤ 7
  | _ => True

def PolicyLengthAdmitted (dataType : DataType) (options : PlanOptions) : Prop :=
  (isArrowStringFamily dataType → ∀ length, options.stringPolicy = .nVarChar length → 1 ≤ length ∧ length ≤ 4000) ∧
    (isArrowBinaryFamily dataType → ∀ length, options.binaryPolicy = .varBinary length → 1 ≤ length ∧ length ≤ 8000)

variable {index : ℕ} {field : Field} {ty : MssqlType}

theorem admitted_of_planArrowDecimal {precision : ℕ} {scale : ℤ} {policy : DecimalPolicy}
    (h : planArrowDecimalAsMssqlType precision scale policy index field = .ok ty) : ty.Admitted := by
  obtain ⟨⟨precision', scale'⟩, hshape, hty⟩ := bind_eq_ok.mp h
  cases hty
  obtain ⟨hlo, hhi, -, hscale, hle, -⟩ := normalizeArrowDecimalShape_eq_ok hshape
  dsimp only at hlo hhi hscale hle
  refine ⟨⟨hlo, hhi⟩, ?_, hle⟩
  rw [hscale]
  apply Int.natCast_nonneg

theorem admitted_of_planArrowDecimal256 {precision : ℕ} {scale : ℤ} {decimalPolicy : DecimalPolicy}
    {decimal256Policy : Decimal256Policy}
    (h : planArrowDecimal256AsMssqlType precision scale decimalPolicy decimal256Policy index field = .ok ty) :
    ty.Admitted := by
  cases decimal256Policy with
  | checkedDowncast => exact admitted_of_planArrowDecimal h
  | reject => cases h

theorem admitted_of_planArrowFixedSizeBinary {length : ℤ}
    (h : planArrowFixedSizeBinaryAsMssqlType length index field = .ok ty) : ty.Admitted := by
  obtain ⟨n, -, h⟩ := bind_eq_ok.mp h
  obtain ⟨hrange, hty⟩ := bind_unit_eq_ok.mp h
  cases hty
  have hlength : 1 ≤ n ∧ n ≤ sqlServerMaxBinaryLen := ensure_eq_ok.mp hrange
  exact hlength

theorem admitted_of_planArrowUInt64 {policy : UInt64Policy}
    (h : planArrowUInt64AsMssqlType policy index field = .ok ty) : ty.Admitted := by
  cases policy with
  | reject => cases h
  | decimal20_0 =>
    cases h
    exact ⟨⟨by decide, by decide⟩, by decide, by decide⟩
  | checkedBigInt =>
    cases h
    trivial

theorem admitted_of_planArrowDate64 {policy : Date64Policy}
    (h : planArrowDate64AsMssqlType policy index field = .ok ty) : ty.Admitted := by
  cases policy with
  | rejectNonMidnight => cases h
  | timestampDateTime2 =>
    cases h
    exact (by decide : 3 ≤ 7)

theorem admitted_of_planArrowTimestamp {timezone : Option String} {timezonePolicy : TimezonePolicy}
    {timestampPolicy : TimestampPolicy}
    (h : planArrowTimestampAsMssqlType timezone timezonePolicy timestampPolicy index field = .ok ty) :
    ty.Admitted := by
  unfold planArrowTimestampAsMssqlType at h
  split_ifs at h
  · cases h
  · cases h
    trivial
  · cases timestampPolicy with
    | dateTime =>
      cases h
      trivial
    | dateTime2 precision =>
      simp only [planTimestampPolicyAsMssqlType] at h
      split at h
      case isTrue hle =>
        cases h
        exact hle
      case isFalse => cases h

theorem admitted_of_planArrowString_iff {policy : StringPolicy} :
    (∀ ty, planArrowStringAsMssqlType policy index field = .ok ty → ty.Admitted) ↔
      ∀ length, policy = .nVarChar length → 1 ≤ length ∧ length ≤ 4000 := by
  cases policy with
  | nVarChar length => simp [planArrowStringAsMssqlType, MssqlType.Admitted]
  | nVarCharMax => simp [planArrowStringAsMssqlType, MssqlType.Admitted]
  | observedNVarChar => simp [planArrowStringAsMssqlType]

theorem admitted_of_planArrowBinary_iff {policy : BinaryPolicy} :
    (∀ ty, planArrowBinaryAsMssqlType policy index field = .ok ty → ty.Admitted) ↔
      ∀ length, policy = .varBinary length → 1 ≤ length ∧ length ≤ 8000 := by
  cases policy with
  | varBinary length => simp [planArrowBinaryAsMssqlType, MssqlType.Admitted]
  | varBinaryMax => simp [planArrowBinaryAsMssqlType, MssqlType.Admitted]
  | observedVarBinary => simp [planArrowBinaryAsMssqlType]

variable [Externals]

theorem admitted_of_planArrowDataType {options : PlanOptions} (hstring : isArrowStringFamily field.dataType = false)
    (hbinary : isArrowBinaryFamily field.dataType = false)
    (h : planArrowDataTypeAsMssqlType index field options = .ok ty) : ty.Admitted := by
  unfold planArrowDataTypeAsMssqlType at h
  generalize field.dataType = dataType at *
  cases dataType with
  | utf8 | largeUtf8 | utf8View => cases hstring
  | binary | largeBinary | binaryView => cases hbinary
  | fixedSizeBinary => exact admitted_of_planArrowFixedSizeBinary h
  | decimal32 | decimal64 | decimal128 => exact admitted_of_planArrowDecimal h
  | decimal256 => exact admitted_of_planArrowDecimal256 h
  | timestamp => exact admitted_of_planArrowTimestamp h
  | uint64 => exact admitted_of_planArrowUInt64 h
  | date64 => exact admitted_of_planArrowDate64 h
  | time32 unit => cases unit <;> cases h <;> trivial
  | time64 unit => cases unit <;> cases h <;> trivial
  | null | duration | interval | nested => cases h
  | _ =>
    cases h
    trivial

theorem planned_type_admitted_iff (index : ℕ) (field : Field) (options : PlanOptions) :
    (∀ ty, planArrowDataTypeAsMssqlType index field options = .ok ty → ty.Admitted) ↔
      PolicyLengthAdmitted field.dataType options := by
  by_cases hstring : isArrowStringFamily field.dataType = true
  · have hplan : planArrowDataTypeAsMssqlType index field options =
        planArrowStringAsMssqlType options.stringPolicy index field := by
      rcases isArrowStringFamily_iff.mp hstring with h | h | h <;> simp only [planArrowDataTypeAsMssqlType, h]
    have hbinary : isArrowBinaryFamily field.dataType = false := by
      rcases isArrowStringFamily_iff.mp hstring with h | h | h <;> simp only [h, isArrowBinaryFamily]
    rw [hplan, admitted_of_planArrowString_iff]
    simp [PolicyLengthAdmitted, hstring, hbinary]
  · by_cases hbinary : isArrowBinaryFamily field.dataType = true
    · have hplan : planArrowDataTypeAsMssqlType index field options =
          planArrowBinaryAsMssqlType options.binaryPolicy index field := by
        rcases isArrowBinaryFamily_iff.mp hbinary with h | h | h <;> simp only [planArrowDataTypeAsMssqlType, h]
      rw [hplan, admitted_of_planArrowBinary_iff]
      simp [PolicyLengthAdmitted, hstring, hbinary]
    · apply iff_of_true
      · intro ty
        exact admitted_of_planArrowDataType (Bool.eq_false_iff.mpr hstring) (Bool.eq_false_iff.mpr hbinary)
      · exact ⟨fun h => absurd h hstring, fun h => absurd h hbinary⟩

omit [Externals] in
/-- A policy may ask for more characters than `nvarchar(n)` has, or for none. -/
theorem nvarchar_beyond_the_server_is_planned :
    @planArrowDataTypeAsMssqlType Externals.silent 0 ⟨"text", .utf8, true⟩ { stringPolicy := .nVarChar 4001 } =
        .ok (.nVarChar (.bounded 4001)) ∧ ¬(MssqlType.nVarChar (.bounded 4001)).Admitted ∧
      @planArrowDataTypeAsMssqlType Externals.silent 0 ⟨"bytes", .binary, true⟩ { binaryPolicy := .varBinary 0 } =
        .ok (.varBinary (.bounded 0)) ∧ ¬(MssqlType.varBinary (.bounded 0)).Admitted := by
  refine ⟨rfl, ?_, rfl, ?_⟩
  · rintro ⟨-, hle⟩
    exact absurd hle (by decide)
  · rintro ⟨hle, -⟩
    exact absurd hle (by decide)

end ArrowTiberius
