import ArrowTiberius.Mssql.FromArrow.Failures
import ArrowTiberius.Schema.TableMapping

namespace ArrowTiberius

open Checked Direct

theorem hasTimezone_eq (timezone : Option String) : hasTimezone timezone = !isTimezoneFree timezone := by
  cases timezone <;> simp [hasTimezone, isTimezoneFree]

theorem planTimestampPolicyAsMssqlType_eq_ok {policy : TimestampPolicy} {index : ℕ} {field : Field} {ty : MssqlType}
    (h : planTimestampPolicyAsMssqlType policy index field = .ok ty) :
    ty = .dateTime ∨ ∃ precision ≤ 7, ty = .dateTime2 precision := by
  unfold planTimestampPolicyAsMssqlType at h
  split at h
  case h_1 =>
    cases h
    exact .inl rfl
  case h_2 =>
    split at h
    case isTrue hprecision =>
      cases h
      exact .inr ⟨_, hprecision, rfl⟩
    case isFalse => cases h

theorem planArrowTimestamp_encodes {unit : TimeUnit} {timezone : Option String} {timezonePolicy : TimezonePolicy}
    {timestampPolicy : TimestampPolicy} {index : ℕ} {field : Field} {ty : MssqlType}
    (h : planArrowTimestampAsMssqlType timezone timezonePolicy timestampPolicy index field = .ok ty) :
    ∃ classification, Encodes (.timestamp unit timezone) ty (.temporal classification) := by
  unfold planArrowTimestampAsMssqlType at h
  split_ifs at h with hreject hoffset
  · cases h
  · cases h
    exact ⟨_, .dateTimeOffset (by simpa [hasTimezone_eq] using hoffset.1)⟩
  · rcases planTimestampPolicyAsMssqlType_eq_ok h with rfl | ⟨precision, hprecision, rfl⟩ <;>
      cases hfree : isTimezoneFree timezone
    · exact ⟨_, .timestampTzDateTime hfree⟩
    · exact ⟨_, .timestampDateTime hfree⟩
    · exact ⟨_, .timestampTzDateTime2 hfree hprecision⟩
    · exact ⟨_, .timestampDateTime2 hfree hprecision⟩

theorem planArrowDecimal_encodes {dataType : DataType} {source : DecimalSource} {precision : ℕ} {scale : ℤ}
    {policy : DecimalPolicy} {index : ℕ} {field : Field} {ty : MssqlType}
    (hsource : (dataType = .decimal32 precision scale ∧ source = .decimal32) ∨
      (dataType = .decimal64 precision scale ∧ source = .decimal64) ∨
      (dataType = .decimal128 precision scale ∧ source = .decimal128) ∨
      (dataType = .decimal256 precision scale ∧ source = .decimal256))
    (h : planArrowDecimalAsMssqlType precision scale policy index field = .ok ty) :
    ty = .decimal 38 38 ∨ ∃ encoding, Encodes dataType ty encoding ∧ Inhabitable encoding := by
  obtain ⟨⟨precision', scale'⟩, hshape, hty⟩ := bind_eq_ok.mp h
  cases hty
  obtain ⟨hlo, hhi, hscale, rfl, hle, -⟩ := normalizeArrowDecimalShape_eq_ok hshape
  simp only at hlo hhi hle ⊢
  by_cases hmax : scale.toNat < 38
  · refine .inr ⟨.decimal ⟨source, precision', scale.toNat, scale⟩, .decimal ?_ hmax (by omega) rfl, hlo, hhi, hscale⟩
    rcases hsource with h | h | h | h
    · exact .inl ⟨_, h⟩
    · exact .inr (.inl ⟨_, h⟩)
    · exact .inr (.inr (.inl ⟨_, h⟩))
    · exact .inr (.inr (.inr ⟨_, h⟩))
  · have hprecision : precision' = 38 := by omega
    have hscale38 : scale.toNat = 38 := by omega
    rw [hprecision, hscale38]
    exact .inl rfl

section Planning

variable [Externals]

theorem planArrowDataType_encodes {index : ℕ} {field : Field} {options : PlanOptions} {ty : MssqlType}
    (h : planArrowDataTypeAsMssqlType index field options = .ok ty) :
    ty = .decimal 38 38 ∨ ∃ encoding, Encodes field.dataType ty encoding ∧ Inhabitable encoding := by
  have hdecimal {source : DecimalSource} {precision : ℕ} {scale : ℤ} (hsource) :=
    @planArrowDecimal_encodes field.dataType source precision scale options.decimalPolicy index field ty hsource
  unfold planArrowDataTypeAsMssqlType at h
  cases hdt : field.dataType with
  | uint64 =>
    simp only [hdt, planArrowUInt64AsMssqlType] at h
    split at h
    case h_1 => cases h
    case h_2 =>
      cases h
      exact .inr ⟨_, .uint64Decimal, trivial⟩
    case h_3 =>
      cases h
      exact .inr ⟨_, .uint64, trivial⟩
  | utf8 | largeUtf8 | utf8View =>
    simp only [hdt, planArrowStringAsMssqlType] at h
    split at h
    case h_3 => cases h
    all_goals
      cases h
      exact .inr ⟨_, .nVarChar rfl, trivial⟩
  | binary | largeBinary | binaryView =>
    simp only [hdt, planArrowBinaryAsMssqlType] at h
    split at h
    case h_3 => cases h
    all_goals
      cases h
      exact .inr ⟨_, .varBinary rfl, trivial⟩
  | fixedSizeBinary length =>
    simp only [hdt, planArrowFixedSizeBinaryAsMssqlType, bind_eq_ok, okOr_eq_ok, checkedUnsigned_eq_some, pure_eq_ok,
      Except.ok.injEq] at h
    obtain ⟨_, ⟨hfits, rfl⟩, _, -, rfl⟩ := h
    have hrange := fitsUnsigned_64.mp hfits
    rw [← Int.toNat_of_nonneg hrange.1]
    exact .inr ⟨_, .fixedSizeBinary (by omega), trivial⟩
  | decimal32 precision scale =>
    simp only [hdt] at h hdecimal
    exact hdecimal (.inl ⟨rfl, rfl⟩) h
  | decimal64 precision scale =>
    simp only [hdt] at h hdecimal
    exact hdecimal (.inr (.inl ⟨rfl, rfl⟩)) h
  | decimal128 precision scale =>
    simp only [hdt] at h hdecimal
    exact hdecimal (.inr (.inr (.inl ⟨rfl, rfl⟩))) h
  | decimal256 precision scale =>
    simp only [hdt, planArrowDecimal256AsMssqlType] at h hdecimal
    split at h
    case h_1 => exact hdecimal (.inr (.inr (.inr ⟨rfl, rfl⟩))) h
    case h_2 => cases h
  | date64 =>
    simp only [hdt, planArrowDate64AsMssqlType] at h
    split at h
    case h_1 => cases h
    case h_2 =>
      cases h
      exact .inr ⟨_, .date64, trivial⟩
  | time32 unit =>
    cases unit <;> simp only [hdt] at h <;> cases h
    · exact .inr ⟨_, .time32Second _, trivial⟩
    · exact .inr ⟨_, .time32Millisecond _, trivial⟩
  | time64 unit =>
    cases unit <;> simp only [hdt] at h <;> cases h
    · exact .inr ⟨_, .time64Microsecond _, trivial⟩
    · exact .inr ⟨_, .time64Nanosecond _, trivial⟩
  | timestamp unit timezone =>
    simp only [hdt] at h
    obtain ⟨_, hencodes⟩ := planArrowTimestamp_encodes h
    exact .inr ⟨_, hencodes, trivial⟩
  | null | duration | interval | nested =>
    simp only [hdt] at h
    cases h
  | _ =>
    simp only [hdt] at h
    cases h
    apply Or.inr
    apply Exists.intro
    apply And.intro
    · constructor
    · trivial

theorem planArrowFieldToMssqlColumnMapping_eq_ok {index : ℕ} {field : Field} {options : PlanOptions}
    {mapping : SchemaMapping} : planArrowFieldToMssqlColumnMapping index field options = .ok mapping ↔
      ∃ name ty, Identifier.new field.name = .ok name ∧ planArrowDataTypeAsMssqlType index field options = .ok ty ∧
        mapping = ⟨⟨index, field.name, field.isNullable, field.dataType⟩, ⟨name, ty, field.isNullable⟩⟩ := by
  simp only [planArrowFieldToMssqlColumnMapping, bind_eq_ok, mapError_eq_ok, pure_eq_ok, Except.ok.injEq]
  constructor
  · rintro ⟨name, hname, ty, hty, rfl⟩
    exact ⟨name, ty, hname, hty, rfl⟩
  · rintro ⟨name, ty, hname, hty, rfl⟩
    exact ⟨name, hname, ty, hty, rfl⟩

section Planned

variable {schema : List Field} {profile : MssqlProfile} {options : PlanOptions} {outcome : PlanOutcome PlannedSchema}

theorem planned_iff : planArrowSchemaToMssqlSchema schema profile options = .ok outcome ↔
    ∃ mappings, outcome = ⟨⟨profile, options, mappings⟩, []⟩ ∧ schema.length = mappings.length ∧
      ∀ (i : ℕ) field mapping, schema[i]? = some field → mappings[i]? = some mapping →
        planArrowFieldToMssqlColumnMapping i field options = .ok mapping := by
  rw [planArrowSchemaToMssqlSchema_eq_ok]
  refine exists_congr fun mappings => and_congr_right fun _ => ?_
  rw [collect_eq_ok_iff_getElem?, List.length_zipIdx]
  refine and_congr_right fun _ => ⟨fun h i field mapping hf hm => ?_, fun h i p mapping hp hm => ?_⟩
  · exact h i (field, i) mapping (by simp [hf]) hm
  · rw [List.getElem?_zipIdx, Option.map_eq_some_iff] at hp
    obtain ⟨field, hf, rfl⟩ := hp
    simpa using h i field mapping hf hm

theorem planned_at (hplan : planArrowSchemaToMssqlSchema schema profile options = .ok outcome) {i : ℕ}
    {mapping : SchemaMapping} (hm : outcome.value.mappings[i]? = some mapping) :
    ∃ field, schema[i]? = some field ∧ planArrowFieldToMssqlColumnMapping i field options = .ok mapping := by
  obtain ⟨mappings, rfl, hlen, hmappings⟩ := planned_iff.mp hplan
  have hlt := (List.getElem?_eq_some_iff.mp hm).1
  have hf : schema[i]? = some _ := List.getElem?_eq_getElem (hlen ▸ hlt)
  exact ⟨_, hf, hmappings i _ mapping hf hm⟩

/-- What planning says of a mapping: it describes its field, and its type has an encoding that some values
fit unless it is the decimal shape the wire representation lacks. -/
theorem planned_mapping (hplan : planArrowSchemaToMssqlSchema schema profile options = .ok outcome) {i : ℕ}
    {mapping : SchemaMapping} (hm : outcome.value.mappings[i]? = some mapping) :
    ∃ field, schema[i]? = some field ∧
      mapping.arrow = ⟨i, field.name, field.isNullable, field.dataType⟩ ∧ mapping.mssql.nullable = field.isNullable ∧
      (mapping.mssql.ty = .decimal 38 38 ∨ ∃ encoding, Encodes mapping.arrow.dataType mapping.mssql.ty encoding ∧
        Inhabitable encoding) := by
  obtain ⟨field, hf, hmapping⟩ := planned_at hplan hm
  obtain ⟨name, ty, -, hty, rfl⟩ := planArrowFieldToMssqlColumnMapping_eq_ok.mp hmapping
  exact ⟨field, hf, rfl, rfl, planArrowDataType_encodes hty⟩

theorem planned_field (hplan : planArrowSchemaToMssqlSchema schema profile options = .ok outcome) {i : ℕ}
    {mapping : SchemaMapping} (hm : outcome.value.mappings[i]? = some mapping) :
    ∃ field, schema[i]? = some field ∧ mapping.arrow.dataType = field.dataType ∧
      planArrowDataTypeAsMssqlType i field options = .ok mapping.mssql.ty := by
  obtain ⟨field, hf, hmapping⟩ := planned_at hplan hm
  obtain ⟨name, ty, -, hty, rfl⟩ := planArrowFieldToMssqlColumnMapping_eq_ok.mp hmapping
  exact ⟨field, hf, rfl, hty⟩

theorem validate_planned (hplan : planArrowSchemaToMssqlSchema schema profile options = .ok outcome) :
    validateArrowSchemaAgainstMappings schema outcome.value.mappings = .ok () := by
  have hlen : schema.length = outcome.value.mappings.length := by
    obtain ⟨mappings, rfl, hlen, -⟩ := planned_iff.mp hplan
    exact hlen
  refine validateArrowSchemaAgainstMappings_eq_ok.mpr ⟨hlen, fun i field mapping hf hm => ?_⟩
  obtain ⟨field', hf', harrow, -, -⟩ := planned_mapping hplan hm
  obtain rfl : field = field' := Option.some.inj (hf.symm.trans hf')
  rw [harrow]
  exact ⟨rfl, rfl, rfl, arrowTypeCompatibleWithMapping_iff.mpr (.inl (by rw [harrow]))⟩

theorem encodingShape_of_validate {batch : RecordBatch} {mappings : List SchemaMapping}
    (h : validateArrowSchemaAgainstMappings batch.schema mappings = .ok ()) :
    validateRecordBatchEncodingShape batch mappings = .ok () := by
  obtain ⟨hlen, hfields⟩ := validateArrowSchemaAgainstMappings_eq_ok.mp h
  refine validateRecordBatchEncodingShape_eq_ok.mpr ⟨hlen, fun i field mapping hf hm => ?_, fun i array mapping ha hm => ?_⟩
  · obtain ⟨hindex, hname, -, hty⟩ := hfields i field mapping hf hm
    exact ⟨hindex, hname, hty⟩
  · have hlt := (List.getElem?_eq_some_iff.mp ha).1
    obtain ⟨field, hf⟩ : ∃ field, batch.schema[i]? = some field :=
      ⟨_, List.getElem?_eq_getElem (batch.length_columns ▸ hlt)⟩
    have htyped := congrArg (·[i]?) batch.typed
    simp only [List.getElem?_map, ha, hf, Option.map_some, Option.some.injEq] at htyped
    exact htyped ▸ (hfields i field mapping hf hm).2.2.2

omit [Externals] in
theorem not_encodes_decimal_38_38 (dataType : DataType) (encoding : DirectColumnEncoding) :
    ¬Encodes dataType (.decimal 38 38) encoding := by
  generalize hty : MssqlType.decimal 38 38 = ty
  intro h
  cases h with
  | decimal _ hscale =>
    injection hty with _ hsame
    omega
  | _ => cases hty

theorem newWithContext_planned (context : RuntimeConversionContext)
    (hplan : planArrowSchemaToMssqlSchema schema profile options = .ok outcome) :
    succeeds (DirectEncoder.newWithContext outcome.value.mappings context) = true ↔
      ∀ mapping ∈ outcome.value.mappings, mapping.mssql.ty ≠ .decimal 38 38 := by
  refine newWithContext_succeeds.trans ⟨fun h mapping hmem hty => ?_, fun h mapping hmem => ?_⟩
  · obtain ⟨encoding, hencodes⟩ := h mapping hmem
    exact not_encodes_decimal_38_38 _ _ (hty ▸ hencodes)
  · obtain ⟨i, hm⟩ := List.mem_iff_getElem?.mp hmem
    obtain ⟨-, -, -, -, hty | ⟨encoding, hencodes, -⟩⟩ := planned_mapping hplan hm
    · exact absurd hty (h mapping hmem)
    · exact ⟨encoding, hencodes⟩

/-- A planned mapping list is one the encoders take, except for columns of `decimal(38,38)`; a column of any
other type fails only for the values it holds. -/
theorem planned_schema_is_encodable (context : RuntimeConversionContext)
    (hplan : planArrowSchemaToMssqlSchema schema profile options = .ok outcome) :
    (succeeds (DirectEncoder.newWithContext outcome.value.mappings context) = true ↔
      ∀ mapping ∈ outcome.value.mappings, mapping.mssql.ty ≠ .decimal 38 38) ∧
    (∀ batch : RecordBatch, batch.schema = schema →
      succeeds (RecordBatchView.newWithContext batch outcome.value.mappings context) = true) ∧
    ∀ batch view, RecordBatchView.newWithContext batch outcome.value.mappings context = .ok view →
      ∀ mapping ∈ outcome.value.mappings, mapping.mssql.ty ≠ .decimal 38 38 → ∀ rowIndex < batch.numRows,
        FailsWith (IsValueError mapping rowIndex) (view.mssqlCell mapping rowIndex) := by
  refine ⟨newWithContext_planned context hplan, ?_, ?_⟩
  · rintro batch rfl
    rw [RecordBatchView.newWithContext, encodingShape_of_validate (validate_planned hplan)]
    rfl
  · intro batch view hview mapping hmem hnot rowIndex hrow
    obtain ⟨_, hshape, hview⟩ := bind_eq_ok.mp hview
    cases hview
    obtain ⟨hlen, -, hcolumns⟩ := validateRecordBatchEncodingShape_eq_ok.mp hshape
    obtain ⟨i, hm⟩ := List.mem_iff_getElem?.mp hmem
    obtain ⟨field, -, harrow, -, hty | ⟨encoding, hencodes, hinhabitable⟩⟩ := planned_mapping hplan hm
    · exact absurd hty hnot
    have hlt := (List.getElem?_eq_some_iff.mp hm).1
    obtain ⟨array, ha⟩ : ∃ array, batch.columns[i]? = some array :=
      ⟨_, List.getElem?_eq_getElem (by rw [batch.length_columns, hlen]; exact hlt)⟩
    have hindex : mapping.arrow.index = i := by rw [harrow]
    simp only [RecordBatchView.mssqlCell, RecordBatchView.arrowCell, RecordBatchView.checkRowIndex, ensure_of hrow,
      ok_bind, hindex, ha, okOr_some]
    exact failsWith_mssqlCellFromArrowCell hencodes hinhabitable (hcolumns i array mapping ha hm)

end Planned

end Planning

def sampleProfile : MssqlProfile := ⟨.sqlServer2022, ⟨160, rfl⟩, rfl⟩

def sampleSchema : List Field := [⟨"id", .int32, false⟩, ⟨"total", .decimal128 38 10, true⟩]

theorem planned_schema_is_encodable_sample :
    succeeds (@DirectEncoder.newWithContext .silent
      [⟨⟨0, "id", false, .int32⟩, ⟨⟨"id", rfl⟩, .int, false⟩⟩,
        ⟨⟨1, "total", true, .decimal128 38 10⟩, ⟨⟨"total", rfl⟩, .decimal 38 10, true⟩⟩]
      ⟨sampleProfile, {}⟩) = true := by
  refine (@planned_schema_is_encodable .silent sampleSchema sampleProfile {}
    ⟨⟨sampleProfile, {}, _⟩, []⟩ ⟨sampleProfile, {}⟩ rfl).1.mpr ?_
  decide

/-- The planner takes a decimal whose digits are all behind the point, which the classifiers refuse. -/
theorem decimal_38_38_is_planned_and_not_encodable :
    ∃ outcome, @planArrowSchemaToMssqlSchema .silent [⟨"ratio", .decimal128 38 38, false⟩] sampleProfile {} = .ok outcome ∧
      succeeds (@DirectEncoder.newWithContext .silent outcome.value.mappings ⟨sampleProfile, {}⟩) = false :=
  ⟨⟨⟨sampleProfile, {}, [⟨⟨0, "ratio", false, .decimal128 38 38⟩, ⟨⟨"ratio", rfl⟩, .decimal 38 38, false⟩⟩]⟩, []⟩,
    rfl, by decide⟩

end ArrowTiberius
