import ArrowTiberius.Direct.BatchSemantics
import ArrowTiberius.Schema.Soundness

namespace ArrowTiberius

open Checked Direct

variable [Externals] {schema : List Field} {profile : MssqlProfile} {options : PlanOptions}
  {outcome : PlanOutcome PlannedSchema}

theorem isExtractable_of_planned {index : ℕ} {field : Field} {ty : MssqlType}
    (h : planArrowDataTypeAsMssqlType index field options = .ok ty) : isExtractable field.dataType = true := by
  unfold planArrowDataTypeAsMssqlType at h
  cases hdt : field.dataType with
  | null | duration | interval | nested =>
    simp only [hdt] at h
    cases h
  | time32 unit | time64 unit =>
    cases unit
    all_goals
      simp only [hdt] at h
      first | rfl | cases h
  | _ => rfl

/-- A type stands in for the type a column was planned from. -/
def StandsFor (runtime planned : DataType) (ty : MssqlType) : Prop :=
  runtime = planned ∨
    (isArrowStringFamily runtime = true ∧ isArrowStringFamily planned = true ∧ ∃ length, ty = .nVarChar length) ∨
    (isArrowBinaryFamily runtime = true ∧ isArrowBinaryFamily planned = true ∧ ∃ length, ty = .varBinary length)

theorem validate_planned_iff (hplan : planArrowSchemaToMssqlSchema schema profile options = .ok outcome)
    (schema' : List Field) : validateArrowSchemaAgainstMappings schema' outcome.value.mappings = .ok () ↔
      schema'.length = schema.length ∧ ∀ (i : ℕ) field field' mapping, schema[i]? = some field →
        schema'[i]? = some field' → outcome.value.mappings[i]? = some mapping → field'.name = field.name ∧
          field'.isNullable = field.isNullable ∧ StandsFor field'.dataType field.dataType mapping.mssql.ty := by
  have hlen : schema.length = outcome.value.mappings.length := by
    obtain ⟨mappings, rfl, hlen, -⟩ := planned_iff.mp hplan
    exact hlen
  have hagree {i : ℕ} {field field' : Field} {mapping : SchemaMapping} (hf : schema[i]? = some field)
      (hm : outcome.value.mappings[i]? = some mapping) :
      (mapping.arrow.index = i ∧ field'.name = mapping.arrow.name ∧ field'.isNullable = mapping.arrow.nullable ∧
        arrowTypeCompatibleWithMapping field'.dataType mapping = true) ↔ field'.name = field.name ∧
          field'.isNullable = field.isNullable ∧ StandsFor field'.dataType field.dataType mapping.mssql.ty := by
    obtain ⟨planned, hplanned, harrow, -, -⟩ := planned_mapping hplan hm
    obtain rfl : field = planned := Option.some.inj (hf.symm.trans hplanned)
    rw [arrowTypeCompatibleWithMapping_iff, harrow]
    exact ⟨fun h => h.2, fun h => ⟨rfl, h⟩⟩
  rw [validateArrowSchemaAgainstMappings_eq_ok, hlen]
  refine and_congr_right fun hlen' => ⟨fun h i field field' mapping hf hf' hm => ?_, fun h i field' mapping hf' hm => ?_⟩
  · exact (hagree hf hm).mp (h i field' mapping hf' hm)
  · have hlt := (List.getElem?_eq_some_iff.mp hm).1
    have hf : schema[i]? = some _ := List.getElem?_eq_getElem (hlen ▸ hlt)
    exact (hagree hf hm).mpr (h i _ field' mapping hf hf' hm)

/-- A field that stands in for another is planned as the same column. -/
theorem plan_standIn {index : ℕ} {field field' : Field} {mapping : SchemaMapping} (hname : field'.name = field.name)
    (hnullable : field'.isNullable = field.isNullable)
    (hstands : StandsFor field'.dataType field.dataType mapping.mssql.ty)
    (hplan : planArrowFieldToMssqlColumnMapping index field options = .ok mapping) :
    planArrowFieldToMssqlColumnMapping index field' options =
      .ok ⟨⟨index, field'.name, field'.isNullable, field'.dataType⟩, mapping.mssql⟩ := by
  obtain ⟨name, ty, hidentifier, hty, rfl⟩ := planArrowFieldToMssqlColumnMapping_eq_ok.mp hplan
  have hty' : planArrowDataTypeAsMssqlType index field' options = .ok ty := by
    rw [← hty]
    rcases hstands with hsame | ⟨hruntime, hplanned, -⟩ | ⟨hruntime, hplanned, -⟩
    · obtain rfl : field' = field := by
        cases field'
        cases field
        simp only at hname hnullable hsame
        rw [hname, hnullable, hsame]
      rfl
    · exact planArrowDataTypeAsMssqlType_family hname (.inl ⟨hruntime, hplanned⟩)
    · exact planArrowDataTypeAsMssqlType_family hname (.inr ⟨hruntime, hplanned⟩)
  apply planArrowFieldToMssqlColumnMapping_eq_ok.mpr
  exact ⟨name, ty, hname ▸ hidentifier, hty', by rw [hnullable]⟩

theorem replan (hplan : planArrowSchemaToMssqlSchema schema profile options = .ok outcome) {schema' : List Field}
    (hvalid : validateArrowSchemaAgainstMappings schema' outcome.value.mappings = .ok ()) :
    ∃ outcome', planArrowSchemaToMssqlSchema schema' profile options = .ok outcome' ∧
      outcome'.value.mappings.map (·.mssql) = outcome.value.mappings.map (·.mssql) := by
  obtain ⟨hlen', hfields⟩ := (validate_planned_iff hplan schema').mp hvalid
  obtain ⟨mappings, rfl, hlen, hmappings⟩ := planned_iff.mp hplan
  have hmap : (List.zipIdx schema').length = mappings.length := by rw [List.length_zipIdx, hlen', hlen]
  have hcollect : collect schema'.zipIdx (fun p => planArrowFieldToMssqlColumnMapping p.2 p.1 options) =
      .ok ((schema'.zipIdx.zip mappings).map fun x =>
        ⟨⟨x.1.2, x.1.1.name, x.1.1.isNullable, x.1.1.dataType⟩, x.2.mssql⟩) := by
    refine collect_eq_ok_iff_getElem?.mpr ⟨?_, fun i x mapping' hx hmapping' => ?_⟩
    · rw [List.length_map, List.length_zip, hmap, Nat.min_self]
    · rw [List.getElem?_map, Option.map_eq_some_iff] at hmapping'
      obtain ⟨⟨x', mapping⟩, hat, rfl⟩ := hmapping'
      obtain ⟨hx', hm⟩ := List.getElem?_zip_eq_some.mp hat
      obtain rfl : x = x' := Option.some.inj (hx.symm.trans hx')
      obtain ⟨field', hf', rfl⟩ : ∃ field', schema'[i]? = some field' ∧ x = (field', i) := by
        rw [List.getElem?_zipIdx, Option.map_eq_some_iff, Nat.zero_add] at hx
        obtain ⟨field', hf', rfl⟩ := hx
        exact ⟨field', hf', rfl⟩
      have hlt := (List.getElem?_eq_some_iff.mp hm).1
      have hf : schema[i]? = some _ := List.getElem?_eq_getElem (hlen ▸ hlt)
      obtain ⟨hname, hnullable, hstands⟩ := hfields i _ field' mapping hf hf' hm
      exact plan_standIn hname hnullable hstands (hmappings i _ mapping hf hm)
  refine ⟨_, planArrowSchemaToMssqlSchema_eq_ok.mpr ⟨_, rfl, hcollect⟩, ?_⟩
  dsimp only
  rw [List.map_map]
  apply List.ext_getElem?
  intro i
  rw [List.getElem?_map, List.getElem?_map]
  by_cases hi : i < mappings.length
  · have hzip : (schema'.zipIdx.zip mappings)[i]? = some (schema'.zipIdx[i], mappings[i]) :=
      List.getElem?_zip_eq_some.mpr ⟨List.getElem?_eq_getElem _, List.getElem?_eq_getElem hi⟩
    rw [hzip, List.getElem?_eq_getElem hi]
    rfl
  · rw [List.getElem?_eq_none (by rw [List.length_zip]; omega), List.getElem?_eq_none (by omega)]
    rfl

/-- Planning, validation, extraction and binding share one notion of a compatible type. -/
theorem planned_schema_contract (hplan : planArrowSchemaToMssqlSchema schema profile options = .ok outcome) :
    validateArrowSchemaAgainstMappings schema outcome.value.mappings = .ok () ∧
    (∀ schema', validateArrowSchemaAgainstMappings schema' outcome.value.mappings = .ok () ↔
      schema'.length = schema.length ∧ ∀ (i : ℕ) field field' mapping, schema[i]? = some field →
        schema'[i]? = some field' → outcome.value.mappings[i]? = some mapping → field'.name = field.name ∧
          field'.isNullable = field.isNullable ∧ StandsFor field'.dataType field.dataType mapping.mssql.ty) ∧
    (∀ context, succeeds (DirectEncoder.newWithContext outcome.value.mappings context) = true ↔
      ∀ mapping ∈ outcome.value.mappings, mapping.mssql.ty ≠ .decimal 38 38) ∧
    ∀ schema', validateArrowSchemaAgainstMappings schema' outcome.value.mappings = .ok () →
      (∃ outcome', planArrowSchemaToMssqlSchema schema' profile options = .ok outcome' ∧
        outcome'.value.mappings.map (·.mssql) = outcome.value.mappings.map (·.mssql)) ∧
      ∀ batch : RecordBatch, batch.schema = schema' → ∀ context,
        (∀ encoder, DirectEncoder.newWithContext outcome.value.mappings context = .ok encoder →
          ∃ bound, BoundDirectBatch.new encoder batch = .ok bound ∧
            bound.columns.length = outcome.value.mappings.length) ∧
        ∃ view, RecordBatchView.newWithContext batch outcome.value.mappings context = .ok view ∧
          ∀ mapping ∈ outcome.value.mappings, ∀ rowIndex < batch.numRows,
            ∃ cell, view.arrowCell mapping rowIndex = .ok cell := by
  refine ⟨validate_planned hplan, validate_planned_iff hplan, fun context => newWithContext_planned context hplan, ?_⟩
  intro schema' hvalid
  refine ⟨replan hplan hvalid, ?_⟩
  rintro batch rfl context
  have hshape := encodingShape_of_validate hvalid
  refine ⟨fun encoder hencoder => ?_, ⟨batch, outcome.value.mappings, context⟩, ?_, ?_⟩
  · obtain ⟨bound, hbound, hcolumns, -, -⟩ := exists_bound hencoder hshape
    exact ⟨bound, hbound, hcolumns⟩
  · rw [RecordBatchView.newWithContext, hshape]
    rfl
  · intro mapping hmem rowIndex hrow
    obtain ⟨hlen, -, hcolumns⟩ := validateRecordBatchEncodingShape_eq_ok.mp hshape
    obtain ⟨i, hm⟩ := List.mem_iff_getElem?.mp hmem
    obtain ⟨field, -, hdataType, hty⟩ := planned_field hplan hm
    obtain ⟨_, -, harrow, -, -⟩ := planned_mapping hplan hm
    have hlt := (List.getElem?_eq_some_iff.mp hm).1
    have ha : batch.columns[i]? = some _ := List.getElem?_eq_getElem (by rw [batch.length_columns, hlen]; exact hlt)
    have hextractable := isExtractable_of_planned hty
    rw [← hdataType] at hextractable
    obtain ⟨cell, hcell, -⟩ := @extractArrowCell_of_compatible _ _ mapping rowIndex hextractable
      (hcolumns i _ mapping ha hm)
    refine ⟨cell, ?_⟩
    have hindex : mapping.arrow.index = i := by rw [harrow]
    rw [RecordBatchView.arrowCell, RecordBatchView.checkRowIndex, ensure_of hrow, ok_bind, hindex, ha, okOr_some, ok_bind,
      hcell]

def textSchema : List Field := [⟨"note", .utf8, true⟩, ⟨"id", .int64, false⟩]

def viewSchema : List Field := [⟨"note", .utf8View, true⟩, ⟨"id", .int64, false⟩]

def textOutcome : PlanOutcome PlannedSchema :=
  ⟨⟨sampleProfile, {}, [⟨⟨0, "note", true, .utf8⟩, ⟨⟨"note", valid_note⟩, .nVarChar .max, true⟩⟩,
    ⟨⟨1, "id", false, .int64⟩, ⟨⟨"id", valid_id⟩, .bigInt, false⟩⟩]⟩, []⟩

omit [Externals] in
theorem planned_schema_contract_sample :
    @validateArrowSchemaAgainstMappings .silent viewSchema textOutcome.value.mappings = .ok () ∧
    ∃ outcome', @planArrowSchemaToMssqlSchema .silent viewSchema sampleProfile {} = .ok outcome' ∧
      outcome'.value.mappings.map (·.mssql) = textOutcome.value.mappings.map (·.mssql) := by
  obtain ⟨-, -, -, hruntime⟩ := @planned_schema_contract .silent textSchema sampleProfile {} textOutcome rfl
  exact ⟨rfl, (hruntime viewSchema rfl).1⟩

omit [Externals] in
/-- A decimal whose digits are all behind the point is planned and validated, and no direct encoder binds it. -/
theorem decimal_38_38_column_never_binds : ∃ outcome,
    @planArrowSchemaToMssqlSchema .silent [⟨"ratio", .decimal128 38 38, false⟩] sampleProfile {} = .ok outcome ∧
      @validateArrowSchemaAgainstMappings .silent [⟨"ratio", .decimal128 38 38, false⟩] outcome.value.mappings = .ok () ∧
      ∀ context encoder, @DirectEncoder.newWithContext .silent outcome.value.mappings context ≠ .ok encoder := by
  refine ⟨⟨⟨sampleProfile, {}, [⟨⟨0, "ratio", false, .decimal128 38 38⟩, ⟨⟨"ratio", rfl⟩, .decimal 38 38, false⟩⟩]⟩, []⟩,
    rfl, rfl, ?_⟩
  intro context encoder hencoder
  have hsucceeds : succeeds (@DirectEncoder.newWithContext .silent
      [⟨⟨0, "ratio", false, .decimal128 38 38⟩, ⟨⟨"ratio", rfl⟩, .decimal 38 38, false⟩⟩] context) = false := rfl
  rw [hencoder] at hsucceeds
  cases hsucceeds

end ArrowTiberius
