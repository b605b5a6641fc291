import ArrowTiberius.Schema.Mapping
import ArrowTiberius.Schema.TypeConversion

namespace ArrowTiberius

open Checked

structure PlannedSchema where
  profile : MssqlProfile
  planOptions : PlanOptions
  mappings : List SchemaMapping

structure PlanOutcome (α : Type) where
  value : α
  diagnostics : DiagnosticSet

def identifierErrorText : Error → String
  | .invalidIdentifier reason => s!"invalid identifier: {reason}"
  | _ => ""

variable [Externals]

def planArrowFieldToMssqlColumnMapping (index : ℕ) (field : Field) (options : PlanOptions) :
    Outcome Diagnostic SchemaMapping := do
  let name ← mapError (fun err => planningDiagnostic .identifierInvalid index field (identifierErrorText err))
    (Identifier.new field.name)
  let ty ← planArrowDataTypeAsMssqlType index field options
  pure ⟨⟨index, field.name, field.isNullable, field.dataType⟩, ⟨name, ty, field.isNullable⟩⟩

def planArrowSchemaToMssqlSchema (schema : List Field) (profile : MssqlProfile) (options : PlanOptions) :
    Result (PlanOutcome PlannedSchema) := do
  let (mappings, diagnostics) ← gather schema.zipIdx fun (field, index) =>
    planArrowFieldToMssqlColumnMapping index field options
  ensure (¬DiagnosticSet.hasErrors diagnostics) (.planning diagnostics)
  pure ⟨⟨profile, options, mappings⟩, diagnostics⟩

omit [Externals] in
def mssqlColumnsFromMappings (mappings : List SchemaMapping) : List MssqlColumn := mappings.map SchemaMapping.mssql

omit [Externals] in
def createTableSqlFromMappings (table : TableName) (mappings : List SchemaMapping) : String :=
  createTableSql table (mssqlColumnsFromMappings mappings) {}

theorem planArrowDataTypeAsMssqlType_failsWith (index : ℕ) (field : Field) (options : PlanOptions) :
    FailsWith (fun d => d.isError = true) (planArrowDataTypeAsMssqlType index field options) := by
  have hdecimal (precision : ℕ) (scale : ℤ) : FailsWith (fun d => d.isError = true)
      (planArrowDecimalAsMssqlType precision scale options.decimalPolicy index field) := by
    refine failsWith_bind (failsWith_bind (failsWith_ensure fun _ => rfl) fun _ _ => failsWith_bind ?_ fun _ _ =>
      failsWith_bind (failsWith_ensure fun _ => rfl) fun _ _ => failsWith_bind (failsWith_okOr fun _ => rfl) fun _ _ =>
      failsWith_bind (failsWith_ensure fun _ => rfl) fun _ _ => failsWith_ok _) fun _ _ => failsWith_ok _
    split
    case isTrue =>
      cases options.decimalPolicy with
      | rejectNegativeScale => exact failsWith_fail.mpr rfl
      | normalizeNegativeScale => exact failsWith_bind (failsWith_okOr fun _ => rfl) fun _ _ => failsWith_ok _
    case isFalse => exact failsWith_ok _
  have hbinary (length : ℤ) : FailsWith (fun d => d.isError = true)
      (planArrowFixedSizeBinaryAsMssqlType length index field) :=
    failsWith_bind (failsWith_okOr fun _ => rfl) fun _ _ => failsWith_bind (failsWith_ensure fun _ => rfl) fun _ _ => failsWith_ok _
  unfold planArrowDataTypeAsMssqlType planArrowUInt64AsMssqlType planArrowStringAsMssqlType planArrowBinaryAsMssqlType
    planArrowDecimal256AsMssqlType planArrowDate64AsMssqlType planArrowTimestampAsMssqlType
    planTimestampPolicyAsMssqlType
  split <;> first
    | exact failsWith_ok _
    | exact hdecimal _ _
    | exact hbinary _
    | (repeat' split) <;> first | exact failsWith_ok _ | exact failsWith_fail.mpr rfl | exact hdecimal _ _

theorem planArrowFieldToMssqlColumnMapping_failsWith (index : ℕ) (field : Field) (options : PlanOptions) :
    FailsWith (fun d => d.isError = true) (planArrowFieldToMssqlColumnMapping index field options) := by
  refine failsWith_bind ?_ fun _ _ =>
    failsWith_bind (planArrowDataTypeAsMssqlType_failsWith index field options) fun _ _ => failsWith_ok _
  rcases hname : Identifier.new field.name with (e | _) | name
  · exact failsWith_fail.mpr rfl
  · exact absurd hname (Identifier.safe_new field.name)
  · exact failsWith_ok name

theorem planArrowSchemaToMssqlSchema_eq_ok {schema : List Field} {profile : MssqlProfile} {options : PlanOptions}
    {outcome : PlanOutcome PlannedSchema} : planArrowSchemaToMssqlSchema schema profile options = .ok outcome ↔
      ∃ mappings, outcome = ⟨⟨profile, options, mappings⟩, []⟩ ∧
        collect schema.zipIdx (fun p => planArrowFieldToMssqlColumnMapping p.2 p.1 options) = .ok mappings := by
  unfold planArrowSchemaToMssqlSchema
  simp only [bind_eq_ok, ensure_eq_ok, pure_eq_ok, Except.ok.injEq]
  constructor
  · rintro ⟨⟨mappings, diagnostics⟩, hgather, _, hnone, rfl⟩
    have hnil : diagnostics = [] := by
      refine List.eq_nil_iff_forall_not_mem.mpr fun d hd => hnone ?_
      obtain ⟨⟨field, index⟩, -, hfail⟩ := mem_errors_of_gather hgather hd
      exact List.any_eq_true.mpr ⟨d, hd, (planArrowFieldToMssqlColumnMapping_failsWith index field options).of_fail hfail⟩
    subst hnil
    exact ⟨mappings, rfl, gather_eq_ok_nil.mp hgather⟩
  · rintro ⟨mappings, rfl, hcollect⟩
    exact ⟨(mappings, []), gather_eq_ok_nil.mpr hcollect, (), by simp [DiagnosticSet.hasErrors], rfl⟩

end ArrowTiberius
