import ArrowTiberius.Direct.RowDecoder
import ArrowTiberius.Tds.Metadata

namespace ArrowTiberius.Writer

open Checked Direct Tds

def bulkTargetColumnDiagnostic (mapping : SchemaMapping) (message : String) : Diagnostic :=
  mappingDiagnostic mapping .schemaMismatch message

def reportUnless (p : Prop) [Decidable p] (diagnostic : Diagnostic) : DiagnosticSet := if p then [] else [diagnostic]

def validateBulkTargetColumn (position : ℕ) (column : BulkLoadColumn) (mapping : SchemaMapping) : DiagnosticSet :=
  reportUnless (column.ordinal = position) (bulkTargetColumnDiagnostic mapping
    s!"bulk target column ordinal {column.ordinal} does not match mapping position {position}") ++
  reportUnless (column.name = mapping.mssql.name.value) (bulkTargetColumnDiagnostic mapping
    s!"bulk target column name {column.name} does not match planned MSSQL column name {mapping.mssql.name.value}") ++
  reportUnless (column.isNullable = mapping.mssql.nullable) (bulkTargetColumnDiagnostic mapping
    s!"bulk target column nullability {column.isNullable} does not match planned MSSQL column nullability {
      mapping.mssql.nullable}")

def validateBulkTargetColumns (columns : List BulkLoadColumn) (mappings : List SchemaMapping) : Result Unit :=
  let diagnostics := reportUnless (columns.length = mappings.length) (Diagnostic.error .schemaMismatch
      s!"bulk target has {columns.length} updateable column(s) but mappings contain {mappings.length} column(s)") ++
    (columns.zip mappings).zipIdx.flatMap fun ((column, mapping), position) =>
      validateBulkTargetColumn position column mapping
  ensure (¬DiagnosticSet.hasErrors diagnostics) (.valueConversion diagnostics)

def expectedDirectBulkColumnType (column : DirectColumnPlan) : Option ColumnType :=
  match column.encoding with
  | .primitive .booleanToBit => if column.nullable then some .bitn else some .bit
  | .primitive .uint8ToTinyInt => some .int1
  | .primitive .int8ToSmallInt | .primitive .int16ToSmallInt => some .int2
  | .primitive .int32ToInt => some .int4
  | .primitive .uint16ToInt => some .int4
  | .primitive .int64ToBigInt => some .int8
  | .primitive .uint32ToBigInt => some .int8
  | .primitive .uint64ToCheckedBigInt => some .int8
  | .primitive .float16ToReal | .primitive .float32ToReal => some .float4
  | .primitive .float64ToFloat => some .float8
  | .uint64Decimal20_0 | .decimal _ => some .decimaln
  | .variableWidth (.stringToNVarChar _) => some .nVarchar
  | .variableWidth (.bytesToVarBinary _) => some .bigVarBin
  | .fixedSizeBinary (.fixedSizeBinaryToBinary _) => some .bigBinary
  | .temporal .date32ToDate => some .daten
  | .temporal .date64ToDateTime2 => some .datetime2
  | .temporal (.timestampToDateTime2 _) | .temporal (.timestampTzToDateTime2 _) => some .datetime2
  | .temporal (.timestampToDateTime _) | .temporal (.timestampTzToDateTime _) => some .datetimen
  | .temporal .time32SecondToTime | .temporal .time32MillisecondToTime | .temporal .time64MicrosecondToTime
  | .temporal .time64NanosecondToTime => some .timen
  | .temporal (.timestampTzToDateTimeOffset _) => some .datetimeOffsetn

def expectedDirectDecimalPrecisionScale (column : DirectColumnPlan) : Option (ℕ × ℕ) :=
  match column.encoding with
  | .uint64Decimal20_0 => some (20, 0)
  | .decimal classification => some (classification.targetPrecision, classification.targetScale)
  | _ => none

def decimalPrecisionScale (column : BulkLoadColumn) : Option (ℕ × ℕ) :=
  match column.typeInfo with
  | .varLenSizedPrecision .decimaln _ precision scale | .varLenSizedPrecision .numericn _ precision scale =>
    some (precision, scale)
  | _ => none

def directTargetDiagnostic (planColumn : DirectColumnPlan) (code : DiagnosticCode) (message : String) : Diagnostic :=
  (Diagnostic.error code message).withField ⟨planColumn.sourceIndex, planColumn.sourceName⟩

def validateDirectDecimalPrecisionScale (column : BulkLoadColumn) (planColumn : DirectColumnPlan) : DiagnosticSet :=
  match expectedDirectDecimalPrecisionScale planColumn, decimalPrecisionScale column with
  | some (expectedPrecision, expectedScale), some (actualPrecision, actualScale) =>
    reportUnless (actualPrecision = expectedPrecision ∧ actualScale = expectedScale)
      (directTargetDiagnostic planColumn .schemaMismatch s!"bulk target decimal precision/scale ({actualPrecision},{
        actualScale}) does not match direct encoder precision/scale ({expectedPrecision},{expectedScale})")
  | some _, none => [directTargetDiagnostic planColumn .schemaMismatch
    "bulk target decimal precision/scale metadata is not available"]
  | none, _ => []

variable [Externals]

def validateDirectBulkTargetColumnType (column : BulkLoadColumn) (planColumn : DirectColumnPlan) : DiagnosticSet :=
  match expectedDirectBulkColumnType planColumn with
  | none => [directTargetDiagnostic planColumn .directEncodingUnsupportedMapping
    s!"direct target type validation is not implemented for {Externals.debug planColumn.encoding}"]
  | some expected =>
    let actual := column.columnType
    reportUnless (actual = expected ∨ (actual = .datetime ∧ expected = .datetimen))
      (directTargetDiagnostic planColumn .schemaMismatch s!"bulk target column type {
        Externals.debug actual} does not match direct encoder type {Externals.debug expected}") ++
    validateDirectDecimalPrecisionScale column planColumn

def validateDirectBulkTargetColumnTypes (columns : List BulkLoadColumn) (plan : DirectEncoderPlan) : Result Unit :=
  let diagnostics := reportUnless (columns.length = plan.columnCount) (Diagnostic.error .schemaMismatch
      s!"bulk target has {columns.length} updateable column(s) but direct plan contains {plan.columnCount} column(s)") ++
    (columns.zip plan.columns).flatMap fun (column, planColumn) => validateDirectBulkTargetColumnType column planColumn
  ensure (¬DiagnosticSet.hasErrors diagnostics) (.valueConversion diagnostics)

section Specification

variable {mappings : List SchemaMapping} {columns : List BulkLoadColumn} {plan : DirectEncoderPlan}
  {target : BulkLoadColumn} {column : DirectColumnPlan} {u : Unit}

omit [Externals] in
@[simp] theorem reportUnless_eq_nil {p : Prop} [Decidable p] {diagnostic : Diagnostic} :
    reportUnless p diagnostic = [] ↔ p := by
  unfold reportUnless
  split <;> simp [*]

omit [Externals] in
theorem hasErrors_iff {diagnostics : DiagnosticSet} (h : ∀ d ∈ diagnostics, d.isError = true) :
    ¬diagnostics.hasErrors = true ↔ diagnostics = [] := by
  rw [DiagnosticSet.hasErrors, List.any_eq_true]
  constructor
  · intro hnone
    apply List.eq_nil_iff_forall_not_mem.mpr
    intro d hd
    exact hnone ⟨d, hd, h d hd⟩
  · rintro rfl ⟨d, hd, -⟩
    cases hd

omit [Externals] in
theorem isError_of_reportUnless {p : Prop} [Decidable p] {diagnostic : Diagnostic} (h : diagnostic.isError = true) :
    ∀ d ∈ reportUnless p diagnostic, d.isError = true := by
  unfold reportUnless
  split
  case isTrue => simp
  case isFalse => simpa using h

omit [Externals] in
theorem isError_of_validateBulkTargetColumn {position : ℕ} {mapping : SchemaMapping} :
    ∀ d ∈ validateBulkTargetColumn position target mapping, d.isError = true := by
  intro d hd
  simp only [validateBulkTargetColumn, List.mem_append] at hd
  obtain (hd | hd) | hd := hd <;> exact isError_of_reportUnless rfl d hd

omit [Externals] in
theorem isError_of_validateDirectDecimalPrecisionScale :
    ∀ d ∈ validateDirectDecimalPrecisionScale target column, d.isError = true := by
  intro d hd
  unfold validateDirectDecimalPrecisionScale at hd
  split at hd
  case h_1 => exact isError_of_reportUnless rfl d hd
  case h_2 =>
    rw [List.mem_singleton.mp hd]
    rfl
  case h_3 => cases hd

theorem isError_of_validateDirectBulkTargetColumnType :
    ∀ d ∈ validateDirectBulkTargetColumnType target column, d.isError = true := by
  intro d hd
  unfold validateDirectBulkTargetColumnType at hd
  split at hd
  case h_1 =>
    rw [List.mem_singleton.mp hd]
    rfl
  case h_2 =>
    obtain hd | hd := List.mem_append.mp hd
    · exact isError_of_reportUnless rfl d hd
    · exact isError_of_validateDirectDecimalPrecisionScale d hd

omit [Externals] in
theorem validateBulkTargetColumns_eq_ok : validateBulkTargetColumns columns mappings = .ok u ↔
    columns.length = mappings.length ∧ ∀ (i : ℕ) target mapping, columns[i]? = some target →
      mappings[i]? = some mapping → target.ordinal = i ∧ target.name = mapping.mssql.name.value ∧
        target.isNullable = mapping.mssql.nullable := by
  unfold validateBulkTargetColumns
  rw [ensure_eq_ok, hasErrors_iff]
  · simp only [List.append_eq_nil_iff, reportUnless_eq_nil, List.flatMap_eq_nil_iff, Prod.forall, mem_zip_zipIdx,
      validateBulkTargetColumn]
    refine and_congr_right fun _ => ⟨fun h i target mapping ht hm => ?_, fun h target mapping i hat => ?_⟩
    · obtain ⟨⟨hordinal, hname⟩, hnullable⟩ := h target mapping i ⟨ht, hm⟩
      exact ⟨hordinal, hname, hnullable⟩
    · obtain ⟨hordinal, hname, hnullable⟩ := h i target mapping hat.1 hat.2
      exact ⟨⟨hordinal, hname⟩, hnullable⟩
  · intro d hd
    obtain hd | hd := List.mem_append.mp hd
    · exact isError_of_reportUnless rfl d hd
    · obtain ⟨⟨⟨target, mapping⟩, position⟩, -, hd⟩ := List.mem_flatMap.mp hd
      exact isError_of_validateBulkTargetColumn d hd

theorem validateDirectBulkTargetColumnTypes_eq_ok : validateDirectBulkTargetColumnTypes columns plan = .ok u ↔
    columns.length = plan.columns.length ∧ ∀ (i : ℕ) target column, columns[i]? = some target →
      plan.columns[i]? = some column → validateDirectBulkTargetColumnType target column = [] := by
  unfold validateDirectBulkTargetColumnTypes
  rw [ensure_eq_ok, hasErrors_iff]
  · simp only [List.append_eq_nil_iff, reportUnless_eq_nil, List.flatMap_eq_nil_iff, Prod.forall]
    refine and_congr_right fun _ => ⟨fun h i target column ht hc => ?_, fun h target column hmem => ?_⟩
    · exact h target column (List.mem_of_getElem? (List.getElem?_zip_eq_some.mpr ⟨ht, hc⟩))
    · obtain ⟨i, hi⟩ := List.mem_iff_getElem?.mp hmem
      obtain ⟨ht, hc⟩ := List.getElem?_zip_eq_some.mp hi
      exact h i target column ht hc
  · intro d hd
    obtain hd | hd := List.mem_append.mp hd
    · exact isError_of_reportUnless rfl d hd
    · obtain ⟨⟨target, column⟩, -, hd⟩ := List.mem_flatMap.mp hd
      exact isError_of_validateDirectBulkTargetColumnType d hd

theorem validateDirectBulkTargetColumnType_eq_nil : validateDirectBulkTargetColumnType target column = [] ↔
    ∃ expected, expectedDirectBulkColumnType column = some expected ∧
      (target.columnType = expected ∨ (target.columnType = .datetime ∧ expected = .datetimen)) ∧
      ∀ shape, expectedDirectDecimalPrecisionScale column = some shape → decimalPrecisionScale target = some shape := by
  have hdecimal : validateDirectDecimalPrecisionScale target column = [] ↔
      ∀ shape, expectedDirectDecimalPrecisionScale column = some shape → decimalPrecisionScale target = some shape := by
    unfold validateDirectDecimalPrecisionScale
    split
    case h_1 hexpected hactual =>
      rw [hexpected, hactual, reportUnless_eq_nil]
      simp [Prod.ext_iff]
    case h_2 hexpected hactual =>
      rw [hexpected, hactual]
      simp
    case h_3 hexpected =>
      rw [hexpected]
      simp
  unfold validateDirectBulkTargetColumnType
  cases hexpected : expectedDirectBulkColumnType column with
  | none => simp
  | some expected =>
    rw [← hdecimal]
    simp

end Specification

end ArrowTiberius.Writer
