import ArrowTiberius.Arrow.Extract
import ArrowTiberius.Mssql.FromArrow

namespace ArrowTiberius

open Checked

def schemaMismatch (mapping : SchemaMapping) (message : String) : Error :=
  valueConversionError (mappingDiagnostic mapping .schemaMismatch message)

def validateSchemaFieldCountAgainstMappings (schema : List Field) (mappings : List SchemaMapping) : Result Unit :=
  match mappings[schema.length]? with
  | some mapping => fail (schemaMismatch mapping s!"planned column index {
      mapping.arrow.index} is outside runtime schema with {schema.length} field(s)")
  | none => ensure (¬schema.length > mappings.length) (valueConversionError (Diagnostic.error .schemaMismatch
      s!"runtime schema has {schema.length} field(s) but mappings contain {mappings.length} field(s)"))

def validateSchemaFieldNullabilityAgainstMapping (field : Field) (mapping : SchemaMapping) : Result Unit :=
  ensure (field.isNullable = mapping.arrow.nullable) (schemaMismatch mapping s!"runtime Arrow nullability {
    field.isNullable} does not match planned Arrow nullability {mapping.arrow.nullable}")

variable [Externals]

def validateSchemaFieldShapeAgainstMapping (position : ℕ) (field : Field) (mapping : SchemaMapping) : Result Unit := do
  ensure (mapping.arrow.index = position) (schemaMismatch mapping
    s!"mapping position {position} does not match planned Arrow field index {mapping.arrow.index}")
  ensure (field.name = mapping.arrow.name) (schemaMismatch mapping
    s!"runtime Arrow field name {field.name} does not match planned Arrow field name {mapping.arrow.name}")
  ensure (arrowTypeCompatibleWithMapping field.dataType mapping) (schemaMismatch mapping s!"runtime Arrow type {
    Externals.display field.dataType} does not match planned Arrow type {Externals.display mapping.arrow.dataType}")

def validateArrowSchemaAgainstMappings (schema : List Field) (mappings : List SchemaMapping) : Result Unit := do
  validateSchemaFieldCountAgainstMappings schema mappings
  forEach (schema.zip mappings).zipIdx () fun _ ((field, mapping), position) => do
    validateSchemaFieldShapeAgainstMapping position field mapping
    validateSchemaFieldNullabilityAgainstMapping field mapping

def validateSchemaShapeForRecordBatchEncoding (schema : List Field) (mappings : List SchemaMapping) : Result Unit := do
  validateSchemaFieldCountAgainstMappings schema mappings
  forEach (schema.zip mappings).zipIdx () fun _ ((field, mapping), position) =>
    validateSchemaFieldShapeAgainstMapping position field mapping

def validateUncheckedColumnArrayAgainstMapping (array : ArrayRef) (mapping : SchemaMapping) : Result Unit :=
  ensure (arrowTypeCompatibleWithMapping array.dataType mapping) (schemaMismatch mapping s!"runtime Arrow type {
    Externals.display array.dataType} does not match planned Arrow type {Externals.display mapping.arrow.dataType}")

def validateRecordBatchEncodingShape (batch : RecordBatch) (mappings : List SchemaMapping) : Result Unit := do
  validateSchemaShapeForRecordBatchEncoding batch.schema mappings
  forEach (batch.columns.zip mappings) () fun _ (array, mapping) =>
    validateUncheckedColumnArrayAgainstMapping array mapping

def validateRecordBatchSchemaAgainstMappings (batch : RecordBatch) (mappings : List SchemaMapping) : Result Unit :=
  validateArrowSchemaAgainstMappings batch.schema mappings

structure RecordBatchView where
  batch : RecordBatch
  mappings : List SchemaMapping
  runtimeContext : RuntimeConversionContext

namespace RecordBatchView

def newWithContext (batch : RecordBatch) (mappings : List SchemaMapping) (runtimeContext : RuntimeConversionContext) :
    Result RecordBatchView := do
  validateRecordBatchEncodingShape batch mappings
  pure ⟨batch, mappings, runtimeContext⟩

def checkRowIndex (view : RecordBatchView) (rowIndex : ℕ) : Result Unit :=
  ensure (rowIndex < view.batch.numRows) (valueConversionError ((Diagnostic.error .rowIndexOutOfBounds
    s!"row index {rowIndex} is outside runtime batch with {view.batch.numRows} row(s)").withRow rowIndex))

def arrowCell (view : RecordBatchView) (mapping : SchemaMapping) (rowIndex : ℕ) : Result ArrowCell := do
  view.checkRowIndex rowIndex
  let array ← okOr view.batch.columns[mapping.arrow.index]? (rowError mapping rowIndex .valueTypeMismatch
    "planned column index is outside the runtime batch")
  extractArrowCell array mapping rowIndex

def mssqlCell (view : RecordBatchView) (mapping : SchemaMapping) (rowIndex : ℕ) : Result MssqlCell := do
  let cell ← view.arrowCell mapping rowIndex
  mssqlCellFromArrowCell view.runtimeContext mapping cell rowIndex

def mssqlRow (view : RecordBatchView) (rowIndex : ℕ) : Result (List MssqlCell) := do
  view.checkRowIndex rowIndex
  collect view.mappings fun mapping => view.mssqlCell mapping rowIndex

end RecordBatchView

section Specification

variable {schema : List Field} {mappings : List SchemaMapping} {u : Unit}

omit [Externals] in
@[simp] theorem validateSchemaFieldCountAgainstMappings_eq_ok :
    validateSchemaFieldCountAgainstMappings schema mappings = .ok u ↔ schema.length = mappings.length := by
  unfold validateSchemaFieldCountAgainstMappings
  split
  case h_1 mapping h =>
    have hlt := (List.getElem?_eq_some_iff.mp h).1
    simp only [fail_ne_ok, false_iff]
    omega
  case h_2 h =>
    have hle := List.getElem?_eq_none_iff.mp h
    rw [ensure_eq_ok]
    omega

@[simp] theorem validateSchemaFieldShapeAgainstMapping_eq_ok {position : ℕ} {field : Field} {mapping : SchemaMapping} :
    validateSchemaFieldShapeAgainstMapping position field mapping = .ok u ↔ mapping.arrow.index = position ∧
      field.name = mapping.arrow.name ∧ arrowTypeCompatibleWithMapping field.dataType mapping := by
  simp [validateSchemaFieldShapeAgainstMapping]

theorem validateArrowSchemaAgainstMappings_eq_ok : validateArrowSchemaAgainstMappings schema mappings = .ok u ↔
    schema.length = mappings.length ∧ ∀ (i : ℕ) field mapping, schema[i]? = some field → mappings[i]? = some mapping →
      mapping.arrow.index = i ∧ field.name = mapping.arrow.name ∧ field.isNullable = mapping.arrow.nullable ∧
      arrowTypeCompatibleWithMapping field.dataType mapping := by
  simp only [validateArrowSchemaAgainstMappings, bind_eq_ok, validateSchemaFieldCountAgainstMappings_eq_ok,
    forEach_unit_eq_ok, Prod.forall, mem_zip_zipIdx, validateSchemaFieldShapeAgainstMapping_eq_ok, ensure_eq_ok,
    validateSchemaFieldNullabilityAgainstMapping]
  constructor
  · rintro ⟨_, hlen, h⟩
    refine ⟨hlen, fun i field mapping hf hm => ?_⟩
    obtain ⟨_, ⟨hindex, hname, hty⟩, hnull⟩ := h field mapping i ⟨hf, hm⟩
    exact ⟨hindex, hname, hnull, hty⟩
  · rintro ⟨hlen, h⟩
    refine ⟨(), hlen, fun field mapping i hat => ?_⟩
    obtain ⟨hf, hm⟩ := hat
    obtain ⟨hindex, hname, hnull, hty⟩ := h i field mapping hf hm
    exact ⟨(), ⟨hindex, hname, hty⟩, hnull⟩

theorem validateRecordBatchEncodingShape_eq_ok {batch : RecordBatch} :
    validateRecordBatchEncodingShape batch mappings = .ok u ↔ batch.schema.length = mappings.length ∧
      (∀ (i : ℕ) field mapping, batch.schema[i]? = some field → mappings[i]? = some mapping →
        mapping.arrow.index = i ∧ field.name = mapping.arrow.name ∧
        arrowTypeCompatibleWithMapping field.dataType mapping) ∧
      ∀ (i : ℕ) array mapping, batch.columns[i]? = some array → mappings[i]? = some mapping →
        arrowTypeCompatibleWithMapping array.dataType mapping := by
  simp only [validateRecordBatchEncodingShape, validateSchemaShapeForRecordBatchEncoding, bind_eq_ok,
    validateSchemaFieldCountAgainstMappings_eq_ok, forEach_unit_eq_ok, Prod.forall, mem_zip_zipIdx,
    validateSchemaFieldShapeAgainstMapping_eq_ok, ensure_eq_ok, validateUncheckedColumnArrayAgainstMapping]
  constructor
  · rintro ⟨_, ⟨_, hlen, hfields⟩, hcolumns⟩
    refine ⟨hlen, fun i field mapping hf hm => hfields field mapping i ⟨hf, hm⟩, fun i array mapping ha hm => ?_⟩
    exact hcolumns array mapping (List.mem_of_getElem? (List.getElem?_zip_eq_some.mpr ⟨ha, hm⟩))
  · rintro ⟨hlen, hfields, hcolumns⟩
    refine ⟨(), ⟨(), hlen, fun field mapping i hat => hfields i field mapping hat.1 hat.2⟩, fun array mapping h => ?_⟩
    obtain ⟨i, hi⟩ := List.mem_iff_getElem?.mp h
    obtain ⟨ha, hm⟩ := List.getElem?_zip_eq_some.mp hi
    exact hcolumns i array mapping ha hm

end Specification

end ArrowTiberius
