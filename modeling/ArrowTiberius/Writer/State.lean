import ArrowTiberius.Direct.Encoder
import ArrowTiberius.Lib.Session
import ArrowTiberius.Schema.TableMapping
import ArrowTiberius.Write.TokenRow
import ArrowTiberius.Writer.TargetColumns

namespace ArrowTiberius.Writer

open Checked Direct Tds

def saturatingAdd (w a b : ℕ) : ℕ := min (a + b) (2 ^ w - 1)

inductive SchemaCheck where
  | strict
  deriving DecidableEq, Repr

structure WriteOptions where
  backend : WriteBackend := .auto
  schemaCheck : SchemaCheck := .strict
  deriving DecidableEq, Repr

structure WriteStats where
  rowsWritten : ℕ := 0
  batchesWritten : ℕ := 0
  deriving DecidableEq, Repr

structure WriterState where
  backend : WriteBackend
  directEncoder : Option DirectEncoder
  schemaCheck : SchemaCheck
  runtimeContext : RuntimeConversionContext
  mappings : List SchemaMapping
  stats : WriteStats

def resolveBackend : WriteBackend → Result WriteBackend
  | .auto | .directRawBulk => .ok .directRawBulk
  | .baselineTokenRow => .ok .baselineTokenRow
  | .directFramedBulk => .ok .directFramedBulk

def executionUnavailable (backend : WriteBackend) : Error :=
  .backendUnavailable backend "bulk writer execution is not implemented yet"

def directEncoderUnavailable (backend : WriteBackend) : Error :=
  .backendUnavailable backend "direct bulk encoder is not available for this writer"

def usizeToU64Saturating (value : ℕ) : ℕ := if value < 2 ^ 64 then value else 2 ^ 64 - 1

def WriteStats.recordAcceptedBatch (stats : WriteStats) (rows : ℕ) : WriteStats :=
  ⟨saturatingAdd 64 stats.rowsWritten rows, saturatingAdd 64 stats.batchesWritten 1⟩

namespace WriterState

variable [Externals]

def new (requestedBackend : WriteBackend) (schemaCheck : SchemaCheck) (plannedSchema : PlannedSchema) :
    Result WriterState := do
  let backend ← resolveBackend requestedBackend
  let runtimeContext := ⟨plannedSchema.profile, plannedSchema.planOptions⟩
  let directEncoder ← (
    match backend with
    | .directFramedBulk | .directRawBulk => do
      let encoder ← DirectEncoder.newWithContext plannedSchema.mappings runtimeContext
      pure (some encoder)
    | .auto | .baselineTokenRow => pure none)
  pure ⟨backend, directEncoder, schemaCheck, runtimeContext, plannedSchema.mappings, {}⟩

end WriterState

/-- What the program takes from the driver: a client, and the bulk load a client starts. A load that is to append
rows calls a closure with its buffer, and goes on with what the closure leaves there. -/
class Driver where
  Client : Type
  Request : Type
  bulkInsertColumns : Client → String → Except String (List BulkLoadColumn) × Client
  bulkInsertWithColumns : Client → String → List BulkLoadColumn → Except String Request
  enableDirectPacketWrites : Request → Request
  send : Request → TokenRow → Except String Unit × Request
  sendRawRowsPayloadChecked : Request → List UInt8 → List ℕ → Except String Unit × Request
  rowsBuffer : Request → Except String (List UInt8) × Request
  rowsAppended : Request → Except String (List ℕ × List UInt8) → Except String Unit × Request
  finalize : Request → Except String Unit

def tiberiusResult {α : Type} : Except String α → Result α
  | .ok a => .ok a
  | .error source => fail (.tiberius source)

inductive Handed where
  | tokenRow (row : TokenRow)
  | rawRows (bytes : List UInt8) (rowTokenOffsets : List ℕ)
  deriving DecidableEq

variable [Driver]

/-- A writer with its bulk load, and what it has handed to the load so far. -/
structure BulkWriter where
  state : WriterState
  request : Driver.Request
  handed : List Handed

variable [Externals]

def usesDirectEncoder (backend : WriteBackend) : Bool :=
  match backend with
  | .directFramedBulk | .directRawBulk => true
  | .auto | .baselineTokenRow => false

def validateTarget (state : WriterState) (columns : List BulkLoadColumn) : Result Unit := do
  validateBulkTargetColumns columns state.mappings
  if usesDirectEncoder state.backend then do
    let encoder ← okOr state.directEncoder (directEncoderUnavailable state.backend)
    validateDirectBulkTargetColumnTypes columns encoder.plan
  else .ok ()

def startBulkLoad (state : WriterState) (client : Driver.Client) (table : TableName) : Result Driver.Request := do
  let tableSql := table.quotedSql
  let columns ← mapError (·.withWritePhase .targetMetadataValidation)
    (tiberiusResult (Driver.bulkInsertColumns client tableSql).1)
  mapError (·.withWritePhase .targetMetadataValidation) (validateTarget state columns)
  mapError (·.withWritePhase .writerInitialization) (tiberiusResult
    (Driver.bulkInsertWithColumns (Driver.bulkInsertColumns client tableSql).2 tableSql columns))

def BulkWriter.new (client : Driver.Client) (table : TableName) (plannedSchema : PlannedSchema)
    (options : WriteOptions) : Result BulkWriter := do
  let state ← mapError (·.withWritePhase .writerInitialization)
    (WriterState.new options.backend options.schemaCheck plannedSchema)
  let request ← (
    match state.backend with
    | .baselineTokenRow | .directFramedBulk | .directRawBulk => startBulkLoad state client table
    | .auto => fail ((executionUnavailable state.backend).withWritePhase .writerInitialization))
  pure ⟨state, if state.backend = .directRawBulk then Driver.enableDirectPacketWrites request else request, []⟩

section Specification

/-- The context a writer converts under is the one its schema was planned for, and its encoder is of its mappings. -/
structure WriterState.Follows (state : WriterState) (plannedSchema : PlannedSchema) : Prop where
  mappings : state.mappings = plannedSchema.mappings
  context : state.runtimeContext = ⟨plannedSchema.profile, plannedSchema.planOptions⟩
  encoder : (state.backend = .baselineTokenRow ∧ state.directEncoder = none) ∨
    (usesDirectEncoder state.backend = true ∧ ∃ encoder, state.directEncoder = some encoder ∧
      DirectEncoder.newWithContext state.mappings state.runtimeContext = .ok encoder)

variable {requestedBackend : WriteBackend} {schemaCheck : SchemaCheck} {plannedSchema : PlannedSchema}
  {state : WriterState}

omit [Driver] in
theorem state_of_new (h : WriterState.new requestedBackend schemaCheck plannedSchema = .ok state) :
    state.Follows plannedSchema ∧ state.stats = {} := by
  have hresolved (backend : WriteBackend) : resolveBackend requestedBackend = .ok backend → backend ≠ .auto := by
    rintro hbackend rfl
    cases requestedBackend <;> cases hbackend
  obtain ⟨backend, hbackend, h⟩ := bind_eq_ok.mp h
  obtain ⟨directEncoder, hencoder, h⟩ := bind_eq_ok.mp h
  cases h
  refine ⟨⟨rfl, rfl, ?_⟩, rfl⟩
  cases backend with
  | auto => exact absurd rfl (hresolved .auto hbackend)
  | baselineTokenRow =>
    cases hencoder
    exact .inl ⟨rfl, rfl⟩
  | directFramedBulk | directRawBulk =>
    obtain ⟨encoder, hnew, hsome⟩ := bind_eq_ok.mp hencoder
    cases hsome
    exact .inr ⟨rfl, encoder, rfl, hnew⟩

theorem writer_of_new {client : Driver.Client} {table : TableName} {options : WriteOptions} {writer : BulkWriter}
    (h : BulkWriter.new client table plannedSchema options = .ok writer) :
    writer.state.Follows plannedSchema ∧ writer.state.stats = {} ∧ writer.handed = [] := by
  obtain ⟨state, hstate, h⟩ := bind_eq_ok.mp h
  obtain ⟨request, -, h⟩ := bind_eq_ok.mp h
  cases h
  obtain ⟨hfollows, hstats⟩ := state_of_new (mapError_eq_ok.mp hstate)
  exact ⟨hfollows, hstats, rfl⟩

end Specification

end ArrowTiberius.Writer
