import ArrowTiberius.Lib.Logging
import ArrowTiberius.Observability.Events
import ArrowTiberius.Writer.Load

namespace ArrowTiberius.Observability

open Checked Direct Session Writer

variable [Driver] [Externals]

abbrev TracedWriter : Type := BulkWriter × List TelemetryEvent

section Batches

def sendMeasuredRawRowsWithObserver (encoder : DirectEncoder) (batch : RecordBatch) (measured : MeasuredDirectBatch)
    (directObserver : DirectRawBatchObserver) (range : MeasuredRowRange) : Session TracedWriter Error Unit := do
  let encodedBytes ← quietly (lift (measured.rangePayloadLen range.start range.len))
  if encoder.hasVariableWidthColumn then do
    quietly (sendRawRowsWith (encoder.encodeMeasuredBatchRangeInto batch measured range.start range.len))
    emit (directObserver.recordPacketWriteCompleted range range.len encodedBytes)
  else do
    let payload ← quietly (lift (encoder.encodeMeasuredBatchRange {} batch measured range.start range.len))
    quietly (sendRawRowsPayloadChecked payload)
    emit (directObserver.recordPacketWriteCompleted range payload.rowTokenOffsets.length payload.bytes.length)

omit [Driver] [Externals] in
def observedFailure (batch : RecordBatch) (directObserver : DirectRawBatchObserver) (range : Option MeasuredRowRange)
    (e : Error) : List TelemetryEvent :=
  directObserver.recordFailed (writePhaseForBatchError e).asStr batch range e

def writeDirectBatchToSinkWithObserver (batch : RecordBatch) (directObserver : DirectRawBatchObserver) :
    Session TracedWriter Error WriteStats := do
  let writer ← quietly get
  let encoder ← (quietly (lift (okOr writer.state.directEncoder
    (directEncoderUnavailable writer.state.backend)))).withError (·.withWritePhase .directEncoding)
  let measured ← (reporting (observedFailure batch directObserver none)
    (quietly (lift (encoder.measureBatch batch)))).withError inferWritePhase
  emit (directObserver.recordMeasured measured)
  let rowsWritten := usizeToU64Saturating measured.rowCount
  let ranges ← (reporting (directObserver.recordFailed directEncodingPhase batch none)
    (quietly (lift (measured.rowRanges directRawMaxPayloadBytes)))).withError (·.withWritePhase .directEncoding)
  emit (directObserver.recordRangesPlanned measured ranges)
  each ranges fun range => (reporting (observedFailure batch directObserver (some range))
    (sendMeasuredRawRowsWithObserver encoder batch measured directObserver range)).withError inferWritePhase
  quietly (recordAcceptedBatch rowsWritten)

omit [Externals] in
def BatchWriteTrace.failedEvents (trace : BatchWriteTrace) (e : Error) : List TelemetryEvent :=
  [trace.failed (e.writePhase.getD .batchWrite).asStr e]

omit [Externals] in
def BatchWriteTrace.traceResult (trace : BatchWriteTrace) (future : Session TracedWriter Error WriteStats) :
    Session TracedWriter Error WriteStats := do
  emit [trace.started]
  let stats ← reporting trace.failedEvents future
  emit [trace.completed stats]
  pure stats

def writeTracedBatchToSink (writer : BulkWriter) (batch : RecordBatch) : Session TracedWriter Error WriteStats :=
  (BatchWriteTrace.new writer.state.backend writer.state.stats batch).traceResult (quietly (writeBatchToSink batch))

def writeTracedDirectBatchToSink (writer : BulkWriter) (batch : RecordBatch) :
    Session TracedWriter Error WriteStats :=
  (BatchWriteTrace.new writer.state.backend writer.state.stats batch).traceResult
    (writeDirectBatchToSinkWithObserver batch (.enabled writer.state.backend))

def writeTracedBatch (batch : RecordBatch) : Session TracedWriter Error WriteStats := do
  let writer ← quietly get
  match writer.state.backend with
  | .baselineTokenRow => writeTracedBatchToSink writer batch
  | .directFramedBulk | .directRawBulk => writeTracedDirectBatchToSink writer batch
  | .auto => quietly (lift (fail (executionUnavailable .auto)))

def writeTracedBatches (batches : List RecordBatch) : TracedWriter → List (Result WriteStats) × TracedWriter :=
  Stepping.run (fun batch => (writeTracedBatch batch).run) batches

end Batches

section Lifecycle

abbrev Starting (α : Type) : Type := Session (Unit × List TelemetryEvent) Error α

omit [Driver] [Externals] in
def initializationStep {α : Type} (trace : WriterInitializationTrace) (phase : String) (writePhase : WritePhase)
    (x : Result α) : Starting α :=
  (reporting (fun e => [trace.failed phase e]) (quietly (lift x))).withError (·.withWritePhase writePhase)

def startTracedBulkLoad (trace : WriterInitializationTrace) (state : WriterState) (client : Driver.Client)
    (table : TableName) : Starting Driver.Request := do
  let tableSql := table.quotedSql
  let columns ← initializationStep trace targetMetadataValidationPhase .targetMetadataValidation
    (tiberiusResult (Driver.bulkInsertColumns client tableSql).1)
  emit [trace.targetMetadataValidationStarted]
  initializationStep trace targetMetadataValidationPhase .targetMetadataValidation (validateTarget state columns)
  emit [trace.targetMetadataValidationCompleted]
  initializationStep trace writerInitializationPhase .writerInitialization (tiberiusResult
    (Driver.bulkInsertWithColumns (Driver.bulkInsertColumns client tableSql).2 tableSql columns))

omit [Driver] [Externals] in
def WriterInitializationTrace.recordResolvedBackend (trace : WriterInitializationTrace) (backend : WriteBackend) :
    WriterInitializationTrace :=
  { trace with
    resolvedBackend := some backend
    directTargetValidationRequired := some (usesDirectEncoder backend) }

def newTracedWriter (client : Driver.Client) (table : TableName) (plannedSchema : PlannedSchema)
    (options : WriteOptions) : Starting BulkWriter := do
  let trace := WriterInitializationTrace.new table options.backend plannedSchema.mappings.length
  emit [trace.started]
  let state ← initializationStep trace writerInitializationPhase .writerInitialization
    (WriterState.new options.backend options.schemaCheck plannedSchema)
  let trace := trace.recordResolvedBackend state.backend
  let request ← (
    match state.backend with
    | .baselineTokenRow | .directFramedBulk | .directRawBulk => startTracedBulkLoad trace state client table
    | .auto => initializationStep trace writerInitializationPhase .writerInitialization
        (fail (executionUnavailable state.backend)))
  emit [trace.completed]
  pure ⟨state, if state.backend = .directRawBulk then Driver.enableDirectPacketWrites request else request, []⟩

omit [Externals] in
def finishWriterToSink (writer : BulkWriter) : Starting WriteStats := do
  let trace : FinishTrace := ⟨writer.state.backend, writer.state.stats⟩
  emit [trace.started]
  (reporting (fun e => [trace.failed e]) (quietly (lift (tiberiusResult (Driver.finalize writer.request))))).withError
    (·.withWritePhase .finalize)
  emit [trace.completed]
  pure writer.state.stats

def tracedLoad (client : Driver.Client) (table : TableName) (plannedSchema : PlannedSchema) (options : WriteOptions)
    (batches : List RecordBatch) : List TelemetryEvent :=
  match (newTracedWriter client table plannedSchema options).run ((), []) with
  | (.error _, started) => started.2
  | (.ok writer, started) =>
    let written := (writeTracedBatches batches (writer, started.2)).2
    ((finishWriterToSink written.1).run ((), written.2)).2.2

end Lifecycle

section Erasure

variable (batch : RecordBatch) (directObserver : DirectRawBatchObserver)

theorem sendMeasuredRawRows_erases (encoder : DirectEncoder) (measured : MeasuredDirectBatch)
    (range : MeasuredRowRange) : Erases (sendMeasuredRawRowsWithObserver encoder batch measured directObserver range)
      (sendMeasuredRawRows encoder batch measured range) := by
  apply (erases_quietly _).bind
  intro encodedBytes
  by_cases hvariable : encoder.hasVariableWidthColumn
  · rw [if_pos hvariable, if_pos hvariable]
    exact (erases_quietly _).before_emit
  · rw [if_neg hvariable, if_neg hvariable]
    apply (erases_quietly _).bind
    intro payload
    exact (erases_quietly _).before_emit

theorem writeDirectBatchToSink_erases :
    Erases (writeDirectBatchToSinkWithObserver batch directObserver) (writeDirectBatchToSink batch) := by
  apply (erases_quietly _).bind
  intro writer
  apply ((erases_quietly _).withError _).bind
  intro encoder
  apply (((erases_quietly _).reporting _).withError _).bind
  intro measured
  apply Erases.after_emit
  apply (((erases_quietly _).reporting _).withError _).bind
  intro ranges
  apply Erases.after_emit
  apply Erases.bind
  · apply erases_each
    intro range _
    exact ((sendMeasuredRawRows_erases batch directObserver encoder measured range).reporting _).withError _
  · intro _
    exact erases_quietly _

omit [Externals] in
theorem traceResult_erases (trace : BatchWriteTrace) {future : Session TracedWriter Error WriteStats}
    {plain : Session BulkWriter Error WriteStats} (h : Erases future plain) : Erases (trace.traceResult future) plain :=
  (h.reporting _).then_emit.after_emit

/-- A call returns what it returns without its events, and leaves the same writer. -/
theorem writeBatch_erases : Erases (writeTracedBatch batch) (writeBatch batch) := by
  apply (erases_quietly _).bind
  intro writer
  cases hbackend : writer.state.backend with
  | baselineTokenRow => exact traceResult_erases _ (erases_quietly _)
  | directFramedBulk | directRawBulk => exact traceResult_erases _ (writeDirectBatchToSink_erases batch _)
  | auto => exact erases_quietly _

variable (client : Driver.Client) (table : TableName) (plannedSchema : PlannedSchema) (options : WriteOptions)

omit [Driver] [Externals] in
theorem initializationStep_erases {α : Type} (trace : WriterInitializationTrace) (phase : String)
    (writePhase : WritePhase) (x : Result α) : Erases (initializationStep trace phase writePhase x)
      (lift (mapError (·.withWritePhase writePhase) x)) :=
  ((erases_quietly _).reporting _).withError _

theorem startBulkLoad_erases (trace : WriterInitializationTrace) (state : WriterState) :
    Erases (startTracedBulkLoad trace state client table) (lift (startBulkLoad state client table)) := by
  rw [startBulkLoad, lift_bind]
  apply (initializationStep_erases _ _ _ _).bind
  intro columns
  rw [lift_bind]
  apply Erases.after_emit
  apply (initializationStep_erases _ _ _ _).bind
  intro _
  exact (initializationStep_erases _ _ _ _).after_emit

theorem newWriter_erases : Erases (newTracedWriter client table plannedSchema options)
    (lift (BulkWriter.new client table plannedSchema options)) := by
  rw [BulkWriter.new, lift_bind]
  apply Erases.after_emit
  apply (initializationStep_erases _ _ _ _).bind
  intro state
  rw [lift_bind]
  apply Erases.bind
  · cases hbackend : state.backend with
    | baselineTokenRow | directFramedBulk | directRawBulk => exact startBulkLoad_erases client table _ state
    | auto => exact initializationStep_erases _ _ _ _
  · intro request
    apply Erases.after_emit
    exact erases_pure _

omit [Externals] in
theorem finish_erases (writer : BulkWriter) : Erases (finishWriterToSink writer) (lift writer.finish) := by
  rw [BulkWriter.finish, lift_bind]
  apply Erases.after_emit
  apply (((erases_quietly _).reporting _).withError _).bind
  intro _
  apply Erases.after_emit
  exact erases_pure _

end Erasure

end ArrowTiberius.Observability
