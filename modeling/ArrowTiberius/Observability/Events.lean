import ArrowTiberius.ErrorInfo
import ArrowTiberius.Writer.Batch

namespace ArrowTiberius.Observability

open Direct Writer

inductive Level where
  | debug
  | info
  | error
  deriving DecidableEq, Repr

inductive FieldValue where
  | text (value : String)
  | count (value : ℕ)
  | flag (value : Bool)
  deriving DecidableEq, Repr

/-- An event of the crate's trace target, without the time it took. -/
structure TelemetryEvent where
  level : Level
  phase : String
  telemetryEvent : String
  fields : List (String × FieldValue)
  deriving DecidableEq, Repr

def writerInitializationPhase : String := "writer_initialization"
def targetMetadataValidationPhase : String := "target_metadata_validation"
def batchWritePhase : String := "batch_write"
def directEncodingPhase : String := "direct_encoding"
def packetWritePhase : String := "packet_write"
def finishPhase : String := "finish"
def finalizePhase : String := "finalize"

def writerInitializationStartedEvent : String := "arrow_tiberius.writer_initialization.started"
def writerInitializationCompletedEvent : String := "arrow_tiberius.writer_initialization.completed"
def writerInitializationFailedEvent : String := "arrow_tiberius.writer_initialization.failed"
def targetMetadataValidationStartedEvent : String := "arrow_tiberius.target_metadata_validation.started"
def targetMetadataValidationCompletedEvent : String := "arrow_tiberius.target_metadata_validation.completed"
def targetMetadataValidationFailedEvent : String := "arrow_tiberius.target_metadata_validation.failed"
def batchWriteStartedEvent : String := "arrow_tiberius.batch_write.started"
def batchWriteCompletedEvent : String := "arrow_tiberius.batch_write.completed"
def batchWriteFailedEvent : String := "arrow_tiberius.batch_write.failed"
def directRawMeasuredEvent : String := "arrow_tiberius.direct_raw.measured"
def directRawRangesPlannedEvent : String := "arrow_tiberius.direct_raw.ranges_planned"
def directRawPacketWriteCompletedEvent : String := "arrow_tiberius.direct_raw.packet_write.completed"
def directRawFailedEvent : String := "arrow_tiberius.direct_raw.failed"
def finishStartedEvent : String := "arrow_tiberius.finish.started"
def finishCompletedEvent : String := "arrow_tiberius.finish.completed"
def finishFailedEvent : String := "arrow_tiberius.finish.failed"

def backendTraceName : WriteBackend → String
  | .auto => "Auto"
  | .baselineTokenRow => "BaselineTokenRow"
  | .directFramedBulk => "DirectFramedBulk"
  | .directRawBulk => "DirectRawBulk"

def sanitizedErrorSummary (e : Error) : String := e.safeErrorInfo.summary

def diagnosticCodesForError (e : Error) : String := e.safeErrorInfo.diagnosticCodes

structure BatchWriteTrace where
  backend : WriteBackend
  attemptedBatchOrdinal : ℕ
  batchRowCount : ℕ
  batchColumnCount : ℕ
  batchIsEmpty : Bool
  acceptedRowsBefore : ℕ
  acceptedBatchesBefore : ℕ

namespace BatchWriteTrace

def new (backend : WriteBackend) (stats : WriteStats) (batch : RecordBatch) : BatchWriteTrace where
  backend
  attemptedBatchOrdinal := saturatingAdd 64 stats.batchesWritten 1
  batchRowCount := usizeToU64Saturating batch.numRows
  batchColumnCount := usizeToU64Saturating batch.columns.length
  batchIsEmpty := batch.numRows = 0
  acceptedRowsBefore := stats.rowsWritten
  acceptedBatchesBefore := stats.batchesWritten

def batchFields (trace : BatchWriteTrace) : List (String × FieldValue) :=
  [("backend", .text (backendTraceName trace.backend)),
    ("attempted_batch_ordinal", .count trace.attemptedBatchOrdinal),
    ("batch_row_count", .count trace.batchRowCount),
    ("batch_column_count", .count trace.batchColumnCount),
    ("batch_is_empty", .flag trace.batchIsEmpty),
    ("accepted_rows_before", .count trace.acceptedRowsBefore),
    ("accepted_batches_before", .count trace.acceptedBatchesBefore)]

def started (trace : BatchWriteTrace) : TelemetryEvent :=
  ⟨.info, batchWritePhase, batchWriteStartedEvent, trace.batchFields ++ [("batch_write_result", .text "started")]⟩

def completed (trace : BatchWriteTrace) (stats : WriteStats) : TelemetryEvent :=
  ⟨.info, batchWritePhase, batchWriteCompletedEvent, trace.batchFields ++
    [("accepted_rows_after", .count stats.rowsWritten),
      ("accepted_batches_after", .count stats.batchesWritten),
      ("batch_write_result", .text "success")]⟩

def failed (trace : BatchWriteTrace) (phase : String) (e : Error) : TelemetryEvent :=
  ⟨.error, phase, batchWriteFailedEvent, trace.batchFields ++
    [("batch_write_result", .text "failure"),
      ("error_summary", .text (sanitizedErrorSummary e)),
      ("diagnostic_codes", .text (diagnosticCodesForError e))]⟩

end BatchWriteTrace

structure DirectRawBatchObserver where
  backend : Option WriteBackend

namespace DirectRawBatchObserver

def disabled : DirectRawBatchObserver := ⟨none⟩

def enabled (backend : WriteBackend) : DirectRawBatchObserver := ⟨some backend⟩

def record (observer : DirectRawBatchObserver) (event : TelemetryEvent) : List TelemetryEvent :=
  if observer.backend = some .directRawBulk then [event] else []

def recordMeasured (observer : DirectRawBatchObserver) (measured : MeasuredDirectBatch) : List TelemetryEvent :=
  observer.record ⟨.debug, directEncodingPhase, directRawMeasuredEvent,
    [("backend", .text (backendTraceName .directRawBulk)),
      ("batch_row_count", .count (usizeToU64Saturating measured.rowCount)),
      ("batch_column_count", .count (usizeToU64Saturating measured.columnCount)),
      ("encoded_row_count", .count (usizeToU64Saturating measured.rowCount)),
      ("encoded_byte_count", .count (usizeToU64Saturating measured.payloadLen))]⟩

def recordRangesPlanned (observer : DirectRawBatchObserver) (measured : MeasuredDirectBatch)
    (ranges : List MeasuredRowRange) : List TelemetryEvent :=
  observer.record ⟨.debug, directEncodingPhase, directRawRangesPlannedEvent,
    [("backend", .text (backendTraceName .directRawBulk)),
      ("batch_row_count", .count (usizeToU64Saturating measured.rowCount)),
      ("batch_column_count", .count (usizeToU64Saturating measured.columnCount)),
      ("encoded_byte_count", .count (usizeToU64Saturating measured.payloadLen)),
      ("encoded_range_count", .count (usizeToU64Saturating ranges.length))]⟩

def recordPacketWriteCompleted (observer : DirectRawBatchObserver) (range : MeasuredRowRange)
    (encodedRowCount encodedByteCount : ℕ) : List TelemetryEvent :=
  observer.record ⟨.debug, packetWritePhase, directRawPacketWriteCompletedEvent,
    [("backend", .text (backendTraceName .directRawBulk)),
      ("encoded_row_start", .count (usizeToU64Saturating range.start)),
      ("encoded_row_count", .count (usizeToU64Saturating encodedRowCount)),
      ("encoded_byte_count", .count (usizeToU64Saturating encodedByteCount))]⟩

def rangeFields : Option MeasuredRowRange → List (String × FieldValue)
  | none => []
  | some range =>
    [("encoded_row_start", .count (usizeToU64Saturating range.start)),
      ("encoded_row_count", .count (usizeToU64Saturating range.len))]

def recordFailed (observer : DirectRawBatchObserver) (phase : String) (batch : RecordBatch)
    (range : Option MeasuredRowRange) (e : Error) : List TelemetryEvent :=
  observer.record ⟨.error, phase, directRawFailedEvent,
    [("backend", .text (backendTraceName .directRawBulk)),
      ("batch_row_count", .count (usizeToU64Saturating batch.numRows)),
      ("batch_column_count", .count (usizeToU64Saturating batch.columns.length))] ++ rangeFields range ++
    [("diagnostic_codes", .text (diagnosticCodesForError e)), ("error_summary", .text (sanitizedErrorSummary e))]⟩

end DirectRawBatchObserver

structure FinishTrace where
  backend : WriteBackend
  stats : WriteStats

namespace FinishTrace

def started (trace : FinishTrace) : TelemetryEvent :=
  ⟨.info, finishPhase, finishStartedEvent,
    [("backend", .text (backendTraceName trace.backend)),
      ("rows_written", .count trace.stats.rowsWritten),
      ("batches_written", .count trace.stats.batchesWritten),
      ("finish_result", .text "started")]⟩

def completed (trace : FinishTrace) : TelemetryEvent :=
  ⟨.info, finishPhase, finishCompletedEvent,
    [("backend", .text (backendTraceName trace.backend)),
      ("rows_written", .count trace.stats.rowsWritten),
      ("batches_written", .count trace.stats.batchesWritten),
      ("finish_result", .text "success")]⟩

def failed (trace : FinishTrace) (e : Error) : TelemetryEvent :=
  ⟨.error, finalizePhase, finishFailedEvent,
    [("backend", .text (backendTraceName trace.backend)),
      ("accepted_rows_before", .count trace.stats.rowsWritten),
      ("accepted_batches_before", .count trace.stats.batchesWritten),
      ("finish_result", .text "failure"),
      ("error_summary", .text (sanitizedErrorSummary e)),
      ("diagnostic_codes", .text (diagnosticCodesForError e))]⟩

end FinishTrace

structure WriterInitializationTrace where
  requestedBackend : WriteBackend
  resolvedBackend : Option WriteBackend
  targetSchema : String
  targetTable : String
  plannedColumnCount : ℕ
  directTargetValidationRequired : Option Bool

namespace WriterInitializationTrace

def new (table : TableName) (requestedBackend : WriteBackend) (plannedColumnCount : ℕ) :
    WriterInitializationTrace where
  requestedBackend
  resolvedBackend := none
  targetSchema := (table.schema.map Identifier.value).getD ""
  targetTable := table.table.value
  plannedColumnCount
  directTargetValidationRequired := none

def resolvedBackendName (trace : WriterInitializationTrace) : String :=
  (trace.resolvedBackend.map backendTraceName).getD "unresolved"

def started (trace : WriterInitializationTrace) : TelemetryEvent :=
  ⟨.info, writerInitializationPhase, writerInitializationStartedEvent,
    [("requested_backend", .text (backendTraceName trace.requestedBackend)),
      ("target_schema", .text trace.targetSchema),
      ("target_table", .text trace.targetTable),
      ("planned_column_count", .count (usizeToU64Saturating trace.plannedColumnCount)),
      ("initialization_result", .text "started")]⟩

def resolvedFields (trace : WriterInitializationTrace) (initializationResult : String) : List (String × FieldValue) :=
  [("requested_backend", .text (backendTraceName trace.requestedBackend)),
    ("resolved_backend", .text trace.resolvedBackendName),
    ("target_schema", .text trace.targetSchema),
    ("target_table", .text trace.targetTable),
    ("planned_column_count", .count (usizeToU64Saturating trace.plannedColumnCount)),
    ("direct_target_validation_required", .flag (trace.directTargetValidationRequired.getD false)),
    ("initialization_result", .text initializationResult)]

def targetMetadataValidationStarted (trace : WriterInitializationTrace) : TelemetryEvent :=
  ⟨.info, targetMetadataValidationPhase, targetMetadataValidationStartedEvent, trace.resolvedFields "validating"⟩

def targetMetadataValidationCompleted (trace : WriterInitializationTrace) : TelemetryEvent :=
  ⟨.info, targetMetadataValidationPhase, targetMetadataValidationCompletedEvent, trace.resolvedFields "success"⟩

def completed (trace : WriterInitializationTrace) : TelemetryEvent :=
  ⟨.info, writerInitializationPhase, writerInitializationCompletedEvent, trace.resolvedFields "success"⟩

def failed (trace : WriterInitializationTrace) (phase : String) (e : Error) : TelemetryEvent :=
  ⟨.error, phase,
    if phase = targetMetadataValidationPhase then targetMetadataValidationFailedEvent
    else writerInitializationFailedEvent,
    trace.resolvedFields "failure" ++
      [("error_summary", .text (sanitizedErrorSummary e)),
        ("diagnostic_codes", .text (diagnosticCodesForError e))]⟩

end WriterInitializationTrace

end ArrowTiberius.Observability
