import ArrowTiberius.Writer.State

namespace ArrowTiberius.Writer

open Checked Direct Session

def directRawMaxPayloadBytes : ℕ := 8 * 1024 * 1024

def writePhaseForBatchError : Error → WritePhase
  | .writePhaseContext phase _ => phase
  | .valueConversion diagnostics =>
    if diagnostics.all fun diagnostic => diagnostic.code = .schemaMismatch then .batchSchemaValidation
    else .valueConversion
  | .directEncoding _ | .backendUnavailable _ _ => .directEncoding
  | .tiberius _ => .packetWrite
  | _ => .batchWrite

variable [Driver] [Externals]

def recordBatchView (batch : RecordBatch) (state : WriterState) : Result RecordBatchView :=
  match state.schemaCheck with
  | .strict => RecordBatchView.newWithContext batch state.mappings state.runtimeContext

omit [Driver] in
def validateBatchRows (view : RecordBatchView) : Result Unit :=
  forEach (List.range view.batch.numRows) () fun _ rowIndex => do
    let _ ← view.mssqlRow rowIndex

omit [Externals] in
def recordAcceptedBatch (rows : ℕ) : Session BulkWriter Error WriteStats := do
  let writer ← get
  let stats := writer.state.stats.recordAcceptedBatch rows
  set { writer with state := { writer.state with stats } }
  pure stats

omit [Externals] in
def answer (result : Except String Unit × Driver.Request) (handed : List Handed) : Session BulkWriter Error Unit := do
  let writer ← get
  set { writer with request := result.2, handed := writer.handed ++ handed }
  lift (tiberiusResult result.1)

omit [Externals] in
def sendTokenRow (row : TokenRow) : Session BulkWriter Error Unit := do
  let writer ← get
  answer (Driver.send writer.request row) [.tokenRow row]

omit [Externals] in
def sendRawRowsPayloadChecked (payload : EncodedRowsPayload) : Session BulkWriter Error Unit := do
  let writer ← get
  answer (Driver.sendRawRowsPayloadChecked writer.request payload.bytes payload.rowTokenOffsets)
    [.rawRows payload.bytes payload.rowTokenOffsets]

omit [Externals] in
/-- The closure's own error comes before what the load makes of it. -/
def sendRawRowsWith (encode : List UInt8 → Result (List ℕ × List UInt8)) : Session BulkWriter Error Unit := do
  let writer ← get
  match Driver.rowsBuffer writer.request with
  | (.error source, request) => answer (.error source, request) []
  | (.ok buf, request) =>
    match encode buf with
    | .ok (rowTokenOffsets, buf') =>
      answer (Driver.rowsAppended request (.ok (rowTokenOffsets, buf')))
        [.rawRows (buf'.drop buf.length) rowTokenOffsets]
    | .error (.error err) => do
      set { writer with request := (Driver.rowsAppended request (.error "direct raw row encoding failed")).2 }
      lift (fail err)
    | .error .panic => lift crash

/-- The switches of the fast path are off but in profiling builds. -/
def sendMeasuredRawRows (encoder : DirectEncoder) (batch : RecordBatch) (measured : MeasuredDirectBatch)
    (range : MeasuredRowRange) : Session BulkWriter Error Unit := do
  let _ ← lift (measured.rangePayloadLen range.start range.len)
  if encoder.hasVariableWidthColumn then
    sendRawRowsWith (encoder.encodeMeasuredBatchRangeInto batch measured range.start range.len)
  else do
    let payload ← lift (encoder.encodeMeasuredBatchRange {} batch measured range.start range.len)
    sendRawRowsPayloadChecked payload

def sendRow (view : RecordBatchView) (rowIndex : ℕ) : Session BulkWriter Error Unit := do
  let row ← (lift (tiberiusRowOwned view rowIndex)).withError (·.withWritePhase .valueConversion)
  (sendTokenRow row).withError (·.withWritePhase .packetWrite)

def writeBatchToSink (batch : RecordBatch) : Session BulkWriter Error WriteStats := do
  let writer ← get
  let view ← (lift (recordBatchView batch writer.state)).withError (·.withWritePhase .batchSchemaValidation)
  (lift (validateBatchRows view)).withError (·.withWritePhase .valueConversion)
  let rowsWritten := usizeToU64Saturating view.batch.numRows
  each (List.range view.batch.numRows) (sendRow view)
  recordAcceptedBatch rowsWritten

def inferWritePhase (err : Error) : Error := err.withWritePhase (writePhaseForBatchError err)

def writeDirectBatchToSink (batch : RecordBatch) : Session BulkWriter Error WriteStats := do
  let writer ← get
  let encoder ← (lift (okOr writer.state.directEncoder (directEncoderUnavailable writer.state.backend))).withError
    (·.withWritePhase .directEncoding)
  let measured ← (lift (encoder.measureBatch batch)).withError inferWritePhase
  let rowsWritten := usizeToU64Saturating measured.rowCount
  let ranges ← (lift (measured.rowRanges directRawMaxPayloadBytes)).withError (·.withWritePhase .directEncoding)
  each ranges fun range => (sendMeasuredRawRows encoder batch measured range).withError inferWritePhase
  recordAcceptedBatch rowsWritten

def writeBatch (batch : RecordBatch) : Session BulkWriter Error WriteStats := do
  let writer ← get
  match writer.state.backend with
  | .baselineTokenRow => writeBatchToSink batch
  | .directFramedBulk | .directRawBulk => writeDirectBatchToSink batch
  | .auto => lift (fail (executionUnavailable .auto))

omit [Externals] in
def BulkWriter.finish (writer : BulkWriter) : Result WriteStats := do
  mapError (·.withWritePhase .finalize) (tiberiusResult (Driver.finalize writer.request))
  pure writer.state.stats

end ArrowTiberius.Writer
