import ArrowTiberius.Observability.TracedWriter

namespace ArrowTiberius.Observability

open Checked Direct Session Stepping Writer

def reword {α : Type} (words : String → String) : Except String α → Except String α
  | .ok a => .ok a
  | .error source => .error (words source)

/-- The driver with its errors put in other words. -/
abbrev reworded (driver : Driver) (words : String → String) : Driver where
  Client := driver.Client
  Request := driver.Request
  bulkInsertColumns client tableSql :=
    (reword words (driver.bulkInsertColumns client tableSql).1, (driver.bulkInsertColumns client tableSql).2)
  bulkInsertWithColumns client tableSql columns := reword words (driver.bulkInsertWithColumns client tableSql columns)
  enableDirectPacketWrites := driver.enableDirectPacketWrites
  send request row := (reword words (driver.send request row).1, (driver.send request row).2)
  sendRawRowsPayloadChecked request bytes rowTokenOffsets :=
    (reword words (driver.sendRawRowsPayloadChecked request bytes rowTokenOffsets).1,
      (driver.sendRawRowsPayloadChecked request bytes rowTokenOffsets).2)
  rowsBuffer request := (reword words (driver.rowsBuffer request).1, (driver.rowsBuffer request).2)
  rowsAppended request result :=
    (reword words (driver.rowsAppended request result).1, (driver.rowsAppended request result).2)
  finalize request := reword words (driver.finalize request)

variable {driver : Driver} {words : String → String}

structure SameWriter (writer : @BulkWriter driver) (writer' : @BulkWriter (reworded driver words)) : Prop where
  state : @BulkWriter.state (reworded driver words) writer' = @BulkWriter.state driver writer
  request : @BulkWriter.request (reworded driver words) writer' = @BulkWriter.request driver writer
  handed : @BulkWriter.handed (reworded driver words) writer' = @BulkWriter.handed driver writer

section Errors

theorem outcomes_same {α : Type} (x : Result α) : Outcomes Error.SameButForWords Eq x x :=
  outcomes_refl Error.sameButForWords_refl (fun _ => rfl) x

theorem outcomes_tiberiusResult {α : Type} (x : Except String α) :
    Outcomes Error.SameButForWords Eq (tiberiusResult x) (tiberiusResult (reword words x)) := by
  cases x with
  | ok a => exact .ok rfl
  | error source => exact .error (Error.sameButForWords_tiberius _ _)

theorem writePhaseForBatchError_redacted (e : Error) :
    writePhaseForBatchError e.redacted = writePhaseForBatchError e := by
  cases e <;> rfl

theorem writePhaseForBatchError_eq {e e' : Error} (h : e.SameButForWords e') :
    writePhaseForBatchError e = writePhaseForBatchError e' := by
  rw [← writePhaseForBatchError_redacted e, h, writePhaseForBatchError_redacted]

theorem inferWritePhase_same {e e' : Error} (h : e.SameButForWords e') :
    (inferWritePhase e).SameButForWords (inferWritePhase e') := by
  rw [inferWritePhase, inferWritePhase, writePhaseForBatchError_eq h]
  exact h.withWritePhase _

theorem writePhase_eq {e e' : Error} (h : e.SameButForWords e') : e.writePhase = e'.writePhase := by
  rw [← Error.writePhase_redacted e, h, Error.writePhase_redacted]

theorem sanitizedErrorSummary_eq {e e' : Error} (h : e.SameButForWords e') :
    sanitizedErrorSummary e = sanitizedErrorSummary e' := congrArg ErrorInfo.summary h.safeErrorInfo_eq

theorem diagnosticCodesForError_eq {e e' : Error} (h : e.SameButForWords e') :
    diagnosticCodesForError e = diagnosticCodesForError e' :=
  congrArg ErrorInfo.diagnosticCodes h.safeErrorInfo_eq

theorem recordFailed_eq (directObserver : DirectRawBatchObserver) (phase : String) (batch : RecordBatch)
    (range : Option MeasuredRowRange) {e e' : Error} (h : e.SameButForWords e') :
    directObserver.recordFailed phase batch range e = directObserver.recordFailed phase batch range e' := by
  rw [DirectRawBatchObserver.recordFailed, DirectRawBatchObserver.recordFailed, sanitizedErrorSummary_eq h,
    diagnosticCodesForError_eq h]

theorem observedFailure_eq (directObserver : DirectRawBatchObserver) (batch : RecordBatch)
    (range : Option MeasuredRowRange) {e e' : Error} (h : e.SameButForWords e') :
    observedFailure batch directObserver range e = observedFailure batch directObserver range e' := by
  rw [observedFailure, observedFailure, writePhaseForBatchError_eq h]
  exact recordFailed_eq directObserver _ batch range h

theorem failedEvents_eq (trace : BatchWriteTrace) {e e' : Error} (h : e.SameButForWords e') :
    trace.failedEvents e = trace.failedEvents e' := by
  rw [BatchWriteTrace.failedEvents, BatchWriteTrace.failedEvents, writePhase_eq h, BatchWriteTrace.failed,
    BatchWriteTrace.failed, sanitizedErrorSummary_eq h, diagnosticCodesForError_eq h]

theorem initializationFailed_eq (trace : WriterInitializationTrace) (phase : String) {e e' : Error}
    (h : e.SameButForWords e') : [trace.failed phase e] = [trace.failed phase e'] := by
  rw [WriterInitializationTrace.failed, WriterInitializationTrace.failed, sanitizedErrorSummary_eq h,
    diagnosticCodesForError_eq h]

theorem finishFailed_eq (trace : FinishTrace) {e e' : Error} (h : e.SameButForWords e') :
    [trace.failed e] = [trace.failed e'] := by
  rw [FinishTrace.failed, FinishTrace.failed, sanitizedErrorSummary_eq h, diagnosticCodesForError_eq h]

end Errors

section Sends

theorem answer_relates {writer : @BulkWriter driver} {writer' : @BulkWriter (reworded driver words)}
    (h : SameWriter writer writer') (result : Except String Unit × driver.Request) (handed : List Handed) :
    Relates SameWriter Error.SameButForWords Eq (@answer driver result handed)
      (@answer (reworded driver words) (reword words result.1, result.2) handed) writer writer' := by
  apply (relates_get h).bind
  intro writer writer' _ _ h _
  apply (relates_set ?_).bind
  · intro _ _ _ _ _ h
    exact relates_lift (outcomes_tiberiusResult _) h
  · exact ⟨h.state, rfl, congrArg (· ++ handed) h.handed⟩

theorem sendTokenRow_relates {writer : @BulkWriter driver} {writer' : @BulkWriter (reworded driver words)}
    (h : SameWriter writer writer') (row : TokenRow) : Relates SameWriter Error.SameButForWords Eq
      (@sendTokenRow driver row) (@sendTokenRow (reworded driver words) row) writer writer' := by
  apply (relates_get h).bind
  intro writer writer' _ _ h hstate
  rw [h.request]
  exact answer_relates hstate _ _

theorem sendRawRowsPayloadChecked_relates {writer : @BulkWriter driver}
    {writer' : @BulkWriter (reworded driver words)} (h : SameWriter writer writer') (payload : EncodedRowsPayload) :
    Relates SameWriter Error.SameButForWords Eq (@sendRawRowsPayloadChecked driver payload)
      (@sendRawRowsPayloadChecked (reworded driver words) payload) writer writer' := by
  apply (relates_get h).bind
  intro writer writer' _ _ h hstate
  rw [h.request]
  exact answer_relates hstate _ _

theorem sendRawRowsWith_relates {writer : @BulkWriter driver} {writer' : @BulkWriter (reworded driver words)}
    (h : SameWriter writer writer') (encode : List UInt8 → Result (List ℕ × List UInt8)) :
    Relates SameWriter Error.SameButForWords Eq (@sendRawRowsWith driver encode)
      (@sendRawRowsWith (reworded driver words) encode) writer writer' := by
  apply (relates_get h).bind
  intro writer writer' _ _ h hstate
  rw [h.request]
  have hreworded : @Driver.rowsBuffer (reworded driver words) (@BulkWriter.request driver writer) =
      (reword words (driver.rowsBuffer writer.request).1, (driver.rowsBuffer writer.request).2) := rfl
  rw [hreworded]
  rcases hbuffer : driver.rowsBuffer writer.request with ⟨source | buf, request⟩
  · exact answer_relates hstate (.error source, request) []
  · dsimp only [reword]
    rcases hencode : encode buf with (err | _) | ⟨rowTokenOffsets, buf'⟩
    · dsimp only
      apply (relates_set ?_).bind
      · intro _ _ _ _ _ h
        exact relates_lift (outcomes_same _) h
      · exact ⟨h.state, rfl, h.handed⟩
    · exact relates_lift (outcomes_same _) hstate
    · exact answer_relates hstate _ _

end Sends

section Batches

variable [Externals] {p : @TracedWriter driver} {q : @TracedWriter (reworded driver words)}

omit [Externals] in
theorem quietly_lift_relates {α : Type} (h : Alike SameWriter p q) (x : Result α) :
    Relates (Alike SameWriter) Error.SameButForWords Eq (quietly (lift x)) (quietly (lift x)) p q :=
  relates_quietly (relates_lift (outcomes_same x) h.1) h

omit [Externals] in
theorem recordAcceptedBatch_relates {writer : @BulkWriter driver} {writer' : @BulkWriter (reworded driver words)}
    (h : SameWriter writer writer') (rows : ℕ) : Relates SameWriter Error.SameButForWords Eq
      (@recordAcceptedBatch driver rows) (@recordAcceptedBatch (reworded driver words) rows) writer writer' := by
  apply (relates_get h).bind
  intro writer writer' _ _ h _
  rw [h.state]
  apply (relates_set ?_).bind
  · intro _ _ _ _ _ h
    exact relates_pure rfl h
  · exact ⟨rfl, h.request, h.handed⟩

theorem writeBatchToSink_relates {writer : @BulkWriter driver} {writer' : @BulkWriter (reworded driver words)}
    (h : SameWriter writer writer') (batch : RecordBatch) : Relates SameWriter Error.SameButForWords Eq
      (@writeBatchToSink driver _ batch) (@writeBatchToSink (reworded driver words) _ batch) writer writer' := by
  apply (relates_get h).bind
  intro writer writer' _ _ h hstate
  rw [h.state]
  apply ((relates_lift (outcomes_same _) hstate).withError fun _ _ h => h.withWritePhase _).bind
  rintro view _ _ _ rfl hstate
  apply ((relates_lift (outcomes_same _) hstate).withError fun _ _ h => h.withWritePhase _).bind
  intro _ _ _ _ _ hstate
  apply (relates_each ?_ hstate).bind
  · intro _ _ _ _ _ hstate
    exact recordAcceptedBatch_relates hstate _
  · intro rowIndex _ writer writer' hstate
    apply ((relates_lift (outcomes_same _) hstate).withError fun _ _ h => h.withWritePhase _).bind
    rintro row _ _ _ rfl hstate
    exact (sendTokenRow_relates hstate row).withError fun _ _ h => h.withWritePhase _

theorem sendMeasuredRawRows_relates (h : Alike SameWriter p q) (encoder : DirectEncoder) (batch : RecordBatch)
    (measured : MeasuredDirectBatch) (directObserver : DirectRawBatchObserver) (range : MeasuredRowRange) :
    Relates (Alike SameWriter) Error.SameButForWords Eq
      (@sendMeasuredRawRowsWithObserver driver _ encoder batch measured directObserver range)
      (@sendMeasuredRawRowsWithObserver (reworded driver words) _ encoder batch measured directObserver range)
      p q := by
  apply (quietly_lift_relates h _).bind
  rintro encodedBytes _ p q rfl h
  by_cases hvariable : encoder.hasVariableWidthColumn
  · rw [if_pos hvariable, if_pos hvariable]
    apply (relates_quietly (sendRawRowsWith_relates h.1 _) h).bind
    intro _ _ _ _ _ h
    exact relates_emit rfl h
  · rw [if_neg hvariable, if_neg hvariable]
    apply (quietly_lift_relates h _).bind
    rintro payload _ p q rfl h
    apply (relates_quietly (sendRawRowsPayloadChecked_relates h.1 payload) h).bind
    intro _ _ _ _ _ h
    exact relates_emit rfl h

theorem writeDirectBatchToSink_relates (h : Alike SameWriter p q) (batch : RecordBatch)
    (directObserver : DirectRawBatchObserver) : Relates (Alike SameWriter) Error.SameButForWords Eq
      (@writeDirectBatchToSinkWithObserver driver _ batch directObserver)
      (@writeDirectBatchToSinkWithObserver (reworded driver words) _ batch directObserver) p q := by
  apply (relates_quietly (relates_get h.1) h).bind
  intro writer writer' p q hwriter h
  rw [hwriter.state]
  apply ((quietly_lift_relates h _).withError fun _ _ h => h.withWritePhase _).bind
  rintro encoder _ p q rfl h
  apply (((quietly_lift_relates h _).reporting fun _ _ h =>
    observedFailure_eq directObserver batch none h).withError fun _ _ h => inferWritePhase_same h).bind
  rintro measured _ p q rfl h
  apply (relates_emit rfl h).bind
  intro _ _ p q _ h
  apply (((quietly_lift_relates h _).reporting fun _ _ h =>
    recordFailed_eq directObserver _ batch none h).withError fun _ _ h => h.withWritePhase _).bind
  rintro ranges _ p q rfl h
  apply (relates_emit rfl h).bind
  intro _ _ p q _ h
  apply (relates_each ?_ h).bind
  · intro _ _ p q _ h
    exact relates_quietly (recordAcceptedBatch_relates h.1 _) h
  · intro range _ p q h
    exact ((sendMeasuredRawRows_relates h encoder batch measured directObserver range).reporting fun _ _ h =>
      observedFailure_eq directObserver batch (some range) h).withError fun _ _ h => inferWritePhase_same h

omit [Externals] in
theorem traceResult_relates (h : Alike SameWriter p q) (trace : BatchWriteTrace)
    {future : @Session (@TracedWriter driver) Error WriteStats}
    {future' : @Session (@TracedWriter (reworded driver words)) Error WriteStats}
    (hfuture : ∀ p q, Alike SameWriter p q → Relates (Alike SameWriter) Error.SameButForWords Eq future future' p q) :
    Relates (Alike SameWriter) Error.SameButForWords Eq (@BatchWriteTrace.traceResult driver trace future)
      (@BatchWriteTrace.traceResult (reworded driver words) trace future') p q := by
  apply (relates_emit rfl h).bind
  intro _ _ p q _ h
  apply ((hfuture p q h).reporting fun _ _ h => failedEvents_eq trace h).bind
  rintro stats _ p q rfl h
  apply (relates_emit rfl h).bind
  intro _ _ p q _ h
  exact relates_pure rfl h

theorem writeTracedBatch_relates (h : Alike SameWriter p q) (batch : RecordBatch) :
    Relates (Alike SameWriter) Error.SameButForWords Eq (@writeTracedBatch driver _ batch)
      (@writeTracedBatch (reworded driver words) _ batch) p q := by
  apply (relates_quietly (relates_get h.1) h).bind
  intro writer writer' p q hwriter h
  rw [hwriter.state]
  cases hbackend : (@BulkWriter.state driver writer).backend with
  | baselineTokenRow =>
    unfold writeTracedBatchToSink
    rw [hwriter.state]
    apply traceResult_relates h
    intro p q h
    exact relates_quietly (writeBatchToSink_relates h.1 batch) h
  | directFramedBulk | directRawBulk =>
    unfold writeTracedDirectBatchToSink
    rw [hwriter.state]
    apply traceResult_relates h
    intro p q h
    exact writeDirectBatchToSink_relates h batch _
  | auto => exact quietly_lift_relates h _

end Batches

section Lifecycle

variable [Externals] {p q : Unit × List TelemetryEvent}

abbrev Anywhere : Unit → Unit → Prop := fun _ _ => True

omit [Externals] in
theorem initializationStep_relates {α : Type} (h : Alike Anywhere p q) (trace : WriterInitializationTrace)
    (phase : String) (writePhase : WritePhase) {x y : Result α} (houtcome : Outcomes Error.SameButForWords Eq x y) :
    Relates (Alike Anywhere) Error.SameButForWords Eq (initializationStep trace phase writePhase x)
      (initializationStep trace phase writePhase y) p q :=
  ((relates_quietly (relates_lift houtcome h.1) h).reporting fun _ _ h =>
    initializationFailed_eq trace phase h).withError fun _ _ h => h.withWritePhase writePhase

theorem startTracedBulkLoad_relates (h : Alike Anywhere p q) (trace : WriterInitializationTrace) (state : WriterState)
    (client : driver.Client) (table : TableName) : Relates (Alike Anywhere) Error.SameButForWords Eq
      (@startTracedBulkLoad driver _ trace state client table)
      (@startTracedBulkLoad (reworded driver words) _ trace state client table) p q := by
  apply (initializationStep_relates h trace _ _ (outcomes_tiberiusResult _)).bind
  rintro columns _ p q rfl h
  apply (relates_emit rfl h).bind
  intro _ _ p q _ h
  apply (initializationStep_relates h trace _ _ (outcomes_same _)).bind
  intro _ _ p q _ h
  apply (relates_emit rfl h).bind
  intro _ _ p q _ h
  exact initializationStep_relates h trace _ _ (outcomes_tiberiusResult _)

theorem newTracedWriter_relates (h : Alike Anywhere p q) (client : driver.Client) (table : TableName)
    (plannedSchema : PlannedSchema) (options : WriteOptions) :
    Relates (Alike Anywhere) Error.SameButForWords SameWriter
      (@newTracedWriter driver _ client table plannedSchema options)
      (@newTracedWriter (reworded driver words) _ client table plannedSchema options) p q := by
  apply (relates_emit rfl h).bind
  intro _ _ p q _ h
  apply (initializationStep_relates h _ _ _ (outcomes_same _)).bind
  rintro state _ p q rfl h
  refine @Relates.bind _ _ _ _ _ _ _ _ _ _ Eq _ _ _ _ _ _ _ ?_ ?_
  · cases hbackend : state.backend with
    | baselineTokenRow | directFramedBulk | directRawBulk =>
      exact startTracedBulkLoad_relates h _ state client table
    | auto => exact initializationStep_relates h _ _ _ (outcomes_same _)
  · rintro request _ p q rfl h
    apply (relates_emit rfl h).bind
    intro _ _ p q _ h
    exact relates_pure ⟨rfl, rfl, rfl⟩ h

omit [Externals] in
theorem finishWriterToSink_relates (h : Alike Anywhere p q) {writer : @BulkWriter driver}
    {writer' : @BulkWriter (reworded driver words)} (hwriter : SameWriter writer writer') :
    Relates (Alike Anywhere) Error.SameButForWords Eq (@finishWriterToSink driver writer)
      (@finishWriterToSink (reworded driver words) writer') p q := by
  unfold finishWriterToSink
  rw [hwriter.state, hwriter.request]
  apply (relates_emit rfl h).bind
  intro _ _ p q _ h
  apply (((relates_quietly (relates_lift (outcomes_tiberiusResult _) h.1) h).reporting fun _ _ h =>
    finishFailed_eq _ h).withError fun _ _ h => h.withWritePhase _).bind
  intro _ _ p q _ h
  apply (relates_emit rfl h).bind
  intro _ _ p q _ h
  exact relates_pure rfl h

/-- The events of a load are the same in whatever words the driver puts its errors. -/
theorem telemetry_tells_no_driver_words (driver : Driver) (words : String → String) (client : driver.Client)
    (table : TableName) (plannedSchema : PlannedSchema) (options : WriteOptions) (batches : List RecordBatch) :
    @tracedLoad (reworded driver words) _ client table plannedSchema options batches =
      @tracedLoad driver _ client table plannedSchema options batches := by
  obtain ⟨houtcome, -, hlog⟩ := @newTracedWriter_relates driver words _ ((), []) ((), []) ⟨trivial, rfl⟩ client table
    plannedSchema options
  unfold tracedLoad
  rcases hnew : (@newTracedWriter driver _ client table plannedSchema options).run ((), []) with ⟨result, started⟩
  rcases hnew' : (@newTracedWriter (reworded driver words) _ client table plannedSchema options).run ((), []) with
    ⟨result', started'⟩
  rw [hnew, hnew'] at houtcome hlog
  cases houtcome with
  | ok hwriter =>
    obtain ⟨-, hwritten⟩ := @run_simulates _ _ _ _ _ (fun batch => (@writeTracedBatch driver _ batch).run)
      (Alike SameWriter) (Outcomes Error.SameButForWords Eq) batches (_, started.2) (_, started'.2)
      (fun batch => (@writeTracedBatch (reworded driver words) _ batch).run)
      (by
        intro batch _ p q h
        obtain ⟨houtcome, hstate⟩ := writeTracedBatch_relates h batch
        exact ⟨houtcome, hstate⟩)
      ⟨hwriter, hlog⟩
    obtain ⟨-, -, hlog⟩ := finishWriterToSink_relates (p := ((), _)) (q := ((), _)) ⟨trivial, hwritten.2⟩ hwritten.1
    exact hlog.symm
  | error h => exact hlog.symm
  | panic => exact hlog.symm

end Lifecycle

end ArrowTiberius.Observability
