import ArrowTiberius.Observability.TracedWriter

namespace ArrowTiberius.Observability

open Checked Direct Session Stepping Writer

section Fields

variable {event : TelemetryEvent}

def TelemetryEvent.count (event : TelemetryEvent) (field : String) : Option ℕ :=
  match event.fields.lookup field with
  | some (.count value) => some value
  | _ => none

def TelemetryEvent.outcome (event : TelemetryEvent) : Option (Except String WriteStats) :=
  if event.telemetryEvent = batchWriteCompletedEvent then do
    let rowsWritten ← event.count "accepted_rows_after"
    let batchesWritten ← event.count "accepted_batches_after"
    some (.ok ⟨rowsWritten, batchesWritten⟩)
  else if event.telemetryEvent = batchWriteFailedEvent then some (.error event.phase)
  else none

def reportedOutcome : Result WriteStats → Option (Except String WriteStats)
  | .ok stats => some (.ok stats)
  | .error (.error e) => some (.error (e.writePhase.getD .batchWrite).asStr)
  | .error .panic => none

theorem outcome_started (trace : BatchWriteTrace) : trace.started.outcome = none := rfl

theorem outcome_completed (trace : BatchWriteTrace) (stats : WriteStats) :
    (trace.completed stats).outcome = some (.ok stats) := rfl

theorem outcome_failed (trace : BatchWriteTrace) (phase : String) (e : Error) :
    (trace.failed phase e).outcome = some (.error phase) := rfl

def directRawEvents : List String :=
  [directRawMeasuredEvent, directRawRangesPlannedEvent, directRawPacketWriteCompletedEvent, directRawFailedEvent]

theorem outcome_of_directRaw (h : event.telemetryEvent ∈ directRawEvents) : event.outcome = none := by
  have hcompleted : batchWriteCompletedEvent ∉ directRawEvents := by decide
  have hfailed : batchWriteFailedEvent ∉ directRawEvents := by decide
  rw [TelemetryEvent.outcome, if_neg, if_neg]
  · intro hname
    exact hfailed (hname ▸ h)
  · intro hname
    exact hcompleted (hname ▸ h)

end Fields

section Calls

variable [Driver]

def callTrace (call : Call) : BatchWriteTrace :=
  .new call.before.state.backend call.before.state.stats call.batch

omit [Driver] in
def BatchWriteTrace.lastEvents (trace : BatchWriteTrace) : Result WriteStats → List TelemetryEvent
  | .ok stats => [trace.completed stats]
  | .error e => faultEvents trace.failedEvents e

omit [Driver] in
def IsDetail (backend : WriteBackend) (event : TelemetryEvent) : Prop :=
  backend = .directRawBulk ∧ event.telemetryEvent ∈ directRawEvents

/-- The events of a call: that it started, its details, and how it ended. -/
def Tells (call : Call) (segment : List TelemetryEvent) : Prop :=
  ∃ details, segment = (callTrace call).started :: (details ++ (callTrace call).lastEvents call.result) ∧
    ∀ event ∈ details, IsDetail call.before.state.backend event

variable {backend : WriteBackend} {log : List TelemetryEvent}

omit [Driver] in
theorem isDetail_of_record {event : TelemetryEvent} (hevent : event.telemetryEvent ∈ directRawEvents) :
    ∀ e ∈ (DirectRawBatchObserver.enabled backend).record event, IsDetail backend e := by
  intro e he
  rw [DirectRawBatchObserver.record] at he
  split at he
  case isTrue hraw =>
    obtain rfl := List.mem_singleton.mp he
    exact ⟨Option.some.inj hraw, hevent⟩
  case isFalse => cases he

omit [Driver] in
theorem isDetail_recordMeasured (measured : MeasuredDirectBatch) :
    ∀ e ∈ (DirectRawBatchObserver.enabled backend).recordMeasured measured, IsDetail backend e :=
  isDetail_of_record (List.mem_cons_self)

omit [Driver] in
theorem isDetail_recordRangesPlanned (measured : MeasuredDirectBatch) (ranges : List MeasuredRowRange) :
    ∀ e ∈ (DirectRawBatchObserver.enabled backend).recordRangesPlanned measured ranges, IsDetail backend e :=
  isDetail_of_record (.tail _ List.mem_cons_self)

omit [Driver] in
theorem isDetail_recordPacketWriteCompleted (range : MeasuredRowRange) (rows bytes : ℕ) :
    ∀ e ∈ (DirectRawBatchObserver.enabled backend).recordPacketWriteCompleted range rows bytes, IsDetail backend e :=
  isDetail_of_record (.tail _ (.tail _ List.mem_cons_self))

omit [Driver] in
theorem isDetail_recordFailed (phase : String) (batch : RecordBatch) (range : Option MeasuredRowRange) (error : Error) :
    ∀ e ∈ (DirectRawBatchObserver.enabled backend).recordFailed phase batch range error, IsDetail backend e :=
  isDetail_of_record (.tail _ (.tail _ (.tail _ List.mem_cons_self)))

variable [Externals]

theorem sendMeasuredRawRows_keeps (encoder : DirectEncoder) (batch : RecordBatch) (measured : MeasuredDirectBatch)
    (range : MeasuredRowRange) : Keeps (Grown (IsDetail backend) log)
      (sendMeasuredRawRowsWithObserver encoder batch measured (.enabled backend) range) := by
  apply (keeps_quietly _).bind
  intro encodedBytes
  by_cases hvariable : encoder.hasVariableWidthColumn
  · rw [if_pos hvariable]
    apply (keeps_quietly _).bind
    intro _
    exact keeps_emit (isDetail_recordPacketWriteCompleted _ _ _)
  · rw [if_neg hvariable]
    apply (keeps_quietly _).bind
    intro payload
    apply (keeps_quietly _).bind
    intro _
    exact keeps_emit (isDetail_recordPacketWriteCompleted _ _ _)

theorem writeDirectBatchToSink_keeps (batch : RecordBatch) : Keeps (Grown (IsDetail backend) log)
    (writeDirectBatchToSinkWithObserver batch (.enabled backend)) := by
  apply (keeps_quietly _).bind
  intro writer
  apply ((keeps_quietly _).withError _).bind
  intro encoder
  apply (((keeps_quietly _).reporting fun e => isDetail_recordFailed _ batch none e).withError _).bind
  intro measured
  apply (keeps_emit (isDetail_recordMeasured _)).bind
  intro _
  apply (((keeps_quietly _).reporting fun e => isDetail_recordFailed _ batch none e).withError _).bind
  intro ranges
  apply (keeps_emit (isDetail_recordRangesPlanned _ _)).bind
  intro _
  apply (keeps_each ?_).bind
  · intro _
    exact keeps_quietly _
  · intro range _
    exact ((sendMeasuredRawRows_keeps encoder batch measured range).reporting fun e =>
      isDetail_recordFailed _ batch (some range) e).withError _

omit [Externals] in
theorem traceResult_ensures (trace : BatchWriteTrace) {future : Session TracedWriter Error WriteStats}
    {writer : BulkWriter} {Q : WriteStats → TracedWriter → Prop} {E : Fault Error → TracedWriter → Prop}
    (h : future.Ensures (writer, log ++ [trace.started])
      (fun stats p => Q stats (p.1, p.2 ++ trace.lastEvents (.ok stats)))
      fun e p => E e (p.1, p.2 ++ trace.lastEvents (.error e))) : (trace.traceResult future).Ensures (writer, log) Q E := by
  apply Ensures.bind
  apply ensures_emit
  apply Ensures.bind
  apply Ensures.reporting
  apply h.mono
  · rintro stats ⟨writer', log'⟩ hstats
    apply Ensures.bind
    apply ensures_emit
    exact ensures_pure hstats
  · exact fun _ _ h => h

omit [Externals] in
def LogsCall (trace : BatchWriteTrace) (good : TelemetryEvent → Prop) (log : List TelemetryEvent)
    (result : Result WriteStats) (p : TracedWriter) : Prop :=
  ∃ details, p.2 = log ++ trace.started :: (details ++ trace.lastEvents result) ∧ ∀ event ∈ details, good event

omit [Externals] in
theorem traceResult_logsCall (trace : BatchWriteTrace) {good : TelemetryEvent → Prop}
    {future : Session TracedWriter Error WriteStats} (hfuture : ∀ log, Keeps (Grown good log) future)
    (writer : BulkWriter) (log : List TelemetryEvent) : LogsCall trace good log
      ((trace.traceResult future).run (writer, log)).1 ((trace.traceResult future).run (writer, log)).2 := by
  have hlast (result : Result WriteStats) (p : TracedWriter) (h : Grown good (log ++ [trace.started]) p) :
      LogsCall trace good log result (p.1, p.2 ++ trace.lastEvents result) := by
    obtain ⟨details, hdetails, hgood⟩ := h
    refine ⟨details, ?_, hgood⟩
    rw [hdetails, List.append_assoc, List.append_assoc, List.singleton_append]
  apply Ensures.run
  apply traceResult_ensures
  apply (hfuture _ _ (grown_refl writer)).mono
  · intro stats p h
    exact hlast (.ok stats) p h
  · intro e p h
    exact hlast (.error e) p h

theorem writeTracedBatch_run (writer : BulkWriter) (batch : RecordBatch) :
    (writeTracedBatch batch).run (writer, log) =
      (match writer.state.backend with
      | .baselineTokenRow => writeTracedBatchToSink writer batch
      | .directFramedBulk | .directRawBulk => writeTracedDirectBatchToSink writer batch
      | .auto => quietly (lift (fail (executionUnavailable .auto)))).run (writer, log) := by
  have hget : (quietly get : Session TracedWriter Error BulkWriter).run (writer, log) = (.ok writer, (writer, log)) :=
    rfl
  apply (run_bind_of_ok hget).trans
  cases writer.state.backend <;> rfl

theorem tells_of_call {writer : BulkWriter} (hbackend : writer.state.backend ≠ .auto) (batch : RecordBatch)
    (log : List TelemetryEvent) : ∃ segment, (writeTracedBatch batch).run (writer, log) =
      ((writer.call batch).result, ((writer.call batch).after, log ++ segment)) ∧
        Tells (writer.call batch) segment := by
  obtain ⟨hresult, hafter⟩ := (writeBatch_erases batch).run writer log
  have hcall : LogsCall (callTrace (writer.call batch)) (IsDetail writer.state.backend) log
      ((writeTracedBatch batch).run (writer, log)).1 ((writeTracedBatch batch).run (writer, log)).2 := by
    rw [writeTracedBatch_run]
    have hdirect : LogsCall (callTrace (writer.call batch)) (IsDetail writer.state.backend) log
        ((writeTracedDirectBatchToSink writer batch).run (writer, log)).1
        ((writeTracedDirectBatchToSink writer batch).run (writer, log)).2 :=
      traceResult_logsCall _ (fun _ => writeDirectBatchToSink_keeps batch) writer log
    cases hresolved : writer.state.backend with
    | auto => exact absurd hresolved hbackend
    | baselineTokenRow => exact traceResult_logsCall _ (fun _ => keeps_quietly (writeBatchToSink batch)) writer log
    | directFramedBulk | directRawBulk => rwa [hresolved] at hdirect
  obtain ⟨details, hlog, hdetails⟩ := hcall
  rw [hresult] at hlog
  exact ⟨_, Prod.ext hresult (Prod.ext hafter hlog), details, rfl, hdetails⟩

omit [Driver] [Externals] in
theorem outcome_lastEvents (trace : BatchWriteTrace) (result : Result WriteStats) :
    (trace.lastEvents result).filterMap TelemetryEvent.outcome = (reportedOutcome result).toList := by
  rcases result with (e | _) | stats
  · exact List.filterMap_cons_some (outcome_failed trace _ e)
  · rfl
  · exact List.filterMap_cons_some (outcome_completed trace stats)

omit [Externals] in
theorem outcomes_of_tells {call : Call} {segment : List TelemetryEvent} (h : Tells call segment) :
    segment.filterMap TelemetryEvent.outcome = (reportedOutcome call.result).toList := by
  obtain ⟨details, rfl, hdetails⟩ := h
  have hnone : details.filterMap TelemetryEvent.outcome = [] := by
    apply List.filterMap_eq_nil_iff.mpr
    intro event hevent
    exact outcome_of_directRaw (hdetails event hevent).2
  rw [List.filterMap_cons_none (outcome_started _), List.filterMap_append, hnone, List.nil_append,
    outcome_lastEvents]

omit [Externals] in
theorem outcomes_of_segments {calls : List Call} {segments : List (List TelemetryEvent)}
    (h : List.Forall₂ Tells calls segments) :
    segments.flatten.filterMap TelemetryEvent.outcome = calls.filterMap fun call => reportedOutcome call.result := by
  induction h with
  | nil => rfl
  | @cons call segment calls segments hfirst _ ih =>
    rw [List.flatten_cons, List.filterMap_append, outcomes_of_tells hfirst, ih, List.filterMap_cons]
    cases reportedOutcome call.result <;> rfl

end Calls

section Runs

variable [Driver] [Externals] {schema : List Field} {profile : MssqlProfile} {planOptions : PlanOptions}
  {outcome : PlanOutcome PlannedSchema} {client : Driver.Client} {table : TableName} {options : WriteOptions}
  {writer final : BulkWriter} {batches : List RecordBatch} {results : List (Result WriteStats)}
  {log log' : List TelemetryEvent}

theorem new_of_traced (hnew : (newTracedWriter client table outcome.value options).run ((), []) =
    (.ok writer, ((), log))) : BulkWriter.new client table outcome.value options = .ok writer := by
  have hresult := ((newWriter_erases client table outcome.value options).run () []).1
  rw [hnew] at hresult
  exact hresult.symm

theorem backend_ne_auto {plannedSchema : PlannedSchema} (h : writer.state.Follows plannedSchema) :
    writer.state.backend ≠ .auto := by
  intro hauto
  rcases h.encoder with ⟨hbackend, -⟩ | ⟨hbackend, -⟩
  · rw [hauto] at hbackend
    cases hbackend
  · rw [hauto] at hbackend
    cases hbackend

/-- A load with its events starts as the writer, runs as its calls and ends as it. The log grows by a segment for each
call, which tells that it started and how it ended: read back, the log gives the outcomes of the calls in their order. -/
theorem log_tells_every_call (hplan : planArrowSchemaToMssqlSchema schema profile planOptions = .ok outcome)
    (hnew : (newTracedWriter client table outcome.value options).run ((), []) = (.ok writer, ((), log)))
    (hrun : writeTracedBatches batches (writer, log) = (results, (final, log'))) :
    BulkWriter.new client table outcome.value options = .ok writer ∧
      (∃ calls segments, writer.writeBatches batches = (calls, final) ∧ results = calls.map Call.result ∧
        log' = log ++ segments.flatten ∧ List.Forall₂ Tells calls segments ∧
        segments.flatten.filterMap TelemetryEvent.outcome =
          calls.filterMap fun call => reportedOutcome call.result) ∧
      ((finishWriterToSink final).run ((), log')).1 = final.finish := by
  have hstarted := new_of_traced hnew
  have hlimit := binaryWithinLimit_of_planned hplan
  refine ⟨hstarted, ?_, ((finish_erases final).run () log').1⟩
  obtain ⟨segments, hlogged, htells⟩ := @run_logs _ _ _ _ callStep batches writer _
    (fun batch => (writeTracedBatch batch).run) (fun writer => writer.state.Follows outcome.value) Call.result Tells log
    (by
      intro batch _ writer log hfollows
      exact ⟨(atomic_call hfollows hlimit batch).1, tells_of_call (backend_ne_auto hfollows) batch log⟩)
    (writer_of_new hstarted).1
  rw [← writeBatches_eq_run] at hlogged htells
  rw [writeTracedBatches, hlogged, Prod.mk.injEq, Prod.mk.injEq] at hrun
  obtain ⟨hresults, hfinal, hlog⟩ := hrun
  exact ⟨_, segments, Prod.ext rfl hfinal, hresults.symm, hlog.symm, htells, outcomes_of_segments htells⟩

end Runs

section Sample

theorem log_tells_every_call_at_sample : ∃ writer log results final log',
    (@newTracedWriter limitedLoad .silent (sampleTarget, 1) sampleTable samplePlannedSchema {}).run ((), []) =
      (.ok writer, ((), log)) ∧
    @writeTracedBatches limitedLoad .silent [nullIdBatch, sampleBatch, sampleBatch] (writer, log) =
      (results, (final, log')) ∧
    ∃ segments, log' = log ++ segments ∧ segments.filterMap TelemetryEvent.outcome =
      [.error "value_conversion", .ok ⟨2, 1⟩, .error "packet_write"] := by
  refine ⟨_, _, _, _, _, rfl, rfl, ?_⟩
  obtain ⟨-, ⟨calls, segments, hcalls, -, hlog, -, houtcomes⟩, -⟩ := @log_tells_every_call limitedLoad .silent
    sampleBatch.schema sampleProfile samplePlanOptions ⟨samplePlannedSchema, []⟩ (sampleTarget, 1) sampleTable {} _ _
    [nullIdBatch, sampleBatch, sampleBatch] _ _ _ rfl rfl rfl
  obtain rfl : _ = calls := congrArg Prod.fst hcalls
  exact ⟨segments.flatten, hlog, houtcomes⟩

end Sample

end ArrowTiberius.Observability
