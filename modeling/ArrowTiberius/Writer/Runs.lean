import ArrowTiberius.Schema.AdmittedTypes
import ArrowTiberius.Writer.Accepting
import ArrowTiberius.Writer.TargetFormats

namespace ArrowTiberius.Writer

open Checked Direct Session Tds

section Planned

variable [Externals] {schema : List Field} {profile : MssqlProfile} {planOptions : PlanOptions}
  {outcome : PlanOutcome PlannedSchema}

theorem length_of_planned_binary {index : ℕ} {field : Field} {length : ℕ}
    (h : planArrowDataTypeAsMssqlType index field planOptions = .ok (.binary length)) : length ≤ 8000 := by
  cases hstring : isArrowStringFamily field.dataType with
  | true =>
    rcases isArrowStringFamily_iff.mp hstring with hty | hty | hty <;>
      simp only [planArrowDataTypeAsMssqlType, hty, planArrowStringAsMssqlType] at h <;> split at h <;> cases h
  | false =>
    cases hbinary : isArrowBinaryFamily field.dataType with
    | true =>
      rcases isArrowBinaryFamily_iff.mp hbinary with hty | hty | hty <;>
        simp only [planArrowDataTypeAsMssqlType, hty, planArrowBinaryAsMssqlType] at h <;> split at h <;> cases h
    | false =>
      have hadmitted := admitted_of_planArrowDataType hstring hbinary h
      exact hadmitted.2

theorem binaryWithinLimit_of_planned (hplan : planArrowSchemaToMssqlSchema schema profile planOptions = .ok outcome) :
    BinaryWithinLimit outcome.value.mappings := by
  intro mapping hmem length hty
  obtain ⟨i, hmapping⟩ := List.mem_iff_getElem?.mp hmem
  obtain ⟨field, -, -, hplanned⟩ := planned_field hplan hmapping
  rw [hty] at hplanned
  exact length_of_planned_binary hplanned

end Planned

section Writing

variable [Driver] [Externals]

structure Convertible (plannedSchema : PlannedSchema) (batch : RecordBatch) : Prop where
  shape : validateRecordBatchEncodingShape batch plannedSchema.mappings = .ok ()
  cells : ∀ r < batch.numRows, ∀ mapping ∈ plannedSchema.mappings, ∃ cell,
    (⟨batch, plannedSchema.mappings, ⟨plannedSchema.profile, plannedSchema.planOptions⟩⟩ : RecordBatchView).mssqlCell
      mapping r = .ok cell

/-- What a writer does with a batch before it sends any of it: the baseline validates the rows, the direct encoder
measures them. -/
def Prepared (writer : BulkWriter) (batch : RecordBatch) : Prop :=
  match writer.state.directEncoder with
  | none => ∃ view, recordBatchView batch writer.state = .ok view ∧ validateBatchRows view = .ok ()
  | some encoder => ∃ m, encoder.measureBatch batch = .ok m

section Calls

variable {writer : BulkWriter} {batch : RecordBatch} {plannedSchema : PlannedSchema}

omit [Driver] in
theorem convertible_of_rows {rows : ℕ → List MssqlCell}
    (hshape : validateRecordBatchEncodingShape batch plannedSchema.mappings = .ok ())
    (hrows : ∀ r < batch.numRows, (⟨batch, plannedSchema.mappings, ⟨plannedSchema.profile,
      plannedSchema.planOptions⟩⟩ : RecordBatchView).mssqlRow r = .ok (rows r)) : Convertible plannedSchema batch := by
  refine ⟨hshape, fun r hr => ?_⟩
  have hrow := hrows r hr
  rw [RecordBatchView.mssqlRow, RecordBatchView.checkRowIndex, ensure_of hr, ok_bind] at hrow
  exact collect_succeeds_iff.mp ⟨_, hrow⟩

theorem writeBatchToSink_of_view_error {e : Fault Error} (h : recordBatchView batch writer.state = .error e) :
    (writeBatchToSink batch).run writer = (.error (e.map (·.withWritePhase .batchSchemaValidation)), writer) := by
  apply (run_bind_of_ok rfl).trans
  apply run_bind_of_error
  rw [run_lift_withError, h, mapError_error]

theorem writeBatchToSink_of_row_error {view : RecordBatchView} {e : Fault Error}
    (hview : recordBatchView batch writer.state = .ok view) (h : validateBatchRows view = .error e) :
    (writeBatchToSink batch).run writer = (.error (e.map (·.withWritePhase .valueConversion)), writer) := by
  apply (run_bind_of_ok rfl).trans
  have hlift : ((lift (recordBatchView batch writer.state)).withError (·.withWritePhase .batchSchemaValidation) :
      Session BulkWriter Error RecordBatchView).run writer = (.ok view, writer) := by
    rw [run_lift_withError, hview]
    rfl
  apply (run_bind_of_ok hlift).trans
  apply run_bind_of_error
  rw [run_lift_withError, h, mapError_error]

theorem writeDirectBatchToSink_of_measure_error {encoder : DirectEncoder} {e : Fault Error}
    (hsome : writer.state.directEncoder = some encoder) (h : encoder.measureBatch batch = .error e) :
    (writeDirectBatchToSink batch).run writer = (.error (e.map inferWritePhase), writer) := by
  apply (run_bind_of_ok rfl).trans
  have hlift : ((lift (okOr writer.state.directEncoder (directEncoderUnavailable writer.state.backend))).withError
      (·.withWritePhase .directEncoding) : Session BulkWriter Error DirectEncoder).run writer =
      (.ok encoder, writer) := by
    rw [run_lift_withError, hsome]
    rfl
  apply (run_bind_of_ok hlift).trans
  apply run_bind_of_error
  rw [run_lift_withError, h, mapError_error]

theorem writeBatch_run (hfollows : writer.state.Follows plannedSchema) : (writeBatch batch).run writer =
    (match writer.state.directEncoder with
    | none => writeBatchToSink batch
    | some _ => writeDirectBatchToSink batch).run writer := by
  rcases hfollows.encoder with ⟨hbackend, hnone⟩ | ⟨hbackend, encoder, hsome, -⟩
  · apply (run_bind_of_ok rfl).trans
    rw [hbackend, hnone]
  · apply (run_bind_of_ok rfl).trans
    rw [hsome]
    cases hresolved : writer.state.backend with
    | directFramedBulk | directRawBulk => rfl
    | auto | baselineTokenRow =>
      rw [hresolved] at hbackend
      cases hbackend

theorem writeBatch_of_not_prepared (hfollows : writer.state.Follows plannedSchema) (h : ¬Prepared writer batch) :
    ∃ e, (writeBatch batch).run writer = (.error e, writer) := by
  rw [writeBatch_run hfollows]
  unfold Prepared at h
  cases hencoder : writer.state.directEncoder with
  | none =>
    rw [hencoder] at h
    rcases hview : recordBatchView batch writer.state with e | view
    · exact ⟨_, writeBatchToSink_of_view_error hview⟩
    · rcases hvalid : validateBatchRows view with e | u
      · exact ⟨_, writeBatchToSink_of_row_error hview hvalid⟩
      · exact absurd ⟨view, hview, hvalid⟩ h
  | some encoder =>
    rw [hencoder] at h
    rcases hm : encoder.measureBatch batch with e | m
    · exact ⟨_, writeDirectBatchToSink_of_measure_error hencoder hm⟩
    · exact absurd ⟨m, hm⟩ h

theorem writeBatch_ensures (hfollows : writer.state.Follows plannedSchema)
    (hlimit : BinaryWithinLimit plannedSchema.mappings) (h : Prepared writer batch) :
    ∃ rows : ℕ → List MssqlCell, validateRecordBatchEncodingShape batch plannedSchema.mappings = .ok () ∧
      (∀ r < batch.numRows, (⟨batch, plannedSchema.mappings, ⟨plannedSchema.profile,
        plannedSchema.planOptions⟩⟩ : RecordBatchView).mssqlRow r = .ok (rows r)) ∧
      (writeBatch batch).Ensures writer
        (fun stats writer' =>
          Accepted writer.state.directEncoder writer writer' batch ((List.range batch.numRows).map rows) stats)
        (fun e writer' =>
          Interrupted writer.state.directEncoder writer writer' ((List.range batch.numRows).map rows) e) := by
  have hrun : (writeBatch batch).run writer = _ := writeBatch_run hfollows
  unfold Prepared at h
  rw [← hfollows.mappings] at hlimit
  rcases hfollows.encoder with ⟨-, hnone⟩ | ⟨-, encoder, hsome, hnew⟩
  · rw [hnone] at h hrun ⊢
    obtain ⟨view, hview, hvalid⟩ := h
    obtain ⟨rows, hrows, hensures⟩ := writeBatchToSink_ensures hview hvalid
    obtain ⟨_, hshape, -⟩ := bind_eq_ok.mp hview
    obtain rfl := view_eq hview
    rw [hfollows.mappings, hfollows.context] at hrows
    exact ⟨rows, hfollows.mappings ▸ hshape, hrows, hensures.of_run hrun⟩
  · rw [hsome] at h hrun ⊢
    obtain ⟨m, hm⟩ := h
    obtain ⟨rows, hrows, hensures⟩ := writeDirectBatchToSink_ensures hsome hnew hlimit hm
    rw [hfollows.mappings, hfollows.context] at hrows
    exact ⟨rows, hfollows.mappings ▸ shape_of_measureBatch hnew hm, hrows, hensures.of_run hrun⟩

end Calls

structure Call where
  batch : RecordBatch
  before : BulkWriter
  result : Result WriteStats
  after : BulkWriter

def BulkWriter.call (writer : BulkWriter) (batch : RecordBatch) : Call :=
  ⟨batch, writer, ((writeBatch batch).run writer).1, ((writeBatch batch).run writer).2⟩

def BulkWriter.writeBatches : BulkWriter → List RecordBatch → List Call × BulkWriter
  | writer, [] => ([], writer)
  | writer, batch :: batches =>
    let call := writer.call batch
    let rest := call.after.writeBatches batches
    (call :: rest.1, rest.2)

def acceptedCalls (calls : List Call) : List Call := calls.filter fun call => succeeds call.result

def WriteStats.recordCalls (stats : WriteStats) (calls : List Call) : WriteStats :=
  ⟨saturatingAdd 64 stats.rowsWritten ((acceptedCalls calls).map (·.batch.numRows)).sum,
    saturatingAdd 64 stats.batchesWritten (acceptedCalls calls).length⟩

/-- A call hands over a batch and counts it, or it counts nothing; a batch that does not convert is not touched, and
only the driver stops one that is prepared. -/
structure Call.Atomic (plannedSchema : PlannedSchema) (call : Call) : Prop where
  rejected : ¬Convertible plannedSchema call.batch → (∃ e, call.result = .error e) ∧ call.after = call.before
  failed : ∀ e, call.result = .error e → call.after.state = call.before.state
  accepted : ∀ stats, call.result = .ok stats →
    stats = call.before.state.stats.recordAcceptedBatch call.batch.numRows ∧ call.after.state.stats = stats ∧
      ∃ (rows : ℕ → List MssqlCell) (items : List Handed),
        (∀ r < call.batch.numRows, (⟨call.batch, plannedSchema.mappings, ⟨plannedSchema.profile,
          plannedSchema.planOptions⟩⟩ : RecordBatchView).mssqlRow r = .ok (rows r)) ∧
        call.after.handed = call.before.handed ++ items ∧
        handedRows call.before.state.directEncoder items = some ((List.range call.batch.numRows).map rows)
  sending : Prepared call.before call.batch → ∀ e, call.result = .error e → IsPacketWriteError e

section Runs

variable {writer : BulkWriter} {batch : RecordBatch} {batches : List RecordBatch} {plannedSchema : PlannedSchema}

/-- A call keeps what a writer follows, and is atomic. -/
theorem atomic_call (hfollows : writer.state.Follows plannedSchema)
    (hlimit : BinaryWithinLimit plannedSchema.mappings) (batch : RecordBatch) :
    (writer.call batch).after.state.Follows plannedSchema ∧ (writer.call batch).Atomic plannedSchema := by
  by_cases hprepared : Prepared writer batch
  · obtain ⟨rows, hshape, hrows, hensures⟩ := writeBatch_ensures hfollows hlimit hprepared
    have hconvertible := convertible_of_rows hshape hrows
    have hresult (result : Result WriteStats) (h : (writer.call batch).result = result) :
        (writeBatch batch).run writer = (result, (writer.call batch).after) := Prod.ext h rfl
    refine ⟨?_, fun h => absurd hconvertible h, ?_, ?_, ?_⟩
    · cases hcall : (writer.call batch).result with
      | ok stats =>
        rw [(hensures.ok _ _ (hresult _ hcall)).state]
        exact ⟨hfollows.mappings, hfollows.context, hfollows.encoder⟩
      | error e =>
        rw [(hensures.error _ _ (hresult _ hcall)).state]
        exact hfollows
    · intro e he
      exact (hensures.error _ _ (hresult _ he)).state
    · intro stats hstats
      have haccepted := hensures.ok _ _ (hresult _ hstats)
      obtain ⟨items, hitems, hread, -⟩ := haccepted.handed
      exact ⟨haccepted.stats_eq, by rw [haccepted.state], rows, items, hrows, hitems, hread⟩
    · intro _ e he
      exact (hensures.error _ _ (hresult _ he)).error
  · obtain ⟨e, he⟩ := writeBatch_of_not_prepared hfollows hprepared
    have hcall : writer.call batch = ⟨batch, writer, .error e, writer⟩ := by rw [BulkWriter.call, he]
    rw [hcall]
    refine ⟨hfollows, fun _ => ⟨⟨e, rfl⟩, rfl⟩, fun _ _ => rfl, ?_, fun h => absurd h hprepared⟩
    rintro stats ⟨⟩

theorem backend_of_call (hfollows : writer.state.Follows plannedSchema)
    (hlimit : BinaryWithinLimit plannedSchema.mappings) (batch : RecordBatch) :
    (writer.call batch).after.state.backend = writer.state.backend := by
  by_cases hprepared : Prepared writer batch
  · obtain ⟨rows, -, -, hensures⟩ := writeBatch_ensures hfollows hlimit hprepared
    cases hcall : (writer.call batch).result with
    | ok stats =>
      have hbackend := congrArg WriterState.backend (hensures.ok _ _ (Prod.ext hcall rfl)).state
      exact hbackend
    | error e =>
      have hbackend := congrArg WriterState.backend (hensures.error _ _ (Prod.ext hcall rfl)).state
      exact hbackend
  · obtain ⟨e, he⟩ := writeBatch_of_not_prepared hfollows hprepared
    rw [BulkWriter.call, he]

omit [Externals] in
theorem recordCalls_nil {stats : WriteStats} (h : stats.rowsWritten < 2 ^ 64 ∧ stats.batchesWritten < 2 ^ 64) :
    stats.recordCalls ([] : List Call) = stats := by
  have hsum : ((acceptedCalls ([] : List Call)).map (·.batch.numRows)).sum = 0 := rfl
  have hlength : (acceptedCalls ([] : List Call)).length = 0 := rfl
  rw [WriteStats.recordCalls, hsum, hlength, saturatingAdd, saturatingAdd, Nat.add_zero, Nat.add_zero,
    min_eq_left (by omega), min_eq_left (by omega)]

omit [Externals] in
theorem recordCalls_cons_ok {call : Call} {calls : List Call} {stats accepted : WriteStats}
    (h : call.result = .ok accepted) : stats.recordCalls (call :: calls) =
      (stats.recordAcceptedBatch call.batch.numRows).recordCalls calls := by
  have hfilter : acceptedCalls (call :: calls) = call :: acceptedCalls calls :=
    List.filter_cons_of_pos (by rw [h]; rfl)
  simp only [WriteStats.recordCalls, WriteStats.recordAcceptedBatch, hfilter, List.map_cons, List.sum_cons,
    List.length_cons, saturatingAdd, WriteStats.mk.injEq]
  omega

omit [Externals] in
theorem recordCalls_cons_error {call : Call} {calls : List Call} {stats : WriteStats} {e : Fault Error}
    (h : call.result = .error e) : stats.recordCalls (call :: calls) = stats.recordCalls calls := by
  have hfilter : acceptedCalls (call :: calls) = acceptedCalls calls :=
    List.filter_cons_of_neg (by rw [h]; exact Bool.false_ne_true)
  rw [WriteStats.recordCalls, hfilter, WriteStats.recordCalls]

omit [Driver] [Externals] in
theorem recordAcceptedBatch_lt (stats : WriteStats) (rows : ℕ) :
    (stats.recordAcceptedBatch rows).rowsWritten < 2 ^ 64 ∧
      (stats.recordAcceptedBatch rows).batchesWritten < 2 ^ 64 := by
  simp only [WriteStats.recordAcceptedBatch, saturatingAdd]
  omega

theorem atomic_writeBatches (hlimit : BinaryWithinLimit plannedSchema.mappings)
    (hfollows : writer.state.Follows plannedSchema)
    (hstats : writer.state.stats.rowsWritten < 2 ^ 64 ∧ writer.state.stats.batchesWritten < 2 ^ 64) :
    (writer.writeBatches batches).1.map Call.batch = batches ∧
      (∀ call ∈ (writer.writeBatches batches).1, call.Atomic plannedSchema) ∧
      (writer.writeBatches batches).2.state.stats =
        writer.state.stats.recordCalls (writer.writeBatches batches).1 := by
  induction batches generalizing writer with
  | nil => exact ⟨rfl, fun call hcall => absurd hcall List.not_mem_nil, (recordCalls_nil hstats).symm⟩
  | cons batch batches ih =>
    obtain ⟨hfollows', hatomic⟩ := atomic_call hfollows hlimit batch
    have hcons : writer.writeBatches (batch :: batches) =
        (writer.call batch :: ((writer.call batch).after.writeBatches batches).1,
          ((writer.call batch).after.writeBatches batches).2) := rfl
    have hnext : ((writer.call batch).after.state.stats.rowsWritten < 2 ^ 64 ∧
        (writer.call batch).after.state.stats.batchesWritten < 2 ^ 64) ∧
        writer.state.stats.recordCalls (writer.writeBatches (batch :: batches)).1 =
          (writer.call batch).after.state.stats.recordCalls ((writer.call batch).after.writeBatches batches).1 := by
      rw [hcons]
      cases hcall : (writer.call batch).result with
      | ok stats =>
        obtain ⟨hgrown, hafter, -⟩ := hatomic.accepted stats hcall
        rw [recordCalls_cons_ok hcall, hafter, hgrown]
        exact ⟨recordAcceptedBatch_lt _ _, rfl⟩
      | error e =>
        rw [recordCalls_cons_error hcall, hatomic.failed e hcall]
        exact ⟨hstats, rfl⟩
    obtain ⟨hmap, hall, hcount⟩ := ih hfollows' hnext.1
    refine ⟨?_, ?_, ?_⟩
    · rw [hcons, List.map_cons, hmap]
      rfl
    · rw [hcons]
      exact List.forall_mem_cons.mpr ⟨hatomic, hall⟩
    · rw [hnext.2]
      exact hcount

/-- Every call of a run of a started writer is atomic, its counts are the totals of the accepted calls, and these are
what a finish returns. -/
theorem writer_runs_are_atomic {schema : List Field} {profile : MssqlProfile} {planOptions : PlanOptions}
    {outcome : PlanOutcome PlannedSchema} {client : Driver.Client} {table : TableName} {options : WriteOptions}
    {writer final : BulkWriter} {batches : List RecordBatch} {calls : List Call}
    (hplan : planArrowSchemaToMssqlSchema schema profile planOptions = .ok outcome)
    (hnew : BulkWriter.new client table outcome.value options = .ok writer)
    (hrun : writer.writeBatches batches = (calls, final)) :
    calls.map Call.batch = batches ∧ (∀ call ∈ calls, call.Atomic outcome.value) ∧
      final.state.stats = ⟨min ((acceptedCalls calls).map (·.batch.numRows)).sum (2 ^ 64 - 1),
        min (acceptedCalls calls).length (2 ^ 64 - 1)⟩ ∧
      ∀ stats, final.finish = .ok stats → stats = final.state.stats := by
  obtain ⟨hfollows, hempty, -⟩ := writer_of_new hnew
  have hstats : writer.state.stats.rowsWritten < 2 ^ 64 ∧ writer.state.stats.batchesWritten < 2 ^ 64 := by
    rw [hempty]
    exact ⟨by decide, by decide⟩
  obtain ⟨hmap, hall, hcount⟩ :=
    @atomic_writeBatches _ _ writer batches _ (binaryWithinLimit_of_planned hplan) hfollows hstats
  rw [hrun, hempty] at hcount
  rw [hrun] at hmap hall
  refine ⟨hmap, hall, ?_, ?_⟩
  · rw [hcount, WriteStats.recordCalls, saturatingAdd, saturatingAdd, Nat.zero_add, Nat.zero_add]
  · intro stats hfinish
    obtain ⟨_, -, hstats⟩ := bind_eq_ok.mp hfinish
    exact (Except.ok.inj hstats).symm

end Runs

end Writing

section Sample

abbrev limitedLoad : Driver where
  Client := List BulkLoadColumn × ℕ
  Request := ℕ
  bulkInsertColumns client _ := (.ok client.1, client)
  bulkInsertWithColumns client _ _ := .ok client.2
  enableDirectPacketWrites request := request
  send request _ := (if request = 0 then .error "connection reset" else .ok (), request - 1)
  sendRawRowsPayloadChecked request _ _ := (if request = 0 then .error "connection reset" else .ok (), request - 1)
  rowsBuffer request := (.ok [], request)
  rowsAppended request result :=
    (result.bind fun _ => if request = 0 then .error "connection reset" else .ok (), request - 1)
  finalize _ := .ok ()

def sampleTable : TableName := ⟨none, ⟨"events", rfl⟩⟩

def samplePlanOptions : PlanOptions := { binaryPolicy := .varBinary 4 }

def samplePlannedSchema : PlannedSchema := ⟨sampleProfile, samplePlanOptions, sampleMappings⟩

theorem writer_runs_are_atomic_at_sample : ∃ writer calls final,
    @BulkWriter.new limitedLoad .silent (sampleTarget, 1) sampleTable samplePlannedSchema {} = .ok writer ∧
    @BulkWriter.writeBatches limitedLoad .silent writer [sampleBatch, sampleBatch] = (calls, final) ∧
    (@BulkWriter.state limitedLoad final).stats = ⟨2, 1⟩ := by
  refine ⟨_, _, _, rfl, rfl, ?_⟩
  have hrun := @writer_runs_are_atomic limitedLoad .silent sampleBatch.schema sampleProfile samplePlanOptions
    ⟨samplePlannedSchema, []⟩ (sampleTarget, 1) sampleTable {} _ _ [sampleBatch, sampleBatch] _ rfl rfl rfl
  exact hrun.2.2.1.trans (by decide)

end Sample

end ArrowTiberius.Writer
