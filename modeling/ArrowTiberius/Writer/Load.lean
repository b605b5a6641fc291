import ArrowTiberius.Lib.Stepping
import ArrowTiberius.Writer.Phases

namespace ArrowTiberius.Writer

open Checked Direct Session Stepping

/-- What a bulk load is for: the rows of a table, and how many of them were counted. -/
structure Load where
  rows : List (List MssqlCell)
  stats : WriteStats

section Abstract

variable [Externals]

def plannedView (plannedSchema : PlannedSchema) (batch : RecordBatch) : RecordBatchView :=
  ⟨batch, plannedSchema.mappings, ⟨plannedSchema.profile, plannedSchema.planOptions⟩⟩

def plannedRows (plannedSchema : PlannedSchema) (batch : RecordBatch) : Result (List (List MssqlCell)) :=
  collect (List.range batch.numRows) (plannedView plannedSchema batch).mssqlRow

def Load.accept (load : Load) (batch : RecordBatch) (rows : List (List MssqlCell)) : Load :=
  ⟨load.rows ++ rows, load.stats.recordAcceptedBatch batch.numRows⟩

def Load.write (plannedSchema : PlannedSchema) (batch : RecordBatch) (load : Load) :
    Except WritePhase WriteStats × Load :=
  match validateRecordBatchEncodingShape batch plannedSchema.mappings, plannedRows plannedSchema batch with
  | .error _, _ => (.error .batchSchemaValidation, load)
  | .ok (), .error _ => (.error .valueConversion, load)
  | .ok (), .ok rows => (.ok (load.accept batch rows).stats, load.accept batch rows)

/-- A write over a connection: it may be refused as a whole, or stop behind any row. -/
inductive Load.Writes (plannedSchema : PlannedSchema) (batch : RecordBatch) (load : Load) :
    Result WriteStats → Load → Prop
  | accepted {rows : List (List MssqlCell)}
    (hshape : validateRecordBatchEncodingShape batch plannedSchema.mappings = .ok ())
    (hrows : plannedRows plannedSchema batch = .ok rows) :
    Writes plannedSchema batch load (.ok (load.accept batch rows).stats) (load.accept batch rows)
  | rejected (e : Fault Error) : Writes plannedSchema batch load (.error e) load
  | interrupted {rows sent : List (List MssqlCell)} {e : Fault Error}
    (hshape : validateRecordBatchEncodingShape batch plannedSchema.mappings = .ok ())
    (hrows : plannedRows plannedSchema batch = .ok rows) (hsent : sent <+: rows) (he : IsPacketWriteError e) :
    Writes plannedSchema batch load (.error e) ⟨load.rows ++ sent, load.stats⟩

inductive Reports : Result WriteStats → Except WritePhase WriteStats → Prop
  | accepted (stats : WriteStats) : Reports (.ok stats) (.ok stats)
  | rejected {e : Error} {phase : WritePhase} (h : e.writePhase = some phase) :
    Reports (.error (.error e)) (.error phase)

variable {plannedSchema : PlannedSchema} {batch : RecordBatch} {load : Load}

theorem plannedRows_eq_ok {rows : ℕ → List MssqlCell} : plannedRows plannedSchema batch =
    .ok ((List.range batch.numRows).map rows) ↔
      ∀ r < batch.numRows, (plannedView plannedSchema batch).mssqlRow r = .ok (rows r) := by
  rw [plannedRows, collect_eq_ok_iff, List.forall₂_map_right_iff, List.forall₂_same]
  apply forall_congr'
  intro r
  rw [List.mem_range]

theorem plannedRows_succeeds : (∃ rows, plannedRows plannedSchema batch = .ok rows) ↔
    ¬HasUnconvertibleCell ⟨plannedSchema.profile, plannedSchema.planOptions⟩ plannedSchema.mappings batch := by
  have hrow {r : ℕ} (hr : r < batch.numRows) : (∃ row, (plannedView plannedSchema batch).mssqlRow r = .ok row) ↔
      ∀ mapping ∈ plannedSchema.mappings, ∃ cell, (plannedView plannedSchema batch).mssqlCell mapping r = .ok cell := by
    rw [RecordBatchView.mssqlRow, RecordBatchView.checkRowIndex]
    change (∃ row, (ensure (r < batch.numRows) _ >>= _) = .ok row) ↔ _
    rw [ensure_of hr, ok_bind]
    exact collect_succeeds_iff
  rw [plannedRows, collect_succeeds_iff]
  constructor
  · rintro hrows ⟨r, hr, mapping, hmem, hcell⟩
    obtain ⟨cell, hcell'⟩ := (hrow hr).mp (hrows r (List.mem_range.mpr hr)) mapping hmem
    exact hcell cell hcell'
  · intro hcells r hr
    apply (hrow (List.mem_range.mp hr)).mpr
    intro mapping hmem
    by_contra hnone
    exact hcells ⟨r, List.mem_range.mp hr, mapping, hmem, fun cell hcell => hnone ⟨cell, hcell⟩⟩

theorem write_of_misshapen (hshape : validateRecordBatchEncodingShape batch plannedSchema.mappings ≠ .ok ()) :
    load.write plannedSchema batch = (.error .batchSchemaValidation, load) := by
  cases hvalidate : validateRecordBatchEncodingShape batch plannedSchema.mappings with
  | ok u => exact absurd hvalidate hshape
  | error e => rw [Load.write, hvalidate]

theorem write_of_unconvertible (hshape : validateRecordBatchEncodingShape batch plannedSchema.mappings = .ok ())
    (hcell : HasUnconvertibleCell ⟨plannedSchema.profile, plannedSchema.planOptions⟩ plannedSchema.mappings batch) :
    load.write plannedSchema batch = (.error .valueConversion, load) := by
  cases hrows : plannedRows plannedSchema batch with
  | ok rows => exact absurd hcell (plannedRows_succeeds.mp ⟨rows, hrows⟩)
  | error e => rw [Load.write, hshape, hrows]

theorem write_of_planned {rows : List (List MssqlCell)}
    (hshape : validateRecordBatchEncodingShape batch plannedSchema.mappings = .ok ())
    (hrows : plannedRows plannedSchema batch = .ok rows) :
    load.write plannedSchema batch = (.ok (load.accept batch rows).stats, load.accept batch rows) := by
  rw [Load.write, hshape, hrows]

end Abstract

section Refinement

variable [Driver] [Externals]

/-- What a writer has done is the load: its counts are the counts, and what it has handed over reads as the rows. -/
structure Loads (plannedSchema : PlannedSchema) (writer : BulkWriter) (load : Load) : Prop where
  follows : writer.state.Follows plannedSchema
  stats : writer.state.stats = load.stats
  rows : handedRows writer.state.directEncoder writer.handed = some load.rows
  sendable : ∀ item ∈ writer.handed, item.Sendable

variable {plannedSchema : PlannedSchema} {writer writer' : BulkWriter} {batch : RecordBatch} {load : Load}

theorem loads_of_new {client : Driver.Client} {table : TableName} {options : WriteOptions}
    (h : BulkWriter.new client table plannedSchema options = .ok writer) :
    Loads plannedSchema writer ⟨[], {}⟩ := by
  obtain ⟨hfollows, hstats, hhanded⟩ := writer_of_new h
  refine ⟨hfollows, hstats, ?_, ?_⟩
  · rw [hhanded]
    rfl
  · rw [hhanded]
    intro item hitem
    cases hitem

theorem Loads.extend (h : Loads plannedSchema writer load) {items : List Handed} {rows : List (List MssqlCell)}
    {stats : WriteStats} (hstate : writer'.state = { writer.state with stats })
    (hhanded : writer'.handed = writer.handed ++ items)
    (hrows : handedRows writer.state.directEncoder items = some rows) (hsendable : ∀ item ∈ items, item.Sendable) :
    Loads plannedSchema writer' ⟨load.rows ++ rows, stats⟩ where
  follows := by
    rw [hstate]
    exact ⟨h.follows.mappings, h.follows.context, h.follows.encoder⟩
  stats := by rw [hstate]
  rows := by
    rw [hstate, hhanded]
    exact handedRows_append h.rows hrows
  sendable := by
    intro item hitem
    rw [hhanded] at hitem
    exact (List.mem_append.mp hitem).elim (h.sendable item) (hsendable item)

theorem Loads.accepted (h : Loads plannedSchema writer load) {rows : List (List MssqlCell)} {stats : WriteStats}
    (haccepted : Accepted writer.state.directEncoder writer writer' batch rows stats) :
    stats = (load.accept batch rows).stats ∧ Loads plannedSchema writer' (load.accept batch rows) := by
  obtain ⟨items, hhanded, hread, hsendable⟩ := haccepted.handed
  have hstats := haccepted.stats_eq
  rw [h.stats] at hstats
  refine ⟨hstats, ?_⟩
  rw [Load.accept, ← hstats]
  exact h.extend haccepted.state hhanded hread hsendable

theorem Loads.interrupted (h : Loads plannedSchema writer load) {rows : List (List MssqlCell)} {e : Fault Error}
    (hinterrupted : Interrupted writer.state.directEncoder writer writer' rows e) :
    ∃ sent, sent <+: rows ∧ Loads plannedSchema writer' ⟨load.rows ++ sent, load.stats⟩ := by
  obtain ⟨items, sent, hhanded, hread, hsent, hsendable⟩ := hinterrupted.handed
  refine ⟨sent, hsent, ?_⟩
  rw [← h.stats]
  exact h.extend hinterrupted.state hhanded hread hsendable

/-- A call is a write of the load. -/
theorem writes_of_call (h : Loads plannedSchema writer load) (hlimit : BinaryWithinLimit plannedSchema.mappings)
    (batch : RecordBatch) : ∃ load', load.Writes plannedSchema batch (writer.call batch).result load' ∧
      Loads plannedSchema (writer.call batch).after load' := by
  by_cases hprepared : Prepared writer batch
  · obtain ⟨rows, hshape, hrows, hensures⟩ := writeBatch_ensures h.follows hlimit hprepared
    have hplanned := plannedRows_eq_ok.mpr hrows
    have hrun (result : Result WriteStats) (hresult : (writer.call batch).result = result) :
        (writeBatch batch).run writer = (result, (writer.call batch).after) := Prod.ext hresult rfl
    cases hcall : (writer.call batch).result with
    | ok stats =>
      obtain ⟨rfl, hloads⟩ := h.accepted (hensures.ok _ _ (hrun _ hcall))
      exact ⟨_, .accepted hshape hplanned, hloads⟩
    | error e =>
      have hinterrupted := hensures.error _ _ (hrun _ hcall)
      obtain ⟨sent, hsent, hloads⟩ := h.interrupted hinterrupted
      exact ⟨_, .interrupted hshape hplanned hsent hinterrupted.error, hloads⟩
  · obtain ⟨e, he⟩ := writeBatch_of_not_prepared h.follows hprepared
    have hcall : writer.call batch = ⟨batch, writer, .error e, writer⟩ := by rw [BulkWriter.call, he]
    rw [hcall]
    exact ⟨load, .rejected e, h⟩

def callStep (batch : RecordBatch) (writer : BulkWriter) : Call × BulkWriter :=
  (writer.call batch, (writer.call batch).after)

theorem writeBatches_eq_run (batches : List RecordBatch) :
    writer.writeBatches batches = run callStep batches writer := by
  induction batches generalizing writer with
  | nil => rfl
  | cons batch batches ih =>
    have hcons : writer.writeBatches (batch :: batches) =
        (writer.call batch :: ((writer.call batch).after.writeBatches batches).1,
          ((writer.call batch).after.writeBatches batches).2) := rfl
    rw [hcons, ih]
    rfl

def Call.reachesDriver (call : Call) : Bool :=
  match call.result with
  | .ok _ => true
  | .error (.error e) => e.writePhase = some .packetWrite
  | .error .panic => false

theorem after_of_not_reachesDriver (h : Loads plannedSchema writer load)
    (hlimit : BinaryWithinLimit plannedSchema.mappings) (hreaches : (writer.call batch).reachesDriver = false) :
    (writer.call batch).after = writer := by
  by_cases hprepared : Prepared writer batch
  · obtain ⟨rows, -, -, hensures⟩ := writeBatch_ensures h.follows hlimit hprepared
    rw [Call.reachesDriver] at hreaches
    cases hcall : (writer.call batch).result with
    | ok stats =>
      rw [hcall] at hreaches
      cases hreaches
    | error e =>
      obtain ⟨source, rfl⟩ := (hensures.error _ _ (Prod.ext hcall rfl)).error
      rw [hcall] at hreaches
      cases hreaches
  · obtain ⟨e, he⟩ := writeBatch_of_not_prepared h.follows hprepared
    rw [BulkWriter.call, he]

/-- The request after a run is what the driver has made of it with the items that the run handed over. -/
theorem request_of_writeBatches (writer : BulkWriter) (batches : List RecordBatch) :
    Records writer.request writer.handed (writer.writeBatches batches).2 := by
  rw [writeBatches_eq_run]
  apply run_keeps
  · intro batch _ other h
    exact (writeBatch_keeps batch).run h
  · exact ⟨[], (List.append_nil _).symm, .nothing⟩

section Runs

variable {schema : List Field} {profile : MssqlProfile} {planOptions : PlanOptions}
  {outcome : PlanOutcome PlannedSchema} {client : Driver.Client} {table : TableName} {options : WriteOptions}
  {final : BulkWriter} {batches : List RecordBatch} {calls : List Call}

theorem trace_of_writeBatches (hlimit : BinaryWithinLimit plannedSchema.mappings)
    (hloads : Loads plannedSchema writer load) (hrun : writer.writeBatches batches = (calls, final)) :
    ∃ load', Trace (fun batch load => Load.Writes plannedSchema batch load) batches load (calls.map Call.result) load' ∧
      Loads plannedSchema final load' := by
  rw [writeBatches_eq_run] at hrun
  obtain ⟨results, load', htrace, hshows, hloads'⟩ := @trace_of_run _ _ _ _ _ callStep
    (fun batch load => Load.Writes plannedSchema batch load) (Loads plannedSchema)
    (fun call result => call.result = result) batches writer load
    (by
      intro batch _ writer load hloads
      obtain ⟨load', hwrites, hloads'⟩ := writes_of_call hloads hlimit batch
      exact ⟨_, load', hwrites, rfl, hloads'⟩)
    hloads
  rw [hrun] at hshows hloads'
  have hresults : calls.map Call.result = results := by
    have hsame : List.Forall₂ (· = ·) (calls.map Call.result) results := List.forall₂_map_left_iff.mpr hshows
    rwa [List.forall₂_eq_eq_eq] at hsame
  exact ⟨load', hresults ▸ htrace, hloads'⟩

/-- Whatever the driver does, the calls of a run are writes of the load: what has been handed over reads as the rows of
the accepted batches, with the first rows of those the driver stopped in between. -/
theorem writer_runs_refine_load (hplan : planArrowSchemaToMssqlSchema schema profile planOptions = .ok outcome)
    (hnew : BulkWriter.new client table outcome.value options = .ok writer)
    (hrun : writer.writeBatches batches = (calls, final)) :
    ∃ load, Trace (fun batch load => Load.Writes outcome.value batch load) batches ⟨[], {}⟩ (calls.map Call.result)
        load ∧
      handedRows final.state.directEncoder final.handed = some load.rows ∧ final.state.stats = load.stats := by
  obtain ⟨load, htrace, hloads⟩ := trace_of_writeBatches (binaryWithinLimit_of_planned hplan) (loads_of_new hnew) hrun
  exact ⟨load, htrace, hloads.rows, hloads.stats⟩

theorem loads_keeps (hlimit : BinaryWithinLimit plannedSchema.mappings) (batch : RecordBatch) (writer : BulkWriter)
    (h : ∃ load, Loads plannedSchema writer load) : ∃ load, Loads plannedSchema (callStep batch writer).2 load := by
  obtain ⟨load, hloads⟩ := h
  obtain ⟨load', -, hloads'⟩ := writes_of_call hloads hlimit batch
  exact ⟨load', hloads'⟩

/-- The calls that did not reach the driver can be left out of a run: the others return the same, and the writer ends
the same. -/
theorem unsent_calls_leave_no_trace (hplan : planArrowSchemaToMssqlSchema schema profile planOptions = .ok outcome)
    (hnew : BulkWriter.new client table outcome.value options = .ok writer)
    (hrun : writer.writeBatches batches = (calls, final)) :
    writer.writeBatches ((calls.filter Call.reachesDriver).map Call.batch) =
      (calls.filter Call.reachesDriver, final) := by
  have hlimit := binaryWithinLimit_of_planned hplan
  rw [writeBatches_eq_run] at hrun ⊢
  have hfilter := @run_filter _ _ _ callStep batches writer (fun writer => ∃ load, Loads outcome.value writer load)
    Call.batch Call.reachesDriver (fun _ _ => rfl) (loads_keeps hlimit)
    (by
      rintro batch writer ⟨load, hloads⟩ hreaches
      exact after_of_not_reachesDriver hloads hlimit hreaches)
    ⟨_, loads_of_new hnew⟩
  rw [hrun] at hfilter
  exact hfilter

/-- Whatever the driver does, each payload of a run has a row token wherever it says that a row begins, and is within
the limit or has a single row. -/
theorem handed_payloads_are_sendable (hplan : planArrowSchemaToMssqlSchema schema profile planOptions = .ok outcome)
    (hnew : BulkWriter.new client table outcome.value options = .ok writer)
    (hrun : writer.writeBatches batches = (calls, final)) (bytes : List UInt8) (rowTokenOffsets : List ℕ)
    (hmem : .rawRows bytes rowTokenOffsets ∈ final.handed) :
    PointsToTokens bytes rowTokenOffsets ∧ (bytes.length ≤ 8 * 1024 * 1024 ∨ rowTokenOffsets.length = 1) := by
  have hlimit := binaryWithinLimit_of_planned hplan
  rw [writeBatches_eq_run] at hrun
  obtain ⟨load, hloads⟩ := @run_keeps _ _ _ callStep batches writer
    (fun writer => ∃ load, Loads outcome.value writer load) (fun batch _ => loads_keeps hlimit batch)
    ⟨_, loads_of_new hnew⟩
  rw [hrun] at hloads
  exact hloads.sendable _ hmem

end Runs

end Refinement

section Sample

theorem seven_fits : fitsSigned 32 7 := by decide

def sampleRows : List (List MssqlCell) :=
  [[.int (some ⟨7, seven_fits⟩), .varBinary (some [171, 205])], [.int (some ⟨7, seven_fits⟩), .varBinary none]]

theorem writer_runs_refine_load_at_sample : ∃ writer calls final,
    @BulkWriter.new limitedLoad .silent (sampleTarget, 1) sampleTable samplePlannedSchema {} = .ok writer ∧
    @BulkWriter.writeBatches limitedLoad .silent writer [sampleBatch, sampleBatch] = (calls, final) ∧
    Trace (fun batch load => @Load.Writes .silent samplePlannedSchema batch load) [sampleBatch, sampleBatch] ⟨[], {}⟩
      (calls.map (@Call.result limitedLoad)) ⟨sampleRows ++ sampleRows, ⟨2, 1⟩⟩ ∧
    handedRows (@BulkWriter.state limitedLoad final).directEncoder (@BulkWriter.handed limitedLoad final) =
      some (sampleRows ++ sampleRows) ∧
    (@BulkWriter.state limitedLoad final).stats = ⟨2, 1⟩ := by
  refine ⟨_, _, _, rfl, rfl, ?_⟩
  obtain ⟨⟨rows, stats⟩, htrace, hrows, hstats⟩ := @writer_runs_refine_load limitedLoad .silent _ sampleBatch.schema
    sampleProfile samplePlanOptions ⟨samplePlannedSchema, []⟩ (sampleTarget, 1) sampleTable {} _
    [sampleBatch, sampleBatch] _ rfl rfl rfl
  obtain rfl : sampleRows ++ sampleRows = rows := Option.some.inj hrows
  obtain rfl : ⟨2, 1⟩ = stats := hstats
  exact ⟨htrace, hrows, rfl⟩

theorem unsent_calls_leave_no_trace_at_sample : ∃ writer calls final,
    @BulkWriter.new limitedLoad .silent (sampleTarget, 1) sampleTable samplePlannedSchema {} = .ok writer ∧
    @BulkWriter.writeBatches limitedLoad .silent writer [nullIdBatch, sampleBatch] = (calls, final) ∧
    @BulkWriter.writeBatches limitedLoad .silent writer [sampleBatch] =
      (calls.filter (@Call.reachesDriver limitedLoad), final) := by
  refine ⟨_, _, _, rfl, rfl, ?_⟩
  exact @unsent_calls_leave_no_trace limitedLoad .silent _ sampleBatch.schema sampleProfile samplePlanOptions
    ⟨samplePlannedSchema, []⟩ (sampleTarget, 1) sampleTable {} _ [nullIdBatch, sampleBatch] _ rfl rfl rfl

theorem handed_payloads_are_sendable_at_sample : ∃ writer calls final bytes rowTokenOffsets,
    @BulkWriter.new limitedLoad .silent (sampleTarget, 1) sampleTable samplePlannedSchema {} = .ok writer ∧
    @BulkWriter.writeBatches limitedLoad .silent writer [sampleBatch] = (calls, final) ∧
    .rawRows bytes rowTokenOffsets ∈ @BulkWriter.handed limitedLoad final ∧
    PointsToTokens bytes rowTokenOffsets := by
  refine ⟨_, _, _, _, _, rfl, rfl, List.mem_cons_self, ?_⟩
  exact (@handed_payloads_are_sendable limitedLoad .silent _ sampleBatch.schema sampleProfile samplePlanOptions
    ⟨samplePlannedSchema, []⟩ (sampleTarget, 1) sampleTable {} _ [sampleBatch] _ rfl rfl rfl _ _
    List.mem_cons_self).1

end Sample

end ArrowTiberius.Writer
