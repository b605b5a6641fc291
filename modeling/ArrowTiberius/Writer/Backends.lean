import ArrowTiberius.Writer.Load

namespace ArrowTiberius.Writer

open Checked Direct Session Stepping Tds

section Step

variable [Externals]

/-- A batch whose cells have lengths that the frames of its columns and a `usize` hold. -/
structure Measurable (plannedSchema : PlannedSchema) (batch : RecordBatch) : Prop where
  wire : WithinWireLimits plannedSchema.mappings batch
  cells : batch.numRows * plannedSchema.mappings.length < 2 ^ 64
  bytes : encodedLength ⟨plannedSchema.profile, plannedSchema.planOptions⟩ plannedSchema.mappings batch < 2 ^ 64

variable [Driver] {plannedSchema : PlannedSchema} {writer : BulkWriter} {batch : RecordBatch} {load : Load}

theorem classifies_call (hfollows : writer.state.Follows plannedSchema)
    (hencodable : ∀ mapping ∈ plannedSchema.mappings, ∃ encoding,
      Encodes mapping.arrow.dataType mapping.mssql.ty encoding)
    (hlimit : BinaryWithinLimit plannedSchema.mappings)
    (hmeasurable : usesDirectEncoder writer.state.backend = true → Measurable plannedSchema batch) :
    Classifies ⟨plannedSchema.profile, plannedSchema.planOptions⟩ plannedSchema.mappings batch writer
      ((writeBatch batch).run writer) := by
  rw [writeBatch_run hfollows]
  rcases hfollows.encoder with ⟨-, hnone⟩ | ⟨hdirect, encoder, hsome, hnew⟩
  · obtain ⟨encoder, hencoder⟩ := succeeds_iff.mp (newWithContext_succeeds.mpr hencodable)
    rw [hnone]
    exact classifies_writeBatchToSink hencoder hfollows.mappings hfollows.context
  · obtain ⟨hwire, hcells, hbytes⟩ := hmeasurable hdirect
    rw [hfollows.mappings, hfollows.context] at hnew
    rw [hsome]
    exact classifies_writeDirectBatchToSink hnew hfollows.mappings hfollows.context hsome hlimit hwire hcells hbytes

omit [Driver] in
theorem cells_of_plannedRows (hshape : validateRecordBatchEncodingShape batch plannedSchema.mappings = .ok ())
    {rows : List (List MssqlCell)} (hrows : plannedRows plannedSchema batch = .ok rows) :
    ∀ r < batch.numRows, ∀ i < plannedSchema.mappings.length, (batchCell ⟨plannedSchema.profile,
      plannedSchema.planOptions⟩ plannedSchema.mappings batch r i).isSome := by
  intro r hr
  apply (mssqlRow_succeeds hshape hr).mp
  exact collect_succeeds_iff.mp ⟨rows, hrows⟩ r (List.mem_range.mpr hr)

theorem prepared_of_plannedRows (hfollows : writer.state.Follows plannedSchema)
    (hlimit : BinaryWithinLimit plannedSchema.mappings)
    (hmeasurable : usesDirectEncoder writer.state.backend = true → Measurable plannedSchema batch)
    (hshape : validateRecordBatchEncodingShape batch plannedSchema.mappings = .ok ())
    {rows : List (List MssqlCell)} (hrows : plannedRows plannedSchema batch = .ok rows) : Prepared writer batch := by
  have hcells := cells_of_plannedRows hshape hrows
  unfold Prepared
  rcases hfollows.encoder with ⟨-, hnone⟩ | ⟨hdirect, encoder, hsome, hnew⟩
  · have hview : recordBatchView batch writer.state = .ok (plannedView plannedSchema batch) := by
      change RecordBatchView.newWithContext batch writer.state.mappings writer.state.runtimeContext = _
      rw [hfollows.mappings, hfollows.context, RecordBatchView.newWithContext, hshape]
      rfl
    rw [hnone]
    refine ⟨_, hview, validateBatchRows_eq_ok.mpr ?_⟩
    intro r hr
    exact (mssqlRow_succeeds hshape hr).mpr (hcells r hr)
  · obtain ⟨hwire, hcount, hbytes⟩ := hmeasurable hdirect
    rw [hfollows.mappings, hfollows.context] at hnew
    rw [hsome]
    rcases measureBatch_of_convertible hnew hlimit hwire hshape hcount hcells with hmeasured | ⟨hlong, -⟩
    · exact hmeasured
    · omega

theorem load_of_call (hreliable : Reliable) (h : Loads plannedSchema writer load)
    (hencodable : ∀ mapping ∈ plannedSchema.mappings, ∃ encoding,
      Encodes mapping.arrow.dataType mapping.mssql.ty encoding)
    (hlimit : BinaryWithinLimit plannedSchema.mappings)
    (hmeasurable : usesDirectEncoder writer.state.backend = true → Measurable plannedSchema batch) :
    Reports (writer.call batch).result (load.write plannedSchema batch).1 ∧
      Loads plannedSchema (writer.call batch).after (load.write plannedSchema batch).2 := by
  have hclassifies := classifies_call h.follows hencodable hlimit hmeasurable
  have hrejected {phase : WritePhase} (hphase : RejectedIn phase writer ((writeBatch batch).run writer)) :
      Reports (writer.call batch).result (.error phase) ∧ Loads plannedSchema (writer.call batch).after load := by
    obtain ⟨e, hrun, he⟩ := hphase
    rw [BulkWriter.call, hrun]
    exact ⟨.rejected he, h⟩
  by_cases hshape : validateRecordBatchEncodingShape batch plannedSchema.mappings = .ok ()
  · by_cases hcell : HasUnconvertibleCell ⟨plannedSchema.profile, plannedSchema.planOptions⟩ plannedSchema.mappings
      batch
    · rw [write_of_unconvertible hshape hcell]
      exact hrejected (hclassifies.unconvertible.mpr ⟨hshape, hcell⟩)
    · obtain ⟨planned, hplanned⟩ := plannedRows_succeeds.mpr hcell
      obtain ⟨rows, -, hrows, hensures⟩ := writeBatch_ensures h.follows hlimit
        (prepared_of_plannedRows h.follows hlimit hmeasurable hshape hplanned)
      obtain rfl := Except.ok.inj ((plannedRows_eq_ok.mpr hrows).symm.trans hplanned)
      rw [write_of_planned hshape hplanned]
      cases hcall : (writer.call batch).result with
      | ok stats =>
        obtain ⟨rfl, hloads⟩ := h.accepted (hensures.ok _ _ (Prod.ext hcall rfl))
        exact ⟨.accepted _, hloads⟩
      | error e => exact absurd hreliable (hensures.error _ _ (Prod.ext hcall rfl)).unreliable
  · rw [write_of_misshapen hshape]
    exact hrejected (hclassifies.misshapen.mpr hshape)

end Step

section Runs

variable [Externals] {schema : List Field} {profile : MssqlProfile} {planOptions : PlanOptions}
  {outcome : PlanOutcome PlannedSchema}

theorem load_of_writeBatches [Driver] {client : Driver.Client} {table : TableName} {options : WriteOptions}
    {writer : BulkWriter} {batches : List RecordBatch} (hreliable : Reliable)
    (hplan : planArrowSchemaToMssqlSchema schema profile planOptions = .ok outcome)
    (hnew : BulkWriter.new client table outcome.value options = .ok writer)
    (hencodable : ∀ mapping ∈ outcome.value.mappings, mapping.mssql.ty ≠ .decimal 38 38)
    (hmeasurable : usesDirectEncoder writer.state.backend = true → ∀ batch ∈ batches, Measurable outcome.value batch) :
    List.Forall₂ Reports ((writer.writeBatches batches).1.map Call.result)
        (run (Load.write outcome.value) batches ⟨[], {}⟩).1 ∧
      Loads outcome.value (writer.writeBatches batches).2 (run (Load.write outcome.value) batches ⟨[], {}⟩).2 := by
  have hlimit := binaryWithinLimit_of_planned hplan
  have hencodes := newWithContext_succeeds.mp ((newWithContext_planned ⟨profile, planOptions⟩ hplan).mpr hencodable)
  rw [writeBatches_eq_run, List.forall₂_map_left_iff]
  have hsimulates := @run_simulates _ _ _ _ _
    callStep
    (fun (other : BulkWriter) load => Loads outcome.value other load ∧ other.state.backend = writer.state.backend)
    (fun call answer => Reports call.result answer) batches writer ⟨[], {}⟩ (Load.write outcome.value)
    (by
      rintro batch hbatch other load ⟨hloads, hbackend⟩
      obtain ⟨hreports, hloads'⟩ := load_of_call hreliable hloads hencodes hlimit
        fun hdirect => hmeasurable (hbackend ▸ hdirect) batch hbatch
      exact ⟨hreports, hloads', (backend_of_call hloads.follows hlimit batch).trans hbackend⟩)
    ⟨loads_of_new hnew, rfl⟩
  exact ⟨hsimulates.1, hsimulates.2.1⟩

/-- Two writers of one planned schema, each over a driver that refuses nothing, load the same rows from the same
batches, count the same and reject the same batches in the same phases, whatever their backends. -/
theorem backends_load_alike (D D' : Driver) {client : D.Client} {client' : D'.Client} {table table' : TableName}
    {options options' : WriteOptions} {writer final : @BulkWriter D} {writer' final' : @BulkWriter D'}
    {batches : List RecordBatch} {calls : List (@Call D)} {calls' : List (@Call D')}
    (hreliable : @Reliable D) (hreliable' : @Reliable D')
    (hplan : planArrowSchemaToMssqlSchema schema profile planOptions = .ok outcome)
    (hencodable : ∀ mapping ∈ outcome.value.mappings, mapping.mssql.ty ≠ .decimal 38 38)
    (hmeasurable : ∀ batch ∈ batches, Measurable outcome.value batch)
    (hnew : @BulkWriter.new D _ client table outcome.value options = .ok writer)
    (hnew' : @BulkWriter.new D' _ client' table' outcome.value options' = .ok writer')
    (hrun : @BulkWriter.writeBatches D _ writer batches = (calls, final))
    (hrun' : @BulkWriter.writeBatches D' _ writer' batches = (calls', final')) :
    ∃ answers load, run (Load.write outcome.value) batches ⟨[], {}⟩ = (answers, load) ∧
      (List.Forall₂ Reports (calls.map (@Call.result D)) answers ∧
        List.Forall₂ Reports (calls'.map (@Call.result D')) answers) ∧
      (handedRows (@BulkWriter.state D final).directEncoder (@BulkWriter.handed D final) = some load.rows ∧
        handedRows (@BulkWriter.state D' final').directEncoder (@BulkWriter.handed D' final') = some load.rows) ∧
      (@BulkWriter.state D final).stats = load.stats ∧ (@BulkWriter.state D' final').stats = load.stats := by
  obtain ⟨hreports, hloads⟩ := @load_of_writeBatches _ _ _ _ _ D client table options writer batches hreliable hplan
    hnew hencodable fun _ => hmeasurable
  obtain ⟨hreports', hloads'⟩ := @load_of_writeBatches _ _ _ _ _ D' client' table' options' writer' batches hreliable'
    hplan hnew' hencodable fun _ => hmeasurable
  rw [hrun] at hreports hloads
  rw [hrun'] at hreports' hloads'
  obtain ⟨-, hstats, hrows, -⟩ := hloads
  obtain ⟨-, hstats', hrows', -⟩ := hloads'
  exact ⟨_, _, rfl, ⟨hreports, hreports'⟩, ⟨hrows, hrows'⟩, hstats, hstats'⟩

end Runs

section Sample

abbrev boundlessLoad : Driver where
  Client := List BulkLoadColumn
  Request := Unit
  bulkInsertColumns client _ := (.ok client, client)
  bulkInsertWithColumns _ _ _ := .ok ()
  enableDirectPacketWrites request := request
  send request _ := (.ok (), request)
  sendRawRowsPayloadChecked request _ _ := (.ok (), request)
  rowsBuffer request := (.ok [], request)
  rowsAppended request result := (result.map fun _ => (), request)
  finalize _ := .ok ()

theorem reliable_boundlessLoad : @Reliable boundlessLoad := by
  apply @Reliable.mk boundlessLoad
  · exact fun _ _ => rfl
  · exact fun _ _ _ => rfl
  · exact fun _ => ⟨[], rfl⟩
  · exact fun _ _ => rfl

theorem nullIdBatch_measurable : @Measurable .silent samplePlannedSchema nullIdBatch :=
  @Measurable.mk .silent _ _ nullIdBatch_withinWireLimits (by decide) (by decide)

theorem sampleBatch_withinWireLimits : @WithinWireLimits .silent sampleMappings sampleBatch := by
  intro i mapping array hmapping harray r _ cell hcell
  obtain rfl | rfl | hi : i = 0 ∨ i = 1 ∨ 2 ≤ i := by omega
  · cases hmapping
    trivial
  · cases hmapping
    cases harray
    by_cases hnull : r = 1
    · subst hnull
      cases hcell
      trivial
    · unfold extractArrowCell at hcell
      rw [if_neg (by simpa [ArrayRef.isNull] using hnull)] at hcell
      cases hcell
      exact (show 2 ≤ 0xfffe by decide)
  · rw [List.getElem?_eq_none hi] at hmapping
    cases hmapping

theorem sampleBatch_measurable : @Measurable .silent samplePlannedSchema sampleBatch :=
  @Measurable.mk .silent _ _ sampleBatch_withinWireLimits (by decide) (by decide)

theorem backends_load_alike_at_null_id : ∃ writer calls final writer' calls' final',
    @BulkWriter.new boundlessLoad .silent sampleTarget sampleTable samplePlannedSchema {} = .ok writer ∧
    @BulkWriter.new boundlessLoad .silent sampleTarget sampleTable samplePlannedSchema ⟨.baselineTokenRow, .strict⟩ =
      .ok writer' ∧
    @BulkWriter.writeBatches boundlessLoad .silent writer [sampleBatch, nullIdBatch] = (calls, final) ∧
    @BulkWriter.writeBatches boundlessLoad .silent writer' [sampleBatch, nullIdBatch] = (calls', final') ∧
    List.Forall₂ Reports (calls.map (@Call.result boundlessLoad)) [.ok ⟨2, 1⟩, .error .valueConversion] ∧
    List.Forall₂ Reports (calls'.map (@Call.result boundlessLoad)) [.ok ⟨2, 1⟩, .error .valueConversion] ∧
    handedRows (@BulkWriter.state boundlessLoad final).directEncoder (@BulkWriter.handed boundlessLoad final) =
      some sampleRows ∧
    handedRows (@BulkWriter.state boundlessLoad final').directEncoder (@BulkWriter.handed boundlessLoad final') =
      some sampleRows ∧
    (@BulkWriter.state boundlessLoad final).stats = ⟨2, 1⟩ ∧ (@BulkWriter.state boundlessLoad final').stats = ⟨2, 1⟩ := by
  refine ⟨_, _, _, _, _, _, rfl, rfl, rfl, rfl, ?_⟩
  have hmeasurable : ∀ batch ∈ [sampleBatch, nullIdBatch], @Measurable .silent samplePlannedSchema batch :=
    List.forall_mem_cons.mpr ⟨sampleBatch_measurable, List.forall_mem_singleton.mpr nullIdBatch_measurable⟩
  obtain ⟨answers, load, hload, ⟨hreports, hreports'⟩, ⟨hrows, hrows'⟩, hstats, hstats'⟩ := @backends_load_alike .silent
    sampleBatch.schema sampleProfile samplePlanOptions ⟨samplePlannedSchema, []⟩ boundlessLoad boundlessLoad sampleTarget
    sampleTarget sampleTable sampleTable {} ⟨.baselineTokenRow, .strict⟩ _ _ _ _ [sampleBatch, nullIdBatch] _ _
    reliable_boundlessLoad reliable_boundlessLoad rfl (by decide) hmeasurable rfl rfl rfl rfl
  obtain ⟨rfl, rfl⟩ : [.ok ⟨2, 1⟩, .error .valueConversion] = answers ∧ ⟨sampleRows, ⟨2, 1⟩⟩ = load :=
    Prod.ext_iff.mp hload
  exact ⟨hreports, hreports', hrows, hrows', hstats, hstats'⟩

end Sample

end ArrowTiberius.Writer
