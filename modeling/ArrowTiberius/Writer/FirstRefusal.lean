import ArrowTiberius.Direct.FirstRefusal
import ArrowTiberius.Writer.Backends

namespace ArrowTiberius.Writer

open Checked Direct Stepping

section Location

variable [Externals]

/-- The cells a write comes to before another one: a direct write goes down the columns, the baseline along the rows. -/
def ComesBefore (direct : Bool) (r' i' r i : ℕ) : Prop :=
  if direct then i' < i ∨ i' = i ∧ r' < r else r' < r ∨ r' = r ∧ i' < i

def NamesFirst (plannedSchema : PlannedSchema) (direct : Bool) (batch : RecordBatch) (e : Error) : Prop :=
  ∃ i r mapping source, plannedSchema.mappings[i]? = some mapping ∧ r < batch.numRows ∧
    e = source.withWritePhase .valueConversion ∧ RefusesCell (sourceField mapping) r source ∧
    (∀ cell, (plannedView plannedSchema batch).mssqlCell mapping r ≠ .ok cell) ∧
    ∀ i' r' mapping', plannedSchema.mappings[i']? = some mapping' → r' < batch.numRows → ComesBefore direct r' i' r i →
      ∃ cell, (plannedView plannedSchema batch).mssqlCell mapping' r' = .ok cell

variable {plannedSchema : PlannedSchema} {batch : RecordBatch} {mappings : List SchemaMapping}
  {context : RuntimeConversionContext} {encoder : DirectEncoder} {fault : Fault Error}

theorem mssqlCell_eq (r : ℕ) (hr : r < batch.numRows)
    (hshape : validateRecordBatchEncodingShape batch mappings = .ok ()) {i : ℕ} {mapping : SchemaMapping}
    (hmapping : mappings[i]? = some mapping) : (batchCell context mappings batch r i).isSome ↔
      ∃ cell, (⟨batch, mappings, context⟩ : RecordBatchView).mssqlCell mapping r = .ok cell := by
  rw [← mssqlCell_toOption hshape hr hmapping, Option.isSome_iff_exists]
  exact exists_congr fun cell => toOption_eq_some

theorem validateBatchRows_eq_error (hencodes : ∀ mapping ∈ mappings, ∃ encoding,
      Encodes mapping.arrow.dataType mapping.mssql.ty encoding)
    (hshape : validateRecordBatchEncodingShape batch mappings = .ok ())
    (h : validateBatchRows ⟨batch, mappings, context⟩ = .error fault) :
    ∃ i r mapping e, fault = .error e ∧ mappings[i]? = some mapping ∧ r < batch.numRows ∧
      RefusesCell (sourceField mapping) r e ∧
      (∀ cell, (⟨batch, mappings, context⟩ : RecordBatchView).mssqlCell mapping r ≠ .ok cell) ∧
      ∀ i' r' mapping', mappings[i']? = some mapping' → r' < batch.numRows → ComesBefore false r' i' r i →
        ∃ cell, (⟨batch, mappings, context⟩ : RecordBatchView).mssqlCell mapping' r' = .ok cell := by
  obtain ⟨r, hr, -, hbefore, -, hstop⟩ := forRange_eq_error
    (fun r => ∃ row, (⟨batch, mappings, context⟩ : RecordBatchView).mssqlRow r = .ok row) (fun _ => True)
    (by
      intro r _ _ _ _ hrow
      obtain ⟨row, hrow, -⟩ := bind_eq_ok.mp hrow
      exact ⟨⟨row, hrow⟩, trivial⟩) trivial h
  have hrow : (⟨batch, mappings, context⟩ : RecordBatchView).mssqlRow r = .error fault := by
    rcases bind_eq_error.mp hstop with herror | ⟨_, -, hpure⟩
    · exact herror
    · cases hpure
  simp only [RecordBatchView.mssqlRow, RecordBatchView.checkRowIndex, ensure_of hr, ok_bind] at hrow
  obtain ⟨i, mapping, hmapping, hleft, hcell⟩ := collect_eq_error hrow
  obtain ⟨array, harray, hindex, hcompatible⟩ := column_of_shape hshape hmapping
  obtain ⟨encoding, hencoding⟩ := hencodes mapping (List.mem_of_getElem? hmapping)
  have hrefuses : FailsWith (RefusesCell (sourceField mapping) r)
      ((⟨batch, mappings, context⟩ : RecordBatchView).mssqlCell mapping r) := by
    have hcolumn : batch.columns[mapping.arrow.index]? = some array := hindex ▸ harray
    simp only [RecordBatchView.mssqlCell, RecordBatchView.arrowCell, RecordBatchView.checkRowIndex, ensure_of hr,
      ok_bind, hcolumn, okOr_some]
    exact refusesCell_convertCell hencoding hcompatible
  rw [hcell] at hrefuses
  cases hrefuses with
  | @error e he =>
    refine ⟨i, r, mapping, e, rfl, hmapping, hr, he, ?_, ?_⟩
    · intro cell hok
      rw [hcell] at hok
      cases hok
    · intro i' r' mapping' hmapping' hr' hcomes
      rcases hcomes with hrow' | ⟨rfl, hcolumn'⟩
      · obtain ⟨hi', -⟩ := List.getElem?_eq_some_iff.mp hmapping'
        have hcells := (mssqlRow_succeeds hshape hr').mp (hbefore r' hrow') i' hi'
        exact (mssqlCell_eq r' hr' hshape hmapping').mp hcells
      · exact hleft i' hcolumn' mapping' hmapping'

theorem measureBatch_eq_error (hencoder : DirectEncoder.newWithContext mappings context = .ok encoder)
    (hlimit : BinaryWithinLimit mappings) (hwire : WithinWireLimits mappings batch)
    (hshape : validateRecordBatchEncodingShape batch mappings = .ok ())
    (hcells : batch.numRows * mappings.length < 2 ^ 64) (hnone : HasUnconvertibleCell context mappings batch)
    (h : encoder.measureBatch batch = .error fault) :
    ∃ i r mapping e, fault = .error e ∧ mappings[i]? = some mapping ∧ r < batch.numRows ∧
      RefusesCell (sourceField mapping) r e ∧
      (∀ cell, (⟨batch, mappings, context⟩ : RecordBatchView).mssqlCell mapping r ≠ .ok cell) ∧
      ∀ i' r' mapping', mappings[i']? = some mapping' → r' < batch.numRows → ComesBefore true r' i' r i →
        ∃ cell, (⟨batch, mappings, context⟩ : RecordBatchView).mssqlCell mapping' r' = .ok cell := by
  obtain ⟨hmappings, -⟩ := newWithContext_eq_ok.mp hencoder
  obtain ⟨bound, hbound, hcolumns, hrows, hbytes⟩ := exists_bound hencoder hshape
  have hfits := cellsFit_of_withinWireLimits hencoder hshape hlimit hwire
  have hzero : ¬batch.numRows = 0 := by
    obtain ⟨r, hr, -⟩ := hnone
    omega
  have hsome {r i : ℕ} {mapping : SchemaMapping} (hr : r < batch.numRows) (hmapping : mappings[i]? = some mapping) :
      (bound.cellBytes r i).isSome ↔
        ∃ cell, (⟨batch, mappings, context⟩ : RecordBatchView).mssqlCell mapping r = .ok cell := by
    rw [hbytes, batchBytes_isSome hfits hr (List.getElem?_eq_some_iff.mp hmapping).1]
    exact mssqlCell_eq r hr hshape hmapping
  have hmeasured : bound.measureCellLengths = .error fault := by
    rw [DirectEncoder.measureBatch, hmappings, hshape, ok_bind, if_neg hzero, measureCellLengths, hbound,
      ok_bind] at h
    rcases bind_eq_error.mp h with herror | ⟨cellLengths, hok, -⟩
    · exact herror
    · obtain ⟨r, hr, mapping, hmem, hcell⟩ := hnone
      obtain ⟨i, hmapping⟩ := List.mem_iff_getElem?.mp hmem
      obtain ⟨hi, -⟩ := List.getElem?_eq_some_iff.mp hmapping
      have haccepts := ((lawful_of_new hencoder hlimit hbound).measureCellLengths_eq_ok.mp hok).2.1
      obtain ⟨cell, hcell'⟩ := (hsome hr hmapping).mp (haccepts r (hrows ▸ hr) i (hcolumns ▸ hi))
      exact absurd hcell' (hcell cell)
  obtain ⟨e, i, r, mapping, hfault, hmapping, hr, hrefuses, hcell, habove, hleft⟩ :=
    measureBoundBatch_eq_error hencoder hlimit hbound hwire hshape (by rwa [hrows, hcolumns]) hmeasured
  rw [hrows] at hr hleft
  refine ⟨i, r, mapping, e, hfault, hmapping, hr, hrefuses, ?_, ?_⟩
  · intro cell hok
    have hcell' := (hsome hr hmapping).mpr ⟨cell, hok⟩
    rw [hcell] at hcell'
    cases hcell'
  · intro i' r' mapping' hmapping' hr' hcomes
    apply (hsome hr' hmapping').mp
    rcases hcomes with hcolumn' | ⟨rfl, hrow'⟩
    · exact hleft i' hcolumn' r' hr'
    · exact habove r' hrow'

end Location

section Runs

variable [Driver] [Externals] {schema : List Field} {profile : MssqlProfile} {planOptions : PlanOptions}
  {outcome : PlanOutcome PlannedSchema} {plannedSchema : PlannedSchema} {client : Driver.Client} {table : TableName}
  {options : WriteOptions} {writer final : BulkWriter} {batch : RecordBatch} {batches : List RecordBatch}
  {calls : List Call}

theorem namesFirst_of_call (hfollows : writer.state.Follows plannedSchema)
    (hencodable : ∀ mapping ∈ plannedSchema.mappings, ∃ encoding,
      Encodes mapping.arrow.dataType mapping.mssql.ty encoding)
    (hlimit : BinaryWithinLimit plannedSchema.mappings)
    (hmeasurable : usesDirectEncoder writer.state.backend = true → Measurable plannedSchema batch) {e : Error}
    (he : (writer.call batch).result = .error (.error e)) (hphase : e.writePhase = some .valueConversion) :
    NamesFirst plannedSchema (usesDirectEncoder writer.state.backend) batch e := by
  have hclassifies := classifies_call hfollows hencodable hlimit hmeasurable
  have hrejected : RejectedIn .valueConversion writer ((writeBatch batch).run writer) := by
    rcases hclassifies.otherwise (.error e) he with ⟨e', hrun, hphase'⟩ | hrejected | ⟨source, hsource⟩
    · have hsame : e = e' := by
        rw [BulkWriter.call, hrun] at he
        exact (Fault.error.inj (Except.error.inj he)).symm
      rw [← hsame, hphase] at hphase'
      cases hphase'
    · exact hrejected
    · cases hsource
      cases hphase
  obtain ⟨hshape, hnone⟩ := hclassifies.unconvertible.mp hrejected
  rw [BulkWriter.call, writeBatch_run hfollows] at he
  rcases hfollows.encoder with ⟨hbackend, hno⟩ | ⟨hbackend, encoder, hsome, hnew⟩
  · rw [hno] at he
    rw [hbackend]
    have hview : recordBatchView batch writer.state = .ok (plannedView plannedSchema batch) := by
      change RecordBatchView.newWithContext batch writer.state.mappings writer.state.runtimeContext = _
      rw [hfollows.mappings, hfollows.context, RecordBatchView.newWithContext, hshape]
      rfl
    cases hvalid : validateBatchRows (plannedView plannedSchema batch) with
    | ok u =>
      obtain ⟨rows, hrows⟩ : ∃ rows, plannedRows plannedSchema batch = .ok rows := by
        apply collect_succeeds_iff.mpr
        intro r hr
        exact validateBatchRows_eq_ok.mp hvalid r (List.mem_range.mp hr)
      exact absurd hnone (plannedRows_succeeds.mp ⟨rows, hrows⟩)
    | error fault =>
      obtain ⟨i, r, mapping, source, rfl, hmapping, hr, hrefuses, hcell, hbefore⟩ :=
        validateBatchRows_eq_error hencodable hshape hvalid
      rw [writeBatchToSink_of_row_error hview hvalid] at he
      cases he
      exact ⟨i, r, mapping, source, hmapping, hr, rfl, hrefuses, hcell, hbefore⟩
  · obtain ⟨hwire, hcells, -⟩ := hmeasurable hbackend
    rw [hfollows.mappings, hfollows.context] at hnew
    rw [hsome] at he
    rw [hbackend]
    cases hmeasured : encoder.measureBatch batch with
    | ok measured =>
      obtain ⟨e', hmeasured', -⟩ := measureBatch_of_unconvertible hnew hlimit hwire hshape hcells
        ((hasUnconvertibleCell_iff hshape).mp hnone)
      rw [hmeasured] at hmeasured'
      cases hmeasured'
    | error fault =>
      obtain ⟨i, r, mapping, source, rfl, hmapping, hr, hrefuses, hcell, hbefore⟩ :=
        measureBatch_eq_error hnew hlimit hwire hshape hcells hnone hmeasured
      rw [writeDirectBatchToSink_of_measure_error hsome hmeasured] at he
      cases he
      refine ⟨i, r, mapping, source, hmapping, hr, ?_, hrefuses, hcell, hbefore⟩
      rw [inferWritePhase, Error.withWritePhase, Error.writePhase, Option.some.injEq] at hphase
      rw [inferWritePhase, hphase]

/-- In every run, a call that is rejected for a value names the first cell that does not convert: along the rows for the
baseline, down the columns for the direct backends. -/
theorem rejections_name_the_first_cell (hplan : planArrowSchemaToMssqlSchema schema profile planOptions = .ok outcome)
    (hencodable : ∀ mapping ∈ outcome.value.mappings, mapping.mssql.ty ≠ .decimal 38 38)
    (hnew : BulkWriter.new client table outcome.value options = .ok writer)
    (hmeasurable : usesDirectEncoder writer.state.backend = true → ∀ batch ∈ batches, Measurable outcome.value batch)
    (hrun : writer.writeBatches batches = (calls, final)) {call : Call} (hcall : call ∈ calls) {e : Error}
    (he : call.result = .error (.error e)) (hphase : e.writePhase = some .valueConversion) :
    NamesFirst outcome.value (usesDirectEncoder writer.state.backend) call.batch e := by
  have hlimit := binaryWithinLimit_of_planned hplan
  have hencodes := newWithContext_succeeds.mp ((newWithContext_planned ⟨profile, planOptions⟩ hplan).mpr hencodable)
  rw [writeBatches_eq_run] at hrun
  have hnames := @forall_answers _ _ _ callStep batches writer
    (fun other => (∃ load, Loads outcome.value other load) ∧ other.state.backend = writer.state.backend)
    (fun call => ∀ e, call.result = .error (.error e) → e.writePhase = some .valueConversion →
      NamesFirst outcome.value (usesDirectEncoder writer.state.backend) call.batch e)
    (by
      rintro batch hbatch other ⟨⟨load, hloads⟩, hbackend⟩
      refine ⟨?_, loads_keeps hlimit batch other ⟨load, hloads⟩, (backend_of_call hloads.follows hlimit batch).trans hbackend⟩
      intro e he hphase
      rw [← hbackend]
      exact namesFirst_of_call hloads.follows hencodes hlimit (fun hdirect => hmeasurable (hbackend ▸ hdirect) batch
        hbatch) he hphase)
    ⟨⟨_, loads_of_new hnew⟩, rfl⟩
  rw [hrun] at hnames
  exact hnames call hcall e he hphase

end Runs

section Sample

def twoFaultsBatch : RecordBatch where
  schema := [⟨"id", .int32, true⟩, ⟨"note", .binary, true⟩]
  numRows := 2
  columns := [⟨.int32, ⟨2, fun i => i = 1, fun _ => ⟨7, seven_fits⟩⟩⟩,
    ⟨.binary, ⟨2, fun _ => false, fun _ => [1, 2, 3, 4, 5]⟩⟩]
  typed := rfl
  sized := by simp [ArrayRef.len]
  addressable := two_rows_addressable

theorem twoFaultsBatch_withinWireLimits : @WithinWireLimits .silent sampleMappings twoFaultsBatch := by
  intro i mapping array hmapping harray r _ cell hcell
  obtain rfl | rfl | hi : i = 0 ∨ i = 1 ∨ 2 ≤ i := by omega
  · cases hmapping
    trivial
  · cases hmapping
    cases harray
    cases hcell
    exact (show 5 ≤ 0xfffe by decide)
  · rw [List.getElem?_eq_none hi] at hmapping
    cases hmapping

theorem rejections_name_the_first_cell_at_two_faults : ∃ writer call d writer' call' d',
    @BulkWriter.new boundlessLoad .silent sampleTarget sampleTable samplePlannedSchema {} = .ok writer ∧
    @BulkWriter.new boundlessLoad .silent sampleTarget sampleTable samplePlannedSchema ⟨.baselineTokenRow, .strict⟩ =
      .ok writer' ∧
    @BulkWriter.writeBatches boundlessLoad .silent writer [twoFaultsBatch] = ([call], writer) ∧
    @BulkWriter.writeBatches boundlessLoad .silent writer' [twoFaultsBatch] = ([call'], writer') ∧
    (@Call.result boundlessLoad call = .error (.error ((valueConversionError d).withWritePhase .valueConversion)) ∧
      d.field = some ⟨0, "id"⟩ ∧ d.row = some 1 ∧
      @NamesFirst .silent samplePlannedSchema true twoFaultsBatch
        ((valueConversionError d).withWritePhase .valueConversion)) ∧
    @Call.result boundlessLoad call' = .error (.error ((valueConversionError d').withWritePhase .valueConversion)) ∧
      d'.field = some ⟨1, "note"⟩ ∧ d'.row = some 0 ∧
      @NamesFirst .silent samplePlannedSchema false twoFaultsBatch
        ((valueConversionError d').withWritePhase .valueConversion) := by
  have hmeasurable : ∀ batch ∈ [twoFaultsBatch], @Measurable .silent samplePlannedSchema batch := by
    intro batch hbatch
    rw [List.mem_singleton.mp hbatch]
    exact @Measurable.mk .silent _ _ twoFaultsBatch_withinWireLimits (by decide) (by decide)
  refine ⟨_, _, _, _, _, _, rfl, rfl, rfl, rfl, ⟨rfl, rfl, rfl, ?_⟩, rfl, rfl, rfl, ?_⟩
  · exact @rejections_name_the_first_cell boundlessLoad .silent sampleBatch.schema sampleProfile samplePlanOptions
      ⟨samplePlannedSchema, []⟩ sampleTarget sampleTable {} _ _ [twoFaultsBatch] _ rfl (by decide) rfl
      (fun _ => hmeasurable) rfl _ List.mem_cons_self _ rfl rfl
  · exact @rejections_name_the_first_cell boundlessLoad .silent sampleBatch.schema sampleProfile samplePlanOptions
      ⟨samplePlannedSchema, []⟩ sampleTarget sampleTable ⟨.baselineTokenRow, .strict⟩ _ _ [twoFaultsBatch] _ rfl
      (by decide) rfl (fun _ => hmeasurable) rfl _ List.mem_cons_self _ rfl rfl

end Sample

end ArrowTiberius.Writer
