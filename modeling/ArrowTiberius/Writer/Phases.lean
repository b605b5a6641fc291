import ArrowTiberius.Direct.MeasureFailures
import ArrowTiberius.Writer.Runs

namespace ArrowTiberius.Writer

open Checked Direct Session

section Phases

variable {e : Error}

theorem inferWritePhase_of_refusesShape (h : RefusesShape e) :
    (inferWritePhase e).writePhase = some .batchSchemaValidation := by
  obtain ⟨d, rfl, hcode⟩ := h
  simp [inferWritePhase, Error.withWritePhase, Error.writePhase, writePhaseForBatchError, valueConversionError, hcode]

theorem inferWritePhase_of_refusesValue (h : RefusesValue e) :
    (inferWritePhase e).writePhase = some .valueConversion := by
  obtain ⟨d, rfl, hcode⟩ := h
  simp [inferWritePhase, Error.withWritePhase, Error.writePhase, writePhaseForBatchError, valueConversionError, hcode]

theorem inferWritePhase_of_invalidPayload (h : IsInvalidPayload e) :
    (inferWritePhase e).writePhase = some .directEncoding := by
  obtain ⟨message, rfl⟩ := h
  rfl

end Phases

section Rejections

variable [Driver] {writer : BulkWriter} {run : Result WriteStats × BulkWriter}

def RejectedIn (phase : WritePhase) (writer : BulkWriter) (run : Result WriteStats × BulkWriter) : Prop :=
  ∃ e, run = (.error (.error e), writer) ∧ e.writePhase = some phase

theorem rejectedIn_unique {phase phase' : WritePhase} (h : RejectedIn phase writer run)
    (h' : RejectedIn phase' writer run) : phase = phase' := by
  obtain ⟨e, hrun, hphase⟩ := h
  obtain ⟨e', hrun', hphase'⟩ := h'
  obtain rfl : e = e' := by
    rw [hrun, Prod.mk.injEq, Except.error.injEq, Fault.error.injEq] at hrun'
    exact hrun'.1
  rw [hphase, Option.some.injEq] at hphase'
  exact hphase'

theorem not_rejectedIn_of_sent {phase : WritePhase} (hphase : phase ≠ .packetWrite)
    (hsent : ∀ e, run.1 = .error e → IsPacketWriteError e) : ¬RejectedIn phase writer run := by
  rintro ⟨e, rfl, he⟩
  obtain ⟨source, hsource⟩ := hsent _ rfl
  cases hsource
  rw [Error.withWritePhase, Error.writePhase, Option.some.injEq] at he
  exact hphase he.symm

end Rejections

section Classification

variable [Externals]

def HasUnconvertibleCell (context : RuntimeConversionContext) (mappings : List SchemaMapping) (batch : RecordBatch) :
    Prop :=
  ∃ r < batch.numRows, ∃ mapping ∈ mappings, ∀ cell,
    (⟨batch, mappings, context⟩ : RecordBatchView).mssqlCell mapping r ≠ .ok cell

variable {batch : RecordBatch} {mappings : List SchemaMapping} {context : RuntimeConversionContext}

theorem batchCell_eq_none {r : ℕ} (hshape : validateRecordBatchEncodingShape batch mappings = .ok ())
    (hr : r < batch.numRows) {i : ℕ} {mapping : SchemaMapping} (hmapping : mappings[i]? = some mapping) :
    batchCell context mappings batch r i = none ↔
      ∀ cell, (⟨batch, mappings, context⟩ : RecordBatchView).mssqlCell mapping r ≠ .ok cell := by
  rw [← mssqlCell_toOption hshape hr hmapping, Option.eq_none_iff_forall_ne_some]
  apply forall_congr'
  intro cell
  exact not_congr toOption_eq_some

theorem hasUnconvertibleCell_iff (hshape : validateRecordBatchEncodingShape batch mappings = .ok ()) :
    HasUnconvertibleCell context mappings batch ↔
      ∃ r < batch.numRows, ∃ i < mappings.length, batchCell context mappings batch r i = none := by
  constructor
  · rintro ⟨r, hr, mapping, hmem, hcell⟩
    obtain ⟨i, hmapping⟩ := List.mem_iff_getElem?.mp hmem
    exact ⟨r, hr, i, (List.getElem?_eq_some_iff.mp hmapping).1, (batchCell_eq_none hshape hr hmapping).mpr hcell⟩
  · rintro ⟨r, hr, i, hi, hcell⟩
    have hmapping : mappings[i]? = some mappings[i] := List.getElem?_eq_getElem hi
    exact ⟨r, hr, _, List.getElem_mem hi, (batchCell_eq_none hshape hr hmapping).mp hcell⟩

variable [Driver] {writer : BulkWriter} {run : Result WriteStats × BulkWriter}

/-- The phase of a rejection says whether the shape of the batch or one of its cells was at fault; nothing else is
rejected. -/
structure Classifies (context : RuntimeConversionContext) (mappings : List SchemaMapping) (batch : RecordBatch)
    (writer : BulkWriter) (run : Result WriteStats × BulkWriter) : Prop where
  misshapen : RejectedIn .batchSchemaValidation writer run ↔ validateRecordBatchEncodingShape batch mappings ≠ .ok ()
  unconvertible : RejectedIn .valueConversion writer run ↔
    validateRecordBatchEncodingShape batch mappings = .ok () ∧ HasUnconvertibleCell context mappings batch
  otherwise : ∀ e, run.1 = .error e → RejectedIn .batchSchemaValidation writer run ∨
    RejectedIn .valueConversion writer run ∨ IsPacketWriteError e

theorem classifies_of_cases
    (hmisshapen : validateRecordBatchEncodingShape batch mappings ≠ .ok () →
      RejectedIn .batchSchemaValidation writer run)
    (hunconvertible : validateRecordBatchEncodingShape batch mappings = .ok () →
      HasUnconvertibleCell context mappings batch → RejectedIn .valueConversion writer run)
    (hconvertible : validateRecordBatchEncodingShape batch mappings = .ok () →
      ¬HasUnconvertibleCell context mappings batch → ∀ e, run.1 = .error e → IsPacketWriteError e) :
    Classifies context mappings batch writer run := by
  by_cases hshape : validateRecordBatchEncodingShape batch mappings = .ok ()
  · by_cases hcell : HasUnconvertibleCell context mappings batch
    · have hrejected := hunconvertible hshape hcell
      refine ⟨⟨fun h => ?_, fun h => absurd hshape h⟩, ⟨fun _ => ⟨hshape, hcell⟩, fun _ => hrejected⟩,
        fun _ _ => .inr (.inl hrejected)⟩
      cases rejectedIn_unique h hrejected
    · have hsent := hconvertible hshape hcell
      refine ⟨⟨fun h => ?_, fun h => absurd hshape h⟩, ⟨fun h => ?_, fun h => absurd h.2 hcell⟩,
        fun e he => .inr (.inr (hsent e he))⟩
      · exact absurd h (not_rejectedIn_of_sent (by decide) hsent)
      · exact absurd h (not_rejectedIn_of_sent (by decide) hsent)
  · have hrejected := hmisshapen hshape
    refine ⟨⟨fun _ => hshape, fun _ => hrejected⟩, ⟨fun h => ?_, fun h => absurd h.1 hshape⟩,
      fun _ _ => .inl hrejected⟩
    cases rejectedIn_unique h hrejected

theorem Classifies.rejectedIn_iff (h : Classifies context mappings batch writer run) {phase : WritePhase}
    (hphase : phase ≠ .packetWrite) : RejectedIn phase writer run ↔
      phase = .batchSchemaValidation ∧ validateRecordBatchEncodingShape batch mappings ≠ .ok () ∨
      phase = .valueConversion ∧ validateRecordBatchEncodingShape batch mappings = .ok () ∧
        HasUnconvertibleCell context mappings batch := by
  constructor
  · intro hrejected
    obtain ⟨e, hrun, he⟩ := hrejected
    have hrejected : RejectedIn phase writer run := ⟨e, hrun, he⟩
    rcases h.otherwise (.error e) (by rw [hrun]) with hshape | hcell | hsent
    · obtain rfl := rejectedIn_unique hrejected hshape
      exact .inl ⟨rfl, h.misshapen.mp hshape⟩
    · obtain rfl := rejectedIn_unique hrejected hcell
      exact .inr ⟨rfl, h.unconvertible.mp hcell⟩
    · obtain ⟨source, hsource⟩ := hsent
      cases hsource
      rw [Error.withWritePhase, Error.writePhase, Option.some.injEq] at he
      exact absurd he.symm hphase
  · rintro (⟨rfl, hshape⟩ | ⟨rfl, hcell⟩)
    · exact h.misshapen.mpr hshape
    · exact h.unconvertible.mpr hcell

end Classification

section Backends

variable [Driver] [Externals] {batch : RecordBatch} {mappings : List SchemaMapping}
  {context : RuntimeConversionContext} {encoder : DirectEncoder}

omit [Driver] in
theorem exists_shapeError (hshape : validateRecordBatchEncodingShape batch mappings ≠ .ok ()) :
    ∃ e, validateRecordBatchEncodingShape batch mappings = .error (.error e) ∧ RefusesShape e := by
  have hfails := refusesShape_validate batch mappings
  cases hvalidate : validateRecordBatchEncodingShape batch mappings with
  | ok u => exact absurd hvalidate hshape
  | error fault =>
    rw [hvalidate] at hfails
    cases hfails with
    | error he => exact ⟨_, rfl, he⟩

omit [Driver] in
theorem refusesValue_validateBatchRows (hencoder : DirectEncoder.newWithContext mappings context = .ok encoder)
    (hshape : validateRecordBatchEncodingShape batch mappings = .ok ()) :
    FailsWith RefusesValue (validateBatchRows ⟨batch, mappings, context⟩) := by
  apply failsWith_forEach (fun _ => True) _ trivial
  intro r hr _ _
  have hrow : r < batch.numRows := List.mem_range.mp hr
  refine ⟨failsWith_bind ?_ fun _ _ => failsWith_ok _, fun _ _ => trivial⟩
  simp only [RecordBatchView.mssqlRow, RecordBatchView.checkRowIndex, ensure_of hrow, ok_bind]
  apply failsWith_collect
  intro mapping hmem
  obtain ⟨i, hmapping⟩ := List.mem_iff_getElem?.mp hmem
  obtain ⟨array, harray, hindex, hcompatible⟩ := column_of_shape hshape hmapping
  obtain ⟨encoding, -, hencodes⟩ := planned_column hencoder hmapping
  have hcolumn : batch.columns[mapping.arrow.index]? = some array := hindex ▸ harray
  simp only [RecordBatchView.mssqlCell, RecordBatchView.arrowCell, RecordBatchView.checkRowIndex, ensure_of hrow,
    ok_bind, hcolumn, okOr_some]
  exact (refusesCell_convertCell hencodes hcompatible).mono fun _ => RefusesCell.refusesValue

theorem classifies_writeBatchToSink (hencoder : DirectEncoder.newWithContext mappings context = .ok encoder)
    {writer : BulkWriter} (hmappings : writer.state.mappings = mappings)
    (hcontext : writer.state.runtimeContext = context) :
    Classifies context mappings batch writer ((writeBatchToSink batch).run writer) := by
  have hview : recordBatchView batch writer.state = (do
      validateRecordBatchEncodingShape batch mappings
      pure ⟨batch, mappings, context⟩) := by
    rw [← hmappings, ← hcontext]
    rfl
  apply classifies_of_cases
  · intro hshape
    obtain ⟨e, he, -⟩ := exists_shapeError hshape
    rw [he] at hview
    exact ⟨_, writeBatchToSink_of_view_error hview, rfl⟩
  all_goals
    intro hshape hcells
    rw [hshape, ok_bind] at hview
  · have hfails := refusesValue_validateBatchRows hencoder hshape
    cases hvalid : validateBatchRows (⟨batch, mappings, context⟩ : RecordBatchView) with
    | ok u =>
      obtain ⟨r, hr, mapping, hmem, hcell⟩ := hcells
      obtain ⟨cells, hrow⟩ := validateBatchRows_eq_ok.mp hvalid r hr
      rw [RecordBatchView.mssqlRow, RecordBatchView.checkRowIndex, ensure_of hr, ok_bind] at hrow
      obtain ⟨cell, hcell'⟩ := collect_succeeds_iff.mp ⟨_, hrow⟩ mapping hmem
      exact absurd hcell' (hcell cell)
    | error fault =>
      rw [hvalid] at hfails
      cases hfails with
      | error he => exact ⟨_, writeBatchToSink_of_row_error hview hvalid, rfl⟩
  · intro e he
    have hvalid : validateBatchRows (⟨batch, mappings, context⟩ : RecordBatchView) = .ok () := by
      rw [validateBatchRows_eq_ok]
      intro r hr
      apply (mssqlRow_succeeds hshape hr).mpr
      intro i hi
      by_contra hnone
      rw [Option.not_isSome_iff_eq_none] at hnone
      exact hcells ((hasUnconvertibleCell_iff hshape).mpr ⟨r, hr, i, hi, hnone⟩)
    obtain ⟨rows, -, hensures⟩ := writeBatchToSink_ensures hview hvalid
    exact (hensures.error e _ (Prod.ext he rfl)).error

theorem classifies_writeDirectBatchToSink (hencoder : DirectEncoder.newWithContext mappings context = .ok encoder)
    {writer : BulkWriter} (hmappings : writer.state.mappings = mappings)
    (hcontext : writer.state.runtimeContext = context) (hsome : writer.state.directEncoder = some encoder)
    (hlimit : BinaryWithinLimit mappings) (hwire : WithinWireLimits mappings batch)
    (hcells : batch.numRows * mappings.length < 2 ^ 64) (haddressable : encodedLength context mappings batch < 2 ^ 64) :
    Classifies context mappings batch writer ((writeDirectBatchToSink batch).run writer) := by
  obtain ⟨hsame, -⟩ := newWithContext_eq_ok.mp hencoder
  have hrejected {e : Error} {phase : WritePhase} (he : encoder.measureBatch batch = .error (.error e))
      (hphase : (inferWritePhase e).writePhase = some phase) :
      RejectedIn phase writer ((writeDirectBatchToSink batch).run writer) :=
    ⟨_, writeDirectBatchToSink_of_measure_error hsome he, hphase⟩
  apply classifies_of_cases
  · intro hshape
    obtain ⟨e, he, hrefuses⟩ := exists_shapeError hshape
    apply hrejected _ (inferWritePhase_of_refusesShape hrefuses)
    rw [DirectEncoder.measureBatch, hsame, he]
    rfl
  · intro hshape hunconvertible
    obtain ⟨e, he, hrefuses⟩ := measureBatch_of_unconvertible hencoder hlimit hwire hshape hcells
      ((hasUnconvertibleCell_iff hshape).mp hunconvertible)
    exact hrejected he (inferWritePhase_of_refusesValue hrefuses)
  · intro hshape hconvertible e he
    have hsomeCell : ∀ r < batch.numRows, ∀ i < mappings.length, (batchCell context mappings batch r i).isSome := by
      intro r hr i hi
      by_contra hnone
      rw [Option.not_isSome_iff_eq_none] at hnone
      exact hconvertible ((hasUnconvertibleCell_iff hshape).mpr ⟨r, hr, i, hi, hnone⟩)
    rcases measureBatch_of_convertible hencoder hlimit hwire hshape hcells hsomeCell with ⟨m, hm⟩ | ⟨hlong, -⟩
    · obtain ⟨rows, -, hensures⟩ := writeDirectBatchToSink_ensures hsome (hmappings ▸ hcontext ▸ hencoder)
        (hmappings ▸ hlimit) hm
      exact (hensures.error e _ (Prod.ext he rfl)).error
    · omega

/-- Both backends reject the same batches before they send any of them, and in the same phase. -/
theorem backends_reject_alike (mappings : List SchemaMapping) (context : RuntimeConversionContext)
    (encoder : DirectEncoder) (batch : RecordBatch) (baseline direct : BulkWriter)
    (hencoder : DirectEncoder.newWithContext mappings context = .ok encoder)
    (hbaseline : baseline.state.mappings = mappings ∧ baseline.state.runtimeContext = context)
    (hdirect : direct.state.mappings = mappings ∧ direct.state.runtimeContext = context ∧
      direct.state.directEncoder = some encoder)
    (hlimit : BinaryWithinLimit mappings) (hwire : WithinWireLimits mappings batch)
    (hcells : batch.numRows * mappings.length < 2 ^ 64) (haddressable : encodedLength context mappings batch < 2 ^ 64) :
    Classifies context mappings batch baseline ((writeBatchToSink batch).run baseline) ∧
      Classifies context mappings batch direct ((writeDirectBatchToSink batch).run direct) ∧
      ∀ phase, phase ≠ .packetWrite → (RejectedIn phase baseline ((writeBatchToSink batch).run baseline) ↔
        RejectedIn phase direct ((writeDirectBatchToSink batch).run direct)) := by
  have hfirst := @classifies_writeBatchToSink _ _ batch mappings context encoder hencoder baseline hbaseline.1
    hbaseline.2
  have hsecond := classifies_writeDirectBatchToSink hencoder hdirect.1 hdirect.2.1 hdirect.2.2 hlimit hwire hcells
    haddressable
  refine ⟨hfirst, hsecond, ?_⟩
  intro phase hphase
  rw [hfirst.rejectedIn_iff hphase, hsecond.rejectedIn_iff hphase]

end Backends

section Sample

def idleWriter (backend : WriteBackend) (encoder : Option DirectEncoder) (context : RuntimeConversionContext)
    (mappings : List SchemaMapping) : @BulkWriter limitedLoad :=
  @BulkWriter.mk limitedLoad ⟨backend, encoder, .strict, context, mappings, {}⟩ (0 : ℕ) []

theorem one_row_addressable : 1 < 2 ^ 64 := by decide

theorem zero_fits : fitsSigned 32 0 := by decide

def nullIdBatch : RecordBatch where
  schema := [⟨"id", .int32, true⟩, ⟨"note", .binary, true⟩]
  numRows := 1
  columns := [⟨.int32, ⟨1, fun _ => true, fun _ => ⟨0, zero_fits⟩⟩⟩,
    ⟨.binary, ⟨1, fun _ => false, fun _ => [171, 205]⟩⟩]
  typed := rfl
  sized := by simp [ArrayRef.len]
  addressable := one_row_addressable

theorem nullIdBatch_withinWireLimits : @WithinWireLimits .silent sampleMappings nullIdBatch := by
  intro i mapping array hmapping harray r _ cell hcell
  obtain rfl | rfl | hi : i = 0 ∨ i = 1 ∨ 2 ≤ i := by omega
  · cases hmapping
    trivial
  · cases hmapping
    cases harray
    cases hcell
    exact (show 2 ≤ 0xfffe by decide)
  · rw [List.getElem?_eq_none hi] at hmapping
    cases hmapping

theorem backends_reject_alike_at_null_id :
    @RejectedIn limitedLoad .valueConversion (idleWriter .directRawBulk sampleEncoder ⟨sampleProfile, {}⟩ sampleMappings)
      ((@writeDirectBatchToSink limitedLoad .silent nullIdBatch).run
        (idleWriter .directRawBulk sampleEncoder ⟨sampleProfile, {}⟩ sampleMappings)) := by
  have halike := @backends_reject_alike limitedLoad .silent sampleMappings ⟨sampleProfile, {}⟩ sampleEncoder nullIdBatch
    (idleWriter .baselineTokenRow none ⟨sampleProfile, {}⟩ sampleMappings)
    (idleWriter .directRawBulk sampleEncoder ⟨sampleProfile, {}⟩ sampleMappings) rfl ⟨rfl, rfl⟩ ⟨rfl, rfl, rfl⟩
    (by decide) nullIdBatch_withinWireLimits (by decide) (by decide)
  exact (halike.2.2 .valueConversion (by decide)).mp ⟨_, rfl, rfl⟩

theorem textBatch_withinWireLimits {rows : ℕ} {h : rows < 2 ^ 64} {text : String}
    (hlength : (Tds.encodeUtf16 text).length ≤ 0xffffffff) :
    @WithinWireLimits .silent [textMapping] (textBatch rows h text) := by
  intro i mapping array hmapping harray r _ cell hcell
  obtain rfl | hi : i = 0 ∨ 1 ≤ i := by omega
  · cases hmapping
    cases harray
    cases hcell
    exact hlength
  · rw [List.getElem?_eq_none hi] at hmapping
    cases hmapping

def flagMapping : SchemaMapping := ⟨⟨0, "id", false, .boolean⟩, ⟨⟨"id", valid_id⟩, .bit, false⟩⟩

def otherFlagMapping : SchemaMapping := ⟨⟨1, "note", false, .boolean⟩, ⟨⟨"note", valid_note⟩, .bit, false⟩⟩

def nullFlagsBatch (rows : ℕ) (h : rows < 2 ^ 64) : RecordBatch where
  schema := [⟨"id", .boolean, true⟩, ⟨"note", .boolean, true⟩]
  numRows := rows
  columns := [⟨.boolean, ⟨rows, fun _ => true, fun _ => false⟩⟩, ⟨.boolean, ⟨rows, fun _ => true, fun _ => false⟩⟩]
  typed := rfl
  sized := by simp [ArrayRef.len]
  addressable := h

theorem nullFlagsBatch_panics [Externals] {rows : ℕ} (h : rows < 2 ^ 64) (hrows : 2 ^ 63 ≤ rows) {encoder : DirectEncoder}
    (hencoder : DirectEncoder.newWithContext [flagMapping, otherFlagMapping] textContext = .ok encoder) :
    encoder.measureBatch (nullFlagsBatch rows h) = .error .panic := by
  obtain ⟨hmappings, -⟩ := newWithContext_eq_ok.mp hencoder
  have hshape : validateRecordBatchEncodingShape (nullFlagsBatch rows h)
      [flagMapping, otherFlagMapping] = .ok () := rfl
  obtain ⟨bound, hbound, hcolumns, hcount, -⟩ := exists_bound hencoder hshape
  have hzero : (nullFlagsBatch rows h).numRows ≠ 0 := by
    change rows ≠ 0
    omega
  have hcells : ¬fitsUnsigned 64 ((rows * 2 : ℕ) : ℤ) := by
    rw [fitsUnsigned_64]
    omega
  have hpanics : (unsignedOp 64 ((rows * 2 : ℕ) : ℤ) : Result ℕ) = .error .panic := if_neg hcells
  have hmeasure : bound.measureCellLengths = .error .panic := by
    rw [BoundDirectBatch.measureCellLengths, hcount, if_neg hzero, hcolumns]
    exact congrArg (· >>= _) hpanics
  rw [DirectEncoder.measureBatch, hmappings, hshape, ok_bind, if_neg hzero, measureCellLengths, hbound, ok_bind,
    hmeasure]
  rfl

/-- Where the rows are not addressable, the direct backend rejects a batch that converts, in a phase of its own, and
panics on one that does not. -/
theorem unaddressable_batches_are_not_classified :
    (∃ context mapping encoder batch, @DirectEncoder.newWithContext .silent [mapping] context = .ok encoder ∧
      BinaryWithinLimit [mapping] ∧ @WithinWireLimits .silent [mapping] batch ∧
      ¬@Classifies .silent limitedLoad context [mapping] batch (idleWriter .directRawBulk encoder context [mapping])
        ((@writeDirectBatchToSink limitedLoad .silent batch).run
          (idleWriter .directRawBulk encoder context [mapping]))) ∧
    ∃ context mappings encoder batch, @DirectEncoder.newWithContext .silent mappings context = .ok encoder ∧
      BinaryWithinLimit mappings ∧ @WithinWireLimits .silent mappings batch ∧
      ¬@Classifies .silent limitedLoad context mappings batch (idleWriter .directRawBulk encoder context mappings)
        ((@writeDirectBatchToSink limitedLoad .silent batch).run
          (idleWriter .directRawBulk encoder context mappings)) := by
  constructor
  · obtain ⟨n, hn⟩ : ∃ n, n = 2 ^ 31 - 1 := ⟨_, rfl⟩
    obtain ⟨text, htext⟩ : ∃ text : String, (Tds.encodeUtf16 text).length = 2 * n :=
      ⟨String.ofList (List.replicate n 'a'), by
        rw [Tds.length_encodeUtf16, String.toList_ofList, length_encode_replicate]⟩
    obtain ⟨rows, hrows⟩ : ∃ rows, rows = 2 ^ 33 := ⟨_, rfl⟩
    have hlength : (Tds.encodeUtf16 text).length ≤ 0xffffffff := by omega
    have hrowsLt : rows < 2 ^ 64 := by omega
    obtain ⟨encoder, hencoder⟩ : ∃ encoder, @DirectEncoder.newWithContext .silent [textMapping] textContext =
        .ok encoder := ⟨_, rfl⟩
    refine ⟨textContext, textMapping, encoder, textBatch rows hrowsLt text, hencoder, by decide,
      textBatch_withinWireLimits hlength, ?_⟩
    intro hclassifies
    have hle := @le_encodedLength_textBatch rows hrowsLt text hlength
    rw [htext] at hle
    have hproduct : rows * (2 * n) = 2 ^ 33 * (2 * (2 ^ 31 - 1)) := by rw [hrows, hn]
    rcases @measureBatch_of_convertible .silent encoder (textBatch rows hrowsLt text) [textMapping] textContext hencoder
      (by decide) (textBatch_withinWireLimits hlength) textBatch_shape (by
        change rows * 1 < 2 ^ 64
        omega) (by
        intro r _ i hi
        obtain rfl : i = 0 := by simpa using hi
        rw [batchCell_textBatch]
        rfl) with hmeasured | ⟨-, e, he, hpayload⟩
    · have haddressable := (@exists_measureBatch .silent _ _ _ _ hencoder (by decide) textBatch_shape).mp hmeasured
      omega
    · have hrun := @writeDirectBatchToSink_of_measure_error limitedLoad .silent
        (idleWriter .directRawBulk encoder textContext [textMapping]) (textBatch rows hrowsLt text) encoder _ rfl he
      have hrejected := (@Classifies.rejectedIn_iff .silent _ _ _ limitedLoad _ _ hclassifies .directEncoding
        (by decide)).mp ⟨_, hrun, inferWritePhase_of_invalidPayload hpayload⟩
      rcases hrejected with ⟨hphase, -⟩ | ⟨hphase, -⟩ <;> cases hphase
  · obtain ⟨rows, hrows⟩ : ∃ rows, rows = 2 ^ 63 := ⟨_, rfl⟩
    have hrowsLt : rows < 2 ^ 64 := by omega
    obtain ⟨encoder, hencoder⟩ : ∃ encoder, @DirectEncoder.newWithContext .silent [flagMapping, otherFlagMapping]
        textContext = .ok encoder := ⟨_, rfl⟩
    have hflag {mapping : SchemaMapping} (hbit : mapping.mssql.ty = .bit) (array : ArrayRef) :
        @ColumnWithinWireLimit .silent mapping array := by
      intro r hr cell hcell
      rw [hbit]
      trivial
    refine ⟨textContext, [flagMapping, otherFlagMapping], encoder, nullFlagsBatch rows hrowsLt, hencoder, by decide, ?_, ?_⟩
    · intro i mapping array hmapping _
      obtain rfl | rfl | hi : i = 0 ∨ i = 1 ∨ 2 ≤ i := by omega
      · cases hmapping
        exact hflag rfl array
      · cases hmapping
        exact hflag rfl array
      · rw [List.getElem?_eq_none hi] at hmapping
        cases hmapping
    · intro hclassifies
      have hpanics := @nullFlagsBatch_panics .silent _ hrowsLt hrows.ge _ hencoder
      have hrun := @writeDirectBatchToSink_of_measure_error limitedLoad .silent
        (idleWriter .directRawBulk encoder textContext [flagMapping, otherFlagMapping]) (nullFlagsBatch rows hrowsLt)
        encoder _ rfl hpanics
      rcases @Classifies.otherwise .silent limitedLoad _ _ _ _ _ hclassifies .panic (by rw [hrun]; rfl) with
        ⟨e, he, -⟩ | ⟨e, he, -⟩ | ⟨e, he⟩
      · rw [hrun] at he
        cases he
      · rw [hrun] at he
        cases he
      · cases he

end Sample

end ArrowTiberius.Writer
