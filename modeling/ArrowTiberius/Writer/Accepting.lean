import ArrowTiberius.Direct.RowDecoder
import ArrowTiberius.Writer.Sending

namespace ArrowTiberius.Writer

open Checked Direct Session Splitting Tiling

variable [Driver] [Externals]

/-- A call that went well: the rows are handed over and counted. -/
structure Accepted (encoder : Option DirectEncoder) (writer writer' : BulkWriter) (batch : RecordBatch)
    (rows : List (List MssqlCell)) (stats : WriteStats) : Prop where
  stats_eq : stats = writer.state.stats.recordAcceptedBatch batch.numRows
  state : writer'.state = { writer.state with stats }
  handed : ∃ items, writer'.handed = writer.handed ++ items ∧
    handedRows encoder items = some rows ∧ ∀ item ∈ items, item.Sendable

/-- A call the driver stopped: the rows handed over are the first ones, and nothing is counted. -/
structure Interrupted (encoder : Option DirectEncoder) (writer writer' : BulkWriter) (rows : List (List MssqlCell))
    (e : Fault Error) : Prop where
  error : IsPacketWriteError e
  unreliable : ¬Reliable
  state : writer'.state = writer.state
  handed : ∃ items sent, writer'.handed = writer.handed ++ items ∧
    handedRows encoder items = some sent ∧ sent <+: rows ∧ ∀ item ∈ items, item.Sendable

variable {writer writer' : BulkWriter} {batch : RecordBatch}

omit [Externals] in
theorem recordAcceptedBatch_ensures (rows : ℕ) {E : Fault Error → BulkWriter → Prop} :
    (recordAcceptedBatch rows).Ensures writer
      (fun stats writer' => stats = writer.state.stats.recordAcceptedBatch rows ∧
        writer' = { writer with state := { writer.state with stats } }) E :=
  Ensures.bind (ensures_get (Ensures.bind (ensures_set (ensures_pure ⟨rfl, rfl⟩))))

omit [Driver] [Externals] in
theorem usizeToU64Saturating_numRows (batch : RecordBatch) :
    usizeToU64Saturating batch.numRows = batch.numRows := if_pos batch.addressable

omit [Externals] in
theorem hand_and_record_ensures {encoder : Option DirectEncoder} {ι : Type} {xs : List ι}
    {body : ι → Session BulkWriter Error Unit} {part : ι → List (List MssqlCell)} (hbody : ∀ x ∈ xs,
      ∀ writer' : BulkWriter, (body x).Ensures writer'
      (fun _ writer'' => ∃ item, item.Holds encoder (part x) ∧ Sent writer' writer'' [item])
      (fun e writer'' => (IsPacketWriteError e ∧ ¬Reliable) ∧ ∃ item,
        item.Holds encoder (part x) ∧ Stopped writer' writer'' item)) :
    (each xs body >>= fun _ => recordAcceptedBatch (usizeToU64Saturating batch.numRows)).Ensures writer
      (fun stats writer' => Accepted encoder writer writer' batch (xs.flatMap part) stats)
      (fun e writer' => Interrupted encoder writer writer' (xs.flatMap part) e) := by
  apply Ensures.bind
  apply (each_ensures hbody).mono
  · rintro _ writer' ⟨items, hitems, hstate, hhanded⟩
    apply (recordAcceptedBatch_ensures _).mono
    · rintro stats _ ⟨hstats, rfl⟩
      rw [usizeToU64Saturating_numRows, hstate] at hstats
      exact ⟨hstats, by rw [hstate], items, hhanded, handedRows_of_forall₂ hitems⟩
    · exact fun _ _ h => h
  · rintro e writer' ⟨⟨he, hunreliable⟩, done, items, ⟨rest, rfl⟩, hitems, hstate, hhanded⟩
    obtain ⟨hread, hsendable⟩ := handedRows_of_forall₂ hitems
    refine ⟨he, hunreliable, hstate, items, _, hhanded, hread, ?_, hsendable⟩
    rw [List.flatMap_append]
    exact List.prefix_append _ _

section Baseline

variable {view : RecordBatchView}

omit [Driver] in
theorem validateBatchRows_eq_ok : validateBatchRows view = .ok () ↔
    ∀ r < view.batch.numRows, ∃ cells, view.mssqlRow r = .ok cells := by
  simp only [validateBatchRows, forEach_unit_eq_ok, List.mem_range, bind_eq_ok, pure_eq_ok, and_true]

theorem sendRow_ensures {r : ℕ} {row : TokenRow} (hrow : tiberiusRowOwned view r = .ok row) :
    (sendRow view r).Ensures writer
      (fun _ writer' => Sent writer writer' [.tokenRow row])
      (fun e writer' => (IsPacketWriteError e ∧ ¬Reliable) ∧ Stopped writer writer' (.tokenRow row)) := by
  apply Ensures.bind
  apply Ensures.withError
  apply ensures_lift_ok hrow
  apply Ensures.withError
  apply (sendTokenRow_ensures row).mono
  · exact fun _ _ h => h
  · rintro _ writer' ⟨⟨⟨source, rfl⟩, hunreliable⟩, hstopped⟩
    exact ⟨⟨⟨source, rfl⟩, hunreliable⟩, hstopped⟩

theorem writeBatchToSink_ensures (hview : recordBatchView batch writer.state = .ok view)
    (hvalid : validateBatchRows view = .ok ()) : ∃ rows : ℕ → List MssqlCell,
      (∀ r < batch.numRows, view.mssqlRow r = .ok (rows r)) ∧
      (writeBatchToSink batch).Ensures writer
        (fun stats writer' => Accepted none writer writer' batch ((List.range batch.numRows).map rows) stats)
        (fun e writer' => Interrupted none writer writer' ((List.range batch.numRows).map rows) e) := by
  obtain rfl : view = ⟨batch, writer.state.mappings, writer.state.runtimeContext⟩ := view_eq hview
  have hrows (r : ℕ) : ∃ cells, r < batch.numRows →
      (⟨batch, writer.state.mappings, writer.state.runtimeContext⟩ : RecordBatchView).mssqlRow r = .ok cells := by
    by_cases hr : r < batch.numRows
    · obtain ⟨cells, hcells⟩ := validateBatchRows_eq_ok.mp hvalid r hr
      exact ⟨cells, fun _ => hcells⟩
    · exact ⟨[], fun h => absurd h hr⟩
  choose rows hrows using hrows
  have hloop := @hand_and_record_ensures _ writer batch none _ (List.range batch.numRows)
    (sendRow ⟨batch, writer.state.mappings, writer.state.runtimeContext⟩) (fun r => [rows r])
    (by
      intro r hr writer'
      have hcells := hrows r (List.mem_range.mp hr)
      obtain ⟨row, hrow⟩ := exists_tiberiusRowOwned hcells
      have hsame : row.map ColumnData.cell = rows r :=
        Except.ok.inj ((mssqlRow_of_tiberiusRowOwned hrow).symm.trans hcells)
      have hread : (Handed.tokenRow row).Holds none [rows r] :=
        ⟨by rw [Handed.rows, hsame], trivial⟩
      apply (sendRow_ensures hrow).mono
      · exact fun _ _ h => ⟨_, hread, h⟩
      · exact fun _ _ h => ⟨h.1, _, hread, h.2⟩)
  rw [← List.map_eq_flatMap] at hloop
  refine ⟨rows, hrows, Ensures.bind (ensures_get ?_)⟩
  apply Ensures.bind
  apply Ensures.withError
  apply ensures_lift_ok hview
  apply Ensures.bind
  apply Ensures.withError
  apply ensures_lift_ok hvalid
  exact hloop

end Baseline

section DirectBackend

variable {encoder : DirectEncoder} {m : MeasuredDirectBatch} {bound : BoundDirectBatch}
  {mappings : List SchemaMapping} {context : RuntimeConversionContext}

omit [Driver] in
theorem exists_measuredRows (hencoder : DirectEncoder.newWithContext mappings context = .ok encoder)
    (h : MeasuredAs encoder mappings batch m bound) : ∃ rows : ℕ → List MssqlCell, ∀ r < batch.numRows,
      (⟨batch, mappings, context⟩ : RecordBatchView).mssqlRow r = .ok (rows r) ∧
      (rows r).length = encoder.plan.columns.length ∧
      ∀ (i : ℕ) column cell, encoder.plan.columns[i]? = some column → (rows r)[i]? = some cell →
        Written column cell (bound.bytes r i) := by
  obtain ⟨bound', hbound, hcolumns, hcount, hbytes⟩ := exists_bound hencoder h.shape
  obtain rfl := Except.ok.inj (h.binds.symm.trans hbound)
  simp only [BoundDirectBatch.bytes, hbytes]
  apply exists_rows hencoder h.shape
  intro r hr i hi
  rw [← hbytes]
  exact h.accepts r (hcount ▸ hr) i (hcolumns ▸ hi)

omit [Driver] in
theorem exists_rangePayload (hencoder : DirectEncoder.newWithContext mappings context = .ok encoder)
    (hlimit : BinaryWithinLimit mappings) (h : MeasuredAs encoder mappings batch m bound) {rows : ℕ → List MssqlCell}
    (hrows : ∀ r < batch.numRows, (rows r).length = encoder.plan.columns.length ∧
      ∀ (i : ℕ) column cell, encoder.plan.columns[i]? = some column → (rows r)[i]? = some cell →
        Written column cell (bound.bytes r i)) {range : MeasuredRowRange}
    (hle : range.start + range.len ≤ batch.numRows) : ∃ payload, RangePayload encoder batch m range payload ∧
      Handed.rows (some encoder) (.rawRows payload.bytes payload.rowTokenOffsets) =
        some ((List.range' range.start range.len).map rows) ∧
      payload.bytes.length = weight (rowLength bound.columns.length rowTokenLen bound.cellLength) range.start
        range.len := by
  obtain ⟨payload, hholds⟩ := exists_holdsRows range.len bound.columns.length fun r => bound.bytes (range.start + r)
  have hpayloadLen := rangePayloadLen_eq_ok h hle hholds
  have hweight := h.measures.rangePayloadLen_eq_weight (h.rows.symm ▸ hle)
  rw [hpayloadLen, Except.ok.injEq] at hweight
  have hcount : payload.rowTokenOffsets.length = range.len := by
    rw [hholds.tokens, List.length_map, List.length_range]
  have hlength : ((List.range range.len).map fun r => rows (range.start + r)).length = range.len := by
    rw [List.length_map, List.length_range]
  have hread : encoder.plan.decodePayload payload.bytes =
      some (payload.rowTokenOffsets.zip ((List.range range.len).map fun r => rows (range.start + r))) := by
    rw [h.columns] at hholds
    apply decodePayload_of_holdsRows _ _ hholds
    · intro r hr
      exact (hrows (range.start + r) (by omega)).1
    · intro r hr
      exact (hrows (range.start + r) (by omega)).2
  refine ⟨payload, ⟨hpayloadLen, encodeMeasuredBatchRange_eq_ok hencoder hlimit h hle hholds,
    encodeMeasuredBatchRangeInto_eq_ok hencoder hlimit h hle hholds, hcount⟩, ?_, hweight⟩
  simp only [Handed.rows, Option.bind_eq_bind, hread, Option.bind_some]
  rw [List.map_fst_zip (by omega), if_pos rfl, List.map_snd_zip (by omega), List.range'_eq_map_range, List.map_map]
  rfl

theorem writeDirectBatchToSink_ensures (hsome : writer.state.directEncoder = some encoder)
    (hencoder : DirectEncoder.newWithContext writer.state.mappings writer.state.runtimeContext = .ok encoder)
    (hlimit : BinaryWithinLimit writer.state.mappings) (hm : encoder.measureBatch batch = .ok m) :
    ∃ rows : ℕ → List MssqlCell, (∀ r < batch.numRows,
      (⟨batch, writer.state.mappings, writer.state.runtimeContext⟩ : RecordBatchView).mssqlRow r = .ok (rows r)) ∧
      (writeDirectBatchToSink batch).Ensures writer
        (fun stats writer' => Accepted (some encoder) writer writer' batch ((List.range batch.numRows).map rows) stats)
        (fun e writer' => Interrupted (some encoder) writer writer' ((List.range batch.numRows).map rows) e) := by
  obtain ⟨bound, h⟩ := exists_measuredAs hencoder hlimit hm
  obtain ⟨rows, hrows⟩ := exists_measuredRows hencoder h
  obtain ⟨ranges, hranges, hconsecutive, hfits, -⟩ :=
    h.measures.rowRanges_of_pos (show 0 < directRawMaxPayloadBytes by decide)
  rw [h.rows] at hconsecutive
  have hrowCount : m.rowCount = batch.numRows := h.measures.rowCount.trans h.rows
  have hloop := @hand_and_record_ensures _ writer batch (some encoder) _ ranges
    (fun range => (sendMeasuredRawRows encoder batch m range).withError inferWritePhase)
    (fun range => (List.range' range.start range.len).map rows)
    (by
      intro range hrange writer'
      obtain ⟨payload, hpayload, hread, hweight⟩ := exists_rangePayload hencoder hlimit h
        (fun r hr => (hrows r hr).2) (hconsecutive.stop_le range hrange)
      have hsendable : (Handed.rawRows payload.bytes payload.rowTokenOffsets).Sendable := by
        refine ⟨payload.tokens, ?_⟩
        rw [hweight, hpayload.count]
        exact hfits range hrange
      apply Ensures.withError
      apply (sendMeasuredRawRows_ensures hpayload).mono
      · exact fun _ _ h => ⟨_, ⟨hread, hsendable⟩, h⟩
      · rintro _ writer'' ⟨⟨⟨source, rfl⟩, hunreliable⟩, hstopped⟩
        exact ⟨⟨⟨source, rfl⟩, hunreliable⟩, _, ⟨hread, hsendable⟩, hstopped⟩)
  rw [← List.map_flatMap, hconsecutive.rows_eq, Nat.sub_zero, ← List.range_eq_range'] at hloop
  refine ⟨rows, fun r hr => (hrows r hr).1, Ensures.bind (ensures_get ?_)⟩
  apply Ensures.bind
  apply Ensures.withError
  apply ensures_lift_ok (okOr_eq_ok.mpr hsome)
  apply Ensures.bind
  apply Ensures.withError
  apply ensures_lift_ok hm
  apply Ensures.bind
  apply Ensures.withError
  apply ensures_lift_ok hranges
  rw [hrowCount]
  exact hloop

end DirectBackend

end ArrowTiberius.Writer
