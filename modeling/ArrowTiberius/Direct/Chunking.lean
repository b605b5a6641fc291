import ArrowTiberius.Direct.AppendRows
import ArrowTiberius.Direct.BatchSemantics
import ArrowTiberius.Direct.Rows.LaidOutRows
import ArrowTiberius.Direct.RowRanges
import ArrowTiberius.Direct.Slicing

namespace ArrowTiberius.Direct

open Checked Tiling

def shiftedOffsets : ℕ → List EncodedRowsPayload → List ℕ
  | _, [] => []
  | base, payload :: payloads =>
    payload.rowTokenOffsets.map (base + ·) ++ shiftedOffsets (base + payload.bytes.length) payloads

theorem HoldsRows.length {rows columns : ℕ} {cell : ℕ → ℕ → List UInt8} {payload : EncodedRowsPayload}
    (h : HoldsRows rows columns cell payload) :
    payload.bytes.length = rowStart columns rowTokenLen (fun r c => (cell r c).length) rows := by
  rw [h.bytes]
  exact length_grid fun _ _ _ _ => rfl

section Concatenation

variable {columns a b : ℕ} {ranges : List MeasuredRowRange} {cell : ℕ → ℕ → List UInt8}
  {payloads : List EncodedRowsPayload}

theorem concat_bytes (h : Consecutive a ranges b)
    (hholds : List.Forall₂ (fun range payload =>
      HoldsRows range.len columns (fun r => cell (range.start + r)) payload) ranges payloads) :
    payloads.flatMap EncodedRowsPayload.bytes = grid (b - a) columns [tdsRowToken] fun r => cell (a + r) := by
  induction hholds generalizing a with
  | nil =>
    cases h
    rw [Nat.sub_self]
    rfl
  | @cons range payload ranges payloads hfirst _ ih =>
    obtain ⟨rfl, -, hrest⟩ := h
    have hle := hrest.le
    have hsum : b - range.start = range.len + (b - (range.start + range.len)) := by omega
    rw [List.flatMap_cons, ih hrest, hfirst.bytes, hsum, grid_add]
    simp only [Nat.add_assoc]

theorem concat_tokens (h : Consecutive a ranges b)
    (hholds : List.Forall₂ (fun range payload =>
      HoldsRows range.len columns (fun r => cell (range.start + r)) payload) ranges payloads) (base : ℕ) :
    shiftedOffsets base payloads = (List.range (b - a)).map fun r =>
      base + rowStart columns rowTokenLen (fun i c => (cell (a + i) c).length) r := by
  induction hholds generalizing a base with
  | nil =>
    cases h
    rw [Nat.sub_self]
    rfl
  | @cons range payload ranges payloads hfirst _ ih =>
    obtain ⟨rfl, -, hrest⟩ := h
    have hle := hrest.le
    have hsum : b - range.start = range.len + (b - (range.start + range.len)) := by omega
    rw [shiftedOffsets, ih hrest, hfirst.tokens, hfirst.length, hsum, List.range_add, List.map_append, List.map_map,
      List.map_map]
    refine congrArg₂ (· ++ ·) rfl (List.map_congr_left fun r _ => ?_)
    simp only [Function.comp_apply, rowStart_add, Nat.add_assoc]

end Concatenation

variable [Externals] {mappings : List SchemaMapping} {context : RuntimeConversionContext} {encoder : DirectEncoder}
  {batch : RecordBatch} {m : MeasuredDirectBatch} {bound : BoundDirectBatch}

/-- A batch as the encoder has bound and measured it. -/
structure MeasuredAs (encoder : DirectEncoder) (mappings : List SchemaMapping) (batch : RecordBatch)
    (m : MeasuredDirectBatch) (bound : BoundDirectBatch) : Prop where
  shape : validateRecordBatchEncodingShape batch mappings = .ok ()
  binds : BoundDirectBatch.new encoder batch = .ok bound
  columns : bound.columns.length = encoder.plan.columnCount
  rows : bound.rowCount = batch.numRows
  accepts : bound.Accepts
  fits : bound.Fits
  measures : Measures bound.rowCount bound.columns.length bound.cellLength m

theorem exists_measuredAs (hencoder : DirectEncoder.newWithContext mappings context = .ok encoder)
    (hlimit : BinaryWithinLimit mappings) (hm : encoder.measureBatch batch = .ok m) :
    ∃ bound, MeasuredAs encoder mappings batch m bound := by
  have hshape := shape_of_measureBatch hencoder hm
  obtain ⟨bound, hbound, hcolumns, hrows, hbytes⟩ := exists_bound hencoder hshape
  obtain ⟨hall, hfits, hmeasures⟩ := (measureBatch_eq_ok hencoder hlimit hshape).mp hm
  have hlength : batchLength context mappings batch = bound.cellLength := by
    funext r i
    rw [BoundDirectBatch.cellLength, BoundDirectBatch.bytes, hbytes, batchLength]
  rw [encodedLength, hlength, ← hcolumns, ← hrows] at hfits
  rw [hlength, ← hcolumns, ← hrows] at hmeasures
  refine ⟨bound, hshape, hbound, hcolumns.trans (length_planColumns hencoder).symm, hrows, fun r hr i hi => ?_,
    ⟨hfits, hmeasures.addressable⟩, hmeasures⟩
  rw [hbytes]
  exact hall r (hrows ▸ hr) i (hcolumns ▸ hi)

theorem MeasuredAs.checkMeasured (h : MeasuredAs encoder mappings batch m bound) :
    encoder.checkMeasured batch m = .ok () := by
  rw [DirectEncoder.checkMeasured, ensure_of (h.measures.rowCount.trans h.rows), ok_bind,
    ensure_of (h.measures.columnCount.trans h.columns)]

section Range

variable {start count : ℕ} {payload : EncodedRowsPayload} {fastPath : FixedWidth.FastPath}

omit [Externals] in
theorem sliceBatch_of_le (h : start + count ≤ batch.numRows) :
    sliceBatch batch start count = .ok (batch.slice start count h) := dif_pos h

theorem slice_writes (h : HoldsRows count bound.columns.length (fun r => bound.bytes (start + r)) payload) :
    (bound.slice start count).Writes payload := by
  rw [BoundDirectBatch.Writes, BoundDirectBatch.length_columns_slice]
  exact h.congr fun r _ c _ => (bound.bytes_slice start count r c).symm

theorem encodeMeasuredBatchRange_eq_ok (hencoder : DirectEncoder.newWithContext mappings context = .ok encoder)
    (hlimit : BinaryWithinLimit mappings) (h : MeasuredAs encoder mappings batch m bound)
    (hle : start + count ≤ batch.numRows)
    (hholds : HoldsRows count bound.columns.length (fun r => bound.bytes (start + r)) payload) :
    encoder.encodeMeasuredBatchRange fastPath batch m start count = .ok payload := by
  have hinside : start + count ≤ bound.rowCount := h.rows ▸ hle
  have hnew := boundBatch_new_slice hle h.binds
  obtain ⟨layout, hlayout, hlays⟩ := h.measures.rangeLayout_of_le hinside
  rw [DirectEncoder.encodeMeasuredBatchRange, (h.measures.checkRange_eq_ok (u := ())).mpr hinside, ok_bind]
  by_cases hcount : count = 0
  · subst hcount
    rw [if_pos rfl]
    exact new_empty.mpr hholds
  · rw [if_neg hcount, h.checkMeasured, ok_bind, sliceBatch_of_le hle, ok_bind, hnew, ok_bind, hlayout, ok_bind]
    refine (FixedWidth.encodeLaidOutRows_eq_ok hencoder hlimit hnew (h.accepts.slice hinside) (h.fits.slice hinside)
      hcount ?_).mpr (slice_writes hholds)
    rw [BoundDirectBatch.length_columns_slice, BoundDirectBatch.cellLength_slice]
    exact hlays

theorem encodeMeasuredBatchRangeInto_eq_ok (hencoder : DirectEncoder.newWithContext mappings context = .ok encoder)
    (hlimit : BinaryWithinLimit mappings) (h : MeasuredAs encoder mappings batch m bound)
    (hle : start + count ≤ batch.numRows)
    (hholds : HoldsRows count bound.columns.length (fun r => bound.bytes (start + r)) payload) (buf : List UInt8) :
    encoder.encodeMeasuredBatchRangeInto batch m start count buf =
      .ok (payload.rowTokenOffsets, buf ++ payload.bytes) := by
  have hinside : start + count ≤ bound.rowCount := h.rows ▸ hle
  have hrows := batch.addressable
  rw [DirectEncoder.encodeMeasuredBatchRangeInto, (h.measures.checkRange_eq_ok (u := ())).mpr hinside, ok_bind,
    h.checkMeasured, ok_bind,
    h.binds, ok_bind, checkedAdd_of_lt (by omega), okOr_some, ok_bind, Nat.add_sub_cancel_left,
    (lawful_of_new hencoder hlimit h.binds).appendRows_eq_ok h.accepts h.measures hinside buf, ok_bind, pure_eq_ok,
    hholds.bytes, hholds.tokens]
  rfl

theorem rangePayloadLen_eq_ok (h : MeasuredAs encoder mappings batch m bound) (hle : start + count ≤ batch.numRows)
    (hholds : HoldsRows count bound.columns.length (fun r => bound.bytes (start + r)) payload) :
    m.rangePayloadLen start count = .ok payload.bytes.length := by
  have hinside : start + count ≤ bound.rowCount := h.rows ▸ hle
  rw [h.measures.rangePayloadLen_of_le hinside, hholds.length]
  rfl

theorem encodeBatchRange_eq_ok (hencoder : DirectEncoder.newWithContext mappings context = .ok encoder)
    (hlimit : BinaryWithinLimit mappings) (h : MeasuredAs encoder mappings batch m bound)
    (hle : start + count ≤ batch.numRows)
    (hholds : HoldsRows count bound.columns.length (fun r => bound.bytes (start + r)) payload) :
    encoder.encodeBatchRange fastPath batch start count = .ok payload := by
  have hinside : start + count ≤ bound.rowCount := h.rows ▸ hle
  have hrows := batch.addressable
  rw [DirectEncoder.encodeBatchRange, checkedAdd_of_lt (by omega), okOr_some, ok_bind, ensure_of (by omega), ok_bind,
    sliceBatch_of_le hle, ok_bind]
  exact (encodeBatch_eq_ok hencoder hlimit (shape_slice hle h.shape) (boundBatch_new_slice hle h.binds)).mpr
    ⟨h.accepts.slice hinside, h.fits.slice hinside, slice_writes hholds⟩

end Range

/-- Every encoder gives the same payload for a range of rows, of the measured length. -/
def EncodesRange (encoder : DirectEncoder) (batch : RecordBatch) (m : MeasuredDirectBatch) (range : MeasuredRowRange)
    (payload : EncodedRowsPayload) : Prop :=
  (∀ fastPath, encoder.encodeMeasuredBatchRange fastPath batch m range.start range.len = .ok payload) ∧
  (∀ buf, encoder.encodeMeasuredBatchRangeInto batch m range.start range.len buf =
    .ok (payload.rowTokenOffsets, buf ++ payload.bytes)) ∧
  m.rangePayloadLen range.start range.len = .ok payload.bytes.length ∧
  ∀ fastPath, encoder.encodeBatchRange fastPath batch range.start range.len = .ok payload

/-- A measured batch is encoded, in ranges of rows as in one piece. -/
theorem chunking_is_invisible (mappings : List SchemaMapping) (context : RuntimeConversionContext)
    (encoder : DirectEncoder) (batch : RecordBatch) (m : MeasuredDirectBatch) (limit : ℕ)
    (hencoder : DirectEncoder.newWithContext mappings context = .ok encoder) (hlimit : BinaryWithinLimit mappings)
    (hm : encoder.measureBatch batch = .ok m) (hpos : 0 < limit) :
    ∃ ranges payloads whole, m.rowRanges limit = .ok ranges ∧
      List.Forall₂ (EncodesRange encoder batch m) ranges payloads ∧
      (∀ fastPath, encoder.encodeBatch fastPath batch = .ok whole) ∧
      whole.bytes.length = m.payloadLen ∧
      whole.bytes = payloads.flatMap EncodedRowsPayload.bytes ∧
      whole.rowTokenOffsets = shiftedOffsets 0 payloads := by
  obtain ⟨bound, h⟩ := exists_measuredAs hencoder hlimit hm
  obtain ⟨ranges, hranges, hconsecutive, -⟩ := h.measures.rowRanges_of_pos hpos
  obtain ⟨whole, hwhole⟩ := exists_holdsRows bound.rowCount bound.columns.length bound.bytes
  have hpayloads : ∃ payloads, List.Forall₂ (fun range payload =>
      HoldsRows range.len bound.columns.length (fun r => bound.bytes (range.start + r)) payload) ranges payloads := by
    clear hranges hconsecutive
    induction ranges with
    | nil => exact ⟨[], .nil⟩
    | cons range ranges ih =>
      obtain ⟨payloads, hpayloads⟩ := ih
      obtain ⟨payload, hpayload⟩ := exists_holdsRows range.len bound.columns.length fun r => bound.bytes (range.start + r)
      exact ⟨payload :: payloads, .cons hpayload hpayloads⟩
  obtain ⟨payloads, hpayloads⟩ := hpayloads
  have hstart : (fun r => bound.bytes (0 + r)) = bound.bytes := by
    funext r
    rw [Nat.zero_add]
  refine ⟨ranges, payloads, whole, hranges, ?_, ?_, ?_, ?_, ?_⟩
  · have hinside := hconsecutive.stop_le
    clear hranges hconsecutive
    induction hpayloads with
    | nil => exact .nil
    | @cons range payload ranges payloads hfirst _ ih =>
      have hle : range.start + range.len ≤ batch.numRows := h.rows ▸ hinside range List.mem_cons_self
      refine .cons ⟨?_, ?_, ?_, ?_⟩ (ih fun range hrange => hinside range (List.mem_cons_of_mem _ hrange))
      · exact fun _ => encodeMeasuredBatchRange_eq_ok hencoder hlimit h hle hfirst
      · exact encodeMeasuredBatchRangeInto_eq_ok hencoder hlimit h hle hfirst
      · exact rangePayloadLen_eq_ok h hle hfirst
      · exact fun _ => encodeBatchRange_eq_ok hencoder hlimit h hle hfirst
  · intro fastPath
    exact (encodeBatch_eq_ok hencoder hlimit h.shape h.binds).mpr ⟨h.accepts, h.fits, hwhole⟩
  · rw [hwhole.length, h.measures.payloadLen]
    rfl
  · rw [hwhole.bytes, concat_bytes hconsecutive hpayloads, hstart, Nat.sub_zero]
  · rw [hwhole.tokens, concat_tokens hconsecutive hpayloads, Nat.sub_zero]
    simp only [Nat.zero_add]

omit [Externals] in
theorem chunking_is_invisible_at_sample : ∃ first second whole : EncodedRowsPayload,
    (⟨2, 2, [4, 4, 4, 2], [9, 7], 16⟩ : MeasuredDirectBatch).rowRanges 10 = .ok [⟨0, 1⟩, ⟨1, 1⟩] ∧
      @EncodesRange .silent sampleEncoder sampleBatch ⟨2, 2, [4, 4, 4, 2], [9, 7], 16⟩ ⟨0, 1⟩ first ∧
      @EncodesRange .silent sampleEncoder sampleBatch ⟨2, 2, [4, 4, 4, 2], [9, 7], 16⟩ ⟨1, 1⟩ second ∧
      @DirectEncoder.encodeBatch .silent {} sampleEncoder sampleBatch = .ok whole ∧
      first.bytes = [0xd1, 7, 0, 0, 0, 2, 0, 171, 205] ∧ second.bytes = [0xd1, 7, 0, 0, 0, 0xff, 0xff] ∧
      whole.bytes = first.bytes ++ second.bytes ∧ whole.rowTokenOffsets = [0, 9] := by
  obtain ⟨ranges, payloads, whole, hranges, hpayloads, hwhole, -, hbytes, hoffsets⟩ := @chunking_is_invisible .silent
    sampleMappings ⟨sampleProfile, {}⟩ sampleEncoder sampleBatch ⟨2, 2, [4, 4, 4, 2], [9, 7], 16⟩ 10 rfl (by decide) rfl
    (by decide)
  obtain rfl : [⟨0, 1⟩, ⟨1, 1⟩] = ranges := Except.ok.inj hranges
  obtain _ | @⟨_, first, _, _, hfirst, _ | @⟨_, second, _, _, hsecond, _ | _⟩⟩ := hpayloads
  obtain ⟨hfirstOffsets, hfirstBytes⟩ : [0] = first.rowTokenOffsets ∧
      [0xd1, 7, 0, 0, 0, 2, 0, 171, 205] = first.bytes := Prod.ext_iff.mp (Except.ok.inj (hfirst.2.1 []))
  obtain ⟨hsecondOffsets, hsecondBytes⟩ : [0] = second.rowTokenOffsets ∧
      [0xd1, 7, 0, 0, 0, 0xff, 0xff] = second.bytes := Prod.ext_iff.mp (Except.ok.inj (hsecond.2.1 []))
  refine ⟨first, second, whole, hranges, hfirst, hsecond, hwhole {}, hfirstBytes.symm, hsecondBytes.symm, ?_, ?_⟩
  · rw [hbytes, List.flatMap_cons, List.flatMap_singleton]
  · rw [hoffsets, shiftedOffsets, shiftedOffsets, shiftedOffsets, ← hfirstOffsets, ← hsecondOffsets, ← hfirstBytes]
    rfl

end ArrowTiberius.Direct
