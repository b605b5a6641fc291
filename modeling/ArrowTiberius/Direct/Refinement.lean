import ArrowTiberius.Direct.Chunking

namespace ArrowTiberius.Direct

open Checked Tiling

def rowBytes (mappings : List SchemaMapping) (row : List MssqlCell) (columnIndex : ℕ) : List UInt8 :=
  match mappings[columnIndex]?, row[columnIndex]? with
  | some mapping, some cell => Tds.encodeCell (Tds.framingOf mapping.mssql.ty mapping.mssql.nullable) cell
  | _, _ => []

variable [Externals]

section Rows

variable {encoder : DirectEncoder} {batch : RecordBatch} {mappings : List SchemaMapping}
  {context : RuntimeConversionContext} {view : RecordBatchView} {r : ℕ} {row : List MssqlCell}

theorem view_eq (hview : RecordBatchView.newWithContext batch mappings context = .ok view) :
    view = ⟨batch, mappings, context⟩ := by
  obtain ⟨_, -, hview⟩ := bind_eq_ok.mp hview
  exact (Except.ok.inj hview).symm

theorem mssqlCell_toOption (hshape : validateRecordBatchEncodingShape batch mappings = .ok ()) (hr : r < batch.numRows)
    {i : ℕ} {mapping : SchemaMapping} (hmapping : mappings[i]? = some mapping) :
    ((⟨batch, mappings, context⟩ : RecordBatchView).mssqlCell mapping r).toOption =
      batchCell context mappings batch r i := by
  obtain ⟨array, harray, hindex, -⟩ := column_of_shape hshape hmapping
  have hcolumn : batch.columns[mapping.arrow.index]? = some array := hindex ▸ harray
  simp only [RecordBatchView.mssqlCell, RecordBatchView.arrowCell, RecordBatchView.checkRowIndex, ensure_of hr, ok_bind,
    hcolumn, okOr_some, batchCell, hmapping, harray, Option.bind_eq_bind, Option.bind_some, semanticCell]

theorem mssqlRow_eq_ok (hshape : validateRecordBatchEncodingShape batch mappings = .ok ()) (hr : r < batch.numRows) :
    (⟨batch, mappings, context⟩ : RecordBatchView).mssqlRow r = .ok row ↔
      row.length = mappings.length ∧ ∀ i, batchCell context mappings batch r i = row[i]? := by
  simp only [RecordBatchView.mssqlRow, RecordBatchView.checkRowIndex, ensure_of hr, ok_bind,
    collect_eq_ok_iff_getElem?]
  constructor
  · rintro ⟨hlength, hcells⟩
    refine ⟨hlength.symm, fun i => ?_⟩
    by_cases hi : i < mappings.length
    · have hmapping : mappings[i]? = some mappings[i] := List.getElem?_eq_getElem hi
      have hcell : row[i]? = some row[i] := List.getElem?_eq_getElem (by omega)
      rw [hcell, ← mssqlCell_toOption hshape hr hmapping, hcells i _ _ hmapping hcell, toOption_ok]
    · have hmapping : mappings[i]? = none := List.getElem?_eq_none (by omega)
      have hcell : row[i]? = none := List.getElem?_eq_none (by omega)
      rw [batchCell, hmapping, hcell]
      rfl
  · rintro ⟨hlength, hcells⟩
    refine ⟨hlength.symm, fun i mapping cell hmapping hcell => ?_⟩
    rw [← toOption_eq_some, mssqlCell_toOption hshape hr hmapping, hcells, hcell]

theorem mssqlRow_succeeds (hshape : validateRecordBatchEncodingShape batch mappings = .ok ()) (hr : r < batch.numRows) :
    (∃ row, (⟨batch, mappings, context⟩ : RecordBatchView).mssqlRow r = .ok row) ↔
      ∀ i < mappings.length, (batchCell context mappings batch r i).isSome := by
  have hcell {i : ℕ} {mapping : SchemaMapping} (hmapping : mappings[i]? = some mapping) :
      (∃ cell, (⟨batch, mappings, context⟩ : RecordBatchView).mssqlCell mapping r = .ok cell) ↔
        (batchCell context mappings batch r i).isSome := by
    rw [← mssqlCell_toOption hshape hr hmapping, Option.isSome_iff_exists]
    exact exists_congr fun cell => toOption_eq_some.symm
  simp only [RecordBatchView.mssqlRow, RecordBatchView.checkRowIndex, ensure_of hr, ok_bind, collect_succeeds_iff]
  constructor
  · intro hall i hi
    exact (hcell (List.getElem?_eq_getElem hi)).mp (hall _ (List.getElem_mem hi))
  · intro hall mapping hmem
    obtain ⟨i, hmapping⟩ := List.mem_iff_getElem?.mp hmem
    exact (hcell hmapping).mpr (hall i (List.getElem?_eq_some_iff.mp hmapping).1)

end Rows

section Refinement

variable {encoder : DirectEncoder} {batch : RecordBatch} {mappings : List SchemaMapping}
  {context : RuntimeConversionContext}

theorem batchBytes_isSome (hfits : CellsFit context mappings batch) {r i : ℕ} (hr : r < batch.numRows)
    (hi : i < mappings.length) :
    (batchBytes context mappings batch r i).isSome ↔ (batchCell context mappings batch r i).isSome := by
  have hmapping : mappings[i]? = some mappings[i] := List.getElem?_eq_getElem hi
  simp only [Option.isSome_iff_exists, batchBytes_eq_some]
  constructor
  · rintro ⟨_, mapping, cell, -, hcell, -⟩
    exact ⟨cell, hcell⟩
  · rintro ⟨cell, hcell⟩
    exact ⟨_, _, cell, hmapping, hcell, hfits i _ hmapping r hr cell hcell, rfl⟩

theorem batchBytes_eq_rowBytes {r i : ℕ} {row : List MssqlCell} {bytes : List UInt8}
    (hrow : ∀ i, batchCell context mappings batch r i = row[i]?)
    (h : batchBytes context mappings batch r i = some bytes) : bytes = rowBytes mappings row i := by
  obtain ⟨mapping, cell, hmapping, hcell, -, rfl⟩ := batchBytes_eq_some.mp h
  rw [hrow] at hcell
  rw [rowBytes, hmapping, hcell]

/-- The direct encoder measures a batch exactly when the baseline converts all its rows and their encoding is
addressable, and then it fills and appends the rows of the baseline. -/
theorem direct_refines_baseline (mappings : List SchemaMapping) (context : RuntimeConversionContext)
    (encoder : DirectEncoder) (batch : RecordBatch) (view : RecordBatchView)
    (hencoder : DirectEncoder.newWithContext mappings context = .ok encoder)
    (hview : RecordBatchView.newWithContext batch mappings context = .ok view)
    (hlimit : BinaryWithinLimit mappings) (hfits : CellsFit context mappings batch) :
    ((∃ m, encoder.measureBatch batch = .ok m) ↔
      (∀ r < batch.numRows, ∃ row, view.mssqlRow r = .ok row) ∧ encodedLength context mappings batch < 2 ^ 64) ∧
    ∀ (m : MeasuredDirectBatch) (rows : ℕ → List MssqlCell), encoder.measureBatch batch = .ok m →
      (∀ r < batch.numRows, view.mssqlRow r = .ok (rows r)) →
      Measures batch.numRows mappings.length (fun r c => (rowBytes mappings (rows r) c).length) m ∧
      ∃ payload, (∀ fastPath, encoder.encodeBatch fastPath batch = .ok payload) ∧
        (∀ buf, encoder.encodeMeasuredBatchRangeInto batch m 0 batch.numRows buf =
          .ok (payload.rowTokenOffsets, buf ++ payload.bytes)) ∧
        HoldsRows batch.numRows mappings.length (fun r c => rowBytes mappings (rows r) c) payload := by
  have hshape : validateRecordBatchEncodingShape batch mappings = .ok () := (bind_eq_ok.mp hview).choose_spec.1
  obtain rfl := view_eq hview
  have hcells : (∀ r < batch.numRows, ∀ i < mappings.length, (batchBytes context mappings batch r i).isSome) ↔
      ∀ r < batch.numRows, ∃ row, (⟨batch, mappings, context⟩ : RecordBatchView).mssqlRow r = .ok row := by
    refine forall₂_congr fun r hr => ?_
    rw [mssqlRow_succeeds hshape hr]
    exact forall₂_congr fun i hi => batchBytes_isSome hfits hr hi
  refine ⟨?_, ?_⟩
  · rw [exists_measureBatch hencoder hlimit hshape, hcells]
  · intro m rows hm hrows
    obtain ⟨hall, haddressable, hmeasures⟩ := (measureBatch_eq_ok hencoder hlimit hshape).mp hm
    have hbytes : ∀ r < batch.numRows, ∀ i < mappings.length,
        batchBytes context mappings batch r i = some (rowBytes mappings (rows r) i) := by
      intro r hr i hi
      obtain ⟨bytes, hbytes⟩ := Option.isSome_iff_exists.mp (hall r hr i hi)
      rw [hbytes, batchBytes_eq_rowBytes ((mssqlRow_eq_ok hshape hr).mp (hrows r hr)).2 hbytes]
    obtain ⟨bound, h⟩ := exists_measuredAs hencoder hlimit hm
    obtain ⟨other, hother, hcolumns, hcount, hsame⟩ := exists_bound hencoder hshape
    obtain rfl : other = bound := Except.ok.inj (hother.symm.trans h.binds)
    have hwritten : ∀ r < other.rowCount, ∀ i < other.columns.length,
        other.bytes r i = rowBytes mappings (rows r) i := by
      intro r hr i hi
      rw [BoundDirectBatch.bytes, hsame, hbytes r (hcount ▸ hr) i (hcolumns ▸ hi), Option.getD_some]
    obtain ⟨payload, hpayload⟩ := exists_holdsRows other.rowCount other.columns.length other.bytes
    have hrange : HoldsRows batch.numRows other.columns.length (fun r => other.bytes (0 + r)) payload := by
      rw [← hcount]
      exact hpayload.congr fun r _ i _ => by rw [Nat.zero_add]
    refine ⟨hmeasures.congr fun r hr i hi => ?_, payload, ?_, ?_, ?_⟩
    · rw [batchLength, hbytes r hr i hi, Option.getD_some]
    · intro fastPath
      exact (encodeBatch_eq_ok hencoder hlimit hshape h.binds).mpr ⟨h.accepts, h.fits, hpayload⟩
    · exact encodeMeasuredBatchRangeInto_eq_ok hencoder hlimit h (by omega) hrange
    · have hholds := hpayload.congr hwritten
      rwa [hcolumns, hcount] at hholds

end Refinement

section Sample

omit [Externals]

theorem sample_cellsFit : @CellsFit .silent ⟨sampleProfile, {}⟩ sampleMappings sampleBatch := by
  have hall : ∀ r < 2, ∀ i < 2, (@batchBytes .silent ⟨sampleProfile, {}⟩ sampleMappings sampleBatch r i).isSome := by
    decide
  intro i mapping hmapping r hr cell hcell
  obtain ⟨hi, -⟩ := List.getElem?_eq_some_iff.mp hmapping
  obtain ⟨bytes, hbytes⟩ := Option.isSome_iff_exists.mp (hall r hr i hi)
  obtain ⟨mapping', cell', hmapping', hcell', hfits, -⟩ := (@batchBytes_eq_some .silent _ _ _ _ _ _).mp hbytes
  rw [hmapping, Option.some.injEq] at hmapping'
  rw [hcell, Option.some.injEq] at hcell'
  exact hmapping' ▸ hcell' ▸ hfits

theorem direct_refines_baseline_at_sample :
    ∃ payload, @DirectEncoder.encodeBatch .silent {} sampleEncoder sampleBatch = .ok payload ∧
      payload.bytes = [0xD1, 7, 0, 0, 0, 2, 0, 171, 205, 0xD1, 7, 0, 0, 0, 0xFF, 0xFF] := by
  obtain ⟨hmeasured, hwritten⟩ := @direct_refines_baseline .silent sampleMappings ⟨sampleProfile, {}⟩ sampleEncoder
    sampleBatch ⟨sampleBatch, sampleMappings, ⟨sampleProfile, {}⟩⟩ rfl rfl (by decide) sample_cellsFit
  have hrows : ∀ r < 2, @RecordBatchView.mssqlRow .silent ⟨sampleBatch, sampleMappings, ⟨sampleProfile, {}⟩⟩ r =
      .ok [.int (some ⟨7, by decide⟩), .varBinary (if r = 1 then none else some [171, 205])] := by
    intro r hr
    interval_cases r <;> rfl
  obtain ⟨m, hm⟩ := hmeasured.mpr ⟨fun r hr => ⟨_, hrows r hr⟩, by decide⟩
  obtain ⟨-, payload, hencoded, -, hholds⟩ := hwritten m _ hm hrows
  exact ⟨payload, hencoded {}, hholds.bytes⟩

def textMapping : SchemaMapping := ⟨⟨0, "note", false, .utf8View⟩, ⟨⟨"note", valid_note⟩, .nVarChar .max, false⟩⟩

def textBatch (rows : ℕ) (h : rows < 2 ^ 64) (text : String) : RecordBatch where
  schema := [⟨"note", .utf8View, false⟩]
  numRows := rows
  columns := [⟨.utf8View, ⟨rows, fun _ => false, fun _ => text⟩⟩]
  typed := rfl
  sized := by simp [ArrayRef.len]
  addressable := h

def textContext : RuntimeConversionContext := ⟨sampleProfile, {}⟩

section Text

variable {rows r : ℕ} {h : rows < 2 ^ 64} {text : String}

theorem batchCell_textBatch (r : ℕ) : @batchCell .silent textContext [textMapping] (textBatch rows h text) r 0 =
    some (.nVarChar (some text)) := rfl

theorem textBatch_shape :
    @validateRecordBatchEncodingShape .silent (textBatch rows h text) [textMapping] = .ok () := rfl

theorem textBatch_cellsFit (hlength : (Tds.encodeUtf16 text).length ≤ 0xffffffff) :
    @CellsFit .silent textContext [textMapping] (textBatch rows h text) := by
  intro i mapping hmapping r _ cell hcell
  obtain ⟨hi, -⟩ := List.getElem?_eq_some_iff.mp hmapping
  obtain rfl : i = 0 := by simpa using hi
  obtain rfl : textMapping = mapping := Option.some.inj hmapping
  rw [batchCell_textBatch, Option.some.injEq] at hcell
  subst hcell
  exact hlength

theorem le_encodedLength_textBatch (hlength : (Tds.encodeUtf16 text).length ≤ 0xffffffff) :
    rows * (Tds.encodeUtf16 text).length ≤
      @encodedLength .silent textContext [textMapping] (textBatch rows h text) := by
  have hbatch (r : ℕ) : (Tds.encodeUtf16 text).length ≤
      rowLength 1 rowTokenLen (@batchLength .silent textContext [textMapping] (textBatch rows h text)) r := by
    have hbytes : @batchBytes .silent textContext [textMapping] (textBatch rows h text) r 0 =
        some (Tds.frame .plp (some (Tds.encodeUtf16 text))) :=
      (@batchBytes_eq_some .silent _ _ _ _ _ _).mpr ⟨textMapping, _, rfl, batchCell_textBatch r, hlength, rfl⟩
    simp only [rowLength, Finset.sum_range_one, batchLength, hbytes, Option.getD_some, Tds.frame, List.length_append]
    omega
  have hsum (n : ℕ) : n * (Tds.encodeUtf16 text).length ≤ rowStart 1 rowTokenLen
      (@batchLength .silent textContext [textMapping] (textBatch rows h text)) n := by
    induction n with
    | zero => simp
    | succ n ih =>
      have hrow := hbatch n
      rw [rowStart_succ, Nat.succ_mul]
      omega
  exact hsum rows

end Text

theorem length_encode_replicate (n : ℕ) : (Utf16.encode (List.replicate n 'a')).length = n := by
  induction n with
  | zero => rfl
  | succ n ih =>
    have hcons : Utf16.encode (List.replicate (n + 1) 'a') =
        Utf16.encodeChar 'a' ++ Utf16.encode (List.replicate n 'a') := rfl
    rw [hcons, List.length_append, ih]
    exact Nat.add_comm 1 n

/-- Rows the baseline converts one by one need not fit into one addressable payload. -/
theorem unaddressable_batch_is_converted_and_not_measured :
    ∃ mappings context encoder batch view, @DirectEncoder.newWithContext .silent mappings context = .ok encoder ∧
      @RecordBatchView.newWithContext .silent batch mappings context = .ok view ∧ BinaryWithinLimit mappings ∧
      @CellsFit .silent context mappings batch ∧
      (∀ r < batch.numRows, ∃ row, @RecordBatchView.mssqlRow .silent view r = .ok row) ∧
      ¬∃ m, @DirectEncoder.measureBatch .silent encoder batch = .ok m := by
  obtain ⟨n, hn⟩ : ∃ n, n = 2 ^ 31 - 1 := ⟨_, rfl⟩
  obtain ⟨text, htext⟩ : ∃ text : String, (Tds.encodeUtf16 text).length = 2 * n :=
    ⟨String.ofList (List.replicate n 'a'), by
      rw [Tds.length_encodeUtf16, String.toList_ofList, length_encode_replicate]⟩
  obtain ⟨rows, hrows⟩ : ∃ rows, rows = 2 ^ 33 := ⟨_, rfl⟩
  have hlength : (Tds.encodeUtf16 text).length ≤ 0xffffffff := by omega
  have haddressable : rows < 2 ^ 64 := by omega
  obtain ⟨encoder, hencoder⟩ : ∃ encoder, @DirectEncoder.newWithContext .silent [textMapping] textContext =
      .ok encoder := ⟨_, rfl⟩
  refine ⟨[textMapping], textContext, encoder, textBatch rows haddressable text, _, hencoder, rfl, by decide,
    textBatch_cellsFit hlength, ?_, ?_⟩
  · intro r _
    exact (@mssqlRow_succeeds .silent _ _ _ _ textBatch_shape (by assumption)).mpr fun i hi => by
      obtain rfl : i = 0 := by simpa using hi
      rw [batchCell_textBatch]
      rfl
  · rw [@exists_measureBatch .silent _ _ _ _ hencoder (by decide) textBatch_shape]
    rintro ⟨-, hfits⟩
    have hle := @le_encodedLength_textBatch rows haddressable text hlength
    rw [htext] at hle
    have hproduct : rows * (2 * n) = 2 ^ 33 * (2 * (2 ^ 31 - 1)) := by rw [hrows, hn]
    omega

end Sample

end ArrowTiberius.Direct
