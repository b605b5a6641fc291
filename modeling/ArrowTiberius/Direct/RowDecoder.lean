import ArrowTiberius.Direct.Refinement

namespace ArrowTiberius.Direct

open Checked Tiling

def decodeCells : List DirectColumnPlan → List UInt8 → Option (List MssqlCell × List UInt8)
  | [], bytes => some ([], bytes)
  | column :: columns, bytes => do
    let (cell, rest) ← Tds.decodeCell column.targetType column.nullable bytes
    let (cells, rest) ← decodeCells columns rest
    some (cell :: cells, rest)

def decodeRow (columns : List DirectColumnPlan) : List UInt8 → Option (List MssqlCell × List UInt8)
  | [] => none
  | token :: bytes => if token = tdsRowToken then decodeCells columns bytes else none

def decodeRows (columns : List DirectColumnPlan) : ℕ → ℕ → List UInt8 → Option (List (ℕ × List MssqlCell))
  | _, _, [] => some []
  | 0, _, _ :: _ => none
  | fuel + 1, offset, byte :: bytes => do
    let (row, rest) ← decodeRow columns (byte :: bytes)
    let rows ← decodeRows columns fuel (offset + ((byte :: bytes).length - rest.length)) rest
    some ((offset, row) :: rows)

def DirectEncoderPlan.decodePayload (plan : DirectEncoderPlan) (bytes : List UInt8) :
    Option (List (ℕ × List MssqlCell)) :=
  decodeRows plan.columns bytes.length 0 bytes

section Rows

variable {columns : List DirectColumnPlan} {rest : List UInt8}

structure Written (column : DirectColumnPlan) (cell : MssqlCell) (bytes : List UInt8) : Prop where
  holds : Tds.Holds column.targetType column.nullable cell
  fits : Tds.Fits (Tds.framingOf column.targetType column.nullable) (Tds.payload cell)
  bytes_eq : bytes = Tds.encodeCell (Tds.framingOf column.targetType column.nullable) cell

theorem decodeCells_tile {cells : List MssqlCell} {seg : ℕ → List UInt8} (hlength : cells.length = columns.length)
    (h : ∀ (i : ℕ) column cell, columns[i]? = some column → cells[i]? = some cell → Written column cell (seg i)) :
    decodeCells columns (tile columns.length seg ++ rest) = some (cells, rest) := by
  induction columns generalizing cells seg with
  | nil =>
    obtain rfl := List.eq_nil_of_length_eq_zero hlength
    rfl
  | cons column columns ih =>
    cases cells with
    | nil => cases hlength
    | cons cell cells =>
      obtain ⟨hholds, hfits, hbytes⟩ := h 0 column cell rfl rfl
      have htail := @ih cells (fun i => seg (i + 1)) (Nat.succ.inj hlength) fun i => h (i + 1)
      rw [List.length_cons, tile_succ', List.append_assoc, hbytes, decodeCells, Tds.decodeCell_encodeCell hholds hfits,
        Option.bind_eq_bind, Option.bind_some]
      dsimp only
      rw [htail]
      rfl

theorem decodeRow_tile {cells : List MssqlCell} {seg : ℕ → List UInt8} (hlength : cells.length = columns.length)
    (h : ∀ (i : ℕ) column cell, columns[i]? = some column → cells[i]? = some cell → Written column cell (seg i)) :
    decodeRow columns ([tdsRowToken] ++ tile columns.length seg ++ rest) = some (cells, rest) := by
  rw [List.append_assoc, List.singleton_append, decodeRow, if_pos rfl, decodeCells_tile hlength h]

theorem decodeRows_tile {n fuel offset : ℕ} {row : ℕ → List MssqlCell} {seg : ℕ → List UInt8}
    (hrow : ∀ r < n, ∀ rest, decodeRow columns (seg r ++ rest) = some (row r, rest)) (hpos : ∀ r < n, seg r ≠ [])
    (hfuel : n ≤ fuel) : decodeRows columns fuel offset (tile n seg) =
      some ((List.range n).map fun r => (offset + ∑ i ∈ Finset.range r, (seg i).length, row r)) := by
  induction n generalizing fuel offset row seg with
  | zero => cases fuel <;> rfl
  | succ n ih =>
    obtain ⟨fuel, rfl⟩ : ∃ k, fuel = k + 1 := ⟨fuel - 1, by omega⟩
    have hfirst := hrow 0 (by omega) (tile n fun i => seg (i + 1))
    have hrest := @ih fuel (offset + (seg 0).length) (fun r => row (r + 1)) (fun r => seg (r + 1))
      (fun r hr => hrow (r + 1) (by omega)) (fun r hr => hpos (r + 1) (by omega)) (by omega)
    have hsum (r : ℕ) : offset + (seg 0).length + ∑ i ∈ Finset.range r, (seg (i + 1)).length =
        offset + ∑ i ∈ Finset.range (r + 1), (seg i).length := by
      rw [Finset.sum_range_succ']
      omega
    have hstep : decodeRows columns (fuel + 1) offset (tile (n + 1) seg) = (do
        let (row, rest) ← decodeRow columns (tile (n + 1) seg)
        let rows ← decodeRows columns fuel (offset + ((tile (n + 1) seg).length - rest.length)) rest
        some ((offset, row) :: rows)) := by
      rw [tile_succ']
      cases hseg : seg 0 with
      | nil => exact absurd hseg (hpos 0 (by omega))
      | cons byte bytes => rfl
    rw [hstep, tile_succ', hfirst, Option.bind_eq_bind, Option.bind_some]
    dsimp only
    rw [List.length_append, Nat.add_sub_cancel, hrest, List.range_succ_eq_map, List.map_cons, List.map_map]
    simp only [hsum]
    rfl

/-- A payload of written rows is read back, each row at its token. -/
theorem decodePayload_of_holdsRows {n : ℕ} {row : ℕ → List MssqlCell} {cell : ℕ → ℕ → List UInt8}
    {payload : EncodedRowsPayload} (hlength : ∀ r < n, (row r).length = columns.length)
    (hwritten : ∀ r < n, ∀ (i : ℕ) column value, columns[i]? = some column → (row r)[i]? = some value →
      Written column value (cell r i)) (hholds : HoldsRows n columns.length cell payload) :
    (⟨columns⟩ : DirectEncoderPlan).decodePayload payload.bytes =
      some (payload.rowTokenOffsets.zip ((List.range n).map row)) := by
  have hread := @decodeRows_tile columns n payload.bytes.length 0 row
    (fun r => [tdsRowToken] ++ tile columns.length (cell r))
    (fun r hr rest => decodeRow_tile (hlength r hr) (hwritten r hr))
    (fun r _ => by simp)
    (by
      rw [hholds.bytes, length_grid fun _ _ _ _ => rfl]
      exact le_rowStart (by decide) _)
  rw [DirectEncoderPlan.decodePayload, hholds.tokens, List.zip_map']
  refine (congrArg (decodeRows _ _ _) hholds.bytes).trans (hread.trans (congrArg some (List.map_congr_left ?_)))
  intro r _
  rw [Nat.zero_add, rowStart]
  refine congrArg (·, row r) (Finset.sum_congr rfl fun i _ => ?_)
  rw [List.length_append, length_tile]
  rfl

end Rows

variable [Externals] {mappings : List SchemaMapping} {context : RuntimeConversionContext} {encoder : DirectEncoder}
  {batch : RecordBatch} {payload : EncodedRowsPayload} {fastPath : FixedWidth.FastPath}

theorem shape_of_encodeBatch (hencoder : DirectEncoder.newWithContext mappings context = .ok encoder)
    (h : encoder.encodeBatch fastPath batch = .ok payload) :
    validateRecordBatchEncodingShape batch mappings = .ok () := by
  obtain ⟨hmappings, -⟩ := newWithContext_eq_ok.mp hencoder
  obtain ⟨_, hshape, -⟩ := bind_eq_ok.mp h
  exact hmappings ▸ hshape

theorem holdsRows_of_encodeBatch (hencoder : DirectEncoder.newWithContext mappings context = .ok encoder)
    (hlimit : BinaryWithinLimit mappings) (h : encoder.encodeBatch fastPath batch = .ok payload) :
    (∀ r < batch.numRows, ∀ i < mappings.length, (batchBytes context mappings batch r i).isSome) ∧
      HoldsRows batch.numRows mappings.length (fun r i => (batchBytes context mappings batch r i).getD []) payload := by
  have hshape := shape_of_encodeBatch hencoder h
  obtain ⟨bound, hbound, hcolumns, hrows, hbytes⟩ := exists_bound hencoder hshape
  obtain ⟨haccepts, -, hwrites⟩ := (encodeBatch_eq_ok hencoder hlimit hshape hbound).mp h
  refine ⟨fun r hr i hi => ?_, ?_⟩
  · rw [← hbytes]
    exact haccepts r (hrows.symm ▸ hr) i (hcolumns.symm ▸ hi)
  · have hholds := hwrites.congr fun r _ i _ => congrArg (Option.getD · []) (hbytes r i)
    rwa [hcolumns, hrows] at hholds

theorem exists_rows (hencoder : DirectEncoder.newWithContext mappings context = .ok encoder)
    (hshape : validateRecordBatchEncodingShape batch mappings = .ok ())
    (hsome : ∀ r < batch.numRows, ∀ i < mappings.length, (batchBytes context mappings batch r i).isSome) :
    ∃ row : ℕ → List MssqlCell, ∀ r < batch.numRows,
      (⟨batch, mappings, context⟩ : RecordBatchView).mssqlRow r = .ok (row r) ∧
      (row r).length = encoder.plan.columns.length ∧
      ∀ (i : ℕ) column cell, encoder.plan.columns[i]? = some column → (row r)[i]? = some cell →
        Written column cell ((batchBytes context mappings batch r i).getD []) := by
  have hrow : ∀ r, ∃ row, r < batch.numRows → (⟨batch, mappings, context⟩ : RecordBatchView).mssqlRow r = .ok row := by
    intro r
    by_cases hr : r < batch.numRows
    · obtain ⟨row, hrow⟩ := (mssqlRow_succeeds hshape hr).mpr fun i hi => by
        obtain ⟨bytes, hbytes⟩ := Option.isSome_iff_exists.mp (hsome r hr i hi)
        obtain ⟨_, cell, -, hcell, -⟩ := batchBytes_eq_some.mp hbytes
        rw [hcell]
        rfl
      exact ⟨row, fun _ => hrow⟩
    · exact ⟨[], fun h => absurd h hr⟩
  choose row hrow using hrow
  refine ⟨row, fun r hr => ?_⟩
  obtain ⟨hlength, hcells⟩ := (mssqlRow_eq_ok hshape hr).mp (hrow r hr)
  refine ⟨hrow r hr, hlength.trans (length_planColumns hencoder).symm, fun i column cell hcolumn hcell => ?_⟩
  obtain ⟨mapping, encoding, hmapping, -, rfl⟩ := encoder_column hencoder hcolumn
  obtain ⟨hi, -⟩ := List.getElem?_eq_some_iff.mp hmapping
  obtain ⟨bytes, hbytes⟩ := Option.isSome_iff_exists.mp (hsome r hr i hi)
  obtain ⟨mapping', cell', hmapping', hcell', hfits, rfl⟩ := batchBytes_eq_some.mp hbytes
  rw [hmapping, Option.some.injEq] at hmapping'
  rw [hcells, hcell, Option.some.injEq] at hcell'
  subst hmapping' hcell'
  exact ⟨holds_of_batchCell hencoder hshape hmapping (by rw [hcells, hcell]), hfits, congrArg (Option.getD · []) hbytes⟩

theorem decodePayload_of_encodeBatch (hencoder : DirectEncoder.newWithContext mappings context = .ok encoder)
    (hlimit : BinaryWithinLimit mappings) (h : encoder.encodeBatch fastPath batch = .ok payload) :
    ∃ row : ℕ → List MssqlCell,
      (∀ r < batch.numRows, (⟨batch, mappings, context⟩ : RecordBatchView).mssqlRow r = .ok (row r)) ∧
      payload.rowTokenOffsets.length = batch.numRows ∧
      encoder.plan.decodePayload payload.bytes =
        some (payload.rowTokenOffsets.zip ((List.range batch.numRows).map row)) := by
  obtain ⟨hsome, hholds⟩ := holdsRows_of_encodeBatch hencoder hlimit h
  obtain ⟨row, hrow⟩ := exists_rows hencoder (shape_of_encodeBatch hencoder h) hsome
  refine ⟨row, fun r hr => (hrow r hr).1, by rw [hholds.tokens, List.length_map, List.length_range], ?_⟩
  rw [← length_planColumns hencoder] at hholds
  exact decodePayload_of_holdsRows (fun r hr => (hrow r hr).2.1) (fun r hr => (hrow r hr).2.2) hholds

/-- The payload of a batch is read back by its plan as the rows of the baseline, each at its token, with nothing left;
batches with the same payload have the same rows. -/
theorem payload_decodes_back (mappings : List SchemaMapping) (context : RuntimeConversionContext)
    (encoder : DirectEncoder) (hencoder : DirectEncoder.newWithContext mappings context = .ok encoder)
    (hlimit : BinaryWithinLimit mappings) :
    (∀ batch fastPath payload, encoder.encodeBatch fastPath batch = .ok payload →
      ∃ row : ℕ → List MssqlCell,
        (∀ r < batch.numRows, (⟨batch, mappings, context⟩ : RecordBatchView).mssqlRow r = .ok (row r)) ∧
        payload.rowTokenOffsets.length = batch.numRows ∧
        (∀ offset ∈ payload.rowTokenOffsets, payload.bytes[offset]? = some tdsRowToken) ∧
        encoder.plan.decodePayload payload.bytes =
          some (payload.rowTokenOffsets.zip ((List.range batch.numRows).map row))) ∧
    ∀ batch batch' fastPath fastPath' payload payload', encoder.encodeBatch fastPath batch = .ok payload →
      encoder.encodeBatch fastPath' batch' = .ok payload' → payload.bytes = payload'.bytes →
      batch.numRows = batch'.numRows ∧ ∀ r < batch.numRows,
        (⟨batch, mappings, context⟩ : RecordBatchView).mssqlRow r =
          (⟨batch', mappings, context⟩ : RecordBatchView).mssqlRow r := by
  refine ⟨fun batch fastPath payload h => ?_, fun batch batch' fastPath fastPath' payload payload' h h' hsame => ?_⟩
  · obtain ⟨row, hrows, hcount, hread⟩ := decodePayload_of_encodeBatch hencoder hlimit h
    exact ⟨row, hrows, hcount, payload.tokens.1, hread⟩
  · obtain ⟨row, hrows, hcount, hread⟩ := decodePayload_of_encodeBatch hencoder hlimit h
    obtain ⟨row', hrows', hcount', hread'⟩ := decodePayload_of_encodeBatch hencoder hlimit h'
    rw [hsame, hread', Option.some.injEq] at hread
    have hnumRows : batch.numRows = batch'.numRows := by
      have hlength := congrArg List.length hread
      simp only [List.length_zip, List.length_map, List.length_range, hcount, hcount', Nat.min_self] at hlength
      exact hlength.symm
    refine ⟨hnumRows, fun r hr => ?_⟩
    have hat := congrArg (fun rows => (rows.map Prod.snd)[r]?) hread
    simp only [List.map_snd_zip, List.length_map, List.length_range, hcount, hcount', le_refl, List.getElem?_map,
      List.getElem?_range hr, List.getElem?_range (hnumRows ▸ hr), Option.map_some, Option.some.injEq] at hat
    rw [hrows r hr, hrows' r (hnumRows ▸ hr), hat]

omit [Externals] in
theorem payload_decodes_back_at_sample : ∃ payload : EncodedRowsPayload,
    payload.bytes = [0xD1, 7, 0, 0, 0, 2, 0, 171, 205, 0xD1, 7, 0, 0, 0, 0xFF, 0xFF] ∧
      sampleEncoder.plan.decodePayload payload.bytes =
        some [(0, [.int (some ⟨7, by decide⟩), .varBinary (some [171, 205])]),
          (9, [.int (some ⟨7, by decide⟩), .varBinary none])] := by
  obtain ⟨hdecodes, -⟩ := @payload_decodes_back .silent sampleMappings ⟨sampleProfile, {}⟩ sampleEncoder rfl (by decide)
  obtain ⟨payload, hpayload, hbytes, htokens⟩ : ∃ payload,
      @DirectEncoder.encodeBatch .silent {} sampleEncoder sampleBatch = .ok payload ∧
        payload.bytes = [0xD1, 7, 0, 0, 0, 2, 0, 171, 205, 0xD1, 7, 0, 0, 0, 0xFF, 0xFF] ∧
        payload.rowTokenOffsets = [0, 9] := ⟨_, rfl, rfl, rfl⟩
  obtain ⟨row, hrows, -, -, hread⟩ := hdecodes sampleBatch {} payload hpayload
  refine ⟨payload, hbytes, hread.trans ?_⟩
  have hfirst := Except.ok.inj (hrows 0 (by decide))
  have hsecond := Except.ok.inj (hrows 1 (by decide))
  have hrange : (List.range sampleBatch.numRows).map row = [row 0, row 1] := rfl
  rw [htokens, hrange, ← hfirst, ← hsecond]
  rfl

end ArrowTiberius.Direct
