import ArrowTiberius.Conversion.CellIndependence
import ArrowTiberius.Direct.Slicing
import ArrowTiberius.Writer.Backends

namespace ArrowTiberius.Writer

open Checked Direct Stepping Tiling

variable [Externals]

section Cells

variable {context : RuntimeConversionContext} {mapping : SchemaMapping} {array : ArrayRef} {start count r : ℕ}

theorem extractAs_slice (kind : ArrayKind) (cell : kind.Elem → ArrowCell) :
    (extractAs kind cell (array.slice start count) mapping r).toOption =
      (extractAs kind cell array mapping (start + r)).toOption := by
  simp only [extractAs, downcastArray, toOption_bind, toOption_okOr, ArrayRef.downcast_slice, pure_eq_ok, toOption_ok]
  cases array.downcast kind <;> rfl

theorem extractArrowCell_slice : (extractArrowCell (array.slice start count) mapping r).toOption =
    (extractArrowCell array mapping (start + r)).toOption := by
  have hnull : (array.slice start count).isNull r = array.isNull (start + r) := rfl
  have htype : (array.slice start count).dataType = array.dataType := rfl
  rw [extractArrowCell, extractArrowCell, hnull, toOption_ite, toOption_ite]
  congr 1
  cases mapping.arrow.dataType with
  | fixedSizeBinary length =>
    simp only [toOption_bind, toOption_okOr, ArrayRef.downcastFixedSizeBinary_slice, pure_eq_ok, toOption_ok]
    cases array.downcastFixedSizeBinary <;> rfl
  | utf8 | largeUtf8 | utf8View =>
    simp only [extractUtf8Cell, htype]
    cases array.dataType with
    | utf8 | largeUtf8 | utf8View => exact extractAs_slice _ _
    | _ => rfl
  | binary | largeBinary | binaryView =>
    simp only [extractBinaryCell, htype]
    cases array.dataType with
    | binary | largeBinary | binaryView => exact extractAs_slice _ _
    | _ => rfl
  | time32 unit =>
    cases unit with
    | second | millisecond => exact extractAs_slice _ _
    | _ => rfl
  | time64 unit =>
    cases unit with
    | microsecond | nanosecond => exact extractAs_slice _ _
    | _ => rfl
  | null | duration | interval | nested => rfl
  | _ => exact extractAs_slice _ _

theorem semanticCell_slice {encoding : DirectColumnEncoding}
    (hencodes : Encodes mapping.arrow.dataType mapping.mssql.ty encoding)
    (hcompatible : arrowTypeCompatibleWithMapping array.dataType mapping = true) :
    semanticCell context mapping (array.slice start count) r = semanticCell context mapping array (start + r) := by
  obtain ⟨cell, hcell, hkind⟩ := @extractArrowCell_of_compatible _ array mapping (start + r) hencodes.isExtractable
    hcompatible
  have hslice : extractArrowCell (array.slice start count) mapping r = .ok cell := by
    rw [← toOption_eq_some, extractArrowCell_slice, hcell, toOption_ok]
  rw [semanticCell, semanticCell, hcell, hslice, ok_bind, ok_bind]
  rcases hkind with rfl | hkind
  · rw [mssqlCellFromArrowCell_null hencodes, mssqlCellFromArrowCell_null hencodes]
    exact convertNull_toOption
  · rw [mssqlCellFromArrowCell_value hencodes hkind, mssqlCellFromArrowCell_value hencodes hkind]
    exact convertValue_toOption hencodes hkind

end Cells

section Slices

variable {context : RuntimeConversionContext} {mappings : List SchemaMapping} {batch : RecordBatch} {start count : ℕ}
  {h : start + count ≤ batch.numRows}

theorem batchCell_slice (hencodable : ∀ mapping ∈ mappings, ∃ encoding,
      Encodes mapping.arrow.dataType mapping.mssql.ty encoding)
    (hshape : validateRecordBatchEncodingShape batch mappings = .ok ()) (r i : ℕ) :
    batchCell context mappings (batch.slice start count h) r i = batchCell context mappings batch (start + r) i := by
  cases hmapping : mappings[i]? with
  | none => simp only [batchCell, hmapping, Option.bind_eq_bind, Option.bind_none]
  | some mapping =>
    obtain ⟨array, harray, -, hcompatible⟩ := column_of_shape hshape hmapping
    obtain ⟨encoding, hencodes⟩ := hencodable mapping (List.mem_of_getElem? hmapping)
    simp only [batchCell, hmapping, getElem?_columns_slice, harray, Option.map_some, Option.bind_eq_bind,
      Option.bind_some]
    exact semanticCell_slice hencodes hcompatible

theorem withinWireLimits_slice (hwire : WithinWireLimits mappings batch) :
    WithinWireLimits mappings (batch.slice start count h) := by
  intro i mapping sliced hmapping hsliced r hr cell hcell
  rw [getElem?_columns_slice, Option.map_eq_some_iff] at hsliced
  obtain ⟨array, harray, rfl⟩ := hsliced
  have hlen : array.len = batch.numRows := batch.sized array (List.mem_of_getElem? harray)
  have hrow : r < count := hr
  apply hwire i mapping array hmapping harray (start + r) (by omega)
  rw [← toOption_eq_some, ← extractArrowCell_slice, hcell, toOption_ok]

end Slices

section Cuts

/-- Slices that make up the rows of a batch from one on. -/
inductive Cut (batch : RecordBatch) : ℕ → List RecordBatch → Prop
  | done : Cut batch batch.numRows []
  | slice {start count : ℕ} {slices : List RecordBatch} (h : start + count ≤ batch.numRows)
    (rest : Cut batch (start + count) slices) : Cut batch start (batch.slice start count h :: slices)

/-- A batch that can be loaded: it has the planned shape and its cells convert. -/
structure Plannable (plannedSchema : PlannedSchema) (batch : RecordBatch) : Prop where
  shape : validateRecordBatchEncodingShape batch plannedSchema.mappings = .ok ()
  rows : ∃ rows, plannedRows plannedSchema batch = .ok rows

variable {plannedSchema : PlannedSchema} {batch : RecordBatch} {start count : ℕ} {load load' : Load}
  (hencodable : ∀ mapping ∈ plannedSchema.mappings, ∃ encoding,
    Encodes mapping.arrow.dataType mapping.mssql.ty encoding)

include hencodable

theorem plannedRows_slice {h : start + count ≤ batch.numRows} {rows : ℕ → List MssqlCell}
    (hshape : validateRecordBatchEncodingShape batch plannedSchema.mappings = .ok ())
    (hrows : ∀ r < batch.numRows, (plannedView plannedSchema batch).mssqlRow r = .ok (rows r)) :
    plannedRows plannedSchema (batch.slice start count h) = .ok ((List.range count).map fun r => rows (start + r)) := by
  apply plannedRows_eq_ok.mpr
  intro r hr
  have hrow : r < count := hr
  obtain ⟨hlength, hcells⟩ := (mssqlRow_eq_ok hshape (show start + r < batch.numRows by omega)).mp
    (hrows (start + r) (by omega))
  apply (mssqlRow_eq_ok (shape_slice h hshape) hr).mpr
  refine ⟨hlength, ?_⟩
  intro i
  rw [batchCell_slice hencodable hshape, hcells]

omit hencodable in
theorem Plannable.exists_rows (h : Plannable plannedSchema batch) :
    ∃ rows : ℕ → List MssqlCell, ∀ r < batch.numRows, (plannedView plannedSchema batch).mssqlRow r = .ok (rows r) := by
  obtain ⟨rows, hrows⟩ := h.rows
  have hall := collect_succeeds_iff.mp ⟨rows, hrows⟩
  choose! row hrow using fun r hr => hall r (List.mem_range.mpr hr)
  exact ⟨row, hrow⟩

theorem Plannable.slice (h : Plannable plannedSchema batch) (hle : start + count ≤ batch.numRows) :
    Plannable plannedSchema (batch.slice start count hle) := by
  obtain ⟨rows, hrows⟩ := h.exists_rows
  exact ⟨shape_slice hle h.shape, _, plannedRows_slice hencodable h.shape hrows⟩

theorem run_of_cut {rows : ℕ → List MssqlCell} {slices : List RecordBatch} (hcut : Cut batch start slices)
    (hshape : validateRecordBatchEncodingShape batch plannedSchema.mappings = .ok ())
    (hrows : ∀ r < batch.numRows, (plannedView plannedSchema batch).mssqlRow r = .ok (rows r))
    (hbound : load.stats.rowsWritten < 2 ^ 64) :
    (run (Load.write plannedSchema) slices load).2.rows =
        load.rows ++ (List.range' start (batch.numRows - start)).map rows ∧
      (run (Load.write plannedSchema) slices load).2.stats.rowsWritten =
        saturatingAdd 64 load.stats.rowsWritten (batch.numRows - start) := by
  induction hcut generalizing load with
  | done =>
    rw [Nat.sub_self, List.range'_zero, List.map_nil, List.append_nil, saturatingAdd, Nat.add_zero]
    refine ⟨rfl, Eq.symm (min_eq_left ?_)⟩
    change load.stats.rowsWritten ≤ 2 ^ 64 - 1
    omega
  | @slice start count slices h _ ih =>
    have hwrite := @write_of_planned _ plannedSchema _ load _ (shape_slice h hshape)
      (plannedRows_slice hencodable hshape hrows)
    have hnumRows : (batch.slice start count h).numRows = count := rfl
    rw [run, hwrite]
    obtain ⟨hrest, hcount⟩ := @ih (load.accept (batch.slice start count h) _) (recordAcceptedBatch_lt _ _).1
    have hsplit : batch.numRows - start = count + (batch.numRows - (start + count)) := by omega
    have hfirst : (List.range count).map (fun r => rows (start + r)) = (List.range' start count).map rows := by
      rw [List.range'_eq_map_range, List.map_map]
      rfl
    constructor
    · rw [hrest, Load.accept, hfirst, hsplit, ← List.range'_append_1, List.map_append, List.append_assoc]
    · rw [hcount, Load.accept, WriteStats.recordAcceptedBatch, hnumRows]
      simp only [saturatingAdd]
      omega

structure SameRows (load load' : Load) : Prop where
  rows : load.rows = load'.rows
  rowsWritten : load.stats.rowsWritten = load'.stats.rowsWritten
  bounded : load.stats.rowsWritten < 2 ^ 64

theorem sameRows_of_cut {slices : List RecordBatch} (hplannable : Plannable plannedSchema batch)
    (hcut : Cut batch 0 slices) (h : SameRows load load') :
    SameRows (load.write plannedSchema batch).2 (run (Load.write plannedSchema) slices load').2 := by
  obtain ⟨rows, hrows⟩ := hplannable.exists_rows
  obtain ⟨hsliced, hcount⟩ := run_of_cut hencodable hcut hplannable.shape hrows (h.rowsWritten ▸ h.bounded)
  rw [write_of_planned hplannable.shape (plannedRows_eq_ok.mpr hrows)]
  refine ⟨?_, ?_, (recordAcceptedBatch_lt _ _).1⟩
  · rw [hsliced, ← h.rows, Nat.sub_zero, ← List.range_eq_range']
    rfl
  · rw [hcount, ← h.rowsWritten, Nat.sub_zero]
    rfl

omit hencodable in
theorem Plannable.write (h : Plannable plannedSchema batch) (load : Load) :
    ∃ stats, (load.write plannedSchema batch).1 = .ok stats := by
  obtain ⟨rows, hrows⟩ := h.rows
  rw [write_of_planned h.shape hrows]
  exact ⟨_, rfl⟩

theorem Plannable.of_cut {slices : List RecordBatch} (h : Plannable plannedSchema batch)
    (hcut : Cut batch start slices) : ∀ slice ∈ slices, Plannable plannedSchema slice := by
  induction hcut with
  | done =>
    intro slice hslice
    cases hslice
  | slice hle _ ih => exact List.forall_mem_cons.mpr ⟨h.slice hencodable hle, ih⟩

theorem Measurable.slice (hmeasurable : Measurable plannedSchema batch) {h : start + count ≤ batch.numRows}
    (hshape : validateRecordBatchEncodingShape batch plannedSchema.mappings = .ok ()) :
    Measurable plannedSchema (batch.slice start count h) := by
  have hnumRows : (batch.slice start count h).numRows = count := rfl
  have hbytes := hmeasurable.bytes
  have hcells := hmeasurable.cells
  have hcell (r i : ℕ) := @batchCell_slice _ ⟨plannedSchema.profile, plannedSchema.planOptions⟩ _ batch start count h
    hencodable hshape r i
  have hlength : batchLength ⟨plannedSchema.profile, plannedSchema.planOptions⟩ plannedSchema.mappings
      (batch.slice start count h) = fun r => batchLength ⟨plannedSchema.profile, plannedSchema.planOptions⟩
        plannedSchema.mappings batch (start + r) := by
    funext r i
    simp only [batchLength, batchBytes, hcell]
  refine ⟨withinWireLimits_slice hmeasurable.wire, ?_, ?_⟩
  · rw [hnumRows]
    exact (Nat.mul_le_mul_right _ (by omega)).trans_lt hcells
  · rw [encodedLength, hnumRows, hlength]
    rw [encodedLength] at hbytes
    have hsum := rowStart_add plannedSchema.mappings.length rowTokenLen (batchLength ⟨plannedSchema.profile,
      plannedSchema.planOptions⟩ plannedSchema.mappings batch) start count
    have hend := @rowStart_mono plannedSchema.mappings.length (batchLength ⟨plannedSchema.profile,
      plannedSchema.planOptions⟩ plannedSchema.mappings batch) rowTokenLen _ _ h
    omega

theorem Measurable.of_cut {slices : List RecordBatch} (h : Measurable plannedSchema batch)
    (hshape : validateRecordBatchEncodingShape batch plannedSchema.mappings = .ok ()) (hcut : Cut batch start slices) :
    ∀ slice ∈ slices, Measurable plannedSchema slice := by
  induction hcut with
  | done =>
    intro slice hslice
    cases hslice
  | slice _ _ ih => exact List.forall_mem_cons.mpr ⟨h.slice hencodable hshape, ih⟩

end Cuts

section Runs

omit [Externals] in
theorem accepted_of_reports {results : List (Result WriteStats)} {answers : List (Except WritePhase WriteStats)}
    (h : List.Forall₂ Reports results answers) (haccepted : ∀ answer ∈ answers, ∃ stats, answer = .ok stats) :
    ∀ result ∈ results, ∃ stats, result = .ok stats := by
  induction h with
  | nil =>
    intro result hresult
    cases hresult
  | cons hfirst _ ih =>
    rw [List.forall_mem_cons] at haccepted ⊢
    obtain ⟨⟨stats, rfl⟩, hrest⟩ := haccepted
    cases hfirst
    exact ⟨⟨stats, rfl⟩, ih hrest⟩

variable [Driver] {schema : List Field} {profile : MssqlProfile} {planOptions : PlanOptions}
  {outcome : PlanOutcome PlannedSchema} {client : Driver.Client} {table : TableName} {options : WriteOptions}
  {writer : BulkWriter} {batches : List RecordBatch} {parts : List (List RecordBatch)}

/-- Over a driver that refuses nothing, it does not matter how the rows come in batches: if the batches can be loaded,
any slices of them are all accepted, and the same rows are handed over and counted. -/
theorem slices_load_the_same_rows (hreliable : Reliable)
    (hplan : planArrowSchemaToMssqlSchema schema profile planOptions = .ok outcome)
    (hnew : BulkWriter.new client table outcome.value options = .ok writer)
    (hencodable : ∀ mapping ∈ outcome.value.mappings, mapping.mssql.ty ≠ .decimal 38 38)
    (hplannable : ∀ batch ∈ batches, Plannable outcome.value batch)
    (hmeasurable : usesDirectEncoder writer.state.backend = true → ∀ batch ∈ batches, Measurable outcome.value batch)
    (hcuts : List.Forall₂ (fun batch slices => Cut batch 0 slices) batches parts) :
    (∀ call ∈ (writer.writeBatches parts.flatten).1, ∃ stats, call.result = .ok stats) ∧
      (∃ rows, handedRows (writer.writeBatches batches).2.state.directEncoder (writer.writeBatches batches).2.handed =
          some rows ∧
        handedRows (writer.writeBatches parts.flatten).2.state.directEncoder
          (writer.writeBatches parts.flatten).2.handed = some rows) ∧
      (writer.writeBatches batches).2.state.stats.rowsWritten =
        (writer.writeBatches parts.flatten).2.state.stats.rowsWritten := by
  have hencodes := newWithContext_succeeds.mp ((newWithContext_planned ⟨profile, planOptions⟩ hplan).mpr hencodable)
  obtain ⟨-, hloads⟩ := load_of_writeBatches hreliable hplan hnew hencodable hmeasurable
  have hsliced : ∀ slice ∈ parts.flatten, Plannable outcome.value slice := by
    refine forall_mem_flatten hcuts ?_
    intro batch hbatch slices hcut
    exact (hplannable batch hbatch).of_cut hencodes hcut
  obtain ⟨hreports, hloads'⟩ := @load_of_writeBatches _ _ _ _ _ _ client table options writer parts.flatten hreliable
    hplan hnew hencodable (by
      intro hdirect
      refine forall_mem_flatten hcuts ?_
      intro batch hbatch slices hcut
      exact (hmeasurable hdirect batch hbatch).of_cut hencodes (hplannable batch hbatch).shape hcut)
  obtain ⟨hrows, hcount, -⟩ := @run_flatten_simulates _ _ _ _ _ (Load.write outcome.value) SameRows batches ⟨[], {}⟩
    ⟨[], {}⟩ _ (Load.write outcome.value) _ parts hcuts
    (by
      intro batch hbatch slices load load' hcut hsame
      exact sameRows_of_cut hencodes (hplannable batch hbatch) hcut hsame)
    ⟨rfl, rfl, by decide⟩
  refine ⟨?_, ⟨_, hloads.rows, ?_⟩, ?_⟩
  · have hanswers := @forall_answers _ _ _ (Load.write outcome.value) parts.flatten ⟨[], {}⟩
      (fun _ => True) (fun answer => ∃ stats, answer = .ok stats)
      (fun slice hslice load _ => ⟨(hsliced slice hslice).write load, trivial⟩) trivial
    intro call hcall
    exact accepted_of_reports hreports hanswers _ (List.mem_map_of_mem hcall)
  · rw [hrows]
    exact hloads'.rows
  · rw [hloads.stats, hloads'.stats, hcount]

end Runs

section Sample

omit [Externals] in
theorem halves_in_bounds : 0 + 1 ≤ sampleBatch.numRows ∧ 1 + 1 ≤ sampleBatch.numRows := by decide

omit [Externals] in
theorem slices_load_the_same_rows_at_halves : ∃ writer calls final,
    @BulkWriter.new boundlessLoad .silent sampleTarget sampleTable samplePlannedSchema {} = .ok writer ∧
    @BulkWriter.writeBatches boundlessLoad .silent writer [sampleBatch.slice 0 1 halves_in_bounds.1,
      sampleBatch.slice 1 1 halves_in_bounds.2] = (calls, final) ∧
    (∀ call ∈ calls, ∃ stats, @Call.result boundlessLoad call = .ok stats) ∧
    handedRows (@BulkWriter.state boundlessLoad final).directEncoder (@BulkWriter.handed boundlessLoad final) =
      some sampleRows ∧
    (@BulkWriter.state boundlessLoad final).stats.rowsWritten = 2 := by
  refine ⟨_, _, _, rfl, rfl, ?_⟩
  have hplannable : ∀ batch ∈ [sampleBatch], @Plannable .silent samplePlannedSchema batch := by
    intro batch hbatch
    rw [List.mem_singleton.mp hbatch]
    exact @Plannable.mk .silent _ _ rfl ⟨_, rfl⟩
  have hmeasurable : ∀ batch ∈ [sampleBatch], @Measurable .silent samplePlannedSchema batch := by
    intro batch hbatch
    rw [List.mem_singleton.mp hbatch]
    exact sampleBatch_measurable
  have hcut : Cut sampleBatch 0 [sampleBatch.slice 0 1 halves_in_bounds.1, sampleBatch.slice 1 1 halves_in_bounds.2] :=
    .slice _ (.slice _ .done)
  obtain ⟨haccepted, ⟨rows, hwhole, hrows⟩, hcount⟩ := @slices_load_the_same_rows .silent boundlessLoad
    sampleBatch.schema sampleProfile samplePlanOptions ⟨samplePlannedSchema, []⟩ sampleTarget sampleTable {} _
    [sampleBatch] _ reliable_boundlessLoad rfl rfl (by decide) hplannable (fun _ => hmeasurable) (.cons hcut .nil)
  obtain rfl : sampleRows = rows := Option.some.inj hwhole
  exact ⟨haccepted, hrows, hcount.symm⟩

end Sample

end ArrowTiberius.Writer
