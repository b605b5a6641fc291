import ArrowTiberius.Direct.EncodeBatch
import ArrowTiberius.Direct.Semantics

namespace ArrowTiberius.Direct

open Checked Tiling

variable [Externals]

/-- The cell the baseline makes of a row and a column of a batch, absent where it refuses. -/
def batchCell (context : RuntimeConversionContext) (mappings : List SchemaMapping) (batch : RecordBatch)
    (rowIndex columnIndex : ℕ) : Option MssqlCell := do
  let mapping ← mappings[columnIndex]?
  let array ← batch.columns[columnIndex]?
  semanticCell context mapping array rowIndex

/-- The bytes of that cell in its column, absent also where its frame is too small for it. -/
def batchBytes (context : RuntimeConversionContext) (mappings : List SchemaMapping) (batch : RecordBatch)
    (rowIndex columnIndex : ℕ) : Option (List UInt8) := do
  let mapping ← mappings[columnIndex]?
  let cell ← batchCell context mappings batch rowIndex columnIndex
  wireCell mapping cell

def batchLength (context : RuntimeConversionContext) (mappings : List SchemaMapping) (batch : RecordBatch)
    (rowIndex columnIndex : ℕ) : ℕ :=
  ((batchBytes context mappings batch rowIndex columnIndex).getD []).length

def encodedLength (context : RuntimeConversionContext) (mappings : List SchemaMapping) (batch : RecordBatch) : ℕ :=
  rowStart mappings.length rowTokenLen (batchLength context mappings batch) batch.numRows

def CellsFit (context : RuntimeConversionContext) (mappings : List SchemaMapping) (batch : RecordBatch) : Prop :=
  ∀ (i : ℕ) mapping, mappings[i]? = some mapping → ∀ r < batch.numRows, ∀ cell,
    batchCell context mappings batch r i = some cell →
      Tds.Fits (Tds.framingOf mapping.mssql.ty mapping.mssql.nullable) (Tds.payload cell)

section Shape

variable {encoder : DirectEncoder} {batch : RecordBatch} {mappings : List SchemaMapping}
  {context : RuntimeConversionContext}

theorem column_of_shape (hshape : validateRecordBatchEncodingShape batch mappings = .ok ()) {i : ℕ}
    {mapping : SchemaMapping} (hmapping : mappings[i]? = some mapping) :
    ∃ array, batch.columns[i]? = some array ∧ mapping.arrow.index = i ∧
      arrowTypeCompatibleWithMapping array.dataType mapping = true := by
  obtain ⟨hlength, hfields, hcolumns⟩ := validateRecordBatchEncodingShape_eq_ok.mp hshape
  obtain ⟨hi, -⟩ := List.getElem?_eq_some_iff.mp hmapping
  have hcolumn : batch.columns[i]? = some _ := List.getElem?_eq_getElem (by rw [batch.length_columns]; omega)
  have hfield : batch.schema[i]? = some _ := List.getElem?_eq_getElem (by omega)
  exact ⟨_, hcolumn, (hfields i _ _ hfield hmapping).1, hcolumns i _ _ hcolumn hmapping⟩

theorem planned_column (hencoder : DirectEncoder.newWithContext mappings context = .ok encoder) {i : ℕ}
    {mapping : SchemaMapping} (hmapping : mappings[i]? = some mapping) :
    ∃ encoding, encoder.plan.columns[i]? = some (DirectColumnPlan.fromMapping mapping encoding) ∧
      Encodes mapping.arrow.dataType mapping.mssql.ty encoding := by
  have hlength := length_planColumns hencoder
  obtain ⟨hi, -⟩ := List.getElem?_eq_some_iff.mp hmapping
  have hcolumn : encoder.plan.columns[i]? = some _ := List.getElem?_eq_getElem (by omega)
  obtain ⟨mapping', encoding, hmapping', hencodes, hplan⟩ := encoder_column hencoder hcolumn
  rw [hmapping, Option.some.injEq] at hmapping'
  subst hmapping'
  exact ⟨encoding, hcolumn.trans (congrArg some hplan), hencodes⟩

theorem denoted_column (hencoder : DirectEncoder.newWithContext mappings context = .ok encoder)
    (hshape : validateRecordBatchEncodingShape batch mappings = .ok ()) {i : ℕ} {mapping : SchemaMapping}
    (hmapping : mappings[i]? = some mapping) : ∃ encoding array bound,
      encoder.plan.columns[i]? = some (DirectColumnPlan.fromMapping mapping encoding) ∧
      batch.columns[mapping.arrow.index]? = some array ∧
      bindDirectArray encoder array i (DirectColumnPlan.fromMapping mapping encoding) = .ok bound ∧
      ∀ r, bound.cellBytes context r = batchBytes context mappings batch r i := by
  obtain ⟨hmappings, -⟩ := newWithContext_eq_ok.mp hencoder
  obtain ⟨array, harray, hindex, hcompatible⟩ := column_of_shape hshape hmapping
  obtain ⟨encoding, hcolumn, hencodes⟩ := planned_column hencoder hmapping
  obtain ⟨bound, hbound, hbytes⟩ := @denotes_of_compatible _ encoder array i mapping encoding context hencodes
    (hmappings ▸ hmapping) hcompatible
  refine ⟨encoding, array, bound, hcolumn, hindex ▸ harray, hbound, fun r => ?_⟩
  simp only [hbytes, batchBytes, batchCell, hmapping, harray, Option.bind_eq_bind, Option.bind_some]

theorem exists_bound (hencoder : DirectEncoder.newWithContext mappings context = .ok encoder)
    (hshape : validateRecordBatchEncodingShape batch mappings = .ok ()) :
    ∃ bound, BoundDirectBatch.new encoder batch = .ok bound ∧ bound.columns.length = mappings.length ∧
      bound.rowCount = batch.numRows ∧ ∀ r i, bound.cellBytes r i = batchBytes context mappings batch r i := by
  obtain ⟨-, hcontext, -⟩ := newWithContext_eq_ok.mp hencoder
  have hbinds : ∃ columns, bindDirectColumns encoder batch = .ok columns := by
    apply collect_succeeds_iff.mpr
    rintro ⟨column, i⟩ hx
    have hcolumn := List.mem_zipIdx_iff_getElem?.mp hx
    obtain ⟨mapping, -, hmapping, -⟩ := encoder_column hencoder hcolumn
    obtain ⟨encoding, array, bound, hplan, harray, hbound, -⟩ := denoted_column hencoder hshape hmapping
    rw [hcolumn, Option.some.injEq] at hplan
    change column = _ at hplan
    subst hplan
    exact ⟨bound, bind_eq_ok.mpr ⟨array, okOr_eq_ok.mpr harray, hbound⟩⟩
  obtain ⟨columns, hcolumns⟩ := hbinds
  have hlength : columns.length = mappings.length :=
    (length_boundColumns hcolumns).trans (length_planColumns hencoder)
  refine ⟨⟨columns, encoder.runtimeContext, batch.numRows⟩, boundBatch_new_eq_ok.mpr ⟨hcolumns, rfl, rfl⟩, hlength, rfl,
    fun r i => ?_⟩
  by_cases hi : i < mappings.length
  · obtain ⟨-, hcell⟩ := collect_eq_ok_iff_getElem?.mp hcolumns
    have hcolumn : columns[i]? = some columns[i] := List.getElem?_eq_getElem (by omega)
    obtain ⟨encoding, array, bound, hplan, harray, hbound, hbytes⟩ :=
      denoted_column hencoder hshape (List.getElem?_eq_getElem hi)
    have hpair : encoder.plan.columns.zipIdx[i]? = some (DirectColumnPlan.fromMapping mappings[i] encoding, i) := by
      rw [List.getElem?_zipIdx, hplan]
      simp
    obtain ⟨array', harray', hbind⟩ := bind_eq_ok.mp (hcell i _ _ hpair hcolumn)
    have hsame : array = array' := Option.some.inj (harray.symm.trans (okOr_eq_ok.mp harray'))
    subst hsame
    have hsame : bound = columns[i] := Except.ok.inj (hbound.symm.trans hbind)
    rw [BoundDirectBatch.cellBytes, hcolumn, Option.bind_some, ← hsame, ← hbytes, hcontext]
  · have hnone : mappings[i]? = none := List.getElem?_eq_none (by omega)
    have hnone' : columns[i]? = none := List.getElem?_eq_none (by omega)
    rw [BoundDirectBatch.cellBytes, batchBytes, hnone, hnone']
    rfl

theorem sqlCellOf_batchCell (hencoder : DirectEncoder.newWithContext mappings context = .ok encoder)
    (hshape : validateRecordBatchEncodingShape batch mappings = .ok ()) {r i : ℕ} {mapping : SchemaMapping}
    {array : ArrayRef} {cell : MssqlCell} (hmapping : mappings[i]? = some mapping)
    (harray : batch.columns[i]? = some array) (hnull : array.isNull r = false)
    (h : batchCell context mappings batch r i = some cell) : SqlCellOf mapping.mssql.ty cell := by
  obtain ⟨array', harray', -, hcompatible⟩ := column_of_shape hshape hmapping
  obtain rfl := Option.some.inj (harray.symm.trans harray')
  obtain ⟨encoding, -, hencodes⟩ := planned_column hencoder hmapping
  simp only [batchCell, hmapping, harray, Option.bind_eq_bind, Option.bind_some, semanticCell, toOption_eq_some] at h
  obtain ⟨arrowCell, harrow, hcell⟩ := bind_eq_ok.mp h
  obtain ⟨arrowCell', harrow', hkind⟩ := extractArrowCell_of_value hencodes.isExtractable hcompatible hnull
  rw [harrow, Except.ok.injEq] at harrow'
  subst harrow'
  rw [mssqlCellFromArrowCell_value hencodes hkind] at hcell
  exact sqlCellOf_convertValue hencodes hkind hcell

theorem holds_of_batchCell (hencoder : DirectEncoder.newWithContext mappings context = .ok encoder)
    (hshape : validateRecordBatchEncodingShape batch mappings = .ok ()) {r i : ℕ} {mapping : SchemaMapping}
    {cell : MssqlCell} (hmapping : mappings[i]? = some mapping) (h : batchCell context mappings batch r i = some cell) :
    Tds.Holds mapping.mssql.ty mapping.mssql.nullable cell := by
  obtain ⟨array, harray, -, hcompatible⟩ := column_of_shape hshape hmapping
  by_cases hnull : array.isNull r = true
  · obtain ⟨encoding, -, hencodes⟩ := planned_column hencoder hmapping
    simp only [batchCell, hmapping, harray, Option.bind_eq_bind, Option.bind_some, semanticCell, toOption_eq_some,
      extractArrowCell_of_null hnull, ok_bind] at h
    rw [mssqlCellFromArrowCell_null hencodes, convertNull, bind_eq_ok] at h
    obtain ⟨_, hnullable, hcell⟩ := h
    obtain ⟨_, -, hcell⟩ := bind_eq_ok.mp hcell
    exact .inl ⟨ensure_eq_ok.mp hnullable, (Except.ok.inj hcell).symm⟩
  · exact .inr (sqlCellOf_batchCell hencoder hshape hmapping harray (Bool.eq_false_iff.mpr hnull) h)

theorem batchBytes_eq_some {r i : ℕ} {bytes : List UInt8} : batchBytes context mappings batch r i = some bytes ↔
    ∃ mapping cell, mappings[i]? = some mapping ∧ batchCell context mappings batch r i = some cell ∧
      Tds.Fits (Tds.framingOf mapping.mssql.ty mapping.mssql.nullable) (Tds.payload cell) ∧
      bytes = Tds.encodeCell (Tds.framingOf mapping.mssql.ty mapping.mssql.nullable) cell := by
  simp only [batchBytes, Option.bind_eq_bind, Option.bind_eq_some_iff, wireCell, Tds.wire_eq_some, Tds.encodeCell]
  constructor
  · rintro ⟨mapping, hmapping, cell, hcell, hbytes⟩
    exact ⟨mapping, cell, hmapping, hcell, hbytes⟩
  · rintro ⟨mapping, cell, hmapping, hcell, hbytes⟩
    exact ⟨mapping, hmapping, cell, hcell, hbytes⟩

theorem batchBytes_pos (hencoder : DirectEncoder.newWithContext mappings context = .ok encoder)
    (hshape : validateRecordBatchEncodingShape batch mappings = .ok ()) {r i : ℕ} {bytes : List UInt8}
    (h : batchBytes context mappings batch r i = some bytes) : 0 < bytes.length := by
  obtain ⟨mapping, cell, hmapping, hcell, hfits, rfl⟩ := batchBytes_eq_some.mp h
  exact (holds_of_batchCell hencoder hshape hmapping hcell).length_pos hfits

end Shape

section Measure

variable {encoder : DirectEncoder} {batch : RecordBatch} {mappings : List SchemaMapping}
  {context : RuntimeConversionContext} {m : MeasuredDirectBatch}

theorem shape_of_measureBatch (hencoder : DirectEncoder.newWithContext mappings context = .ok encoder)
    (hm : encoder.measureBatch batch = .ok m) : validateRecordBatchEncodingShape batch mappings = .ok () := by
  obtain ⟨hmappings, -⟩ := newWithContext_eq_ok.mp hencoder
  obtain ⟨_, hshape, -⟩ := bind_eq_ok.mp hm
  exact hmappings ▸ hshape

/-- The batch is measured exactly when every cell has its bytes and all of them fit. -/
theorem measureBatch_eq_ok (hencoder : DirectEncoder.newWithContext mappings context = .ok encoder)
    (hlimit : BinaryWithinLimit mappings) (hshape : validateRecordBatchEncodingShape batch mappings = .ok ()) :
    encoder.measureBatch batch = .ok m ↔
      (∀ r < batch.numRows, ∀ i < mappings.length, (batchBytes context mappings batch r i).isSome) ∧
        encodedLength context mappings batch < 2 ^ 64 ∧
        Measures batch.numRows mappings.length (batchLength context mappings batch) m := by
  obtain ⟨hmappings, -⟩ := newWithContext_eq_ok.mp hencoder
  have hcount : encoder.plan.columnCount = mappings.length := length_planColumns hencoder
  rw [DirectEncoder.measureBatch, hmappings, hshape, ok_bind, hcount]
  by_cases hzero : batch.numRows = 0
  · have hmeasures : Measures batch.numRows mappings.length (batchLength context mappings batch)
        (MeasuredDirectBatch.empty mappings.length) := hzero ▸ MeasuredDirectBatch.measures_empty mappings.length _
    rw [if_pos hzero, pure_eq_ok, Except.ok.injEq]
    constructor
    · rintro rfl
      exact ⟨fun r hr => absurd hr (by omega), hmeasures.fits, hmeasures⟩
    · rintro ⟨-, -, h⟩
      exact hmeasures.unique h
  · obtain ⟨bound, hbound, hcolumns, hrows, hbytes⟩ := exists_bound hencoder hshape
    have hlength : bound.cellLength = batchLength context mappings batch := by
      funext r i
      rw [BoundDirectBatch.cellLength, BoundDirectBatch.bytes, hbytes, batchLength]
    have haccepts : bound.Accepts ↔
        ∀ r < batch.numRows, ∀ i < mappings.length, (batchBytes context mappings batch r i).isSome := by
      simp only [BoundDirectBatch.Accepts, hrows, hcolumns, hbytes]
    rw [if_neg hzero, measureCellLengths, hbound, ok_bind]
    simp only [bind_eq_ok, (lawful_of_new hencoder hlimit hbound).measureCellLengths_eq_ok, haccepts, hrows, hcolumns,
      hlength]
    constructor
    · rintro ⟨_, ⟨-, hall, rfl⟩, hm⟩
      obtain ⟨-, hfits, hmeasures⟩ := MeasuredDirectBatch.new_eq_ok.mp hm
      exact ⟨hall, hfits, hmeasures⟩
    · rintro ⟨hall, hfits, hmeasures⟩
      exact ⟨_, ⟨hmeasures.addressable, hall, rfl⟩,
        MeasuredDirectBatch.new_eq_ok.mpr ⟨hmeasures.addressable, hfits, hmeasures⟩⟩

theorem exists_measureBatch (hencoder : DirectEncoder.newWithContext mappings context = .ok encoder)
    (hlimit : BinaryWithinLimit mappings) (hshape : validateRecordBatchEncodingShape batch mappings = .ok ()) :
    (∃ m, encoder.measureBatch batch = .ok m) ↔
      (∀ r < batch.numRows, ∀ i < mappings.length, (batchBytes context mappings batch r i).isSome) ∧
        encodedLength context mappings batch < 2 ^ 64 := by
  simp only [measureBatch_eq_ok hencoder hlimit hshape]
  constructor
  · rintro ⟨m, hall, hfits, -⟩
    exact ⟨hall, hfits⟩
  · rintro ⟨hall, hfits⟩
    have hcells : batch.numRows * mappings.length < 2 ^ 64 := by
      refine lt_of_le_of_lt (mul_le_rowStart fun r hr i hi => ?_) hfits
      obtain ⟨bytes, hbytes⟩ := Option.isSome_iff_exists.mp (hall r hr i hi)
      rw [batchLength, hbytes, Option.getD_some]
      exact batchBytes_pos hencoder hshape hbytes
    obtain ⟨m, hm⟩ := exists_measures hcells hfits
    exact ⟨m, hall, hfits, hm⟩

end Measure

end ArrowTiberius.Direct
