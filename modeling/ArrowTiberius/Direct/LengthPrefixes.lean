import ArrowTiberius.Direct.Refinement

namespace ArrowTiberius.Direct

open Checked Tiling

/-- The lengths that the prefix of a frame can announce and that it does not keep for null. -/
def PrefixSound : Tds.Framing → ℕ → Prop
  | .plain, _ => True
  | .bytePrefixed, n => n < 2 ^ 8 ∧ n ≠ 0
  | .shortPrefixed, n => n < 2 ^ 16 ∧ n ≠ 0xffff
  | .plp, n => n < 2 ^ 32

def cellFraming (mapping : SchemaMapping) : Tds.Framing := Tds.framingOf mapping.mssql.ty mapping.mssql.nullable

def HoldsOversizeBinary (mappings : List SchemaMapping) (batch : RecordBatch) : Prop :=
  ∃ (i : ℕ) (length : ℕ) (mapping : SchemaMapping) (array : ArrayRef) (r : ℕ), mappings[i]? = some mapping ∧
    mapping.mssql.ty = .binary length ∧ 0xfffe < length ∧ batch.columns[i]? = some array ∧ r < batch.numRows ∧
    array.isNull r = false

variable [Externals]

/-- A value whose length its prefix announces, which each pass writes as it was measured and a reader tells from
null. -/
structure SoundCell (context : RuntimeConversionContext) (mapping : SchemaMapping) (column : BoundDirectColumn)
    (rows r measuredLen : ℕ) (content : List UInt8) : Prop where
  announced : PrefixSound (cellFraming mapping) content.length
  measured : measuredLen = (Tds.frame (cellFraming mapping) (some content)).length
  written : column.cellBytes context r = some (Tds.frame (cellFraming mapping) (some content))
  lawful : column.Lawful context rows
  appended : ∀ buf, column.appendCell context buf r measuredLen =
    .ok (buf ++ Tds.frame (cellFraming mapping) (some content))
  fixedWidth : ∀ fastPath fixed, FixedWidth.fixedWidthColumn fastPath column = some fixed →
    FixedWidth.FixedWidthLaw context rows column fixed
  readBack : ∀ rest, Tds.unframe (Tds.plainWidth mapping.mssql.ty) (cellFraming mapping)
    (Tds.frame (cellFraming mapping) (some content) ++ rest) = some (some content, rest)

def PrefixesSound (mappings : List SchemaMapping) (context : RuntimeConversionContext) (encoder : DirectEncoder)
    (batch : RecordBatch) (m : MeasuredDirectBatch) : Prop :=
  ∃ bound, BoundDirectBatch.new encoder batch = .ok bound ∧
    ∀ (i : ℕ) mapping array column, mappings[i]? = some mapping → batch.columns[i]? = some array →
      bound.columns[i]? = some column → ∀ r < batch.numRows, array.isNull r = false →
        ∃ content measuredLen, (batchCell context mappings batch r i).bind Tds.payload = some content ∧
          m.cellLen r i = .ok measuredLen ∧ SoundCell context mapping column batch.numRows r measuredLen content

omit [Externals] in
theorem prefixSound_of_readable {framing : Tds.Framing} {width : ℕ} {content : List UInt8}
    (h : Tds.Readable width framing (some content)) : PrefixSound framing content.length := by
  cases framing with
  | plain => trivial
  | bytePrefixed => exact ⟨h.2, Nat.ne_of_gt h.1⟩
  | shortPrefixed =>
    have hlt : content.length < 0xffff := h
    exact ⟨by omega, by omega⟩
  | plp => exact h

section Column

variable {encoder : DirectEncoder} {array : ArrayRef} {i : ℕ} {mapping : SchemaMapping}
  {encoding : DirectColumnEncoding} {column : BoundDirectColumn} {context : RuntimeConversionContext}

theorem measures_of_bind (hencodes : Encodes mapping.arrow.dataType mapping.mssql.ty encoding)
    (hmapping : encoder.mappings[i]? = some mapping)
    (hbind : bindDirectArray encoder array i (DirectColumnPlan.fromMapping mapping encoding) = .ok column) :
    ∃ cellLength, MeasuresColumn array.len cellLength (column.measureCellLengths context) ∧
      (AnnouncesLength mapping.mssql.ty → ∀ r, cellLength r = (column.cellBytes context r).map List.length) := by
  by_cases hlimit : AnnouncesLength mapping.mssql.ty
  · exact ⟨_, (lawful_of_bind hencodes hlimit hmapping hbind).measures, fun _ _ => rfl⟩
  · simp only [AnnouncesLength, not_forall] at hlimit
    obtain ⟨length, hty, -⟩ := id hlimit
    rw [hty] at hencodes
    generalize mapping.arrow.dataType = dataType at hencodes
    cases hencodes with
    | fixedSizeBinary _ =>
      obtain ⟨data, hdata, rfl⟩ := map_eq_ok.mp hbind
      rw [← len_of_downcastFixedSizeBinary hdata]
      refine ⟨_, FixedSizeBinary.measures_cellLength, fun h => absurd h ?_⟩
      simpa only [AnnouncesLength, not_forall] using hlimit

theorem fixedWidthLaw_of_bind (hencodes : Encodes mapping.arrow.dataType mapping.mssql.ty encoding)
    (hlimit : AnnouncesLength mapping.mssql.ty) (hmapping : encoder.mappings[i]? = some mapping)
    (hbind : bindDirectArray encoder array i (DirectColumnPlan.fromMapping mapping encoding) = .ok column)
    {fastPath : FixedWidth.FastPath} {fixed : FixedWidth.FixedWidthColumn}
    (h : FixedWidth.fixedWidthColumn fastPath column = some fixed) :
    FixedWidth.FixedWidthLaw context array.len column fixed := by
  have hsome := FixedWidth.fixedWidthColumn_of_some h
  have hfixed : column.isFixedWidth = true := by
    by_contra hwide
    rw [FixedWidth.fixedWidthColumn_eq_none (Bool.eq_false_iff.mpr hwide)] at hsome
    cases hsome
  obtain ⟨fixed', hfixed', hlaw⟩ := FixedWidth.fixedWidth_of_bind hencodes hlimit hmapping hbind hfixed
  rw [hsome, Option.some.injEq] at hfixed'
  exact hfixed' ▸ hlaw

end Column

section Batch

variable {mappings : List SchemaMapping} {context : RuntimeConversionContext} {encoder : DirectEncoder}
  {batch : RecordBatch} {bound : BoundDirectBatch} {m : MeasuredDirectBatch}

theorem measured_cell (hencoder : DirectEncoder.newWithContext mappings context = .ok encoder)
    (hm : encoder.measureBatch batch = .ok m) (hbound : BoundDirectBatch.new encoder batch = .ok bound) {i : ℕ}
    {mapping : SchemaMapping} {column : BoundDirectColumn} (hmapping : mappings[i]? = some mapping)
    (hcolumn : bound.columns[i]? = some column) (hlimit : AnnouncesLength mapping.mssql.ty) {r : ℕ}
    (hr : r < batch.numRows) :
    ∃ bytes, column.cellBytes context r = some bytes ∧ m.cellLen r i = .ok bytes.length := by
  obtain ⟨hmappings, hcontext, -⟩ := newWithContext_eq_ok.mp hencoder
  obtain ⟨hcolumns, hboundContext, hrows⟩ := boundBatch_new_eq_ok.mp hbound
  have hcount : bound.columns.length = encoder.plan.columnCount := length_boundColumns hcolumns
  have hlens : ∀ k : ℕ, ∃ cellLength : ℕ → Option ℕ, ∀ column, bound.columns[k]? = some column →
      MeasuresColumn batch.numRows cellLength (column.measureCellLengths context) ∧
        ∀ mapping, mappings[k]? = some mapping → AnnouncesLength mapping.mssql.ty →
          ∀ r, cellLength r = (column.cellBytes context r).map List.length := by
    intro k
    cases hk : bound.columns[k]? with
    | none => exact ⟨fun _ => none, fun column h => by cases h⟩
    | some column =>
      obtain ⟨mapping, encoding, array, hmapping, hencodes, harray, hbind⟩ := bound_column hencoder hcolumns hk
      obtain ⟨cellLength, hmeasures, hlengths⟩ :=
        @measures_of_bind _ encoder array k mapping encoding column context hencodes (hmappings ▸ hmapping) hbind
      rw [batch.sized array (List.mem_of_getElem? harray)] at hmeasures
      refine ⟨cellLength, fun column' h => ?_⟩
      obtain rfl := Option.some.inj h
      refine ⟨hmeasures, fun mapping' h => ?_⟩
      obtain rfl := Option.some.inj (hmapping.symm.trans h)
      exact hlengths
  choose cellLength hlens using hlens
  have hmeasured := @BoundDirectBatch.measureCellLengths_of_columns _ bound (fun r k => cellLength k r) fun k column h => by
    rw [hrows, hboundContext, hcontext]
    exact (hlens k column h).1
  rw [DirectEncoder.measureBatch, bind_unit_eq_ok, if_neg (by omega), measureCellLengths, hbound, ok_bind] at hm
  obtain ⟨-, lengths, hlengths, hnew⟩ := And.imp_right bind_eq_ok.mp hm
  obtain ⟨-, hall, rfl⟩ := hmeasured.mp hlengths
  rw [hrows, hcount] at hnew hall
  obtain ⟨-, -, hmeasures⟩ := MeasuredDirectBatch.new_eq_ok.mp hnew
  obtain ⟨hi, -⟩ := List.getElem?_eq_some_iff.mp hcolumn
  have hsome := hall r hr i (hcount ▸ hi)
  have hlen := hmeasures.cellLen_of_lt hr (hcount ▸ hi)
  rw [(hlens i column hcolumn).2 mapping hmapping hlimit r] at hsome hlen
  rw [Option.isSome_map] at hsome
  obtain ⟨bytes, hbytes⟩ := Option.isSome_iff_exists.mp hsome
  rw [hbytes, Option.map_some, Option.getD_some] at hlen
  exact ⟨bytes, hbytes, hlen⟩

theorem not_prefixesSound_of_oversize (hencoder : DirectEncoder.newWithContext mappings context = .ok encoder)
    (hm : encoder.measureBatch batch = .ok m) (h : HoldsOversizeBinary mappings batch) :
    ¬PrefixesSound mappings context encoder batch m := by
  rintro ⟨bound, hbound, hsound⟩
  obtain ⟨i, length, mapping, array, r, hmapping, hty, hlength, harray, hr, hnull⟩ := h
  obtain ⟨hcolumns, -, -⟩ := boundBatch_new_eq_ok.mp hbound
  have hcount := (length_boundColumns hcolumns).trans (length_planColumns hencoder)
  obtain ⟨hi, -⟩ := List.getElem?_eq_some_iff.mp hmapping
  have hcolumn : bound.columns[i]? = some _ := List.getElem?_eq_getElem (hcount ▸ hi)
  obtain ⟨content, _, hcontent, -, hcell⟩ := hsound i mapping array _ hmapping harray hcolumn r hr hnull
  obtain ⟨cell, hbatch, hpayload⟩ := Option.bind_eq_some_iff.mp hcontent
  have hsql := sqlCellOf_batchCell hencoder (shape_of_measureBatch hencoder hm) hmapping harray hnull hbatch
  have hannounced := hcell.announced
  rw [cellFraming, hty] at hannounced
  rw [hty] at hsql
  cases hsql with
  | binary value =>
    obtain rfl := Option.some.inj hpayload
    obtain ⟨hlt, hne⟩ : value.length < 2 ^ 16 ∧ value.length ≠ 0xffff := hannounced
    omega

/-- The measured values can be announced, written and read back exactly when no binary column is too wide for its
prefix. -/
theorem prefixes_are_sound_iff (hencoder : DirectEncoder.newWithContext mappings context = .ok encoder)
    (hm : encoder.measureBatch batch = .ok m) :
    PrefixesSound mappings context encoder batch m ↔ ¬HoldsOversizeBinary mappings batch := by
  constructor
  · intro hsound hoversize
    exact not_prefixesSound_of_oversize hencoder hm hoversize hsound
  intro hnot
  have hshape := shape_of_measureBatch hencoder hm
  obtain ⟨hmappings, hcontext, -⟩ := newWithContext_eq_ok.mp hencoder
  obtain ⟨bound, hbound, -, hrows, hbytes⟩ := exists_bound hencoder hshape
  obtain ⟨hcolumns, hboundContext, -⟩ := boundBatch_new_eq_ok.mp hbound
  refine ⟨bound, hbound, ?_⟩
  intro i mapping array column hmapping harray hcolumn r hr hnull
  have hlimit : AnnouncesLength mapping.mssql.ty := by
    intro length hty
    by_contra hlength
    exact hnot ⟨i, length, mapping, array, r, hmapping, hty, by omega, harray, hr, hnull⟩
  obtain ⟨mapping', encoding, array', hmapping', hencodes, harray', hbind⟩ := bound_column hencoder hcolumns hcolumn
  obtain rfl := Option.some.inj (hmapping.symm.trans hmapping')
  obtain ⟨-, -, hindex, -⟩ := column_of_shape hshape hmapping
  rw [hindex, harray, Option.some.injEq] at harray'
  subst harray'
  have hsized := batch.sized array (List.mem_of_getElem? harray)
  obtain ⟨bytes, hwritten, hmeasured⟩ := measured_cell hencoder hm hbound hmapping hcolumn hlimit hr
  have hbatchBytes : batchBytes context mappings batch r i = some bytes := by
    rw [← hbytes, BoundDirectBatch.Lawful.cellBytes_of_getElem? hcolumn, hboundContext, hcontext, hwritten]
  obtain ⟨mapping', cell, hmapping', hcell, hfits, rfl⟩ := batchBytes_eq_some.mp hbatchBytes
  obtain rfl := Option.some.inj (hmapping.symm.trans hmapping')
  have hsql := sqlCellOf_batchCell hencoder hshape hmapping harray hnull hcell
  obtain ⟨content, hcontent, -⟩ := Tds.decodeContent_payload hsql
  have hreadable := Tds.readable_payload hsql hfits
  rw [Tds.encodeCell, hcontent] at hwritten hmeasured
  rw [hcontent] at hreadable
  have hlawful : column.Lawful context batch.numRows :=
    hsized ▸ lawful_of_bind hencodes hlimit (hmappings ▸ hmapping) hbind
  refine ⟨content, _, by rw [hcell, Option.bind_some, hcontent], hmeasured, prefixSound_of_readable hreadable, rfl,
    hwritten, hlawful, fun buf => hlawful.append_cell hwritten, ?_, fun rest => Tds.unframe_frame hreadable⟩
  intro fastPath fixed hfixed
  exact hsized ▸ fixedWidthLaw_of_bind hencodes hlimit (hmappings ▸ hmapping) hbind hfixed

end Batch

section Sample

omit [Externals]

theorem prefixes_are_sound_at_sample :
    ∃ m, @DirectEncoder.measureBatch .silent sampleEncoder sampleBatch = .ok m ∧
      @PrefixesSound .silent sampleMappings ⟨sampleProfile, {}⟩ sampleEncoder sampleBatch m := by
  refine ⟨_, rfl, (@prefixes_are_sound_iff .silent sampleMappings ⟨sampleProfile, {}⟩ sampleEncoder sampleBatch _ rfl
    rfl).mpr ?_⟩
  rintro ⟨i, length, mapping, array, r, hmapping, hty, -⟩
  rcases i with _ | _ | i
  · cases hmapping
    cases hty
  · cases hmapping
    cases hty
  · cases hmapping

end Sample

section Digest

theorem new_digest : BoundDirectBatch.new (digestEncoder 65535) (digestBatch 65535) =
    .ok ⟨[digestColumn 65535], ⟨sampleProfile, {}⟩, 1⟩ := rfl

theorem digest_measured : ∃ m, (digestEncoder 65535).measureBatch (digestBatch 65535) = .ok m ∧
    Measures 1 1 (fun _ _ => 65537) m := by
  have hmeasured := @BoundDirectBatch.measureCellLengths_of_columns _ ⟨[digestColumn 65535], ⟨sampleProfile, {}⟩, 1⟩ _
    (digest_measures (by decide))
  simp only [Option.isSome_some, Option.getD_some] at hmeasured
  have hfits : rowStart 1 rowTokenLen (fun _ _ => 65537) 1 < 2 ^ 64 := by
    rw [rowStart_succ, rowStart_zero, rowLength, Finset.sum_range_one, rowTokenLen]
    decide
  obtain ⟨m, hm⟩ := exists_measures (show 1 * 1 < 2 ^ 64 by decide) hfits
  refine ⟨m, ?_, hm⟩
  have hshape : validateRecordBatchEncodingShape (digestBatch 65535) (digestEncoder 65535).mappings = .ok () := rfl
  have hrows : ¬(digestBatch 65535).numRows = 0 := Nat.one_ne_zero
  rw [DirectEncoder.measureBatch, hshape, ok_bind, if_neg hrows, measureCellLengths, new_digest, ok_bind,
    hmeasured.mpr ⟨by decide, fun _ _ _ _ => trivial, rfl⟩, ok_bind]
  exact MeasuredDirectBatch.new_eq_ok.mpr ⟨by decide, hfits, hm⟩

theorem digest_appended {m : MeasuredDirectBatch} (h : Measures 1 1 (fun _ _ => 65537) m) :
    (digestEncoder 65535).encodeMeasuredBatchRangeInto (digestBatch 65535) m 0 1 [] =
      .ok ([0], tdsRowToken :: (FixedSizeBinary.nullBytes ++ List.replicate 65535 0)) := by
  have hchecked : (digestEncoder 65535).checkMeasured (digestBatch 65535) m = .ok () := by
    rw [DirectEncoder.checkMeasured, h.rowCount, h.columnCount]
    rfl
  have hcell : m.cellLen 0 0 = .ok 65537 := h.cellLen_of_lt (by decide) (by decide)
  have happend : (digestColumn 65535).appendCell ⟨sampleProfile, {}⟩ [tdsRowToken] 0 65537 =
      .ok ([tdsRowToken] ++ (FixedSizeBinary.nullBytes ++ List.replicate 65535 0)) :=
    @FixedSizeBinary.append_value ⟨1, fun _ => false, fun _ => List.replicate 65535 0⟩ (digestPlan 65535) 65535 0
      [tdsRowToken] (by decide) rfl List.length_replicate
  have hrow : DirectEncoder.appendRow ⟨[digestColumn 65535], ⟨sampleProfile, {}⟩, 1⟩ m ⟨[], 0, []⟩ 0 =
      .ok ⟨[0], 65538, [tdsRowToken] ++ (FixedSizeBinary.nullBytes ++ List.replicate 65535 0)⟩ := by
    have hone : FixedWidth.checkedAdd 0 1 = .ok 1 := rfl
    have hadd : FixedWidth.checkedAdd 1 65537 = .ok 65538 := rfl
    have hcolumns : [digestColumn 65535].zipIdx = [(digestColumn 65535, 0)] := rfl
    rw [DirectEncoder.appendRow, hone, ok_bind, hcolumns, forEach_cons, DirectEncoder.appendMeasuredCell, hcell, ok_bind,
      List.nil_append, List.nil_append, happend, ok_bind, hadd, ok_bind, pure_eq_ok, ok_bind, forEach_nil]
  have hend : okOr (checkedAdd 64 0 1) (invalidPayload "direct row range end overflowed usize") = .ok 1 := rfl
  rw [DirectEncoder.encodeMeasuredBatchRangeInto, (h.checkRange_eq_ok (u := ())).mpr (by decide), ok_bind, hchecked,
    ok_bind, new_digest, ok_bind, hend, ok_bind, Nat.sub_zero, forRange_succ, forRange_zero, ok_bind, hrow, ok_bind,
    pure_eq_ok, List.singleton_append]

end Digest

omit [Externals] in
/-- A value of 65535 bytes is measured, and appended behind the prefix of a null. -/
theorem binary_of_65535_bytes_is_written_as_null :
    ∃ mappings context encoder batch m bytes, @DirectEncoder.newWithContext .silent mappings context = .ok encoder ∧
      @DirectEncoder.measureBatch .silent encoder batch = .ok m ∧ HoldsOversizeBinary mappings batch ∧
      @DirectEncoder.encodeMeasuredBatchRangeInto .silent encoder batch m 0 1 [] = .ok ([0], tdsRowToken :: bytes) ∧
      (∃ rest, Tds.unframe 0 .shortPrefixed bytes = some (none, rest)) ∧
      ¬@PrefixesSound .silent mappings context encoder batch m := by
  obtain ⟨m, hm, hmeasures⟩ := @digest_measured .silent
  have hencoder : @DirectEncoder.newWithContext .silent [digestMapping 65535] textContext =
      .ok (digestEncoder 65535) := rfl
  have hoversize : HoldsOversizeBinary [digestMapping 65535] (digestBatch 65535) :=
    ⟨0, 65535, digestMapping 65535, _, 0, rfl, rfl, by decide, rfl, by decide, rfl⟩
  refine ⟨_, _, _, _, m, _, hencoder, hm, hoversize, @digest_appended .silent m hmeasures, ⟨List.replicate 65535 0, ?_⟩,
    @not_prefixesSound_of_oversize .silent _ _ _ _ m hencoder hm hoversize⟩
  exact @Tds.unframe_frame 0 _ .shortPrefixed none trivial

end ArrowTiberius.Direct
