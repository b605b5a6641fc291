import ArrowTiberius.Direct.EncoderLaw
import ArrowTiberius.Direct.Rows.FixedWidthBinding

namespace ArrowTiberius.Direct.FixedWidth

open Checked Tiling

variable [Externals]

structure Takes (bound : BoundDirectBatch) (fixed : List FixedWidthColumn) : Prop where
  length : fixed.length = bound.columns.length
  law : ∀ (k : ℕ) b column, bound.columns[k]? = some b → fixed[k]? = some column →
    FixedWidthLaw bound.runtimeContext bound.rowCount b column

section Columns

variable {bound : BoundDirectBatch} {rows : ℕ} {context : RuntimeConversionContext}

omit [Externals] in
theorem mapM_eq_none {columns : List BoundDirectColumn} (h : ∃ column ∈ columns, column.isFixedWidth = false) :
    columns.mapM (fixedWidthColumn {}) = none := by
  induction columns with
  | nil => simp at h
  | cons column columns ih =>
    rw [List.mapM_cons]
    obtain ⟨wide, hmem, hwide⟩ := h
    rcases List.mem_cons.mp hmem with rfl | hmem
    · rw [fixedWidthColumn_eq_none hwide]
      rfl
    · rw [ih ⟨wide, hmem, hwide⟩]
      cases fixedWidthColumn {} column <;> rfl

theorem exists_mapM_eq_some {columns : List BoundDirectColumn}
    (h : ∀ column ∈ columns, ∃ fixed, fixedWidthColumn {} column = some fixed ∧ FixedWidthLaw context rows column fixed) :
    ∃ fixed, columns.mapM (fixedWidthColumn {}) = some fixed ∧ fixed.length = columns.length ∧
      ∀ (k : ℕ) b column, columns[k]? = some b → fixed[k]? = some column → FixedWidthLaw context rows b column := by
  induction columns with
  | nil => exact ⟨[], rfl, rfl, fun k b column hb => by simp at hb⟩
  | cons b columns ih =>
    obtain ⟨column, hcolumn, hlaw⟩ := h b (by simp)
    obtain ⟨fixed, hfixed, hlength, hlaws⟩ := ih fun column hmem => h column (by simp [hmem])
    refine ⟨column :: fixed, ?_, by simp [hlength], ?_⟩
    · rw [List.mapM_cons, hcolumn, hfixed]
      rfl
    · intro k b' column' hb hcolumn'
      cases k with
      | zero =>
        cases hb
        cases hcolumn'
        exact hlaw
      | succ k => exact hlaws k b' column' hb hcolumn'

theorem exists_takes {encoder : DirectEncoder} {batch : RecordBatch} {mappings : List SchemaMapping}
    (hencoder : DirectEncoder.newWithContext mappings context = .ok encoder) (hlimit : BinaryWithinLimit mappings)
    (hbound : BoundDirectBatch.new encoder batch = .ok bound)
    (hall : ∀ column ∈ bound.columns, column.isFixedWidth = true) :
    ∃ fixed, fixedWidthColumns {} bound.columns = some fixed ∧ Takes bound fixed := by
  obtain ⟨hcolumns, -, hrows⟩ := boundBatch_new_eq_ok.mp hbound
  obtain ⟨hmappings, -⟩ := newWithContext_eq_ok.mp hencoder
  obtain ⟨fixed, hfixed, hlength, hlaws⟩ := @exists_mapM_eq_some _ bound.rowCount bound.runtimeContext bound.columns
    (by
      intro b hb
      obtain ⟨i, hi⟩ := List.mem_iff_getElem?.mp hb
      obtain ⟨mapping, encoding, array, hmapping, hencodes, harray, hbind⟩ := bound_column hencoder hcolumns hi
      rw [hrows, ← batch.sized array (List.mem_of_getElem? harray)]
      exact fixedWidth_of_bind hencodes (hlimit.announces (List.mem_of_getElem? hmapping)) (hmappings ▸ hmapping) hbind
        (hall b hb))
  exact ⟨fixed, hfixed, hlength, hlaws⟩

end Columns

namespace Takes

variable {bound : BoundDirectBatch} {fixed : List FixedWidthColumn}

theorem exists_column (h : Takes bound fixed) {k : ℕ} {column : FixedWidthColumn} (hcolumn : fixed[k]? = some column) :
    ∃ b, bound.columns[k]? = some b ∧ FixedWidthLaw bound.runtimeContext bound.rowCount b column := by
  obtain ⟨hk, -⟩ := List.getElem?_eq_some_iff.mp hcolumn
  have hlength : k < bound.columns.length := h.length ▸ hk
  have hb : bound.columns[k]? = some bound.columns[k] := List.getElem?_eq_getElem hlength
  exact ⟨_, hb, h.law k _ column hb hcolumn⟩

theorem haveArrays (h : Takes bound fixed) : HaveArrays bound.rowCount fixed := by
  intro column hmem
  obtain ⟨k, hcolumn⟩ := List.mem_iff_getElem?.mp hmem
  obtain ⟨b, -, hlaw⟩ := h.exists_column hcolumn
  exact ⟨by rw [hlaw.column, hlaw.array], hlaw.length⟩

theorem zones_safe (h : Takes bound fixed) :
    ∀ column ∈ fixed, Safe (validateColumnTimezoneMetadata column.nulls column) := by
  intro column hmem
  obtain ⟨k, hcolumn⟩ := List.mem_iff_getElem?.mp hmem
  obtain ⟨b, -, hlaw⟩ := h.exists_column hcolumn
  exact hlaw.zones_safe

theorem measurable_of_accepts (h : Takes bound fixed) (haccepts : bound.Accepts) :
    ∀ column ∈ fixed, column.Measurable := by
  intro column hmem
  obtain ⟨k, hcolumn⟩ := List.mem_iff_getElem?.mp hmem
  obtain ⟨b, hb, hlaw⟩ := h.exists_column hcolumn
  have hsome : ∀ r < bound.rowCount, (b.cellBytes bound.runtimeContext r).isSome := by
    intro r hr
    rw [← BoundDirectBatch.Lawful.cellBytes_of_getElem? hb]
    exact haccepts r hr k (List.getElem?_eq_some_iff.mp hb).1
  refine ⟨hlaw.zones hsome, ?_⟩
  by_cases hnullable : column.plan.nullable = true
  · exact .inl hnullable
  · refine .inr fun r hr => Bool.eq_false_iff.mpr fun hnull => hnullable ?_
    exact hlaw.nulls r hnull (hsome r (hlaw.length ▸ hr))

theorem fills_of_measurable (h : Takes bound fixed) (hmeasurable : ∀ column ∈ fixed, column.Measurable) (k : ℕ)
    (column : FixedWidthColumn) (hcolumn : fixed[k]? = some column) :
    FillsCells bound.runtimeContext bound.rowCount column.column (bound.cellBytes · k) (fixedWidthLen fixed · k) := by
  obtain ⟨b, hb, hlaw⟩ := h.exists_column hcolumn
  have hcells : (bound.cellBytes · k) = b.cellBytes bound.runtimeContext := by
    funext r
    exact BoundDirectBatch.Lawful.cellBytes_of_getElem? hb r
  have hlens : (fixedWidthLen fixed · k) = column.cellLen := by
    funext r
    exact fixedWidthLen_of hcolumn r
  rw [hcells, hlens, hlaw.column]
  apply hlaw.fills
  intro r hr hnull
  rcases (hmeasurable column (List.mem_of_getElem? hcolumn)).2 with hnullable | hnone
  · exact hnullable
  · rw [hnone r (hlaw.length.symm ▸ hr)] at hnull
    cases hnull

theorem cells_le (h : Takes bound fixed) (rows : ℕ) :
    rows * fixed.length ≤ rowStart fixed.length rowTokenLen (fixedWidthLen fixed) rows := by
  apply mul_le_rowStart
  intro r _ c hc
  have hcolumn : fixed[c]? = some fixed[c] := List.getElem?_eq_getElem hc
  obtain ⟨b, -, hlaw⟩ := h.exists_column hcolumn
  rw [fixedWidthLen_of hcolumn]
  exact hlaw.positive r

section Accepted

variable (h : Takes bound fixed) (haccepts : bound.Accepts)

include h haccepts

theorem fixedWidthLen_eq : ∀ r < bound.rowCount, ∀ c < bound.columns.length,
    fixedWidthLen fixed r c = bound.cellLength r c := by
  intro r hr c hc
  have hlength : c < fixed.length := h.length ▸ hc
  have hcolumn : fixed[c]? = some fixed[c] := List.getElem?_eq_getElem hlength
  obtain ⟨_, _, -, hcells, -⟩ := h.fills_of_measurable (h.measurable_of_accepts haccepts) c _ hcolumn
  obtain ⟨bytes, hbytes⟩ := Option.isSome_iff_exists.mp (haccepts r hr c hc)
  rw [BoundDirectBatch.cellLength, BoundDirectBatch.bytes, hbytes, Option.getD_some]
  exact (hcells.length hr hbytes).symm

omit h in
theorem filled_eq : ∀ r < bound.rowCount, ∀ c < bound.columns.length,
    filled bound.cellBytes (fixedWidthLen fixed) r c = bound.bytes r c := by
  intro r hr c hc
  obtain ⟨bytes, hbytes⟩ := Option.isSome_iff_exists.mp (haccepts r hr c hc)
  rw [filled, BoundDirectBatch.bytes, hbytes]
  rfl

theorem rowStart_eq {r : ℕ} (hr : r ≤ bound.rowCount) :
    rowStart fixed.length rowTokenLen (fixedWidthLen fixed) r =
      rowStart bound.columns.length rowTokenLen bound.cellLength r := by
  rw [h.length]
  apply rowStart_congr
  intro i hi c hc
  exact h.fixedWidthLen_eq haccepts i (by omega) c hc

theorem rowsLayout_eq : rowsLayout bound.rowCount fixed.length (fixedWidthLen fixed) =
    rowsLayout bound.rowCount bound.columns.length bound.cellLength := by
  simp only [rowsLayout, cursors, FixedWidthRowsLayout.mk.injEq]
  refine ⟨List.map_congr_left fun r hr => ?_, List.map_congr_left fun r hr => ?_, h.rowStart_eq haccepts (le_refl _)⟩
  · exact h.rowStart_eq haccepts (List.mem_range.mp hr).le
  · rw [cellStart_zero, cellStart_zero, h.rowStart_eq haccepts (List.mem_range.mp hr).le]

end Accepted

end Takes

section Encode

variable {bound : BoundDirectBatch} {fixed : List FixedWidthColumn}

omit [Externals] in
theorem writeRowTokens_eq (rows columns : ℕ) (cellBytes : ℕ → ℕ → Option (List UInt8)) (len : ℕ → ℕ → ℕ) :
    forEach (rowsLayout rows columns len).rowTokenOffsets
        (List.replicate (rowsLayout rows columns len).payloadLen (0 : UInt8)) writeRowToken =
      .ok (batchState rows columns cellBytes len 0).bytes := by
  obtain ⟨layout, hlays⟩ := exists_laysOut rows columns len
  have halloc := allocateRowsPayloadWithTokens_of hlays
  rw [allocateRowsPayloadWithTokens, hlays.tokens, hlays.total] at halloc
  simp only [rowsLayout, batchState, Nat.not_lt_zero, if_false]
  exact halloc

theorem encodeFixedWidthRows_eq_ok (h : Takes bound fixed) (hmeasurable : ∀ column ∈ fixed, column.Measurable)
    (hfits : rowStart fixed.length rowTokenLen (fixedWidthLen fixed) bound.rowCount < 2 ^ 64)
    {o : Option EncodedRowsPayload} :
    encodeFixedWidthRows bound.runtimeContext fixed
        (rowsLayout bound.rowCount fixed.length (fixedWidthLen fixed)) = .ok o ↔
      bound.Accepts ∧ ∃ payload, o = some payload ∧ bound.Writes payload := by
  have hcolumns := @fillFixedWidthColumns_eq_ok _ bound.runtimeContext bound.rowCount fixed (fixedWidthLen fixed)
    bound.cellBytes (h.fills_of_measurable hmeasurable) hfits
  have hlens := length_filled (h.fills_of_measurable hmeasurable)
  have haccepts : (∀ c < fixed.length, ∀ r < bound.rowCount, (bound.cellBytes r c).isSome) ↔ bound.Accepts := by
    rw [h.length]
    exact ⟨fun hall r hr c hc => hall c hc r hr, fun hall c hc r hr => hall r hr c hc⟩
  have hpayload (haccepted : bound.Accepts) (payload : EncodedRowsPayload) :
      EncodedRowsPayload.new (batchState bound.rowCount fixed.length bound.cellBytes (fixedWidthLen fixed)
        fixed.length).bytes ((List.range bound.rowCount).map
          (rowStart fixed.length rowTokenLen (fixedWidthLen fixed))) = .ok payload ↔ bound.Writes payload := by
    have hgrid : (batchState bound.rowCount fixed.length bound.cellBytes (fixedWidthLen fixed) fixed.length).bytes =
        grid bound.rowCount fixed.length [tdsRowToken] (filled bound.cellBytes (fixedWidthLen fixed)) :=
      grid_congr fun r _ c hc => if_pos hc
    rw [hgrid, new_grid hlens, h.length]
    constructor
    · intro hholds
      exact hholds.congr (Takes.filled_eq haccepted)
    · intro hholds
      exact hholds.congr fun r hr c hc => (Takes.filled_eq haccepted r hr c hc).symm
  have hstate : (⟨(rowsLayout bound.rowCount fixed.length (fixedWidthLen fixed)).currentOffsets,
      (batchState bound.rowCount fixed.length bound.cellBytes (fixedWidthLen fixed) 0).bytes⟩ : FillState) =
      batchState bound.rowCount fixed.length bound.cellBytes (fixedWidthLen fixed) 0 := rfl
  rw [encodeFixedWidthRows, writeRowTokens_eq bound.rowCount fixed.length bound.cellBytes, ok_bind, hstate, bind_eq_ok]
  simp only [hcolumns, haccepts]
  constructor
  · rintro ⟨_, ⟨haccepted, rfl⟩, hnew⟩
    obtain ⟨payload, hnew, hpure⟩ := bind_eq_ok.mp hnew
    rw [pure_eq_ok, Except.ok.injEq] at hpure
    exact ⟨haccepted, payload, hpure.symm, (hpayload haccepted payload).mp hnew⟩
  · rintro ⟨haccepted, payload, rfl, hwrites⟩
    refine ⟨_, ⟨haccepted, rfl⟩, ?_⟩
    dsimp only
    rw [bind_eq_ok]
    exact ⟨payload, (hpayload haccepted payload).mpr hwrites, rfl⟩

theorem encodeFixedWidthRows_safe (h : Takes bound fixed) (hmeasurable : ∀ column ∈ fixed, column.Measurable)
    (hfits : rowStart fixed.length rowTokenLen (fixedWidthLen fixed) bound.rowCount < 2 ^ 64) :
    Safe (encodeFixedWidthRows bound.runtimeContext fixed
      (rowsLayout bound.rowCount fixed.length (fixedWidthLen fixed))) := by
  have hiff := fun o => @encodeFixedWidthRows_eq_ok _ bound fixed h hmeasurable hfits o
  by_cases haccepts : bound.Accepts
  · obtain ⟨payload, hpayload⟩ := exists_holdsRows bound.rowCount bound.columns.length bound.bytes
    rw [(hiff (some payload)).mpr ⟨haccepts, payload, rfl, hpayload⟩]
    exact safe_ok _
  · have hnone : (fillFixedWidthColumns bound.runtimeContext fixed
        (batchState bound.rowCount fixed.length bound.cellBytes (fixedWidthLen fixed) 0)).toOption = none := by
      by_contra hsome
      obtain ⟨o, ho⟩ := Option.ne_none_iff_exists'.mp hsome
      have hall := ((fillFixedWidthColumns_eq_ok (h.fills_of_measurable hmeasurable) hfits).mp
        (toOption_eq_some.mp ho)).1
      rw [h.length] at hall
      exact haccepts fun r hr c hc => hall c hc r hr
    obtain ⟨e, he⟩ := fail_of_safe (fillFixedWidthColumns_safe (h.fills_of_measurable hmeasurable) hfits) hnone
    have hstate : (⟨(rowsLayout bound.rowCount fixed.length (fixedWidthLen fixed)).currentOffsets,
        (batchState bound.rowCount fixed.length bound.cellBytes (fixedWidthLen fixed) 0).bytes⟩ : FillState) =
        batchState bound.rowCount fixed.length bound.cellBytes (fixedWidthLen fixed) 0 := rfl
    rw [encodeFixedWidthRows, writeRowTokens_eq bound.rowCount fixed.length bound.cellBytes, ok_bind, hstate, he,
      fail_bind]
    exact safe_fail e

theorem measureAndEncode_eq_ok (h : Takes bound fixed) (hlawful : bound.Lawful) {o : Option EncodedRowsPayload} :
    (do
      let layout ← measureFixedWidthRows bound.rowCount fixed
      encodeFixedWidthRows bound.runtimeContext fixed layout) = .ok o ↔
      ∃ payload, o = some payload ∧ bound.encodeRows = .ok payload := by
  simp only [bind_eq_ok, hlawful.encodeRows_eq_ok, measureFixedWidthRows_eq_ok h.haveArrays]
  constructor
  · rintro ⟨_, ⟨hmeasurable, hfits, rfl⟩, hencode⟩
    obtain ⟨haccepts, payload, rfl, hwrites⟩ := (encodeFixedWidthRows_eq_ok h hmeasurable hfits).mp hencode
    have hcells := h.cells_le bound.rowCount
    rw [h.rowStart_eq haccepts (le_refl _)] at hfits hcells
    rw [h.length] at hcells
    exact ⟨payload, rfl, haccepts, ⟨hfits, by omega⟩, hwrites⟩
  · rintro ⟨payload, rfl, haccepts, hfits, hwrites⟩
    have hmeasurable := h.measurable_of_accepts haccepts
    have hfixedFits := hfits.1
    rw [← h.rowStart_eq haccepts (le_refl _)] at hfixedFits
    refine ⟨_, ⟨hmeasurable, hfixedFits, rfl⟩, ?_⟩
    exact (encodeFixedWidthRows_eq_ok h hmeasurable hfixedFits).mpr ⟨haccepts, payload, rfl, hwrites⟩

theorem measureAndEncode_safe (h : Takes bound fixed) :
    Safe (do
      let layout ← measureFixedWidthRows bound.rowCount fixed
      encodeFixedWidthRows bound.runtimeContext fixed layout) := by
  apply safe_bind (measureFixedWidthRows_safe h.haveArrays h.zones_safe)
  intro layout hlayout
  obtain ⟨hmeasurable, hfits, rfl⟩ := (measureFixedWidthRows_eq_ok h.haveArrays).mp hlayout
  exact encodeFixedWidthRows_safe h hmeasurable hfits

omit [Externals] in
theorem cursors_columns (rows columns : ℕ) (len : ℕ → ℕ → ℕ) (hrows : rows ≠ 0) :
    cursors rows columns len columns =
      (rowsLayout rows columns len).rowTokenOffsets.tail ++ [(rowsLayout rows columns len).payloadLen] := by
  obtain ⟨n, rfl⟩ := Nat.exists_eq_succ_of_ne_zero hrows
  have hcursors : cursors (n + 1) columns len columns =
      (List.range (n + 1)).map fun r => rowStart columns rowTokenLen len (r + 1) := by
    apply List.map_congr_left
    intro r _
    exact cellStart_columns columns rowTokenLen len r
  have htokens : ((List.range (n + 1)).map (rowStart columns rowTokenLen len)).tail =
      (List.range n).map fun r => rowStart columns rowTokenLen len (r + 1) := by
    rw [List.range_succ_eq_map, List.map_cons, List.tail_cons, List.map_map]
    rfl
  rw [rowsLayout, htokens, hcursors, List.range_succ, List.map_append]
  rfl

end Encode

section Try

variable {fastPath : FastPath} {bound : BoundDirectBatch} {fixed : List FixedWidthColumn}

theorem tryEncode_of_none (hrows : bound.rowCount ≠ 0) (h : fixedWidthColumns fastPath bound.columns = none) :
    tryEncodeFixedWidthRows fastPath bound = .ok none := by
  rw [tryEncodeFixedWidthRows, if_neg hrows, h]

theorem tryEncode_of_some (hrows : bound.rowCount ≠ 0) (h : fixedWidthColumns fastPath bound.columns = some fixed) :
    tryEncodeFixedWidthRows fastPath bound = (do
      let layout ← measureFixedWidthRows bound.rowCount fixed
      encodeFixedWidthRows bound.runtimeContext fixed layout) := by
  rw [tryEncodeFixedWidthRows, if_neg hrows, h]

end Try

/-- The fast path passes a batch with a column of another kind on, and writes every other batch as the general path
does, inside the payload, with each cursor ending where the next row begins. -/
theorem fixed_width_rows_equal_general_rows (mappings : List SchemaMapping) (context : RuntimeConversionContext)
    (encoder : DirectEncoder) (batch : RecordBatch) (bound : BoundDirectBatch)
    (hencoder : DirectEncoder.newWithContext mappings context = .ok encoder) (hlimit : BinaryWithinLimit mappings)
    (hbound : BoundDirectBatch.new encoder batch = .ok bound) (hrows : bound.rowCount ≠ 0) :
    (tryEncodeFixedWidthRows {} bound = .ok none ↔ ∃ column ∈ bound.columns, column.isFixedWidth = false) ∧
    ((∀ column ∈ bound.columns, column.isFixedWidth = true) →
      ∀ payload, tryEncodeFixedWidthRows {} bound = .ok (some payload) ↔ bound.encodeRows = .ok payload) ∧
    Safe (tryEncodeFixedWidthRows {} bound) ∧
    ∀ fixed layout bytes s, fixedWidthColumns {} bound.columns = some fixed →
      measureFixedWidthRows bound.rowCount fixed = .ok layout →
      forEach layout.rowTokenOffsets (List.replicate layout.payloadLen (0 : UInt8)) writeRowToken = .ok bytes →
      fillFixedWidthColumns bound.runtimeContext fixed ⟨layout.currentOffsets, bytes⟩ = .ok s →
      ∃ state, s = some state ∧ state.bytes.length = layout.payloadLen ∧
        state.currentOffsets = layout.rowTokenOffsets.tail ++ [layout.payloadLen] := by
  have hlawful := lawful_of_new hencoder hlimit hbound
  have hwide (h : ∃ column ∈ bound.columns, column.isFixedWidth = false) :
      fixedWidthColumns {} bound.columns = none := mapM_eq_none h
  by_cases hall : ∀ column ∈ bound.columns, column.isFixedWidth = true
  · obtain ⟨fixed, hfixed, htakes⟩ := exists_takes hencoder hlimit hbound hall
    have hpath := tryEncode_of_some hrows hfixed
    have hiff := fun o => @measureAndEncode_eq_ok _ bound fixed htakes hlawful o
    refine ⟨iff_of_false ?_ ?_, fun _ payload => ?_, ?_, ?_⟩
    · rw [hpath, hiff]
      rintro ⟨payload, hnone, -⟩
      cases hnone
    · rintro ⟨column, hmem, hwidth⟩
      rw [hall column hmem] at hwidth
      cases hwidth
    · rw [hpath, hiff]
      constructor
      · rintro ⟨_, hsome, hencode⟩
        cases hsome
        exact hencode
      · intro hencode
        exact ⟨payload, rfl, hencode⟩
    · rw [hpath]
      exact measureAndEncode_safe htakes
    · intro fixed' layout bytes s hfixed' hlayout hbytes hfill
      obtain rfl := Option.some.inj (hfixed.symm.trans hfixed')
      obtain ⟨hmeasurable, hfits, rfl⟩ := (measureFixedWidthRows_eq_ok htakes.haveArrays).mp hlayout
      rw [writeRowTokens_eq bound.rowCount fixed.length bound.cellBytes, Except.ok.injEq] at hbytes
      subst hbytes
      obtain ⟨-, rfl⟩ := (fillFixedWidthColumns_eq_ok (htakes.fills_of_measurable hmeasurable) hfits).mp hfill
      refine ⟨_, rfl, ?_, cursors_columns _ _ _ hrows⟩
      apply @length_grid _ _ _ [tdsRowToken]
      intro r hr c hc
      rw [if_pos hc]
      exact length_filled (htakes.fills_of_measurable hmeasurable) r hr c hc
  · have hexists : ∃ column ∈ bound.columns, column.isFixedWidth = false := by
      simpa using hall
    have hnone := hwide hexists
    have hpath := tryEncode_of_none hrows hnone
    refine ⟨iff_of_true hpath hexists, fun h => absurd h hall, hpath ▸ safe_ok _, ?_⟩
    intro fixed layout bytes s hfixed
    rw [hnone] at hfixed
    cases hfixed

omit [Externals] in
theorem fits_258 : fitsSigned 32 258 := by decide

def numberMappings : List SchemaMapping :=
  [⟨⟨0, "id", false, .int32⟩, ⟨⟨"id", valid_id⟩, .int, false⟩⟩, ⟨⟨1, "flag", true, .boolean⟩, ⟨⟨"flag", rfl⟩, .bit, true⟩⟩]

def numberBatch : RecordBatch where
  schema := [⟨"id", .int32, false⟩, ⟨"flag", .boolean, true⟩]
  numRows := 2
  columns := [⟨.int32, ⟨2, fun _ => false, fun _ => ⟨258, fits_258⟩⟩⟩, ⟨.boolean, ⟨2, fun i => i = 1, fun _ => true⟩⟩]
  typed := rfl
  sized := by simp [ArrayRef.len]
  addressable := two_rows_addressable

def numberEncoder : DirectEncoder where
  mappings := numberMappings
  runtimeContext := ⟨sampleProfile, {}⟩
  plan := ⟨[⟨0, "id", .int, false, .primitive .int32ToInt⟩, ⟨1, "flag", .bit, true, .primitive .booleanToBit⟩]⟩

def numberBound : BoundDirectBatch where
  columns := [.int32 ⟨0, "id", .int, false, .primitive .int32ToInt⟩ ⟨2, fun _ => false, fun _ => ⟨258, fits_258⟩⟩,
    .boolean ⟨1, "flag", .bit, true, .primitive .booleanToBit⟩ ⟨2, fun i => i = 1, fun _ => true⟩]
  runtimeContext := ⟨sampleProfile, {}⟩
  rowCount := 2

omit [Externals] in
theorem fixed_width_rows_equal_general_rows_at_sample : ∃ payload,
    @tryEncodeFixedWidthRows .silent {} numberBound = .ok (some payload) ∧
      payload.bytes = [0xD1, 2, 1, 0, 0, 1, 1, 0xD1, 2, 1, 0, 0, 0] ∧ payload.rowTokenOffsets = [0, 7] := by
  obtain ⟨payload, hpayload, hbytes⟩ : ∃ payload, @BoundDirectBatch.encodeRows .silent numberBound = .ok payload ∧
      payload.bytes = [0xD1, 2, 1, 0, 0, 1, 1, 0xD1, 2, 1, 0, 0, 0] ∧ payload.rowTokenOffsets = [0, 7] :=
    ⟨_, rfl, rfl, rfl⟩
  obtain ⟨-, hiff, -⟩ := @fixed_width_rows_equal_general_rows .silent numberMappings ⟨sampleProfile, {}⟩ numberEncoder
    numberBatch numberBound rfl (by decide) rfl (by decide)
  exact ⟨payload, (hiff (by decide) payload).mpr hpayload, hbytes⟩

end ArrowTiberius.Direct.FixedWidth
