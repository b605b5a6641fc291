import ArrowTiberius.Direct.EncodeBatch

namespace ArrowTiberius.Direct.FixedWidth

open Checked Tiling

section Layout

variable {rows columns : ℕ} {len : ℕ → ℕ → ℕ} {layout : RowLayout}

theorem validateRowLayoutCells_of_laysOut (h : LaysOut rows columns len layout) (hcells : rows * columns < 2 ^ 64) :
    validateRowLayoutCells layout columns = .ok () := by
  have hcount : layout.rowCount = rows := by simp [RowLayout.rowCount, h.tokens]
  rw [validateRowLayoutCells, hcount, checkedMul_of_lt hcells, okOr_some, ok_bind,
    ensure_of (by rw [h.cells, length_table]), ok_bind]
  split
  case isTrue => rfl
  case isFalse hcolumns =>
    rw [forEach_unit_eq_ok]
    rintro ⟨cell, index⟩ hmem
    have hcell := List.mem_zipIdx_iff_getElem?.mp hmem
    obtain ⟨hindex, -⟩ := List.getElem?_eq_some_iff.mp hcell
    rw [h.cells, length_table] at hindex
    have hrow : index / columns < rows := Nat.div_lt_of_lt_mul (by rwa [Nat.mul_comm])
    have hcolumn : index % columns < columns := Nat.mod_lt _ (by omega)
    have hat := @getElem?_table _ rows columns (fun r c =>
      (⟨r, c, cellStart columns rowTokenLen len r c, len r c⟩ : CellPosition)) _ _ hrow hcolumn
    rw [Nat.div_add_mod', ← h.cells, hcell, Option.some.injEq] at hat
    exact ensure_eq_ok.mpr ⟨congrArg CellPosition.rowIndex hat, congrArg CellPosition.columnIndex hat⟩

theorem firstCellPosition_of_laysOut (h : LaysOut rows columns len layout) (hcells : rows * columns < 2 ^ 64)
    (hcolumns : 0 < columns) {r : ℕ} (hr : r < rows) :
    firstCellPosition layout r columns = .ok ⟨r, 0, cellStart columns rowTokenLen len r 0, len r 0⟩ := by
  have hmul := Nat.mul_le_mul_right columns hr.le
  have hat := @getElem?_table _ rows columns (fun r c =>
    (⟨r, c, cellStart columns rowTokenLen len r c, len r c⟩ : CellPosition)) _ _ hr hcolumns
  rw [Nat.add_zero, ← h.cells] at hat
  rw [firstCellPosition, checkedMul_of_lt (by omega), okOr_some, ok_bind, hat, okOr_some]

theorem fromRowLayout_of_laysOut (h : LaysOut rows columns len layout) (hcells : rows * columns < 2 ^ 64)
    (hfits : rowStart columns rowTokenLen len rows < 2 ^ 64) :
    FixedWidthRowsLayout.fromRowLayout layout columns = .ok (rowsLayout rows columns len) := by
  have hcount : layout.rowCount = rows := by simp [RowLayout.rowCount, h.tokens]
  rw [FixedWidthRowsLayout.fromRowLayout, validateRowLayoutCells_of_laysOut h hcells, ok_bind]
  split
  case isTrue =>
    have hcursors : (collect layout.rowTokenOffsets fun rowOffset => checkedAdd rowOffset rowTokenLen) =
        .ok (cursors rows columns len 0) := by
      rw [h.tokens]
      refine (collect_map_range_eq_ok (fun _ => True) _ fun r hr n => ?_).mpr ⟨fun _ _ => trivial, rfl⟩
      have hend : rowStart columns rowTokenLen len (r + 1) ≤ rowStart columns rowTokenLen len rows := rowStart_mono hr
      rw [rowStart_succ, rowLength] at hend
      rw [checkedAdd, checkedAdd_of_lt (by omega), okOr_some, Except.ok.injEq, true_and, cellStart_zero, eq_comm]
    rw [hcursors, ok_bind, h.tokens, h.total]
    rfl
  case isFalse hcolumns =>
    have hcursors : (collect (List.range layout.rowCount) fun rowIndex => do
        let cell ← firstCellPosition layout rowIndex columns
        pure cell.offset) = .ok (cursors rows columns len 0) := by
      have hrange : List.range layout.rowCount = (List.range rows).map id := by rw [hcount, List.map_id]
      rw [hrange]
      refine (collect_map_range_eq_ok (fun _ => True) _ fun r hr n => ?_).mpr ⟨fun _ _ => trivial, rfl⟩
      rw [id_eq, firstCellPosition_of_laysOut h hcells (by omega) hr, ok_bind, pure_eq_ok, Except.ok.injEq, true_and,
        eq_comm]
    rw [hcursors, ok_bind, h.tokens, h.total]
    rfl

end Layout

variable [Externals] {mappings : List SchemaMapping} {context : RuntimeConversionContext} {encoder : DirectEncoder}
  {batch : RecordBatch} {bound : BoundDirectBatch} {fastPath : FastPath} {layout : RowLayout}
  {payload : EncodedRowsPayload}

theorem encodeLaidOutRows_eq_ok (hencoder : DirectEncoder.newWithContext mappings context = .ok encoder)
    (hlimit : BinaryWithinLimit mappings) (hbound : BoundDirectBatch.new encoder batch = .ok bound)
    (haccepts : bound.Accepts) (hfits : bound.Fits) (hrows : bound.rowCount ≠ 0)
    (hlays : LaysOut bound.rowCount bound.columns.length bound.cellLength layout) : (do
      match ← tryEncodeFixedWidthRowsWithLayout fastPath bound layout with
      | some payload => pure payload
      | none => bound.encodeWithLayout layout) = .ok payload ↔ bound.Writes payload := by
  have hlawful := lawful_of_new hencoder hlimit hbound
  have hcount : layout.rowCount = bound.rowCount := by simp [RowLayout.rowCount, hlays.tokens]
  rw [tryEncodeFixedWidthRowsWithLayout, if_neg hrows, ensure_of hcount, ok_bind]
  cases hfixed : fixedWidthColumns fastPath bound.columns with
  | none => exact hlawful.encodeWithLayout_eq_ok haccepts hfits hlays
  | some fixed =>
    have htakes := takes_of_some hencoder hlimit hbound hfixed
    have hmeasurable := htakes.measurable_of_accepts haccepts
    have hsame : rowsLayout bound.rowCount bound.columns.length bound.cellLength =
        rowsLayout bound.rowCount fixed.length (fixedWidthLen fixed) :=
      (htakes.rowsLayout_eq haccepts).symm
    have hfixedFits := hfits.1
    rw [← htakes.rowStart_eq haccepts (le_refl _)] at hfixedFits
    dsimp only
    rw [fromRowLayout_of_laysOut hlays hfits.2 hfits.1, ok_bind, hsame, bind_eq_ok]
    constructor
    · rintro ⟨o, ho, hpayload⟩
      obtain ⟨-, written, rfl, hwrites⟩ := (encodeFixedWidthRows_eq_ok htakes hmeasurable hfixedFits).mp ho
      cases hpayload
      exact hwrites
    · intro hwrites
      exact ⟨_, (encodeFixedWidthRows_eq_ok htakes hmeasurable hfixedFits).mpr ⟨haccepts, payload, rfl, hwrites⟩, rfl⟩

end ArrowTiberius.Direct.FixedWidth
