import ArrowTiberius.Direct.Payload

namespace ArrowTiberius.Direct

open Checked Tiling

def rowTokenLen : ℕ := 1

structure CellPosition where
  rowIndex : ℕ
  columnIndex : ℕ
  offset : ℕ
  len : ℕ
  deriving DecidableEq, Repr

def layoutAdd (lhs rhs : ℕ) : Result ℕ :=
  okOr (checkedAdd 64 lhs rhs) (invalidPayload "direct primitive row layout length overflowed usize")

def validateRow (rowTokenOffsets : List ℕ) (payloadLen index offset len : ℕ) : Result Unit := do
  let stop ← okOr (checkedAdd 64 offset len)
    (invalidPayload s!"row {index} offset {offset} plus length {len} overflows usize")
  ensure (stop ≤ payloadLen) (invalidPayload s!"row {index} ends at {stop}, outside payload length {payloadLen}")
  ensure (∀ nextOffset ∈ rowTokenOffsets[index + 1]?, nextOffset = stop) (invalidPayload
    s!"row {index} ends at {stop}, but next row token offset is {rowTokenOffsets[index + 1]?.getD 0}")

def validateRows (rowTokenOffsets rowLengths : List ℕ) (payloadLen : ℕ) : Result Unit := do
  ensure (rowTokenOffsets.length = rowLengths.length) (invalidPayload s!"row layout has {
    rowTokenOffsets.length} row-token offset(s) but {rowLengths.length} row length(s)")
  match rowTokenOffsets with
  | [] =>
    ensure (payloadLen = 0)
      (invalidPayload s!"empty row layout cannot describe non-empty payload length {payloadLen}")
  | first :: _ => do
    ensure (first = 0) (invalidPayload s!"first row token offset must be 0, got {first}")
    forEach (rowTokenOffsets.zip rowLengths).zipIdx () fun _ ((offset, len), index) =>
      validateRow rowTokenOffsets payloadLen index offset len
    let lastEnd ← okOr (checkedAdd 64 (rowTokenOffsets.getLastD 0) (rowLengths.getLastD 0))
      (invalidPayload "last row end overflows usize")
    ensure (lastEnd = payloadLen)
      (invalidPayload s!"last row ends at {lastEnd}, but payload length is {payloadLen}")

def validateCell (rowCount payloadLen : ℕ) (cell : CellPosition) : Result Unit := do
  ensure (cell.rowIndex < rowCount)
    (invalidPayload s!"cell row index {cell.rowIndex} is outside row count {rowCount}")
  let stop ← okOr (checkedAdd 64 cell.offset cell.len)
    (invalidPayload s!"cell offset {cell.offset} plus length {cell.len} overflows usize")
  ensure (stop ≤ payloadLen) (invalidPayload s!"cell at row {cell.rowIndex} column {
    cell.columnIndex} ends at {stop}, outside payload length {payloadLen}")

def validateCells (cellPositions : List CellPosition) (rowCount payloadLen : ℕ) : Result Unit :=
  forEach cellPositions () fun _ cell => validateCell rowCount payloadLen cell

theorem validateCells_eq_ok {cellPositions : List CellPosition} {rowCount payloadLen : ℕ} {u : Unit} :
    validateCells cellPositions rowCount payloadLen = .ok u ↔ ∀ cell ∈ cellPositions,
      cell.rowIndex < rowCount ∧ cell.offset + cell.len < 2 ^ 64 ∧ cell.offset + cell.len ≤ payloadLen := by
  simp [validateCells, forEach_unit_eq_ok, validateCell]

/-- Where rows and cells stand in a payload. No cell reaches outside of it. -/
@[ext] structure RowLayout where
  rowTokenOffsets : List ℕ
  rowLengths : List ℕ
  cellPositions : List CellPosition
  payloadLen : ℕ
  inside : ∀ cell ∈ cellPositions, cell.offset + cell.len ≤ payloadLen

namespace RowLayout

def new (rowTokenOffsets rowLengths : List ℕ) (cellPositions : List CellPosition) (payloadLen : ℕ) :
    Result RowLayout := do
  validateRows rowTokenOffsets rowLengths payloadLen
  match h : validateCells cellPositions rowTokenOffsets.length payloadLen with
  | .ok _ => .ok ⟨rowTokenOffsets, rowLengths, cellPositions, payloadLen, fun cell hcell =>
      (validateCells_eq_ok.mp h cell hcell).2.2⟩
  | .error e => .error e

def rowCount (layout : RowLayout) : ℕ := layout.rowTokenOffsets.length

theorem new_eq_ok {rowTokenOffsets rowLengths : List ℕ} {cellPositions : List CellPosition} {payloadLen : ℕ}
    {layout : RowLayout} : new rowTokenOffsets rowLengths cellPositions payloadLen = .ok layout ↔
      validateRows rowTokenOffsets rowLengths payloadLen = .ok () ∧
      validateCells cellPositions rowTokenOffsets.length payloadLen = .ok () ∧
      layout.rowTokenOffsets = rowTokenOffsets ∧ layout.rowLengths = rowLengths ∧
      layout.cellPositions = cellPositions ∧ layout.payloadLen = payloadLen := by
  rw [new, bind_unit_eq_ok]
  split
  case h_1 h => simp [RowLayout.ext_iff, h, eq_comm]
  case h_2 h => simp [h]

end RowLayout

structure LayoutState where
  rowTokenOffsets : List ℕ
  rowLengths : List ℕ
  cellPositions : List CellPosition
  offset : ℕ

def layoutCell (cellLengths : List ℕ) (columnCount startRow rowIndex : ℕ) (s : List CellPosition × ℕ)
    (columnIndex : ℕ) : Result (List CellPosition × ℕ) := do
  let cellLen ← getIndex cellLengths (rowIndex * columnCount + columnIndex)
  let next ← layoutAdd s.2 cellLen
  pure (s.1 ++ [⟨rowIndex - startRow, columnIndex, s.2, cellLen⟩], next)

def layoutRow (cellLengths : List ℕ) (columnCount startRow : ℕ) (s : LayoutState) (rowIndex : ℕ) :
    Result LayoutState := do
  let offset ← layoutAdd s.offset rowTokenLen
  let (cellPositions, offset) ← forRange columnCount (s.cellPositions, offset)
    (layoutCell cellLengths columnCount startRow rowIndex)
  pure ⟨s.rowTokenOffsets ++ [s.offset], s.rowLengths ++ [offset - s.offset], cellPositions, offset⟩

def buildFixedWidthRowRangeLayout (startRow rowCount columnCount : ℕ) (cellLengths : List ℕ) : Result RowLayout := do
  let endRow ← okOr (checkedAdd 64 startRow rowCount) (invalidPayload "direct row range end overflowed usize")
  let s ← forRange (endRow - startRow) ⟨[], [], [], 0⟩ fun s i =>
    layoutRow cellLengths columnCount startRow s (startRow + i)
  RowLayout.new s.rowTokenOffsets s.rowLengths s.cellPositions s.offset

def buildFixedWidthRowLayout (rowCount columnCount : ℕ) (cellLengths : List ℕ) : Result RowLayout :=
  buildFixedWidthRowRangeLayout 0 rowCount columnCount cellLengths

def writeRowToken (bytes : List UInt8) (rowOffset : ℕ) : Result (List UInt8) := setIndex bytes rowOffset tdsRowToken

def allocateRowsPayloadWithTokens (layout : RowLayout) : Result (List UInt8) :=
  forEach layout.rowTokenOffsets (List.replicate layout.payloadLen 0) writeRowToken

/-- A layout of rows that each hold a token and then their cells. -/
structure LaysOut (rows columns : ℕ) (len : ℕ → ℕ → ℕ) (layout : RowLayout) : Prop where
  tokens : layout.rowTokenOffsets = (List.range rows).map (rowStart columns rowTokenLen len)
  lengths : layout.rowLengths = (List.range rows).map (rowLength columns rowTokenLen len)
  cells : layout.cellPositions =
    table rows columns fun r c => ⟨r, c, cellStart columns rowTokenLen len r c, len r c⟩
  total : layout.payloadLen = rowStart columns rowTokenLen len rows

theorem exists_laysOut (rows columns : ℕ) (len : ℕ → ℕ → ℕ) : ∃ layout, LaysOut rows columns len layout := by
  refine ⟨⟨_, _, _, _, ?_⟩, rfl, rfl, rfl, rfl⟩
  intro cell hcell
  obtain ⟨r, hr, c, hc, rfl⟩ := mem_table.mp hcell
  have hend := @cellStart_le rows columns len rowTokenLen r (c + 1) hr hc
  rwa [cellStart_succ] at hend

section Specification

variable {rows columns startRow : ℕ} {len : ℕ → ℕ → ℕ} {cellLengths : List ℕ}

theorem layoutAdd_eq_ok {a b c : ℕ} : layoutAdd a b = .ok c ↔ a + b < 2 ^ 64 ∧ c = a + b := by
  simp [layoutAdd]

theorem rowEnds_lt {bound : ℕ} (h : 0 < bound) : (∀ r < rows, rowStart columns rowTokenLen len (r + 1) < bound) ↔
    rowStart columns rowTokenLen len rows < bound := by
  constructor
  · intro hall
    cases rows with
    | zero => exact h
    | succ n => exact hall n (by omega)
  · intro hlast r hr
    exact lt_of_le_of_lt (rowStart_mono (by omega)) hlast

theorem cellEnds_lt {r bound : ℕ} : (cellStart columns rowTokenLen len r 0 < bound ∧
      ∀ c < columns, cellStart columns rowTokenLen len r (c + 1) < bound) ↔
    rowStart columns rowTokenLen len (r + 1) < bound := by
  rw [← cellStart_columns]
  constructor
  · rintro ⟨hfirst, hall⟩
    cases columns with
    | zero => exact hfirst
    | succ n => exact hall n (by omega)
  · intro hlast
    exact ⟨lt_of_le_of_lt (cellStart_mono (by omega)) hlast, fun c hc => lt_of_le_of_lt (cellStart_mono hc) hlast⟩

theorem layoutRow_eq_ok {r : ℕ} (hlens : ∀ c < columns, cellLengths[(startRow + r) * columns + c]? = some (len r c))
    {tokens lengths : List ℕ} {cells : List CellPosition} {s : LayoutState} :
    layoutRow cellLengths columns startRow ⟨tokens, lengths, cells, rowStart columns rowTokenLen len r⟩ (startRow + r) =
        .ok s ↔ rowStart columns rowTokenLen len (r + 1) < 2 ^ 64 ∧
      s = ⟨tokens ++ [rowStart columns rowTokenLen len r], lengths ++ [rowLength columns rowTokenLen len r],
        cells ++ tile columns fun c => [⟨r, c, cellStart columns rowTokenLen len r c, len r c⟩],
        rowStart columns rowTokenLen len (r + 1)⟩ := by
  have hloop := fun s' => @forRange_eq_ok_iff _ _ columns (layoutCell cellLengths columns startRow (startRow + r))
    (fun c => cellStart columns rowTokenLen len r (c + 1) < 2 ^ 64)
    (fun c => (cells ++ tile c fun c => [⟨r, c, cellStart columns rowTokenLen len r c, len r c⟩],
      cellStart columns rowTokenLen len r c)) (fun c hc s' => by
        simp only [layoutCell, getIndex_of_getElem? (hlens c hc), ok_bind, bind_eq_ok, layoutAdd_eq_ok, pure_eq_ok,
          Except.ok.injEq, Nat.add_sub_cancel_left, tile_succ, cellStart_succ, List.append_assoc]
        constructor
        · rintro ⟨_, ⟨hlt, rfl⟩, rfl⟩
          exact ⟨hlt, rfl⟩
        · rintro ⟨hlt, rfl⟩
          exact ⟨_, ⟨hlt, rfl⟩, rfl⟩) s'
  simp only [tile_zero, List.append_nil, cellStart_zero, cellStart_columns] at hloop
  simp only [layoutRow, bind_eq_ok, layoutAdd_eq_ok, pure_eq_ok, Except.ok.injEq]
  rw [← @cellEnds_lt columns len r, cellStart_zero]
  have hlength : rowStart columns rowTokenLen len (r + 1) - rowStart columns rowTokenLen len r =
      rowLength columns rowTokenLen len r := by
    rw [rowStart_succ, Nat.add_sub_cancel_left]
  constructor
  · rintro ⟨_, ⟨hfirst, rfl⟩, s', hs', rfl⟩
    obtain ⟨hall, rfl⟩ := (hloop s').mp hs'
    exact ⟨⟨hfirst, hall⟩, by rw [hlength]⟩
  · rintro ⟨⟨hfirst, hall⟩, rfl⟩
    exact ⟨_, ⟨hfirst, rfl⟩, _, (hloop _).mpr ⟨hall, rfl⟩, by rw [hlength]⟩

theorem getElem?_map_range {α : Type} {f : ℕ → α} {n i : ℕ} {a : α} :
    ((List.range n).map f)[i]? = some a ↔ i < n ∧ a = f i := by
  rw [List.getElem?_map]
  by_cases h : i < n
  · simp [h, eq_comm]
  · simp [h]

theorem validateRows_of_lt (h : rowStart columns rowTokenLen len rows < 2 ^ 64) :
    validateRows ((List.range rows).map (rowStart columns rowTokenLen len))
      ((List.range rows).map (rowLength columns rowTokenLen len)) (rowStart columns rowTokenLen len rows) = .ok () := by
  cases rows with
  | zero => rfl
  | succ n =>
    have hrow : ∀ x ∈ (((List.range (n + 1)).map (rowStart columns rowTokenLen len)).zip
        ((List.range (n + 1)).map (rowLength columns rowTokenLen len))).zipIdx,
        validateRow ((List.range (n + 1)).map (rowStart columns rowTokenLen len))
          (rowStart columns rowTokenLen len (n + 1)) x.2 x.1.1 x.1.2 = .ok () := by
      rintro ⟨⟨offset, length⟩, i⟩ hx
      obtain ⟨hoffset, hlength⟩ := mem_zip_zipIdx.mp hx
      obtain ⟨hi, rfl⟩ := getElem?_map_range.mp hoffset
      obtain ⟨-, rfl⟩ := getElem?_map_range.mp hlength
      have hend : rowStart columns rowTokenLen len (i + 1) ≤ rowStart columns rowTokenLen len (n + 1) :=
        rowStart_mono (by omega)
      rw [rowStart_succ] at hend
      simp only [validateRow, checkedAdd_of_lt (lt_of_le_of_lt hend h), okOr_some, ok_bind, ensure_of hend, ensure_eq_ok]
      intro next hnext
      rw [(getElem?_map_range.mp hnext).2, rowStart_succ]
    have hlast : (List.range (n + 1)).map (rowStart columns rowTokenLen len) =
        0 :: (List.range n).map fun i => rowStart columns rowTokenLen len (i + 1) := by
      rw [List.range_succ_eq_map, List.map_cons, List.map_map]
      rfl
    have hfirst := forEach_unit_eq_ok (u := ()).mpr hrow
    have hends : ((List.range (n + 1)).map (rowStart columns rowTokenLen len)).getLastD 0 =
        rowStart columns rowTokenLen len n := by simp [List.range_succ]
    have hlens : ((List.range (n + 1)).map (rowLength columns rowTokenLen len)).getLastD 0 =
        rowLength columns rowTokenLen len n := by simp [List.range_succ]
    rw [validateRows.eq_def, ensure_of (by simp), ok_bind]
    rw [hlast] at hfirst hends ⊢
    rw [rowStart_succ] at h
    dsimp only
    rw [ensure_of rfl, ok_bind, hfirst, ok_bind, hends, hlens, checkedAdd_of_lt h, okOr_some, ok_bind, rowStart_succ,
      ensure_of rfl]

theorem validateCells_of_lt (h : rowStart columns rowTokenLen len rows < 2 ^ 64) :
    validateCells (table rows columns fun r c => ⟨r, c, cellStart columns rowTokenLen len r c, len r c⟩) rows
      (rowStart columns rowTokenLen len rows) = .ok () := by
  refine validateCells_eq_ok.mpr fun cell hcell => ?_
  obtain ⟨r, hr, c, hc, rfl⟩ := mem_table.mp hcell
  have hend := @cellStart_le rows columns len rowTokenLen r (c + 1) hr hc
  rw [cellStart_succ] at hend
  exact ⟨hr, lt_of_le_of_lt hend h, hend⟩

theorem range_lt_of_build {layout : RowLayout}
    (h : buildFixedWidthRowRangeLayout startRow rows columns cellLengths = .ok layout) : startRow + rows < 2 ^ 64 := by
  obtain ⟨_, hend, -⟩ := bind_eq_ok.mp h
  exact (checkedAdd_eq_some.mp (okOr_eq_ok.mp hend)).1

theorem buildFixedWidthRowRangeLayout_eq_ok (hrange : startRow + rows < 2 ^ 64)
    (hlens : ∀ r < rows, ∀ c < columns, cellLengths[(startRow + r) * columns + c]? = some (len r c))
    {layout : RowLayout} : buildFixedWidthRowRangeLayout startRow rows columns cellLengths = .ok layout ↔
      rowStart columns rowTokenLen len rows < 2 ^ 64 ∧ LaysOut rows columns len layout := by
  have hloop := fun s' => @forRange_eq_ok_iff _ _ rows
    (fun s i => layoutRow cellLengths columns startRow s (startRow + i))
    (fun r => rowStart columns rowTokenLen len (r + 1) < 2 ^ 64)
    (fun r => ⟨(List.range r).map (rowStart columns rowTokenLen len),
      (List.range r).map (rowLength columns rowTokenLen len),
      table r columns fun r c => ⟨r, c, cellStart columns rowTokenLen len r c, len r c⟩,
      rowStart columns rowTokenLen len r⟩)
    (fun r hr s' => by
      rw [layoutRow_eq_ok (hlens r hr), table_succ, List.range_succ, List.map_append, List.map_append]
      rfl) s'
  rw [rowEnds_lt (by decide)] at hloop
  rw [buildFixedWidthRowRangeLayout, checkedAdd_of_lt hrange, okOr_some, ok_bind, Nat.add_sub_cancel_left, bind_eq_ok]
  constructor
  · rintro ⟨s, hs, hnew⟩
    obtain ⟨hlt, rfl⟩ := (hloop s).mp hs
    obtain ⟨-, -, htokens, hlengths, hcells, htotal⟩ := RowLayout.new_eq_ok.mp hnew
    exact ⟨hlt, htokens, hlengths, hcells, htotal⟩
  · rintro ⟨hlt, htokens, hlengths, hcells, htotal⟩
    refine ⟨_, (hloop _).mpr ⟨hlt, rfl⟩, RowLayout.new_eq_ok.mpr ⟨validateRows_of_lt hlt, ?_, htokens, hlengths, hcells,
      htotal⟩⟩
    simpa using validateCells_of_lt hlt

theorem allocateRowsPayloadWithTokens_of {layout : RowLayout} (h : LaysOut rows columns len layout) :
    allocateRowsPayloadWithTokens layout =
      .ok (grid rows columns [tdsRowToken] fun r c => List.replicate (len r c) 0) := by
  have hzeros (r : ℕ) : ([0] ++ tile columns fun c => List.replicate (len r c) (0 : UInt8)) =
      List.replicate (rowLength columns rowTokenLen len r) 0 := by
    refine List.eq_replicate_iff.mpr ⟨?_, ?_⟩
    · simp [length_tile, rowLength, rowTokenLen, Nat.add_comm]
    · intro b hb
      rcases List.mem_append.mp hb with hb | hb
      · exact List.mem_singleton.mp hb
      · obtain ⟨c, -, hb⟩ := mem_tile.mp hb
        exact List.eq_of_mem_replicate hb
  have hlen (k r : ℕ) : ((if r < k then [tdsRowToken] else [0]) ++
      tile columns fun c => List.replicate (len r c) (0 : UInt8)).length = rowLength columns rowTokenLen len r := by
    simp [length_tile, rowLength, rowTokenLen, apply_ite List.length]
  have hloop := @forRange_eq_ok_of_step _ _ rows
    (fun bytes r => writeRowToken bytes (rowStart columns rowTokenLen len r))
    (fun k => tile rows fun r => (if r < k then [tdsRowToken] else [0]) ++
      tile columns fun c => List.replicate (len r c) 0)
    (fun k hk => by
      have hstart : rowStart columns rowTokenLen len k = (∑ i ∈ Finset.range k, ((if i < k then [tdsRowToken] else [0]) ++
          tile columns fun c => List.replicate (len i c) (0 : UInt8)).length) + 0 := by
        simp only [hlen, Nat.add_zero]
        rfl
      rw [writeRowToken, setIndex_of_lt, hstart, splice_tile hk (by simp)]
      · refine congrArg Except.ok (tile_congr fun r hr => ?_)
        by_cases hrk : r = k
        · subst hrk
          simp [splice]
        · rw [Function.update_of_ne hrk]
          simp [show r < k + 1 ↔ r < k by omega]
      · rw [length_tile]
        simp only [hlen]
        have hnext : rowStart columns rowTokenLen len (k + 1) ≤ rowStart columns rowTokenLen len rows :=
          rowStart_mono hk
        rw [rowStart_succ, rowLength] at hnext
        simp only [rowTokenLen] at hnext ⊢
        change _ < rowStart columns 1 len rows
        omega)
  have hinit : List.replicate layout.payloadLen (0 : UInt8) =
      tile rows fun r => (if r < 0 then [tdsRowToken] else [0]) ++ tile columns fun c => List.replicate (len r c) 0 := by
    rw [h.total]
    refine (List.eq_replicate_iff.mpr ⟨?_, ?_⟩).symm
    · rw [length_tile]
      simp only [hlen]
      rfl
    · intro b hb
      obtain ⟨r, -, hb⟩ := mem_tile.mp hb
      simp only [Nat.not_lt_zero, if_false, hzeros] at hb
      exact List.eq_of_mem_replicate hb
  rw [allocateRowsPayloadWithTokens, h.tokens, forEach_map, hinit, ← forRange, hloop, grid]
  exact congrArg Except.ok (tile_congr fun r hr => by rw [if_pos hr])

end Specification

end ArrowTiberius.Direct
