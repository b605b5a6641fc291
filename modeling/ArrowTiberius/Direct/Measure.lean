import ArrowTiberius.Direct.Layout

namespace ArrowTiberius.Direct

open Checked Tiling

structure MeasuredRowRange where
  start : ℕ
  len : ℕ
  deriving DecidableEq, Repr

@[ext] structure MeasuredDirectBatch where
  rowCount : ℕ
  columnCount : ℕ
  cellLengths : List ℕ
  rowLengths : List ℕ
  payloadLen : ℕ

def measureRowLength (columnCount : ℕ) (cellLengths : List ℕ) (rowIndex : ℕ) : Result ℕ :=
  forRange columnCount 1 fun rowLen columnIndex => do
    let cellLen ← getIndex cellLengths (rowIndex * columnCount + columnIndex)
    okOr (checkedAdd 64 rowLen cellLen) (invalidPayload "measured row length overflowed usize")

def measureRowLengths (rowCount columnCount : ℕ) (cellLengths : List ℕ) : Result (List ℕ × ℕ) :=
  forRange rowCount ([], 0) fun (rowLengths, payloadLen) rowIndex => do
    let rowLen ← measureRowLength columnCount cellLengths rowIndex
    let payloadLen ← okOr (checkedAdd 64 payloadLen rowLen) (invalidPayload "measured payload length overflowed usize")
    pure (rowLengths ++ [rowLen], payloadLen)

namespace MeasuredDirectBatch

def empty (columnCount : ℕ) : MeasuredDirectBatch := ⟨0, columnCount, [], [], 0⟩

def new (rowCount columnCount : ℕ) (cellLengths : List ℕ) : Result MeasuredDirectBatch := do
  let expectedCellCount ← okOr (checkedMul 64 rowCount columnCount)
    (invalidPayload "measured cell count overflowed usize")
  ensure (cellLengths.length = expectedCellCount) (invalidPayload s!"measured cell length count {
    cellLengths.length} does not match row count {rowCount} and column count {columnCount}")
  let (rowLengths, payloadLen) ← measureRowLengths rowCount columnCount cellLengths
  pure ⟨rowCount, columnCount, cellLengths, rowLengths, payloadLen⟩

structure RangeState where
  ranges : List MeasuredRowRange
  start : ℕ
  len : ℕ
  bytes : ℕ

def rowRangeStep (maxPayloadBytes : ℕ) (s : RangeState) (row : ℕ × ℕ) : Result RangeState := do
  let nextBytes ← okOr (checkedAdd 64 s.bytes row.1) (invalidPayload "measured row range length overflowed usize")
  if s.len > 0 ∧ nextBytes > maxPayloadBytes then pure ⟨s.ranges ++ [⟨s.start, s.len⟩], row.2, 1, row.1⟩
  else pure ⟨s.ranges, s.start, s.len + 1, nextBytes⟩

def rowRanges (m : MeasuredDirectBatch) (maxPayloadBytes : ℕ) : Result (List MeasuredRowRange) := do
  ensure (¬maxPayloadBytes = 0) (invalidPayload "direct row range byte limit must be greater than zero")
  let s ← forEach m.rowLengths.zipIdx ⟨[], 0, 0, 0⟩ (rowRangeStep maxPayloadBytes)
  pure (if s.len > 0 then s.ranges ++ [⟨s.start, s.len⟩] else s.ranges)

def checkRange (m : MeasuredDirectBatch) (startRow rowCount : ℕ) : Result Unit := do
  let endRow ← okOr (checkedAdd 64 startRow rowCount) (invalidPayload "direct row range end overflowed usize")
  ensure (endRow ≤ m.rowCount) (invalidPayload s!"direct measured row range {startRow}..{
    endRow} is outside measured row count {m.rowCount}")

def rangePayloadLen (m : MeasuredDirectBatch) (startRow rowCount : ℕ) : Result ℕ := do
  m.checkRange startRow rowCount
  let endRow ← okOr (checkedAdd 64 startRow rowCount) (invalidPayload "direct row range end overflowed usize")
  let rows ← getRange m.rowLengths startRow endRow
  forEach rows 0 fun total rowLen =>
    okOr (checkedAdd 64 total rowLen) (invalidPayload "measured row range length overflowed usize")

def cellLen (m : MeasuredDirectBatch) (rowIndex columnIndex : ℕ) : Result ℕ := do
  m.checkRange rowIndex 1
  ensure (columnIndex < m.columnCount) (invalidPayload s!"direct measured column index {
    columnIndex} is outside measured column count {m.columnCount}")
  let index ← okOr ((checkedMul 64 rowIndex m.columnCount).bind (checkedAdd 64 · columnIndex))
    (invalidPayload "measured cell length index overflowed usize")
  okOr m.cellLengths[index]? (invalidPayload s!"measured cell length index {
    index} is outside measured cell length count {m.cellLengths.length}")

def rangeLayout (m : MeasuredDirectBatch) (startRow rowCount : ℕ) : Result RowLayout := do
  m.checkRange startRow rowCount
  buildFixedWidthRowRangeLayout startRow rowCount m.columnCount m.cellLengths

end MeasuredDirectBatch

/-- What a measured batch records of the cells of its rows. -/
structure Measures (rows columns : ℕ) (len : ℕ → ℕ → ℕ) (m : MeasuredDirectBatch) : Prop where
  rowCount : m.rowCount = rows
  columnCount : m.columnCount = columns
  cellLengths : m.cellLengths = table rows columns len
  rowLengths : m.rowLengths = (List.range rows).map (rowLength columns rowTokenLen len)
  payloadLen : m.payloadLen = rowStart columns rowTokenLen len rows
  addressable : rows * columns < 2 ^ 64
  fits : rowStart columns rowTokenLen len rows < 2 ^ 64

section Specification

variable {rows columns : ℕ} {len : ℕ → ℕ → ℕ}

theorem measureRowLength_eq_ok {cellLengths : List ℕ} {r n : ℕ}
    (hlens : ∀ c < columns, cellLengths[r * columns + c]? = some (len r c)) :
    measureRowLength columns cellLengths r = .ok n ↔
      rowLength columns rowTokenLen len r < 2 ^ 64 ∧ n = rowLength columns rowTokenLen len r := by
  refine (forRange_eq_ok_iff (fun c => rowLength (c + 1) rowTokenLen len r < 2 ^ 64)
    (fun c => rowLength c rowTokenLen len r) (fun c hc s' => ?_) n).trans ?_
  · simp only [getIndex_of_getElem? (hlens c hc), ok_bind, okOr_eq_ok, checkedAdd_eq_some, rowLength,
      Finset.sum_range_succ, Nat.add_assoc]
  · refine and_congr_left fun _ => ?_
    constructor
    · intro hall
      cases columns with
      | zero => simp [rowLength, rowTokenLen]
      | succ n => exact hall n (by omega)
    · intro hlast c hc
      have hle := Finset.sum_le_sum_of_subset (f := fun j => len r j) (Finset.range_subset_range.mpr hc)
      simp only [rowLength, Nat.succ_eq_add_one] at hlast hle ⊢
      omega

theorem measureRowLengths_eq_ok {lengths : List ℕ} {total : ℕ} :
    measureRowLengths rows columns (table rows columns len) = .ok (lengths, total) ↔
      rowStart columns rowTokenLen len rows < 2 ^ 64 ∧
        lengths = (List.range rows).map (rowLength columns rowTokenLen len) ∧
        total = rowStart columns rowTokenLen len rows := by
  refine (forRange_eq_ok_iff (fun r => rowStart columns rowTokenLen len (r + 1) < 2 ^ 64)
    (fun r => ((List.range r).map (rowLength columns rowTokenLen len), rowStart columns rowTokenLen len r))
    (fun r hr s' => ?_) _).trans ?_
  · simp only [bind_eq_ok, measureRowLength_eq_ok fun c hc => getElem?_table hr hc, okOr_eq_ok, checkedAdd_eq_some,
      pure_eq_ok, Except.ok.injEq, rowStart_succ, List.range_succ, List.map_append, List.map_cons, List.map_nil]
    constructor
    · rintro ⟨_, ⟨-, rfl⟩, _, ⟨hlt, rfl⟩, rfl⟩
      exact ⟨hlt, rfl⟩
    · rintro ⟨hlt, rfl⟩
      exact ⟨_, ⟨by omega, rfl⟩, _, ⟨hlt, rfl⟩, rfl⟩
  · rw [rowEnds_lt (by decide), Prod.mk.injEq]

namespace MeasuredDirectBatch

theorem new_eq_ok {m : MeasuredDirectBatch} : new rows columns (table rows columns len) = .ok m ↔
    rows * columns < 2 ^ 64 ∧ rowStart columns rowTokenLen len rows < 2 ^ 64 ∧ Measures rows columns len m := by
  simp only [new, bind_eq_ok, okOr_eq_ok, checkedMul_eq_some, ensure_eq_ok, length_table, pure_eq_ok, Except.ok.injEq,
    Prod.exists, measureRowLengths_eq_ok]
  constructor
  · rintro ⟨_, ⟨hcells, rfl⟩, _, -, _, _, ⟨hfits, rfl, rfl⟩, rfl⟩
    exact ⟨hcells, hfits, rfl, rfl, rfl, rfl, rfl, hcells, hfits⟩
  · rintro ⟨hcells, hfits, h⟩
    refine ⟨_, ⟨hcells, rfl⟩, (), rfl, _, _, ⟨hfits, rfl, rfl⟩, ?_⟩
    exact MeasuredDirectBatch.ext h.rowCount.symm h.columnCount.symm h.cellLengths.symm h.rowLengths.symm
      h.payloadLen.symm

theorem measures_of_new {cellLengths : List ℕ} {m : MeasuredDirectBatch} (h : new rows columns cellLengths = .ok m) :
    ∃ len, cellLengths = table rows columns len ∧ Measures rows columns len m := by
  have hlength : cellLengths.length = rows * columns := by
    simp only [new, bind_eq_ok, okOr_eq_ok, checkedMul_eq_some, ensure_eq_ok] at h
    obtain ⟨_, ⟨-, rfl⟩, _, hlength, -⟩ := h
    exact hlength
  obtain ⟨len, rfl⟩ := eq_table 0 hlength
  exact ⟨len, rfl, (new_eq_ok.mp h).2.2⟩

theorem measures_empty (columns : ℕ) (len : ℕ → ℕ → ℕ) : Measures 0 columns len (empty columns) :=
  ⟨rfl, rfl, rfl, rfl, rfl, by simp, by simp⟩

end MeasuredDirectBatch

theorem exists_measures (hcells : rows * columns < 2 ^ 64) (hfits : rowStart columns rowTokenLen len rows < 2 ^ 64) :
    ∃ m, Measures rows columns len m :=
  ⟨⟨rows, columns, table rows columns len, _, _⟩, rfl, rfl, rfl, rfl, rfl, hcells, hfits⟩

namespace Measures

open MeasuredDirectBatch

variable {m : MeasuredDirectBatch} {start count : ℕ}

theorem rows_le (h : Measures rows columns len m) : rows < 2 ^ 64 :=
  lt_of_le_of_lt (le_rowStart (by decide) rows) h.fits

theorem unique {other : MeasuredDirectBatch} (h : Measures rows columns len m)
    (hother : Measures rows columns len other) : m = other :=
  MeasuredDirectBatch.ext (h.rowCount.trans hother.rowCount.symm) (h.columnCount.trans hother.columnCount.symm)
    (h.cellLengths.trans hother.cellLengths.symm) (h.rowLengths.trans hother.rowLengths.symm)
    (h.payloadLen.trans hother.payloadLen.symm)

theorem congr {len' : ℕ → ℕ → ℕ} (h : Measures rows columns len m)
    (hlen : ∀ r < rows, ∀ c < columns, len r c = len' r c) : Measures rows columns len' m where
  rowCount := h.rowCount
  columnCount := h.columnCount
  cellLengths := h.cellLengths.trans (table_congr hlen)
  rowLengths := by
    rw [h.rowLengths]
    apply List.map_congr_left
    intro r hr
    exact rowLength_congr (hlen r (List.mem_range.mp hr))
  payloadLen := h.payloadLen.trans (rowStart_congr hlen)
  addressable := h.addressable
  fits := rowStart_congr hlen ▸ h.fits

theorem checkRange_eq_ok (h : Measures rows columns len m) {u : Unit} :
    m.checkRange start count = .ok u ↔ start + count ≤ rows := by
  have hrows := h.rows_le
  simp only [checkRange, bind_eq_ok, okOr_eq_ok, checkedAdd_eq_some, ensure_eq_ok, h.rowCount]
  constructor
  · rintro ⟨_, ⟨-, rfl⟩, hle⟩
    exact hle
  · intro hle
    exact ⟨_, ⟨by omega, rfl⟩, hle⟩

theorem rangePayloadLen_of_le (h : Measures rows columns len m) (hle : start + count ≤ rows) :
    m.rangePayloadLen start count = .ok (rowStart columns rowTokenLen (fun r => len (start + r)) count) := by
  have hrows := h.rows_le
  have hwindow : (m.rowLengths.drop start).take (start + count - start) =
      (List.range count).map fun r => rowLength columns rowTokenLen len (start + r) := by
    rw [h.rowLengths, Nat.add_sub_cancel_left, drop_take_range_map hle]
  have hfits : rowStart columns rowTokenLen (fun r => len (start + r)) count < 2 ^ 64 := by
    have hsum := rowStart_add columns rowTokenLen len start count
    have hend : rowStart columns rowTokenLen len (start + count) ≤ rowStart columns rowTokenLen len rows :=
      rowStart_mono hle
    have := h.fits
    omega
  rw [rangePayloadLen, h.checkRange_eq_ok (u := ()).mpr hle, ok_bind, checkedAdd_of_lt (by omega), okOr_some, ok_bind,
    getRange_of_le (by omega) (by rw [h.rowLengths, List.length_map, List.length_range]; exact hle), ok_bind, hwindow,
    forEach_map]
  refine forRange_eq_ok_of_step (rowStart columns rowTokenLen fun r => len (start + r)) fun i hi => ?_
  have hend : rowStart columns rowTokenLen (fun r => len (start + r)) (i + 1) ≤
      rowStart columns rowTokenLen (fun r => len (start + r)) count := rowStart_mono hi
  rw [rowStart_succ] at hend ⊢
  change okOr (checkedAdd 64 _ (rowLength columns rowTokenLen (fun r => len (start + r)) i)) _ = _
  rw [checkedAdd_of_lt (by omega), okOr_some]

theorem cellLen_of_lt (h : Measures rows columns len m) {r c : ℕ} (hr : r < rows) (hc : c < columns) :
    m.cellLen r c = .ok (len r c) := by
  have hcell : r * columns + c < rows * columns := by
    have := Nat.mul_le_mul_right columns (Nat.succ_le_of_lt hr)
    rw [Nat.succ_mul] at this
    omega
  have hlt := hcell.trans h.addressable
  rw [cellLen, h.checkRange_eq_ok (u := ()).mpr hr, ok_bind, h.columnCount, ensure_of hc, ok_bind,
    checkedMul_of_lt (by omega), Option.bind_some, checkedAdd_of_lt hlt, okOr_some, ok_bind, h.cellLengths,
    getElem?_table hr hc, okOr_some]

theorem rangeLayout_of_le (h : Measures rows columns len m) (hle : start + count ≤ rows) :
    ∃ layout, m.rangeLayout start count = .ok layout ∧ LaysOut count columns (fun r => len (start + r)) layout := by
  have hrows := h.rows_le
  obtain ⟨layout, hlayout⟩ := exists_laysOut count columns fun r => len (start + r)
  refine ⟨layout, ?_, hlayout⟩
  rw [rangeLayout, h.checkRange_eq_ok (u := ()).mpr hle, ok_bind, h.columnCount, h.cellLengths]
  refine (buildFixedWidthRowRangeLayout_eq_ok (by omega) fun r hr c hc => getElem?_table (by omega) hc).mpr ⟨?_, hlayout⟩
  have hsum := rowStart_add columns rowTokenLen len start count
  have hend : rowStart columns rowTokenLen len (start + count) ≤ rowStart columns rowTokenLen len rows :=
    rowStart_mono hle
  have := h.fits
  omega

end Measures

end Specification

end ArrowTiberius.Direct
