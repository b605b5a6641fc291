import ArrowTiberius.Arrow.Array
import ArrowTiberius.Direct.Measure
import ArrowTiberius.Direct.Plan
import ArrowTiberius.Tds.Format

namespace ArrowTiberius.Direct

open Checked Tiling

structure ColumnSlot where
  columnIndex : ℕ
  columnCount : ℕ

def rowColumnDiagnostic (column : DirectColumnPlan) (rowIndex : ℕ) (code : DiagnosticCode) (message : String) :
    Diagnostic :=
  ((Diagnostic.error code message).withField ⟨column.sourceIndex, column.sourceName⟩).withRow rowIndex

def columnError (column : DirectColumnPlan) (rowIndex : ℕ) (code : DiagnosticCode) (message : String) : Error :=
  valueConversionError (rowColumnDiagnostic column rowIndex code message)

def addColumnField (column : DirectColumnPlan) : Error → Error
  | .directEncoding diagnostics =>
    .directEncoding (diagnostics.map fun diagnostic => diagnostic.withField ⟨column.sourceIndex, column.sourceName⟩)
  | e => e

def measureColumn (rows : ℕ) (slot : ColumnSlot) (cellLengths : List ℕ) (cellLen : ℕ → Result ℕ) : Result (List ℕ) :=
  forRange rows cellLengths fun cellLengths rowIndex => do
    let len ← cellLen rowIndex
    setIndex cellLengths (rowIndex * slot.columnCount + slot.columnIndex) len

def cellPositionOr (overflow missing : Error) (layout : RowLayout) (slot : ColumnSlot) (rowIndex : ℕ) :
    Result CellPosition := do
  let index ← okOr ((checkedMul 64 rowIndex slot.columnCount).bind (checkedAdd 64 · slot.columnIndex)) overflow
  okOr layout.cellPositions[index]? missing

def cellPosition : RowLayout → ColumnSlot → ℕ → Result CellPosition :=
  cellPositionOr (invalidPayload "cell position index overflowed usize")
    (invalidPayload "cell position is outside measured row layout")

def fillColumn (rows : ℕ) (slot : ColumnSlot) (layout : RowLayout) (bytes : List UInt8)
    (position : RowLayout → ColumnSlot → ℕ → Result CellPosition)
    (fillCell : ℕ → CellPosition → List UInt8 → Result (List UInt8)) : Result (List UInt8) :=
  forRange rows bytes fun bytes rowIndex => do
    let cell ← position layout slot rowIndex
    fillCell rowIndex cell bytes

def modifyCell (overflow outside : String) (bytes : List UInt8) (cell : CellPosition)
    (f : List UInt8 → Result (List UInt8)) : Result (List UInt8) := do
  let stop ← okOr (checkedAdd 64 cell.offset cell.len) (invalidPayload overflow)
  ensure (stop ≤ bytes.length) (invalidPayload outside)
  modifyRange bytes cell.offset stop f

def checkPositionLen (kind : String) (cell : CellPosition) (expectedLen : ℕ) : Result Unit :=
  ensure (cell.len = expectedLen) (invalidPayload s!"{kind} at row {cell.rowIndex} column {
    cell.columnIndex} has length {cell.len}, expected {expectedLen}")

def nullContent (column : DirectColumnPlan) : Option (Option (List UInt8)) :=
  if column.nullable then some none else none

def columnContent {α : Type} (nullContent : Option (Option (List UInt8))) (data : Arr α)
    (payloadOf : α → Option (List UInt8)) (rowIndex : ℕ) : Option (Option (List UInt8)) :=
  if data.isNull rowIndex then nullContent else (payloadOf (data.value rowIndex)).map some

/-- The bytes of each row: absent where the column refuses the cell or its frame is too small for it. -/
def columnBytes (framing : Tds.Framing) (content : ℕ → Option (Option (List UInt8))) (rowIndex : ℕ) :
    Option (List UInt8) :=
  (content rowIndex).bind (Tds.wire framing)

def bytesLength (cellBytes : ℕ → Option (List UInt8)) (rowIndex : ℕ) : ℕ := ((cellBytes rowIndex).getD []).length

theorem bytesLength_eq (cellBytes : ℕ → Option (List UInt8)) (rowIndex : ℕ) :
    bytesLength cellBytes rowIndex = ((cellBytes rowIndex).map List.length).getD 0 := by
  cases h : cellBytes rowIndex <;> simp [bytesLength, h]

theorem nullContent_wire_eq_some {framing : Tds.Framing} {column : DirectColumnPlan} {bytes : List UInt8} :
    (nullContent column).bind (Tds.wire framing) = some bytes ↔
      column.nullable = true ∧ Tds.wire framing none = some bytes := by
  by_cases h : column.nullable = true <;> simp [nullContent, h]

section Content

variable {α : Type} {framing : Tds.Framing} {nullContent : Option (Option (List UInt8))} {data : Arr α}
  {payloadOf : α → Option (List UInt8)} {r : ℕ}

theorem columnBytes_of_null (h : data.isNull r = true) :
    columnBytes framing (columnContent nullContent data payloadOf) r = nullContent.bind (Tds.wire framing) := by
  simp only [columnBytes, columnContent, h, if_true]

theorem columnBytes_of_value (h : data.isNull r = false) :
    columnBytes framing (columnContent nullContent data payloadOf) r =
      (payloadOf (data.value r)).bind fun value => Tds.wire framing (some value) := by
  simp only [columnBytes, columnContent, h, Bool.false_eq_true, if_false, Option.bind_map]
  rfl

end Content

/-- The three passes over a column measure, fill in and append the same bytes. -/
structure ColumnLaw (rows : ℕ) (cellBytes : ℕ → Option (List UInt8)) (measure : ColumnSlot → List ℕ → Result (List ℕ))
    (fill : ColumnSlot → RowLayout → List UInt8 → Result (List UInt8))
    (append : List UInt8 → ℕ → ℕ → Result (List UInt8)) : Prop where
  measure_table : ∀ {k columns : ℕ} {entry : ℕ → ℕ → ℕ} {cellLengths : List ℕ}, k < columns →
    (measure ⟨k, columns⟩ (table rows columns entry) = .ok cellLengths ↔
      (∀ r < rows, (cellBytes r).isSome) ∧
        cellLengths = table rows columns fun r c => if c = k then bytesLength cellBytes r else entry r c)
  fill_grid : ∀ {k columns : ℕ} {len : ℕ → ℕ → ℕ} {layout : RowLayout} {cell : ℕ → ℕ → List UInt8}
    {new : ℕ → List UInt8}, k < columns → LaysOut rows columns len layout → rows * columns < 2 ^ 64 →
    layout.payloadLen < 2 ^ 64 → (∀ r < rows, ∀ c < columns, (cell r c).length = len r c) →
    (∀ r < rows, cellBytes r = some (new r) ∧ (new r).length = len r k) →
    fill ⟨k, columns⟩ layout (grid rows columns [tdsRowToken] cell) =
      .ok (grid rows columns [tdsRowToken] fun r c => if c = k then new r else cell r c)
  append_cell : ∀ {r : ℕ} {bytes buf : List UInt8}, cellBytes r = some bytes →
    append buf r bytes.length = .ok (buf ++ bytes)

def MeasuresColumn (rows : ℕ) (cellLength : ℕ → Option ℕ) (measure : ColumnSlot → List ℕ → Result (List ℕ)) : Prop :=
  ∀ {k columns : ℕ} {entry : ℕ → ℕ → ℕ} {cellLengths : List ℕ}, k < columns →
    (measure ⟨k, columns⟩ (table rows columns entry) = .ok cellLengths ↔
      (∀ r < rows, (cellLength r).isSome) ∧
        cellLengths = table rows columns fun r c => if c = k then (cellLength r).getD 0 else entry r c)

def FillsColumn (rows : ℕ) (cellBytes : ℕ → Option (List UInt8))
    (fill : ColumnSlot → RowLayout → List UInt8 → Result (List UInt8)) : Prop :=
  ∀ {k columns : ℕ} {len : ℕ → ℕ → ℕ} {layout : RowLayout} {cell : ℕ → ℕ → List UInt8} {new : ℕ → List UInt8},
    k < columns → LaysOut rows columns len layout → rows * columns < 2 ^ 64 → layout.payloadLen < 2 ^ 64 →
    (∀ r < rows, ∀ c < columns, (cell r c).length = len r c) →
    (∀ r < rows, cellBytes r = some (new r) ∧ (new r).length = len r k) →
    fill ⟨k, columns⟩ layout (grid rows columns [tdsRowToken] cell) =
      .ok (grid rows columns [tdsRowToken] fun r c => if c = k then new r else cell r c)

section Laws

variable {rows k columns : ℕ} {len : ℕ → ℕ → ℕ} {cellBytes : ℕ → Option (List UInt8)}

theorem measureColumn_table {cellLength : ℕ → Option ℕ} {entry : ℕ → ℕ → ℕ} {cellLen : ℕ → Result ℕ}
    {cellLengths : List ℕ} (hk : k < columns) (hcell : ∀ r < rows, ∀ n, cellLen r = .ok n ↔ cellLength r = some n) :
    measureColumn rows ⟨k, columns⟩ (table rows columns entry) cellLen = .ok cellLengths ↔
      (∀ r < rows, (cellLength r).isSome) ∧
        cellLengths = table rows columns fun r c => if c = k then (cellLength r).getD 0 else entry r c := by
  have hloop := @forRange_eq_ok_iff Error _ rows (fun cellLengths rowIndex => do
      let len ← cellLen rowIndex
      setIndex cellLengths (rowIndex * columns + k) len)
    (fun r => (cellLength r).isSome)
    (fun i => table rows columns fun r c => if c = k ∧ r < i then (cellLength r).getD 0 else entry r c)
    (fun i hi s' => by
      simp only [bind_eq_ok, hcell i hi]
      have hindex : i * columns + k < (table rows columns fun r c =>
          if c = k ∧ r < i then (cellLength r).getD 0 else entry r c).length := by
        rw [length_table]
        have := Nat.mul_le_mul_right columns (Nat.succ_le_of_lt hi)
        rw [Nat.succ_mul] at this
        omega
      have hnext (n : ℕ) (hn : cellLength i = some n) : splice (table rows columns fun r c =>
          if c = k ∧ r < i then (cellLength r).getD 0 else entry r c) (i * columns + k) [n] =
          table rows columns fun r c => if c = k ∧ r < i + 1 then (cellLength r).getD 0 else entry r c := by
        rw [splice_table hi hk]
        refine table_congr fun r _ c _ => ?_
        by_cases hr : r = i
        · subst hr
          by_cases hc : c = k
          · subst hc
            simp [hn]
          · simp [hc]
        · simp [Function.update_of_ne hr, show r < i + 1 ↔ r < i by omega]
      constructor
      · rintro ⟨n, hn, hs⟩
        rw [setIndex_of_lt hindex, hnext n hn] at hs
        exact ⟨by rw [hn]; rfl, (Except.ok.inj hs).symm⟩
      · rintro ⟨hsome, rfl⟩
        obtain ⟨n, hn⟩ := Option.isSome_iff_exists.mp hsome
        exact ⟨n, hn, by rw [setIndex_of_lt hindex, hnext n hn]⟩) cellLengths
  have hinit : (table rows columns fun r c => if c = k ∧ r < 0 then (cellLength r).getD 0 else entry r c) =
      table rows columns entry := by simp
  have hlast : (table rows columns fun r c => if c = k ∧ r < rows then (cellLength r).getD 0 else entry r c) =
      table rows columns fun r c => if c = k then (cellLength r).getD 0 else entry r c :=
    table_congr fun r hr c _ => by simp [hr]
  rwa [hinit, hlast] at hloop

theorem cellPositionOr_of {overflow missing : Error} {layout : RowLayout} (h : LaysOut rows columns len layout)
    (hcells : rows * columns < 2 ^ 64) {r : ℕ} (hr : r < rows) (hk : k < columns) :
    cellPositionOr overflow missing layout ⟨k, columns⟩ r =
      .ok ⟨r, k, cellStart columns rowTokenLen len r k, len r k⟩ := by
  have hcell : r * columns + k < rows * columns := by
    have := Nat.mul_le_mul_right columns (Nat.succ_le_of_lt hr)
    rw [Nat.succ_mul] at this
    omega
  have hmul : checkedMul 64 r columns = some (r * columns) := checkedMul_of_lt (by omega)
  have hadd : checkedAdd 64 (r * columns) k = some (r * columns + k) := checkedAdd_of_lt (by omega)
  simp only [cellPositionOr, hmul, Option.bind_some, hadd, okOr_some, ok_bind, h.cells, getElem?_table hr hk]

theorem fillColumn_grid {layout : RowLayout} {cell : ℕ → ℕ → List UInt8} {new : ℕ → List UInt8}
    {overflow : Error} {missing : ColumnSlot → ℕ → Error}
    {fillCell : ℕ → CellPosition → List UInt8 → Result (List UInt8)} (hk : k < columns)
    (h : LaysOut rows columns len layout) (hcells : rows * columns < 2 ^ 64) (hfits : layout.payloadLen < 2 ^ 64)
    (hlen : ∀ r < rows, ∀ c < columns, (cell r c).length = len r c) (hnew : ∀ r < rows, (new r).length = len r k)
    (hfill : ∀ r < rows, ∀ position bytes, position.len = (new r).length →
      position.offset + position.len ≤ bytes.length → bytes.length < 2 ^ 64 →
      fillCell r position bytes = .ok (splice bytes position.offset (new r))) :
    fillColumn rows ⟨k, columns⟩ layout (grid rows columns [tdsRowToken] cell)
      (fun layout slot rowIndex => cellPositionOr overflow (missing slot rowIndex) layout slot rowIndex) fillCell =
      .ok (grid rows columns [tdsRowToken] fun r c => if c = k then new r else cell r c) := by
  have hlen' (i : ℕ) : ∀ r < rows, ∀ c < columns,
      (if c = k ∧ r < i then new r else cell r c).length = len r c := by
    intro r hr c hc
    split
    case isTrue hif => rw [hif.1, hnew r hr]
    case isFalse => exact hlen r hr c hc
  have hloop := @forRange_eq_ok_of_step Error _ rows
    (fun bytes rowIndex => do
      let cell ← cellPositionOr overflow (missing ⟨k, columns⟩ rowIndex) layout ⟨k, columns⟩ rowIndex
      fillCell rowIndex cell bytes)
    (fun i => grid rows columns [tdsRowToken] fun r c => if c = k ∧ r < i then new r else cell r c)
    (fun i hi => by
      have htotal : (grid rows columns [tdsRowToken] fun r c => if c = k ∧ r < i then new r else cell r c).length =
          layout.payloadLen := by rw [length_grid (hlen' i), h.total]; rfl
      have hinside := h.total ▸ @cellStart_le rows columns len rowTokenLen i (k + 1) hi hk
      rw [cellStart_succ] at hinside
      rw [cellPositionOr_of h hcells hi hk, ok_bind, hfill i hi _ _ (hnew i hi).symm (by rw [htotal]; exact hinside)
        (by rw [htotal]; exact hfits)]
      refine congrArg Except.ok ((splice_grid hi hk (hlen' i) (hnew i hi)).trans ?_)
      refine grid_congr fun r _ c _ => ?_
      by_cases hr : r = i
      · subst hr
        by_cases hc : c = k
        · subst hc
          simp
        · simp [hc]
      · simp [Function.update_of_ne hr, show r < i + 1 ↔ r < i by omega])
  have hinit : (grid rows columns [tdsRowToken] fun r c => if c = k ∧ r < 0 then new r else cell r c) =
      grid rows columns [tdsRowToken] cell := by simp
  have hlast : (grid rows columns [tdsRowToken] fun r c => if c = k ∧ r < rows then new r else cell r c) =
      grid rows columns [tdsRowToken] fun r c => if c = k then new r else cell r c :=
    grid_congr fun r hr c _ => by simp [hr]
  rw [hinit, hlast] at hloop
  exact hloop

theorem ColumnLaw.of_cells {cellLen : ℕ → Result ℕ} {overflow : Error} {missing : ColumnSlot → ℕ → Error}
    {fillCell : ℕ → CellPosition → List UInt8 → Result (List UInt8)}
    {append : List UInt8 → ℕ → ℕ → Result (List UInt8)}
    (hmeasure : ∀ r n, cellLen r = .ok n ↔ ∃ bytes, cellBytes r = some bytes ∧ n = bytes.length)
    (hfill : ∀ r new position bytes, cellBytes r = some new → position.len = new.length →
      position.offset + position.len ≤ bytes.length → bytes.length < 2 ^ 64 →
      fillCell r position bytes = .ok (splice bytes position.offset new))
    (happend : ∀ r bytes buf, cellBytes r = some bytes → append buf r bytes.length = .ok (buf ++ bytes)) :
    ColumnLaw rows cellBytes (fun slot cellLengths => measureColumn rows slot cellLengths cellLen)
      (fun slot layout bytes => fillColumn rows slot layout bytes
        (fun layout slot rowIndex => cellPositionOr overflow (missing slot rowIndex) layout slot rowIndex) fillCell)
      append where
  measure_table {k columns entry cellLengths} hk := by
    have htable := @measureColumn_table rows k columns (fun r => (cellBytes r).map List.length) entry cellLen
      cellLengths hk fun r _ n => by
        rw [hmeasure, Option.map_eq_some_iff]
        exact exists_congr fun _ => and_congr_right fun _ => eq_comm
    rw [htable]
    simp only [Option.isSome_map, bytesLength_eq]
  fill_grid hk h hcells hfits hlen hnew := fillColumn_grid hk h hcells hfits hlen (fun r hr => (hnew r hr).2)
    fun r hr position bytes hlength hinside haddressable =>
      hfill r _ position bytes (hnew r hr).1 hlength hinside haddressable
  append_cell h := happend _ _ _ h

theorem ColumnLaw.measures {measure : ColumnSlot → List ℕ → Result (List ℕ)}
    {fill : ColumnSlot → RowLayout → List UInt8 → Result (List UInt8)}
    {append : List UInt8 → ℕ → ℕ → Result (List UInt8)} (h : ColumnLaw rows cellBytes measure fill append) :
    MeasuresColumn rows (fun r => (cellBytes r).map List.length) measure := by
  intro k columns entry cellLengths hk
  rw [h.measure_table hk]
  simp only [Option.isSome_map, bytesLength_eq]

theorem modifyCell_of {overflow outside : String} {position : CellPosition} {bytes new : List UInt8}
    {f : List UInt8 → Result (List UInt8)} (hlength : position.len = new.length)
    (hinside : position.offset + position.len ≤ bytes.length) (haddressable : bytes.length < 2 ^ 64)
    (hf : ∀ window : List UInt8, window.length = new.length → f window = .ok new) :
    modifyCell overflow outside bytes position f = .ok (splice bytes position.offset new) := by
  rw [modifyCell, checkedAdd_of_lt (by omega), okOr_some, ok_bind, ensure_of hinside, ok_bind,
    modifyRange_of_le (by omega) hinside fun window hw => hf window (by omega)]

theorem checkPositionLen_of {kind : String} {position : CellPosition} {n : ℕ} (h : position.len = n) :
    checkPositionLen kind position n = .ok () := ensure_of h

end Laws

end ArrowTiberius.Direct
