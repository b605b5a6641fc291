import ArrowTiberius.Direct.Rows.FixedWidth

namespace ArrowTiberius.Direct.FixedWidth

open Checked Tiling

/-- A column's loop writes the cell of each row, as long as `len` says, and stops with an error where the column
refuses the cell. -/
structure CellsLaw (rows : ℕ) (cellBytes : ℕ → Option (List UInt8)) (len : ℕ → ℕ)
    (cell : ℕ → ℕ → List UInt8 → Result (List UInt8 × ℕ)) : Prop where
  length : ∀ {r : ℕ} {new : List UInt8}, r < rows → cellBytes r = some new → new.length = len r
  accept : ∀ {r offset : ℕ} {new bytes : List UInt8}, r < rows → cellBytes r = some new →
    offset + new.length ≤ bytes.length → bytes.length < 2 ^ 64 →
    cell r offset bytes = .ok (splice bytes offset new, new.length)
  refuse : ∀ {r offset : ℕ} {bytes : List UInt8}, r < rows → cellBytes r = none → ∃ e, cell r offset bytes = fail e

structure CellLaw (cellBytes : Option (List UInt8)) (len : ℕ) (cell : ℕ → List UInt8 → Result (List UInt8 × ℕ)) :
    Prop where
  length : ∀ {new : List UInt8}, cellBytes = some new → new.length = len
  accept : ∀ {offset : ℕ} {new bytes : List UInt8}, cellBytes = some new → offset + new.length ≤ bytes.length →
    bytes.length < 2 ^ 64 → cell offset bytes = .ok (splice bytes offset new, new.length)
  refuse : ∀ {offset : ℕ} {bytes : List UInt8}, cellBytes = none → ∃ e, cell offset bytes = fail e

theorem CellsLaw.of_rows {rows : ℕ} {cellBytes : ℕ → Option (List UInt8)} {len : ℕ → ℕ}
    {cell : ℕ → ℕ → List UInt8 → Result (List UInt8 × ℕ)}
    (h : ∀ r < rows, CellLaw (cellBytes r) (len r) (cell r)) : CellsLaw rows cellBytes len cell where
  length hr := (h _ hr).length
  accept hr := (h _ hr).accept
  refuse hr := (h _ hr).refuse

def cursors (rows columns : ℕ) (len : ℕ → ℕ → ℕ) (k : ℕ) : List ℕ :=
  (List.range rows).map (cellStart columns rowTokenLen len · k)

section Column

variable {rows columns k : ℕ} {len : ℕ → ℕ → ℕ} {cellBytes : ℕ → Option (List UInt8)}
  {cell : ℕ → ℕ → List UInt8 → Result (List UInt8 × ℕ)} {content : ℕ → ℕ → List UInt8} {new : ℕ → List UInt8}

def columnState (rows columns : ℕ) (len : ℕ → ℕ → ℕ) (content : ℕ → ℕ → List UInt8) (k : ℕ) (new : ℕ → List UInt8)
    (i : ℕ) : FillState :=
  ⟨(List.range rows).map fun r => cellStart columns rowTokenLen len r (if r < i then k + 1 else k),
    grid rows columns [tdsRowToken] fun r c => if c = k ∧ r < i then new r else content r c⟩

theorem length_columnState (hcontent : ∀ r < rows, ∀ c < columns, (content r c).length = len r c)
    (hnew : ∀ r < rows, (new r).length = len r k) (i : ℕ) : ∀ r < rows, ∀ c < columns,
      (if c = k ∧ r < i then new r else content r c).length = len r c := by
  intro r hr c hc
  split
  case isTrue h => rw [h.1, hnew r hr]
  case isFalse => exact hcontent r hr c hc

theorem fillRow_columnState (h : CellsLaw rows cellBytes (len · k) cell) (hk : k < columns)
    (hfits : rowStart columns rowTokenLen len rows < 2 ^ 64)
    (hcontent : ∀ r < rows, ∀ c < columns, (content r c).length = len r c)
    (hnew : ∀ r < rows, (new r).length = len r k) {i : ℕ} (hi : i < rows) (hbytes : cellBytes i = some (new i)) :
    fillRow cell (columnState rows columns len content k new i) i =
      .ok (columnState rows columns len content k new (i + 1)) := by
  have hlen := length_columnState hcontent hnew i
  have htotal : (columnState rows columns len content k new i).bytes.length = rowStart columns rowTokenLen len rows :=
    length_grid hlen
  have hinside := @cellStart_le rows columns len rowTokenLen i (k + 1) hi hk
  rw [cellStart_succ] at hinside
  have hcursor : (columnState rows columns len content k new i).currentOffsets[i]? =
      some (cellStart columns rowTokenLen len i k) := by
    simp [columnState, hi]
  have hcell := @h.accept i (cellStart columns rowTokenLen len i k) (new i)
    (columnState rows columns len content k new i).bytes hi hbytes (by rw [htotal, hnew i hi]; exact hinside)
    (by rw [htotal]; exact hfits)
  have hnext : (unsignedOp 64 (cellStart columns rowTokenLen len i k + (new i).length : ℕ) : Result ℕ) =
      .ok (cellStart columns rowTokenLen len i (k + 1)) := by
    rw [hnew i hi, cellStart_succ]
    apply unsignedOp_of_fits
    exact fitsUnsigned_64.mpr (by omega)
  have hset : (setIndex (columnState rows columns len content k new i).currentOffsets i
      (cellStart columns rowTokenLen len i (k + 1)) : Result (List ℕ)) =
      .ok (columnState rows columns len content k new (i + 1)).currentOffsets := by
    rw [setIndex_of_lt (by simp [columnState, hi]), columnState, splice_map_range hi, columnState]
    refine congrArg Except.ok (List.map_congr_left fun r _ => ?_)
    by_cases hr : r = i
    · subst hr
      simp
    · simp [Function.update_of_ne hr, show r < i + 1 ↔ r < i by omega]
  have hgrid : splice (columnState rows columns len content k new i).bytes
      (cellStart columns rowTokenLen len i k) (new i) = (columnState rows columns len content k new (i + 1)).bytes := by
    refine (splice_grid hi hk hlen (hnew i hi)).trans ?_
    refine grid_congr fun r _ c _ => ?_
    by_cases hr : r = i
    · subst hr
      by_cases hc : c = k
      · subst hc
        simp
      · simp [hc]
    · simp [Function.update_of_ne hr, show r < i + 1 ↔ r < i by omega]
  rw [fillRow, getIndex_of_getElem? hcursor, ok_bind, hcell, ok_bind]
  dsimp only
  rw [hnext, ok_bind, hset, ok_bind, hgrid]
  rfl

theorem fillRow_refuses (h : CellsLaw rows cellBytes (len · k) cell) {i : ℕ} (hi : i < rows)
    (hbytes : cellBytes i = none) :
    ∃ e, fillRow cell (columnState rows columns len content k new i) i = fail e := by
  have hcursor : (columnState rows columns len content k new i).currentOffsets[i]? =
      some (cellStart columns rowTokenLen len i k) := by
    simp [columnState, hi]
  obtain ⟨e, he⟩ := @h.refuse i (cellStart columns rowTokenLen len i k)
    (columnState rows columns len content k new i).bytes hi hbytes
  exact ⟨e, by rw [fillRow, getIndex_of_getElem? hcursor, ok_bind, he, fail_bind]⟩

theorem columnState_zero : columnState rows columns len content k new 0 =
    ⟨cursors rows columns len k, grid rows columns [tdsRowToken] content⟩ := by
  simp [columnState, cursors]

theorem columnState_rows : columnState rows columns len content k new rows =
    ⟨cursors rows columns len (k + 1), grid rows columns [tdsRowToken] fun r c =>
      if c = k then new r else content r c⟩ := by
  have hcursors : (List.range rows).map (fun r => cellStart columns rowTokenLen len r (if r < rows then k + 1 else k)) =
      cursors rows columns len (k + 1) := by
    apply List.map_congr_left
    intro r hr
    rw [if_pos (List.mem_range.mp hr)]
  rw [columnState, hcursors]
  congr 1
  apply grid_congr
  intro r hr c _
  simp [hr]

section Loop

variable (h : CellsLaw rows cellBytes (len · k) cell) (hk : k < columns)
  (hfits : rowStart columns rowTokenLen len rows < 2 ^ 64)
  (hcontent : ∀ r < rows, ∀ c < columns, (content r c).length = len r c)
  (hnew : ∀ r < rows, (new r).length = len r k) (hsome : ∀ r bytes, cellBytes r = some bytes → new r = bytes)

include h hk hfits hcontent hnew hsome

theorem fillRow_eq_ok {i : ℕ} (hi : i < rows) (s : FillState) :
    fillRow cell (columnState rows columns len content k new i) i = .ok s ↔
      (cellBytes i).isSome ∧ s = columnState rows columns len content k new (i + 1) := by
  cases hbytes : cellBytes i with
  | none =>
    obtain ⟨e, he⟩ := fillRow_refuses h hi hbytes
    rw [he]
    simp
  | some bytes =>
    rw [fillRow_columnState h hk hfits hcontent hnew hi (by rw [hbytes, hsome i bytes hbytes]), Except.ok.injEq]
    simp [eq_comm]

theorem fillRows_eq_ok {s : FillState} :
    forRange rows ⟨cursors rows columns len k, grid rows columns [tdsRowToken] content⟩ (fillRow cell) = .ok s ↔
      (∀ r < rows, (cellBytes r).isSome) ∧ s = ⟨cursors rows columns len (k + 1), grid rows columns [tdsRowToken]
        fun r c => if c = k then new r else content r c⟩ := by
  have hloop := forRange_eq_ok_iff (fun r => (cellBytes r).isSome) (columnState rows columns len content k new)
    (fun i hi => fillRow_eq_ok h hk hfits hcontent hnew hsome hi) s
  rwa [columnState_zero, columnState_rows] at hloop

theorem fillRows_safe :
    Safe (forRange rows ⟨cursors rows columns len k, grid rows columns [tdsRowToken] content⟩ (fillRow cell)) := by
  rw [← @columnState_zero rows columns k len content new]
  apply forRange_safe fun i s => s = columnState rows columns len content k new i
  · rintro i hi _ rfl
    refine ⟨?_, fun s hs => ((fillRow_eq_ok h hk hfits hcontent hnew hsome hi s).mp hs).2⟩
    cases hbytes : cellBytes i with
    | none =>
      obtain ⟨e, he⟩ := fillRow_refuses h hi hbytes
      rw [he]
      exact safe_fail e
    | some bytes =>
      rw [fillRow_columnState h hk hfits hcontent hnew hi (by rw [hbytes, hsome i bytes hbytes])]
      exact safe_ok _
  · rfl

end Loop

end Column

variable [Externals]

def FillsCells (context : RuntimeConversionContext) (rows : ℕ) (column : BoundDirectColumn)
    (cellBytes : ℕ → Option (List UInt8)) (len : ℕ → ℕ) : Prop :=
  ∃ fill cell, fillFixedWidthColumn context column = some fill ∧ CellsLaw rows cellBytes len cell ∧
    ∀ s : FillState, s.currentOffsets.length = rows → fill s = forRange rows s (fillRow cell)

section Columns

variable {context : RuntimeConversionContext} {rows : ℕ} {fixed : List FixedWidthColumn} {len : ℕ → ℕ → ℕ}
  {cellBytes : ℕ → ℕ → Option (List UInt8)}

def filled (cellBytes : ℕ → ℕ → Option (List UInt8)) (len : ℕ → ℕ → ℕ) (r c : ℕ) : List UInt8 :=
  (cellBytes r c).getD (List.replicate (len r c) 0)

def batchState (rows columns : ℕ) (cellBytes : ℕ → ℕ → Option (List UInt8)) (len : ℕ → ℕ → ℕ) (k : ℕ) : FillState :=
  ⟨cursors rows columns len k, grid rows columns [tdsRowToken] fun r c =>
    if c < k then filled cellBytes len r c else List.replicate (len r c) 0⟩

variable (hfill : ∀ (k : ℕ) column, fixed[k]? = some column →
    FillsCells context rows column.column (cellBytes · k) (len · k))
  (hfits : rowStart fixed.length rowTokenLen len rows < 2 ^ 64)

include hfill

theorem length_filled : ∀ r < rows, ∀ c < fixed.length, (filled cellBytes len r c).length = len r c := by
  intro r hr c hc
  obtain ⟨_, _, -, hcells, -⟩ := hfill c _ (List.getElem?_eq_getElem hc)
  unfold filled
  cases hbytes : cellBytes r c with
  | none => simp
  | some bytes => exact hcells.length hr hbytes

include hfits

theorem fillColumn_step {k : ℕ} {column : FixedWidthColumn} (hcolumn : fixed[k]? = some column) :
    ∃ fill, fillFixedWidthColumn context column.column = some fill ∧
      Safe (fill (batchState rows fixed.length cellBytes len k)) ∧
      ∀ s, fill (batchState rows fixed.length cellBytes len k) = .ok s ↔
        (∀ r < rows, (cellBytes r k).isSome) ∧ s = batchState rows fixed.length cellBytes len (k + 1) := by
  obtain ⟨hk, -⟩ := List.getElem?_eq_some_iff.mp hcolumn
  obtain ⟨fill, cell, hcolumnFill, hcells, hloop⟩ := hfill k column hcolumn
  have hfilled := length_filled hfill
  have hcontent : ∀ r < rows, ∀ c < fixed.length,
      (if c < k then filled cellBytes len r c else List.replicate (len r c) 0).length = len r c := by
    intro r hr c hc
    split
    · exact hfilled r hr c hc
    · exact List.length_replicate
  have hsome (r : ℕ) (bytes : List UInt8) (hbytes : cellBytes r k = some bytes) : filled cellBytes len r k = bytes := by
    rw [filled, hbytes, Option.getD_some]
  have hrun := hloop (batchState rows fixed.length cellBytes len k) (by simp [batchState, cursors])
  have hnext : batchState rows fixed.length cellBytes len (k + 1) = ⟨cursors rows fixed.length len (k + 1),
      grid rows fixed.length [tdsRowToken] fun r c => if c = k then filled cellBytes len r k else
        if c < k then filled cellBytes len r c else List.replicate (len r c) 0⟩ := by
    rw [batchState]
    congr 1
    refine grid_congr fun r _ c _ => ?_
    by_cases hc : c = k
    · rw [if_pos (by omega), if_pos hc, hc]
    · rw [if_neg hc, if_congr (show c < k + 1 ↔ c < k by omega) rfl rfl]
  refine ⟨fill, hcolumnFill, ?_, fun s => ?_⟩
  · rw [hrun]
    exact fillRows_safe hcells hk hfits hcontent (fun r hr => hfilled r hr k hk) hsome
  · rw [hrun, hnext]
    exact fillRows_eq_ok hcells hk hfits hcontent (fun r hr => hfilled r hr k hk) hsome

theorem fillFixedWidthColumns_eq_ok {o : Option FillState} :
    fillFixedWidthColumns context fixed (batchState rows fixed.length cellBytes len 0) = .ok o ↔
      (∀ c < fixed.length, ∀ r < rows, (cellBytes r c).isSome) ∧
        o = some (batchState rows fixed.length cellBytes len fixed.length) := by
  have hloop := @forEach_zipIdx_eq_ok_iff Error _ _ fixed
    (fun s x => fillNextFixedWidthColumn context s x.1)
    (fun c => ∀ r < rows, (cellBytes r c).isSome) (fun k => some (batchState rows fixed.length cellBytes len k)) 0
    (by
      intro k column hcolumn o
      obtain ⟨fill, hcolumnFill, -, hok⟩ := fillColumn_step hfill hfits hcolumn
      simp only [Nat.zero_add, fillNextFixedWidthColumn, hcolumnFill, map_eq_ok, hok]
      constructor
      · rintro ⟨_, ⟨hsome, rfl⟩, rfl⟩
        exact ⟨hsome, rfl⟩
      · rintro ⟨hsome, rfl⟩
        exact ⟨_, ⟨hsome, rfl⟩, rfl⟩) o
  simp only [Nat.zero_add] at hloop
  rw [← hloop, fillFixedWidthColumns, ← forEach_zipIdx_fst]

theorem fillFixedWidthColumns_safe :
    Safe (fillFixedWidthColumns context fixed (batchState rows fixed.length cellBytes len 0)) := by
  rw [fillFixedWidthColumns, ← forEach_zipIdx_fst]
  refine (forEach_zipIdx_safe (fun k s => s = some (batchState rows fixed.length cellBytes len k)) 0 ?_ rfl).1
  rintro k column hcolumn _ rfl
  obtain ⟨fill, hcolumnFill, hsafe, hok⟩ := fillColumn_step hfill hfits hcolumn
  simp only [Nat.zero_add, fillNextFixedWidthColumn, hcolumnFill]
  refine ⟨safe_map _ hsafe, ?_⟩
  intro s' hs'
  obtain ⟨s, hs, rfl⟩ := map_eq_ok.mp hs'
  rw [((hok s).mp hs).2]

end Columns

end ArrowTiberius.Direct.FixedWidth
