import ArrowTiberius.Direct.BatchLaw
import ArrowTiberius.Lib.Writes

namespace ArrowTiberius.Direct

open Checked Tiling

inductive LayoutRegion where
  | token (rowIndex : ℕ)
  | cell (index : ℕ)
  deriving DecidableEq, Repr

def rangeLength (startRow rowCount columnCount : ℕ) (cellLengths : List ℕ) : ℕ :=
  rowCount + ((cellLengths.drop (startRow * columnCount)).take (rowCount * columnCount)).sum

namespace RowLayout

def Occupies (layout : RowLayout) : LayoutRegion → ℕ → Prop
  | .token rowIndex, p => layout.rowTokenOffsets[rowIndex]? = some p
  | .cell index, p => ∃ cell, layout.cellPositions[index]? = some cell ∧ cell.offset ≤ p ∧ p < cell.offset + cell.len

/-- Tokens and cells are apart from each other and together make up the payload. -/
structure Tiles (layout : RowLayout) : Prop where
  cover : ∀ p < layout.payloadLen, ∃ region, layout.Occupies region p
  within : ∀ p region, layout.Occupies region p → p < layout.payloadLen
  disjoint : ∀ p region region', layout.Occupies region p → layout.Occupies region' p → region = region'

/-- The cells of a range of rows of a matrix of lengths, row by row. -/
structure PlacesCells (layout : RowLayout) (startRow rowCount columnCount : ℕ) (cellLengths : List ℕ) : Prop where
  rows : layout.rowTokenOffsets.length = rowCount
  cells : layout.cellPositions.length = rowCount * columnCount
  place : ∀ r < rowCount, ∀ c < columnCount, ∃ cell, layout.cellPositions[r * columnCount + c]? = some cell ∧
    cell.rowIndex = r ∧ cell.columnIndex = c ∧ cellLengths[(startRow + r) * columnCount + c]? = some cell.len

def rowOffset (layout : RowLayout) (rowIndex : ℕ) : ℕ := layout.rowTokenOffsets[rowIndex]?.getD layout.payloadLen

/-- The rows of another layout from `a` on, moved to the start of the payload. -/
structure IsSliceOf (sub layout : RowLayout) (columnCount a n : ℕ) : Prop where
  tokens : sub.rowTokenOffsets.map (layout.rowOffset a + ·) = (layout.rowTokenOffsets.drop a).take n
  lengths : sub.rowLengths = (layout.rowLengths.drop a).take n
  cells : sub.cellPositions.map (fun cell => { cell with
      rowIndex := a + cell.rowIndex
      offset := layout.rowOffset a + cell.offset }) =
    (layout.cellPositions.drop (a * columnCount)).take (n * columnCount)
  total : layout.rowOffset a + sub.payloadLen = layout.rowOffset (a + n)

def HoldsTokens (layout : RowLayout) (bytes : List UInt8) : Prop :=
  bytes.length = layout.payloadLen ∧ ∀ offset ∈ layout.rowTokenOffsets, bytes[offset]? = some tdsRowToken

end RowLayout

section Layout

variable {rows columns : ℕ} {len : ℕ → ℕ → ℕ} {layout : RowLayout} {p : ℕ}

theorem occupies_token (h : LaysOut rows columns len layout) {r : ℕ} :
    layout.Occupies (.token r) p ↔ InHead rows columns rowTokenLen len p r := by
  simp only [RowLayout.Occupies, h.tokens, List.getElem?_map, Option.map_eq_some_iff, InHead, rowTokenLen]
  constructor
  · rintro ⟨i, hi, rfl⟩
    obtain ⟨hr, hval⟩ := List.getElem?_eq_some_iff.mp hi
    rw [List.getElem_range] at hval
    rw [List.length_range] at hr
    subst hval
    exact ⟨hr, le_rfl, by omega⟩
  · rintro ⟨hr, hle, hlt⟩
    exact ⟨r, by simp [hr], by omega⟩

theorem occupies_cell (h : LaysOut rows columns len layout) {index : ℕ} :
    layout.Occupies (.cell index) p ↔
      ∃ r c, index = r * columns + c ∧ InCell rows columns rowTokenLen len p r c := by
  simp only [RowLayout.Occupies, h.cells]
  constructor
  · rintro ⟨cell, hcell, hle, hlt⟩
    obtain ⟨hindex, -⟩ := List.getElem?_eq_some_iff.mp hcell
    rw [length_table] at hindex
    have hpos : 0 < columns := Nat.pos_of_ne_zero fun hzero => by simp [hzero] at hindex
    have hc := Nat.mod_lt index hpos
    have hr : index / columns < rows := Nat.div_lt_of_lt_mul (by rwa [Nat.mul_comm] at hindex)
    have hsplit : index = index / columns * columns + index % columns := (Nat.div_add_mod' index columns).symm
    rw [hsplit, getElem?_table hr hc, Option.some.injEq] at hcell
    subst hcell
    exact ⟨_, _, hsplit, hr, hc, hle, hlt⟩
  · rintro ⟨r, c, rfl, hr, hc, hle, hlt⟩
    exact ⟨_, getElem?_table hr hc, hle, hlt⟩

theorem tiles_of_laysOut (h : LaysOut rows columns len layout) : layout.Tiles where
  cover p hp := by
    rw [h.total] at hp
    rcases exists_head_or_cell hp with ⟨r, hr⟩ | ⟨r, c, hcell⟩
    · exact ⟨.token r, (occupies_token h).mpr hr⟩
    · exact ⟨.cell (r * columns + c), (occupies_cell h).mpr ⟨r, c, rfl, hcell⟩⟩
  within p region hp := by
    rw [h.total]
    cases region with
    | token r => exact ((occupies_token h).mp hp).lt
    | cell index =>
      obtain ⟨r, c, -, hcell⟩ := (occupies_cell h).mp hp
      exact hcell.lt
  disjoint p region region' hp hp' := by
    cases region with
    | token r =>
      have hhead := (occupies_token h).mp hp
      cases region' with
      | token r' => rw [head_unique hhead ((occupies_token h).mp hp')]
      | cell index =>
        obtain ⟨r', c, -, hcell⟩ := (occupies_cell h).mp hp'
        exact absurd hcell (head_not_cell hhead)
    | cell index =>
      obtain ⟨r, c, rfl, hcell⟩ := (occupies_cell h).mp hp
      cases region' with
      | token r' => exact absurd hcell (head_not_cell ((occupies_token h).mp hp'))
      | cell index' =>
        obtain ⟨r', c', rfl, hcell'⟩ := (occupies_cell h).mp hp'
        obtain ⟨rfl, rfl⟩ := cell_unique hcell hcell'
        rfl

theorem rowOffset_eq (h : LaysOut rows columns len layout) {r : ℕ} (hr : r ≤ rows) :
    layout.rowOffset r = rowStart columns rowTokenLen len r := by
  rw [RowLayout.rowOffset, h.tokens, h.total]
  by_cases hlt : r < rows
  · simp [hlt]
  · have hsame : r = rows := by omega
    simp [hsame]

theorem placesCells_of_laysOut (h : LaysOut rows columns len layout) {startRow : ℕ} {cellLengths : List ℕ}
    (hlens : ∀ r < rows, ∀ c < columns, cellLengths[(startRow + r) * columns + c]? = some (len r c)) :
    layout.PlacesCells startRow rows columns cellLengths where
  rows := by rw [h.tokens, List.length_map, List.length_range]
  cells := by rw [h.cells, length_table]
  place r hr c hc := ⟨_, h.cells ▸ getElem?_table hr hc, rfl, rfl, hlens r hr c hc⟩

theorem isSliceOf_of_laysOut {a n : ℕ} {sub : RowLayout} (h : LaysOut rows columns len layout)
    (hsub : LaysOut n columns (fun r => len (a + r)) sub) (hle : a + n ≤ rows) :
    sub.IsSliceOf layout columns a n := by
  have hbase : layout.rowOffset a = rowStart columns rowTokenLen len a := rowOffset_eq h (by omega)
  constructor
  · rw [hsub.tokens, h.tokens, hbase, drop_take_range_map hle, List.map_map]
    refine List.map_congr_left fun r _ => ?_
    exact (rowStart_add columns rowTokenLen len a r).symm
  · rw [hsub.lengths, h.lengths, drop_take_range_map hle]
    rfl
  · rw [hsub.cells, h.cells, hbase, drop_take_table hle, map_table]
    refine table_congr fun r _ c _ => ?_
    rw [CellPosition.mk.injEq]
    refine ⟨rfl, rfl, ?_, rfl⟩
    simp only [cellStart, rowStart_add, Nat.add_assoc]
  · rw [hsub.total, hbase, rowOffset_eq h hle, rowStart_add]

theorem rangeLength_eq {total startRow : ℕ} {cellLengths : List ℕ} (htotal : startRow + rows ≤ total)
    (hlens : cellLengths = table total columns len) : rangeLength startRow rows columns cellLengths =
      rowStart columns rowTokenLen (fun r => len (startRow + r)) rows := by
  rw [rangeLength, hlens, drop_take_table htotal, rowStart_eq_sum, rowTokenLen, Nat.mul_one]

theorem build_eq_ok {total startRow : ℕ} {cellLengths : List ℕ} (htotal : startRow + rows ≤ total)
    (hlens : cellLengths = table total columns len) :
    buildFixedWidthRowRangeLayout startRow rows columns cellLengths = .ok layout ↔
      startRow + rows < 2 ^ 64 ∧ rangeLength startRow rows columns cellLengths < 2 ^ 64 ∧
        LaysOut rows columns (fun r => len (startRow + r)) layout := by
  have hentries : ∀ r < rows, ∀ c < columns,
      cellLengths[(startRow + r) * columns + c]? = some (len (startRow + r) c) := by
    intro r hr c hc
    rw [hlens, getElem?_table (by omega) hc]
  rw [rangeLength_eq htotal hlens]
  constructor
  · intro h
    have hrange := range_lt_of_build h
    exact ⟨hrange, (buildFixedWidthRowRangeLayout_eq_ok hrange hentries).mp h⟩
  · rintro ⟨hrange, hfits, hlays⟩
    exact (buildFixedWidthRowRangeLayout_eq_ok hrange hentries).mpr ⟨hfits, hlays⟩

theorem build_tiles {total startRow rowCount columnCount : ℕ} {cellLengths : List ℕ}
    (hlength : cellLengths.length = total * columnCount) (htotal : startRow + rowCount ≤ total) :
    ((∃ layout, buildFixedWidthRowRangeLayout startRow rowCount columnCount cellLengths = .ok layout) ↔
        startRow + rowCount < 2 ^ 64 ∧ rangeLength startRow rowCount columnCount cellLengths < 2 ^ 64) ∧
      ∀ layout, buildFixedWidthRowRangeLayout startRow rowCount columnCount cellLengths = .ok layout →
        layout.Tiles ∧ layout.payloadLen = rangeLength startRow rowCount columnCount cellLengths ∧
        layout.PlacesCells startRow rowCount columnCount cellLengths ∧
        ∀ a n, a + n ≤ rowCount → ∃ sub,
          buildFixedWidthRowRangeLayout (startRow + a) n columnCount cellLengths = .ok sub ∧
            sub.IsSliceOf layout columnCount a n := by
  obtain ⟨len, hlens⟩ := eq_table 0 hlength
  constructor
  · constructor
    · rintro ⟨layout, hlayout⟩
      obtain ⟨hrange, hfits, -⟩ := (build_eq_ok htotal hlens).mp hlayout
      exact ⟨hrange, hfits⟩
    · rintro ⟨hrange, hfits⟩
      obtain ⟨layout, hlays⟩ := exists_laysOut rowCount columnCount fun r => len (startRow + r)
      exact ⟨layout, (build_eq_ok htotal hlens).mpr ⟨hrange, hfits, hlays⟩⟩
  · intro layout hlayout
    obtain ⟨hrange, hfits, hlays⟩ := (build_eq_ok htotal hlens).mp hlayout
    refine ⟨tiles_of_laysOut hlays, by rw [hlays.total, rangeLength_eq htotal hlens], ?_, ?_⟩
    · apply placesCells_of_laysOut hlays
      intro r hr c hc
      rw [hlens, getElem?_table (by omega) hc]
    · intro a n hle
      obtain ⟨sub, hsub⟩ := exists_laysOut n columnCount fun r => len (startRow + a + r)
      have hfitsSub : rangeLength (startRow + a) n columnCount cellLengths < 2 ^ 64 := by
        rw [rangeLength_eq htotal hlens] at hfits
        rw [rangeLength_eq (by omega) hlens]
        have hsum := rowStart_add columnCount rowTokenLen (fun r => len (startRow + r)) a n
        have hend : rowStart columnCount rowTokenLen (fun r => len (startRow + r)) (a + n) ≤
            rowStart columnCount rowTokenLen (fun r => len (startRow + r)) rowCount := rowStart_mono hle
        simp only [← Nat.add_assoc] at hsum
        omega
      refine ⟨sub, (build_eq_ok (by omega) hlens).mpr ⟨by omega, hfitsSub, hsub⟩, isSliceOf_of_laysOut hlays ?_ hle⟩
      simpa only [Nat.add_assoc] using hsub

end Layout

section Pieces

variable [Externals]

namespace BoundDirectColumn

def pieces (context : RuntimeConversionContext) : BoundDirectColumn → ℕ → Option (List UInt8)
  | .fixedSizeBinary column classification array =>
    FixedSizeBinary.piece array column (FixedSizeBinary.binaryLength classification)
  | bound => bound.cellBytes context

/-- A binary column with a value that is too long for its length field of two bytes. -/
def HoldsOverlongBinary : BoundDirectColumn → Prop
  | .fixedSizeBinary _ classification array =>
    ¬FixedSizeBinary.binaryLength classification < 2 ^ 16 ∧ ∃ r < array.len, array.isNull r = false
  | _ => False

end BoundDirectColumn

structure BoundDirectColumn.Placeable (context : RuntimeConversionContext) (rows : ℕ) (bound : BoundDirectColumn) :
    Prop where
  measures : MeasuresColumn rows (fun r => (bound.pieces context r).map List.length) (bound.measureCellLengths context)
  fills : ¬bound.HoldsOverlongBinary → FillsColumn rows (bound.pieces context) (bound.fillColumn context)
  stops : bound.HoldsOverlongBinary → ∀ slot layout bytes out, bound.fillColumn context slot layout bytes ≠ .ok out

theorem fixedSizeBinary_placeable {context : RuntimeConversionContext} {column : DirectColumnPlan} {length : ℕ}
    {array : Arr (List UInt8)} : (BoundDirectColumn.fixedSizeBinary column (.fixedSizeBinaryToBinary length)
      array).Placeable context array.len where
  measures := by
    simp only [BoundDirectColumn.pieces, FixedSizeBinary.binaryLength, FixedSizeBinary.length_piece]
    exact FixedSizeBinary.measures_cellLength
  fills hshort := by
    apply FixedSizeBinary.fills_piece
    intro r hr hnull
    by_contra hlong
    exact hshort ⟨hlong, r, hr, hnull⟩
  stops hlong := by
    obtain ⟨hlength, r, hr, hnull⟩ := hlong
    exact FixedSizeBinary.not_fills_of_long hlength hr hnull

theorem placeable_of_lawful {context : RuntimeConversionContext} {rows : ℕ} {bound : BoundDirectColumn}
    (h : bound.Lawful context rows) (hpieces : bound.pieces context = bound.cellBytes context)
    (hshort : ¬bound.HoldsOverlongBinary) : bound.Placeable context rows where
  measures := by
    rw [hpieces]
    exact h.measures
  fills _ := by
    rw [hpieces]
    exact h.fill_grid
  stops hlong := absurd hlong hshort

section Bind

variable {encoder : DirectEncoder} {array : ArrayRef} {i : ℕ} {mapping : SchemaMapping} {encoding : DirectColumnEncoding}
  {bound : BoundDirectColumn} {context : RuntimeConversionContext}

theorem not_fixedSizeBinary_of_bind
    (hbind : bindDirectArray encoder array i (DirectColumnPlan.fromMapping mapping encoding) = .ok bound)
    (hencoding : ∀ classification, encoding ≠ .fixedSizeBinary classification) :
    bound.pieces context = bound.cellBytes context ∧ ¬bound.HoldsOverlongBinary := by
  unfold bindDirectArray at hbind
  dsimp only [DirectColumnPlan.fromMapping] at hbind
  cases encoding with
  | fixedSizeBinary classification => exact absurd rfl (hencoding classification)
  | uint64Decimal20_0 =>
    obtain ⟨data, -, rfl⟩ := map_eq_ok.mp hbind
    exact ⟨rfl, id⟩
  | primitive classification =>
    cases classification
    all_goals
      obtain ⟨data, -, rfl⟩ := map_eq_ok.mp hbind
      exact ⟨rfl, id⟩
  | decimal classification =>
    dsimp only at hbind
    rcases hsource : classification.source with _ | _ | _ | _
    all_goals
      rw [hsource] at hbind
      obtain ⟨data, -, rfl⟩ := map_eq_ok.mp hbind
      exact ⟨rfl, id⟩
  | temporal classification =>
    cases classification
    all_goals
      obtain ⟨_, -, hbind⟩ := bind_eq_ok.mp hbind
      obtain ⟨data, -, rfl⟩ := map_eq_ok.mp hbind
      exact ⟨rfl, id⟩
  | variableWidth classification =>
    cases classification with
    | stringToNVarChar length =>
      obtain ⟨_, -, hbind⟩ := bind_eq_ok.mp hbind
      cases bindsText_of_bind hbind with
      | utf8 | largeUtf8 | utf8View => exact ⟨rfl, id⟩
    | bytesToVarBinary length =>
      obtain ⟨_, -, hbind⟩ := bind_eq_ok.mp hbind
      cases bindsBytes_of_bind hbind with
      | binary | largeBinary | binaryView => exact ⟨rfl, id⟩

theorem placeable_of_bind (hencodes : Encodes mapping.arrow.dataType mapping.mssql.ty encoding)
    (hmapping : encoder.mappings[i]? = some mapping)
    (hbind : bindDirectArray encoder array i (DirectColumnPlan.fromMapping mapping encoding) = .ok bound) :
    bound.Placeable context array.len := by
  by_cases hbinary : ∃ classification, encoding = .fixedSizeBinary classification
  · obtain ⟨⟨length⟩, rfl⟩ := hbinary
    obtain ⟨data, hdata, rfl⟩ := map_eq_ok.mp hbind
    rw [← len_of_downcastFixedSizeBinary hdata]
    exact fixedSizeBinary_placeable
  · push Not at hbinary
    have hlimit : AnnouncesLength mapping.mssql.ty := by
      intro length hty
      rw [hty] at hencodes
      generalize mapping.arrow.dataType = dataType at hencodes
      cases hencodes
      exact absurd rfl (hbinary _)
    obtain ⟨hpieces, hshort⟩ := not_fixedSizeBinary_of_bind hbind hbinary
    exact placeable_of_lawful (lawful_of_bind hencodes hlimit hmapping hbind) hpieces hshort

end Bind

end Pieces

section Fill

variable [Externals] {bound : BoundDirectBatch} {layout : RowLayout}

namespace BoundDirectBatch

/-- Filling in the columns of a batch in a given order. -/
def fillInOrder (bound : BoundDirectBatch) (order : List (BoundDirectColumn × ℕ)) (layout : RowLayout)
    (bytes : List UInt8) : Result (List UInt8) :=
  forEach order bytes fun bytes (column, columnIndex) =>
    column.fillColumn bound.runtimeContext ⟨columnIndex, bound.columns.length⟩ layout bytes

def HoldsOverlongBinary (bound : BoundDirectBatch) : Prop := ∃ column ∈ bound.columns, column.HoldsOverlongBinary

def piece (bound : BoundDirectBatch) (rowIndex columnIndex : ℕ) : Option (List UInt8) :=
  bound.columns[columnIndex]?.bind fun column => column.pieces bound.runtimeContext rowIndex

def pieceLength (bound : BoundDirectBatch) (rowIndex columnIndex : ℕ) : ℕ :=
  ((bound.piece rowIndex columnIndex).map List.length).getD 0

def columnWrites (bound : BoundDirectBatch) (k : ℕ) : List (ℕ × List UInt8) :=
  Tiling.columnWrites bound.rowCount bound.columns.length rowTokenLen bound.pieceLength k
    fun r => (bound.piece r k).getD []

end BoundDirectBatch

omit [Externals] in
theorem holdsTokens_iff {rows columns : ℕ} {len : ℕ → ℕ → ℕ} (h : LaysOut rows columns len layout)
    {bytes : List UInt8} : layout.HoldsTokens bytes ↔
      ∃ cell : ℕ → ℕ → List UInt8, (∀ r < rows, ∀ c < columns, (cell r c).length = len r c) ∧
        bytes = grid rows columns [tdsRowToken] cell := by
  constructor
  · rintro ⟨hlength, htokens⟩
    apply eq_grid
    · rw [hlength, h.total]
      rfl
    · intro r hr i hi
      obtain rfl : i = 0 := by simpa using hi
      exact htokens _ (by rw [h.tokens]; exact List.mem_map.mpr ⟨r, by simpa using hr, rfl⟩)
  · rintro ⟨cell, hlen, rfl⟩
    refine ⟨by rw [length_grid hlen, h.total]; rfl, ?_⟩
    intro offset hoffset
    rw [h.tokens, List.mem_map] at hoffset
    obtain ⟨r, hr, rfl⟩ := hoffset
    exact @getElem?_grid_head _ _ _ [tdsRowToken] cell len r 0 (by simpa using hr) (by simp) hlen

theorem piece_of_getElem? {k : ℕ} {column : BoundDirectColumn} (h : bound.columns[k]? = some column) (r : ℕ) :
    bound.piece r k = column.pieces bound.runtimeContext r := by
  rw [BoundDirectBatch.piece, h, Option.bind_some]

theorem length_getD_piece (r k : ℕ) : ((bound.piece r k).getD []).length = bound.pieceLength r k := by
  rw [BoundDirectBatch.pieceLength]
  cases bound.piece r k <;> rfl

theorem measureLayout_pieces (h : ∀ column ∈ bound.columns, column.Placeable bound.runtimeContext bound.rowCount)
    (hlayout : bound.measureLayout = .ok layout) :
    (∀ r < bound.rowCount, ∀ c < bound.columns.length, (bound.piece r c).isSome) ∧ layout.payloadLen < 2 ^ 64 ∧
      bound.rowCount * bound.columns.length < 2 ^ 64 ∧
      LaysOut bound.rowCount bound.columns.length bound.pieceLength layout := by
  have hmeasured := @BoundDirectBatch.measureLayout_of_columns _ bound
    (fun r k => (bound.piece r k).map List.length) (by
      intro k column hcolumn
      simp only [piece_of_getElem? hcolumn]
      exact (h column (List.mem_of_getElem? hcolumn)).measures) layout
  simp only [Option.isSome_map] at hmeasured
  obtain ⟨hsome, hfits, hcells, hlays⟩ := hmeasured.mp hlayout
  exact ⟨hsome, by rw [hlays.total]; exact hfits, hcells, hlays⟩

section Writes

variable (h : ∀ column ∈ bound.columns, column.Placeable bound.runtimeContext bound.rowCount)
  (hshort : ¬bound.HoldsOverlongBinary)
  (hsome : ∀ r < bound.rowCount, ∀ c < bound.columns.length, (bound.piece r c).isSome)
  (hlays : LaysOut bound.rowCount bound.columns.length bound.pieceLength layout)
  (hcells : bound.rowCount * bound.columns.length < 2 ^ 64) (hfits : layout.payloadLen < 2 ^ 64)

include h hshort hsome hlays hcells hfits

theorem fillColumn_applyWrites {k : ℕ} {column : BoundDirectColumn} (hcolumn : bound.columns[k]? = some column)
    {bytes : List UInt8} (hbytes : layout.HoldsTokens bytes) :
    column.fillColumn bound.runtimeContext ⟨k, bound.columns.length⟩ layout bytes =
        .ok (applyWrites bytes (bound.columnWrites k)) ∧
      layout.HoldsTokens (applyWrites bytes (bound.columnWrites k)) := by
  obtain ⟨cell, hlen, rfl⟩ := (holdsTokens_iff hlays).mp hbytes
  obtain ⟨hk, -⟩ := List.getElem?_eq_some_iff.mp hcolumn
  have hmem := List.mem_of_getElem? hcolumn
  have hnew : ∀ r < bound.rowCount, column.pieces bound.runtimeContext r = some ((bound.piece r k).getD []) ∧
      ((bound.piece r k).getD []).length = bound.pieceLength r k := by
    intro r hr
    obtain ⟨bytes, hbytes⟩ := Option.isSome_iff_exists.mp (hsome r hr k hk)
    refine ⟨?_, length_getD_piece r k⟩
    rw [← piece_of_getElem? hcolumn, hbytes, Option.getD_some]
  have hwrites : applyWrites (grid bound.rowCount bound.columns.length [tdsRowToken] cell) (bound.columnWrites k) =
      grid bound.rowCount bound.columns.length [tdsRowToken]
        fun r c => if c = k then (bound.piece r k).getD [] else cell r c :=
    applyWrites_columnWrites hk hlen fun r hr => (hnew r hr).2
  have hfill := (h column hmem).fills (fun hlong => hshort ⟨column, hmem, hlong⟩) hk hlays hcells hfits hlen hnew
  rw [hwrites]
  refine ⟨hfill, (holdsTokens_iff hlays).mpr ⟨_, ?_, rfl⟩⟩
  intro r hr c hc
  by_cases hck : c = k
  · rw [if_pos hck, hck, length_getD_piece]
  · rw [if_neg hck, hlen r hr c hc]

theorem fillInOrder_applyWrites {order : List (BoundDirectColumn × ℕ)}
    (horder : ∀ x ∈ order, bound.columns[x.2]? = some x.1) {bytes : List UInt8} (hbytes : layout.HoldsTokens bytes) :
    bound.fillInOrder order layout bytes =
      .ok (applyWrites bytes (order.flatMap fun x => bound.columnWrites x.2)) := by
  induction order generalizing bytes with
  | nil => rfl
  | cons x order ih =>
    obtain ⟨hfill, hholds⟩ :=
      fillColumn_applyWrites h hshort hsome hlays hcells hfits (horder x (by simp)) hbytes
    have hrest := ih (fun y hy => horder y (by simp [hy])) hholds
    unfold BoundDirectBatch.fillInOrder at hrest ⊢
    rw [forEach_cons, List.flatMap_cons, applyWrites_append]
    dsimp only
    rw [hfill, ok_bind]
    exact hrest

end Writes

theorem fillInOrder_stops (h : ∀ column ∈ bound.columns, column.Placeable bound.runtimeContext bound.rowCount)
    (hlong : bound.HoldsOverlongBinary) {order : List (BoundDirectColumn × ℕ)}
    (horder : order.Perm bound.columns.zipIdx) (bytes out : List UInt8) :
    bound.fillInOrder order layout bytes ≠ .ok out := by
  intro hfilled
  obtain ⟨column, hmem, hcolumn⟩ := hlong
  obtain ⟨k, hk⟩ := List.mem_iff_getElem?.mp hmem
  have hin : (column, k) ∈ bound.columns.zipIdx := List.mem_zipIdx_iff_getElem?.mpr hk
  obtain ⟨bytes', out', hturn⟩ := forEach_turn (horder.mem_iff.mpr hin) hfilled
  exact (h column hmem).stops hcolumn _ _ _ _ hturn

theorem countP_columnWrites (hlays : LaysOut bound.rowCount bound.columns.length bound.pieceLength layout)
    {order : List (BoundDirectColumn × ℕ)} (horder : order.Perm bound.columns.zipIdx) {p : ℕ}
    (hp : p < layout.payloadLen) : (order.flatMap fun x => bound.columnWrites x.2).countP (covers p) =
      if p ∈ layout.rowTokenOffsets then 0 else 1 := by
  have hcanonical : (bound.columns.zipIdx.flatMap fun x => bound.columnWrites x.2) =
      tile bound.columns.length bound.columnWrites := by
    rw [← List.flatMap_map, List.zipIdx_map_snd]
    simp [tile, List.range_eq_range']
  rw [(horder.flatMap_right _).countP_eq, hcanonical]
  rw [hlays.total] at hp
  have htoken : p ∈ layout.rowTokenOffsets ↔ ∃ r, InHead bound.rowCount bound.columns.length rowTokenLen
      bound.pieceLength p r := by
    simp only [← occupies_token hlays, RowLayout.Occupies, List.mem_iff_getElem?]
  have hlen (r : ℕ) (_ : r < bound.rowCount) (c : ℕ) (_ : c < bound.columns.length) :
      ((bound.piece r c).getD []).length = bound.pieceLength r c := length_getD_piece r c
  rcases exists_head_or_cell hp with ⟨r, hhead⟩ | ⟨r, c, hcell⟩
  · rw [if_pos (htoken.mpr ⟨r, hhead⟩)]
    exact countP_covers_head hlen hhead
  · rw [if_neg]
    · exact countP_covers_cell hlen hcell
    · intro hmem
      obtain ⟨r', hhead⟩ := htoken.mp hmem
      exact head_not_cell hhead hcell

theorem columnWrites_getElem? (hlays : LaysOut bound.rowCount bound.columns.length bound.pieceLength layout)
    {r k : ℕ} (hr : r < bound.rowCount) (hk : k < bound.columns.length) :
    ∃ cell bytes, layout.cellPositions[r * bound.columns.length + k]? = some cell ∧ bytes.length = cell.len ∧
      (bound.columnWrites k)[r]? = some (cell.offset, bytes) := by
  refine ⟨_, (bound.piece r k).getD [], hlays.cells ▸ getElem?_table hr hk, length_getD_piece r k, ?_⟩
  have hat := @getElem?_tile _ bound.rowCount r 0 (fun r =>
    [(cellStart bound.columns.length rowTokenLen bound.pieceLength r k, (bound.piece r k).getD [])]) hr (by simp)
  simpa [BoundDirectBatch.columnWrites, Tiling.columnWrites] using hat

end Fill

theorem placeable_of_new [Externals] {mappings : List SchemaMapping} {context : RuntimeConversionContext}
    {encoder : DirectEncoder} {batch : RecordBatch} {bound : BoundDirectBatch}
    (hencoder : DirectEncoder.newWithContext mappings context = .ok encoder)
    (hbound : BoundDirectBatch.new encoder batch = .ok bound) :
    ∀ column ∈ bound.columns, column.Placeable bound.runtimeContext bound.rowCount := by
  obtain ⟨hcolumns, -, hrows⟩ := boundBatch_new_eq_ok.mp hbound
  obtain ⟨hmappings, -⟩ := newWithContext_eq_ok.mp hencoder
  intro column hmem
  obtain ⟨i, hi⟩ := List.mem_iff_getElem?.mp hmem
  obtain ⟨mapping, encoding, array, hmapping, hencodes, harray, hbind⟩ := bound_column hencoder hcolumns hi
  rw [hrows, ← batch.sized array (List.mem_of_getElem? harray)]
  exact placeable_of_bind hencodes (hmappings ▸ hmapping) hbind

/-- The layout of measured rows tiles the payload and contains the layouts of its sub-ranges. The columns can be filled
in in any order, with every byte outside the tokens written once, unless a binary column has a value that is too long
for its length field: then they cannot be filled in at all. -/
theorem layout_tiles_and_fill_writes_once [Externals] :
    (∀ total startRow rowCount columnCount (cellLengths : List ℕ), cellLengths.length = total * columnCount →
      startRow + rowCount ≤ total →
      ((∃ layout, buildFixedWidthRowRangeLayout startRow rowCount columnCount cellLengths = .ok layout) ↔
          startRow + rowCount < 2 ^ 64 ∧ rangeLength startRow rowCount columnCount cellLengths < 2 ^ 64) ∧
        ∀ layout, buildFixedWidthRowRangeLayout startRow rowCount columnCount cellLengths = .ok layout →
          layout.Tiles ∧ layout.payloadLen = rangeLength startRow rowCount columnCount cellLengths ∧
          layout.PlacesCells startRow rowCount columnCount cellLengths ∧
          ∀ a n, a + n ≤ rowCount → ∃ sub,
            buildFixedWidthRowRangeLayout (startRow + a) n columnCount cellLengths = .ok sub ∧
              sub.IsSliceOf layout columnCount a n) ∧
    ∀ mappings context encoder batch bound layout, DirectEncoder.newWithContext mappings context = .ok encoder →
      BoundDirectBatch.new encoder batch = .ok bound → bound.measureLayout = .ok layout →
      (∃ bytes, allocateRowsPayloadWithTokens layout = .ok bytes ∧ layout.HoldsTokens bytes) ∧
      (bound.fillColumns layout = bound.fillInOrder bound.columns.zipIdx layout) ∧
      (bound.HoldsOverlongBinary → ∀ order : List (BoundDirectColumn × ℕ), order.Perm bound.columns.zipIdx →
        ∀ bytes out, bound.fillInOrder order layout bytes ≠ .ok out) ∧
      (¬bound.HoldsOverlongBinary → ∃ writes : ℕ → List (ℕ × List UInt8),
        (∀ k < bound.columns.length, (writes k).length = bound.rowCount ∧
          ∀ r < bound.rowCount, ∃ cell bytes, layout.cellPositions[r * bound.columns.length + k]? = some cell ∧
            bytes.length = cell.len ∧ (writes k)[r]? = some (cell.offset, bytes)) ∧
        (∀ k column bytes, bound.columns[k]? = some column → layout.HoldsTokens bytes →
          column.fillColumn bound.runtimeContext ⟨k, bound.columns.length⟩ layout bytes =
              .ok (applyWrites bytes (writes k)) ∧ layout.HoldsTokens (applyWrites bytes (writes k))) ∧
        (∀ bytes, layout.HoldsTokens bytes → bound.fillColumns layout bytes =
          .ok (applyWrites bytes (bound.columns.zipIdx.flatMap fun x => writes x.2))) ∧
        ∀ order : List (BoundDirectColumn × ℕ), order.Perm bound.columns.zipIdx →
          (∀ bytes, layout.HoldsTokens bytes → bound.fillInOrder order layout bytes =
            .ok (applyWrites bytes (order.flatMap fun x => writes x.2))) ∧
          ∀ p < layout.payloadLen, (order.flatMap fun x => writes x.2).countP (covers p) =
            if p ∈ layout.rowTokenOffsets then 0 else 1) := by
  refine ⟨fun _ _ _ _ _ hlength htotal => build_tiles hlength htotal, ?_⟩
  intro mappings context encoder batch bound layout hencoder hbound hlayout
  have hplaceable := placeable_of_new hencoder hbound
  obtain ⟨hsome, hfits, hcells, hlays⟩ := measureLayout_pieces hplaceable hlayout
  refine ⟨⟨_, allocateRowsPayloadWithTokens_of hlays, (holdsTokens_iff hlays).mpr ⟨_, ?_, rfl⟩⟩, rfl,
    fun hlong order horder => fillInOrder_stops hplaceable hlong horder,
    fun hshort => ⟨bound.columnWrites, ?_, ?_, ?_, ?_⟩⟩
  · intro r _ c _
    exact List.length_replicate
  · intro k hk
    refine ⟨?_, fun r hr => columnWrites_getElem? hlays hr hk⟩
    rw [BoundDirectBatch.columnWrites, Tiling.columnWrites, length_tile]
    simp
  · intro k column bytes hcolumn hbytes
    exact fillColumn_applyWrites hplaceable hshort hsome hlays hcells hfits hcolumn hbytes
  · intro bytes hbytes
    apply fillInOrder_applyWrites hplaceable hshort hsome hlays hcells hfits _ hbytes
    intro x hx
    exact List.mem_zipIdx_iff_getElem?.mp hx
  · intro order horder
    refine ⟨?_, fun p hp => countP_columnWrites hlays horder hp⟩
    intro bytes hbytes
    apply fillInOrder_applyWrites hplaceable hshort hsome hlays hcells hfits _ hbytes
    intro x hx
    exact List.mem_zipIdx_iff_getElem?.mp (horder.mem_iff.mp hx)

section Overlong

variable [Externals]

theorem digest_measureLayout {length : ℕ} (hlength : length + 3 < 2 ^ 64) : ∃ layout,
    BoundDirectBatch.measureLayout ⟨[digestColumn length], ⟨sampleProfile, {}⟩, 1⟩ = .ok layout ∧
      LaysOut 1 1 (fun _ _ => 2 + length) layout := by
  obtain ⟨layout, hlays⟩ := exists_laysOut 1 1 fun _ _ => 2 + length
  have hmeasured := @BoundDirectBatch.measureLayout_of_columns _ ⟨[digestColumn length], ⟨sampleProfile, {}⟩, 1⟩ _
    (digest_measures (by omega)) layout
  simp only [Option.isSome_some, Option.getD_some] at hmeasured
  refine ⟨layout, hmeasured.mpr ⟨fun _ _ _ _ => trivial, ?_, show 1 * 1 < 2 ^ 64 by decide, hlays⟩, hlays⟩
  change rowStart 1 rowTokenLen (fun _ _ => 2 + length) 1 < 2 ^ 64
  rw [rowStart_succ, rowStart_zero, rowLength, Finset.sum_range_one, rowTokenLen]
  omega

omit [Externals] in
/-- A value of 65536 bytes is measured, and its column cannot be filled in. -/
theorem overlong_binary_is_measured_and_not_filled : ∃ layout bytes,
    @DirectEncoder.newWithContext .silent [digestMapping 65536] ⟨sampleProfile, {}⟩ = .ok (digestEncoder 65536) ∧
      @BoundDirectBatch.new .silent (digestEncoder 65536) (digestBatch 65536) =
        .ok ⟨[digestColumn 65536], ⟨sampleProfile, {}⟩, 1⟩ ∧
      @BoundDirectBatch.measureLayout .silent ⟨[digestColumn 65536], ⟨sampleProfile, {}⟩, 1⟩ = .ok layout ∧
      allocateRowsPayloadWithTokens layout = .ok bytes ∧
      @BoundDirectBatch.fillColumns .silent ⟨[digestColumn 65536], ⟨sampleProfile, {}⟩, 1⟩ layout bytes =
        fail (invalidPayload "fixed-size binary length does not fit u16") := by
  obtain ⟨layout, hlayout, hlays⟩ := @digest_measureLayout .silent 65536 (by decide)
  refine ⟨layout, _, rfl, rfl, hlayout, allocateRowsPayloadWithTokens_of hlays, ?_⟩
  have hstart : cellStart 1 rowTokenLen (fun _ _ => 2 + 65536) 0 0 = 1 := by
    rw [cellStart_zero, rowStart_zero]
    rfl
  have hlength : (grid 1 1 [tdsRowToken] fun _ _ => List.replicate (2 + 65536) 0).length = 65539 := by
    rw [length_grid fun _ _ _ _ => List.length_replicate, rowStart_succ, rowStart_zero, rowLength,
      Finset.sum_range_one]
    rfl
  have hposition : FixedSizeBinary.cellPosition layout ⟨0, 1⟩ 0 = .ok ⟨0, 0, 1, 2 + 65536⟩ := by
    rw [← hstart]
    exact cellPositionOr_of hlays (by decide) (by decide) (by decide)
  have hcell := @FixedSizeBinary.writeBinaryCell_of_long (digestPlan 65536) 65536 0
    (grid 1 1 [tdsRowToken] fun _ _ => List.replicate (2 + 65536) 0) ⟨0, 0, 1, 2 + 65536⟩ (List.replicate 65536 0)
    List.length_replicate (by decide) rfl (by rw [hlength]; exact le_rfl) (by rw [hlength]; decide)
  have hcolumn : FixedSizeBinary.fillFixedSizeBinaryColumn ⟨1, fun _ => false, fun _ => List.replicate 65536 0⟩
      (digestPlan 65536) (.fixedSizeBinaryToBinary 65536) ⟨0, 1⟩ layout
      (grid 1 1 [tdsRowToken] fun _ _ => List.replicate (2 + 65536) 0) =
        fail (invalidPayload "fixed-size binary length does not fit u16") := by
    rw [FixedSizeBinary.fillFixedSizeBinaryColumn, fillColumn, forRange_succ, forRange_zero, ok_bind, hposition,
      ok_bind]
    exact hcell
  exact (congrArg (· >>= _) hcolumn).trans (fail_bind _ _)

end Overlong

def sampleLayout : RowLayout where
  rowTokenOffsets := [0, 9]
  rowLengths := [9, 7]
  cellPositions := [⟨0, 0, 1, 4⟩, ⟨0, 1, 5, 4⟩, ⟨1, 0, 10, 4⟩, ⟨1, 1, 14, 2⟩]
  payloadLen := 16
  inside := by decide

theorem layout_tiles_and_fill_writes_once_at_sample : sampleLayout.Tiles ∧ ∃ bytes result : List UInt8,
    allocateRowsPayloadWithTokens sampleLayout = .ok bytes ∧
      @BoundDirectBatch.fillInOrder .silent sampleBound sampleBound.columns.zipIdx.reverse sampleLayout bytes =
        .ok result := by
  obtain ⟨hlayouts, hfill⟩ := @layout_tiles_and_fill_writes_once .silent
  obtain ⟨-, hbuilt⟩ := hlayouts 2 0 2 2 [4, 4, 4, 2] rfl (by decide)
  obtain ⟨⟨bytes, hbytes, hholds⟩, -, -, hshort⟩ :=
    hfill sampleMappings ⟨sampleProfile, {}⟩ sampleEncoder sampleBatch sampleBound sampleLayout rfl rfl rfl
  obtain ⟨writes, -, -, -, horders⟩ := hshort (by simp [BoundDirectBatch.HoldsOverlongBinary, sampleBound,
    BoundDirectColumn.HoldsOverlongBinary])
  exact ⟨(hbuilt sampleLayout rfl).1, bytes, _, hbytes, (horders _ (List.reverse_perm _)).1 bytes hholds⟩

end ArrowTiberius.Direct
