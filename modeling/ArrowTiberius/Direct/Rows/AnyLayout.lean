import ArrowTiberius.Direct.Rows.FatedRun
import ArrowTiberius.Direct.Rows.LaidOutRows

namespace ArrowTiberius.Direct

open Checked Tiling FixedWidth

namespace BoundDirectBatch

variable [Externals]

def fate (bound : BoundDirectBatch) (r c : ℕ) : CellFate :=
  (bound.columns[c]?.map fun column => column.fate bound.runtimeContext r).getD .refused

end BoundDirectBatch

namespace FixedWidth

def firstOffset (layout : RowLayout) (columnCount r : ℕ) : ℕ :=
  if columnCount = 0 then layout.rowTokenOffsets.getD r 0 + rowTokenLen
  else (layout.cellPositions[r * columnCount]?.map fun cell => cell.offset).getD 0

theorem fromRowLayout_of_ok {layout : RowLayout} {columnCount : ℕ} {placed : FixedWidthRowsLayout}
    (h : FixedWidthRowsLayout.fromRowLayout layout columnCount = .ok placed) : placed =
      ⟨layout.rowTokenOffsets, (List.range layout.rowCount).map (firstOffset layout columnCount),
        layout.payloadLen⟩ := by
  unfold FixedWidthRowsLayout.fromRowLayout at h
  obtain ⟨_, -, h⟩ := bind_eq_ok.mp h
  split at h
  case isTrue hcolumns =>
    obtain ⟨currentOffsets, hoffsets, h⟩ := bind_eq_ok.mp h
    cases h
    congr 1
    obtain ⟨hlength, hall⟩ := collect_eq_ok_iff_getElem?.mp hoffsets
    apply List.ext_getElem
    · rw [List.length_map, List.length_range, ← hlength]
      rfl
    · intro i hi _
      have hi' : i < layout.rowTokenOffsets.length := by omega
      have hat := hall i _ _ (List.getElem?_eq_getElem hi') (List.getElem?_eq_getElem hi)
      rw [checkedAdd_eq_ok] at hat
      rw [hat.2, List.getElem_map, List.getElem_range, firstOffset, if_pos hcolumns, List.getD_eq_getElem?_getD,
        List.getElem?_eq_getElem hi', Option.getD_some]
  case isFalse hcolumns =>
    obtain ⟨currentOffsets, hoffsets, h⟩ := bind_eq_ok.mp h
    cases h
    congr 1
    obtain ⟨hlength, hall⟩ := collect_eq_ok_iff_getElem?.mp hoffsets
    rw [List.length_range] at hlength
    apply List.ext_getElem
    · rw [List.length_map, List.length_range, ← hlength]
    · intro i hi _
      have hat := hall i i _ (by rw [List.getElem?_range (by omega)]) (List.getElem?_eq_getElem hi)
      obtain ⟨cell, hcell, hoffset⟩ := bind_eq_ok.mp hat
      obtain ⟨cellIndex, hindex, hcell⟩ := bind_eq_ok.mp hcell
      obtain ⟨-, rfl⟩ := checkedMul_eq_some.mp (okOr_eq_ok.mp hindex)
      rw [pure_eq_ok, Except.ok.injEq] at hoffset
      rw [← hoffset, List.getElem_map, List.getElem_range, firstOffset, if_neg hcolumns, okOr_eq_ok.mp hcell]
      rfl

theorem payloadLen_lt {rowTokenOffsets rowLengths : List ℕ} {cellPositions : List CellPosition} {payloadLen : ℕ}
    {layout : RowLayout} (h : RowLayout.new rowTokenOffsets rowLengths cellPositions payloadLen = .ok layout) :
    layout.payloadLen < 2 ^ 64 := by
  obtain ⟨hrows, -, -, -, -, rfl⟩ := RowLayout.new_eq_ok.mp h
  obtain ⟨_, -, hrows⟩ := bind_eq_ok.mp hrows
  cases rowTokenOffsets with
  | nil =>
    rw [ensure_eq_ok] at hrows
    omega
  | cons first rest =>
    obtain ⟨_, -, hrows⟩ := bind_eq_ok.mp hrows
    obtain ⟨_, -, hrows⟩ := bind_eq_ok.mp hrows
    obtain ⟨lastEnd, hend, hrows⟩ := bind_eq_ok.mp hrows
    rw [ensure_eq_ok] at hrows
    obtain ⟨hlt, heq⟩ := checkedAdd_eq_some.mp (okOr_eq_ok.mp hend)
    omega

variable [Externals]

def columnsFilled (context : RuntimeConversionContext) (columns : List FixedWidthColumn) (placed : FixedWidthRowsLayout)
    (k : ℕ) : Result (Option FillState) := do
  let bytes ← forEach placed.rowTokenOffsets (List.replicate placed.payloadLen 0) writeRowToken
  fillFixedWidthColumns context (columns.take k) ⟨placed.currentOffsets, bytes⟩

/-- A loop came to the cell and wrote it, and the cell lies between the cursors of its row before and after. -/
def Occupies (context : RuntimeConversionContext) (columns : List FixedWidthColumn) (placed : FixedWidthRowsLayout)
    (r c start stop : ℕ) : Prop :=
  r < placed.currentOffsets.length ∧ ∃ column before reached after, columns[c]? = some column ∧
    columnsFilled context columns placed c = .ok (some before) ∧
    forRange r before (fillRow (fixedWidthCell context column.column)) = .ok reached ∧
    fillRow (fixedWidthCell context column.column) reached r = .ok after ∧
    reached.currentOffsets[r]? = some start ∧ after.currentOffsets[r]? = some stop

def isizeMax : ℕ := 2 ^ 63 - 1

def Runs (bound : BoundDirectBatch) (layout : RowLayout) : Prop :=
  bound.rowCount ≠ 0 ∧ layout.rowCount = bound.rowCount ∧
    ∃ placed, FixedWidthRowsLayout.fromRowLayout layout bound.columns.length = .ok placed

/-- What `tryEncodeFixedWidthRowsWithLayout` owes to a layout: the buffer can be made and nothing panics, no cell that is
written lies over another one or over a row token, whether or not a later cell is refused, and in a returned payload
each cell lies where the layout has it. -/
structure HonoursLayout (fastPath : FastPath) (bound : BoundDirectBatch) (columns : List FixedWidthColumn)
    (layout : RowLayout) : Prop where
  allocates : Runs bound layout → layout.payloadLen ≤ isizeMax
  safe : Safe (tryEncodeFixedWidthRowsWithLayout fastPath bound layout)
  apart : ∀ placed, bound.rowCount ≠ 0 → layout.rowCount = bound.rowCount →
    FixedWidthRowsLayout.fromRowLayout layout bound.columns.length = .ok placed →
    ∀ r c start stop, Occupies bound.runtimeContext columns placed r c start stop →
      (∀ rowOffset ∈ layout.rowTokenOffsets, ¬(start ≤ rowOffset ∧ rowOffset < stop)) ∧
      ∀ r' c' start' stop', Occupies bound.runtimeContext columns placed r' c' start' stop' → (r, c) ≠ (r', c') →
        stop ≤ start' ∨ stop' ≤ start
  places : ∀ payload, tryEncodeFixedWidthRowsWithLayout fastPath bound layout = .ok (some payload) →
    ∀ r < bound.rowCount, ∀ c < bound.columns.length, ∃ placed position,
      FixedWidthRowsLayout.fromRowLayout layout bound.columns.length = .ok placed ∧
      layout.cellPositions[r * bound.columns.length + c]? = some position ∧
      Occupies bound.runtimeContext columns placed r c position.offset (position.offset + position.len) ∧
      ∀ bytes, bound.cellBytes r c = some bytes → (payload.bytes.drop position.offset).take position.len = bytes

structure Separates (fate : ℕ → ℕ → CellFate) (first : ℕ → ℕ) (rows columns : ℕ) (layout : RowLayout) : Prop where
  tokens : ∀ rowOffset ∈ layout.rowTokenOffsets, rowOffset < layout.payloadLen
  apart : ∀ r < rows, ∀ c < columns, Written fate first layout.payloadLen rows r c →
    (∀ rowOffset ∈ layout.rowTokenOffsets,
      ¬(cursor fate first r c ≤ rowOffset ∧ rowOffset < cursor fate first r (c + 1))) ∧
    ∀ r' < rows, ∀ c' < columns, Written fate first layout.payloadLen rows r' c' → (r, c) ≠ (r', c') →
      cursor fate first r (c + 1) ≤ cursor fate first r' c' ∨ cursor fate first r' (c' + 1) ≤ cursor fate first r c

/-- The layout goes with the cells: its buffer can be made, no loop comes to a cell it panics at, and if all cells are
written to rows that are not empty, the layout has them where they stand end to end. -/
structure Suits (fate : ℕ → ℕ → CellFate) (first : ℕ → ℕ) (rows columns : ℕ) (layout : RowLayout) : Prop extends
    Separates fate first rows columns layout where
  allocates : layout.payloadLen ≤ isizeMax
  reaches : ∀ c < columns, ∀ r < rows, (∀ c' < c, ∀ r' < rows, Placed fate first layout.payloadLen r' c') →
    (∀ r' < r, Placed fate first layout.payloadLen r' c) → ¬Halts fate first layout.payloadLen r c
  positions : layout.rowTokenOffsets.Pairwise (· < ·) →
    (∀ c < columns, ∀ r < rows, Placed fate first layout.payloadLen r c) → ∀ r < rows, ∀ c < columns, ∃ position,
      layout.cellPositions[r * columns + c]? = some position ∧ position.offset = cursor fate first r c ∧
        position.len = (fate r c).bytes.length

section Run

variable {context : RuntimeConversionContext} {columns : List FixedWidthColumn} {layout : RowLayout}
  {fate : ℕ → ℕ → CellFate} {first : ℕ → ℕ} {rows : ℕ}

def tokensPayload (layout : RowLayout) : List UInt8 :=
  applyWrites (List.replicate layout.payloadLen 0) (tokenWrites layout.rowTokenOffsets)

def placedRows (layout : RowLayout) (rows : ℕ) (first : ℕ → ℕ) : FixedWidthRowsLayout :=
  ⟨layout.rowTokenOffsets, (List.range rows).map first, layout.payloadLen⟩

omit [Externals] in
theorem length_tokensPayload (h : ∀ rowOffset ∈ layout.rowTokenOffsets, rowOffset < layout.payloadLen) :
    (tokensPayload layout).length = layout.payloadLen := by
  have hlength := List.length_replicate (n := layout.payloadLen) (a := (0 : UInt8))
  rw [tokensPayload, length_applyWrites, hlength]
  rw [hlength]
  exact tokenWrites_inside h

omit [Externals] in
theorem fatedState_first (base : List UInt8) :
    fatedState fate first rows base 0 0 = ⟨(List.range rows).map first, base⟩ := by
  simp [fatedState, cursor, writesBefore]

omit [Externals] in
theorem tokens_eq : forEach layout.rowTokenOffsets (List.replicate layout.payloadLen 0) writeRowToken =
    if ∀ rowOffset ∈ layout.rowTokenOffsets, rowOffset < layout.payloadLen then .ok (tokensPayload layout)
    else crash := by
  rw [writeRowTokens, List.length_replicate]
  rfl

theorem FillByFate.take (h : FillByFate context rows fate columns) (k : ℕ) :
    FillByFate context rows fate (columns.take k) := by
  intro i column hcolumn
  apply h i column
  rw [List.getElem?_take] at hcolumn
  split at hcolumn
  · exact hcolumn
  · cases hcolumn

section Outcome

variable (hfill : FillByFate context rows fate columns) (hrows : 0 < rows) (hlt : layout.payloadLen < 2 ^ 64)

include hfill hrows hlt

theorem columnsFilled_eq_ok {k : ℕ} (hk : k ≤ columns.length) {s : FillState} :
    columnsFilled context columns (placedRows layout rows first) k = .ok (some s) ↔
      (∀ rowOffset ∈ layout.rowTokenOffsets, rowOffset < layout.payloadLen) ∧
      (∀ c < k, ∀ r < rows, Placed fate first layout.payloadLen r c) ∧
      s = fatedState fate first rows (tokensPayload layout) k 0 := by
  rw [columnsFilled, placedRows]
  dsimp only
  rw [tokens_eq]
  by_cases htokens : ∀ rowOffset ∈ layout.rowTokenOffsets, rowOffset < layout.payloadLen
  · have hlength := length_tokensPayload htokens
    have hloop := @fillColumns_fated_ok fate first rows (tokensPayload layout) _ context (columns.take k) (hfill.take k)
      hrows (by rwa [hlength]) (some s)
    rw [hlength, fatedState_first, List.length_take, Nat.min_eq_left hk, Option.some.injEq] at hloop
    rw [if_pos htokens, ok_bind, hloop]
    exact ⟨fun h => ⟨htokens, h⟩, fun h => h.2⟩
  · rw [if_neg htokens, crash_bind]
    refine iff_of_false (fun h => by cases h) ?_
    rintro ⟨h, -⟩
    exact htokens h

theorem occupies_iff {r c start stop : ℕ} : Occupies context columns (placedRows layout rows first) r c start stop ↔
    (∀ rowOffset ∈ layout.rowTokenOffsets, rowOffset < layout.payloadLen) ∧ c < columns.length ∧ r < rows ∧
    Written fate first layout.payloadLen rows r c ∧ start = cursor fate first r c ∧
    stop = cursor fate first r (c + 1) := by
  have hcursor (k i o : ℕ) : (fatedState fate first rows (tokensPayload layout) k i).currentOffsets[r]? = some o ↔
      r < rows ∧ o = cursor fate first r (if r < i then k + 1 else k) := by
    simp only [fatedState, getElem?_map_range]
  unfold Occupies
  constructor
  · rintro ⟨hrow, column, before, reached, after, hcolumn, hbefore, hreached, hafter, hstart, hstop⟩
    obtain ⟨hc, -⟩ := List.getElem?_eq_some_iff.mp hcolumn
    obtain ⟨-, -, hfollows, -⟩ := hfill c column hcolumn
    obtain ⟨htokens, hcolumns, rfl⟩ := (columnsFilled_eq_ok hfill hrows hlt (by omega)).mp hbefore
    have hlength := length_tokensPayload htokens
    have hr : r < rows := by simpa [placedRows] using hrow
    have hrowsBefore := @fillRows_fated_before fate first rows (tokensPayload layout) _ c (by rwa [hlength]) hfollows r
      hr.le reached
    rw [hlength] at hrowsBefore
    obtain ⟨hplaced, rfl⟩ := hrowsBefore.mp hreached
    have hturn := (@fillRow_fated fate first rows (tokensPayload layout) _ c r hr (by rwa [hlength]) (hfollows r)).1 after
    rw [hlength] at hturn
    obtain ⟨hcell, rfl⟩ := hturn.mp hafter
    refine ⟨htokens, hc, hr, ⟨hcolumns, fun r' hr' => ?_⟩, ?_, ?_⟩
    · rcases Nat.lt_or_eq_of_le hr' with hlt' | rfl
      · exact hplaced r' hlt'
      · exact hcell
    · rw [((hcursor c r start).mp hstart).2, if_neg (Nat.lt_irrefl r)]
    · rw [((hcursor c (r + 1) stop).mp hstop).2, if_pos (Nat.lt_succ_self r)]
  · rintro ⟨htokens, hc, hr, ⟨hcolumns, hplaced⟩, rfl, rfl⟩
    have hlength := length_tokensPayload htokens
    have hcolumn := List.getElem?_eq_getElem hc
    obtain ⟨-, -, hfollows, -⟩ := hfill c _ hcolumn
    have hrowsBefore := @fillRows_fated_before fate first rows (tokensPayload layout) _ c (by rwa [hlength]) hfollows r
      hr.le
    have hturn := (@fillRow_fated fate first rows (tokensPayload layout) _ c r hr (by rwa [hlength]) (hfollows r)).1
    simp only [hlength] at hrowsBefore hturn
    refine ⟨by simpa [placedRows] using hr, _, _, _, _, hcolumn,
      (columnsFilled_eq_ok hfill hrows hlt (by omega)).mpr ⟨htokens, hcolumns, rfl⟩,
      (hrowsBefore _).mpr ⟨fun r' hr' => hplaced r' (by omega), rfl⟩, (hturn _).mpr ⟨hplaced r le_rfl, rfl⟩,
      (hcursor _ _ _).mpr ⟨hr, ?_⟩, (hcursor _ _ _).mpr ⟨hr, ?_⟩⟩
    · rw [if_neg (Nat.lt_irrefl r)]
    · rw [if_pos (Nat.lt_succ_self r)]

theorem encode_eq_ok {o : Option EncodedRowsPayload} :
    encodeFixedWidthRows context columns (placedRows layout rows first) = .ok o ↔
      (∀ rowOffset ∈ layout.rowTokenOffsets, rowOffset < layout.payloadLen) ∧
      (∀ c < columns.length, ∀ r < rows, Placed fate first layout.payloadLen r c) ∧ ∃ payload, o = some payload ∧
        EncodedRowsPayload.new (fatedState fate first rows (tokensPayload layout) columns.length 0).bytes
          layout.rowTokenOffsets = .ok payload := by
  rw [encodeFixedWidthRows, placedRows]
  dsimp only
  rw [tokens_eq]
  by_cases htokens : ∀ rowOffset ∈ layout.rowTokenOffsets, rowOffset < layout.payloadLen
  · have hlength := length_tokensPayload htokens
    have hloop := fun o => @fillColumns_fated_ok fate first rows (tokensPayload layout) _ context columns hfill hrows
      (by rwa [hlength]) o
    simp only [hlength, fatedState_first] at hloop
    rw [if_pos htokens, ok_bind, bind_eq_ok]
    constructor
    · rintro ⟨filled, hfilled, ho⟩
      obtain ⟨hplaced, rfl⟩ := (hloop filled).mp hfilled
      obtain ⟨payload, hpayload, ho⟩ := bind_eq_ok.mp ho
      cases ho
      exact ⟨htokens, hplaced, payload, rfl, hpayload⟩
    · rintro ⟨-, hplaced, payload, rfl, hpayload⟩
      refine ⟨_, (hloop _).mpr ⟨hplaced, rfl⟩, ?_⟩
      dsimp only
      rw [hpayload]
      rfl
  · rw [if_neg htokens, crash_bind]
    refine iff_of_false (fun h => by cases h) ?_
    rintro ⟨h, -⟩
    exact htokens h

theorem encode_safe_iff : Safe (encodeFixedWidthRows context columns (placedRows layout rows first)) ↔
    (∀ rowOffset ∈ layout.rowTokenOffsets, rowOffset < layout.payloadLen) ∧
    ∀ c < columns.length, ∀ r < rows, (∀ c' < c, ∀ r' < rows, Placed fate first layout.payloadLen r' c') →
      (∀ r' < r, Placed fate first layout.payloadLen r' c) → ¬Halts fate first layout.payloadLen r c := by
  rw [encodeFixedWidthRows, placedRows]
  dsimp only
  rw [tokens_eq]
  by_cases htokens : ∀ rowOffset ∈ layout.rowTokenOffsets, rowOffset < layout.payloadLen
  · have hlength := length_tokensPayload htokens
    have hcrash := @fillColumns_fated_crash fate first rows (tokensPayload layout) _ context columns hfill hrows
      (by rwa [hlength])
    rw [hlength, fatedState_first] at hcrash
    rw [if_pos htokens, ok_bind]
    constructor
    · intro hsafe
      refine ⟨htokens, fun c hc r hr hcolumns hrowsBefore hhalts => hsafe ?_⟩
      rw [hcrash.mpr ⟨c, hc, hcolumns, r, hr, hrowsBefore, hhalts⟩, crash_bind]
    · rintro ⟨-, hreaches⟩
      refine safe_bind (fun h => ?_) fun o _ => ?_
      · obtain ⟨c, hc, hcolumns, r, hr, hrowsBefore, hhalts⟩ := hcrash.mp h
        exact hreaches c hc r hr hcolumns hrowsBefore hhalts
      · cases o with
        | none => exact safe_ok _
        | some s => exact safe_bind (EncodedRowsPayload.new_safe _ _) fun _ _ => safe_ok _
  · rw [if_neg htokens, crash_bind]
    refine iff_of_false (fun h => h rfl) ?_
    rintro ⟨h, -⟩
    exact htokens h

end Outcome

section Content

omit [Externals]

variable {n : ℕ} (hplaced : ∀ c < n, ∀ r < rows, Placed fate first layout.payloadLen r c)

include hplaced

theorem written_of_all {r c : ℕ} (hr : r < rows) (hc : c < n) : Written fate first layout.payloadLen rows r c :=
  ⟨fun c' hc' => hplaced c' (by omega), fun r' hr' => hplaced c hc r' (by omega)⟩

variable (h : Separates fate first rows n layout)

include h

theorem Separates.cell_bytes {r c : ℕ} (hr : r < rows) (hc : c < n) :
    ((fatedState fate first rows (tokensPayload layout) n 0).bytes.drop (cursor fate first r c)).take
      (fate r c).bytes.length = (fate r c).bytes := by
  have hlength := length_tokensPayload h.tokens
  apply List.ext_getElem?
  intro i
  by_cases hi : i < (fate r c).bytes.length
  · rw [List.getElem?_take_of_lt hi, List.getElem?_drop, List.getElem?_eq_getElem hi]
    apply getElem?_applyWrites writesBefore_inside
    · intro write hmem hcovers
      obtain ⟨r', c', hbefore, -, rfl⟩ := mem_writesBefore.mp hmem
      have hin : cursor fate first r' c' ≤ cursor fate first r c + i ∧
          cursor fate first r c + i < cursor fate first r' c' + (fate r' c').bytes.length := by
        simpa [covers] using hcovers
      have hsame : (r, c) = (r', c') := by
        by_contra hne
        have hr' : r' < rows := by omega
        have hc' : c' < n := by omega
        have hdisjoint := (h.apart r hr c hc (written_of_all hplaced hr hc)).2 r' hr' c' hc'
          (written_of_all hplaced hr' hc') hne
        rw [cursor_succ, cursor_succ] at hdisjoint
        omega
      cases hsame
      rw [Nat.add_sub_cancel_left, List.getElem?_eq_getElem hi]
    · refine .inr ⟨(cursor fate first r c, (fate r c).bytes), mem_writesBefore.mpr ⟨r, c, .inl ⟨hc, hr⟩, ?_, rfl⟩, ?_⟩
      · rw [hlength]
        exact hplaced c hc r hr
      · simp [covers, hi]
  · rw [List.getElem?_eq_none (by rw [List.length_take]; omega), List.getElem?_eq_none (by omega)]

theorem Separates.token_kept : ∀ rowOffset ∈ layout.rowTokenOffsets,
    (fatedState fate first rows (tokensPayload layout) n 0).bytes[rowOffset]? = some tdsRowToken := by
  intro rowOffset hmem
  apply getElem?_applyWrites writesBefore_inside
  · intro write hwrite hcovers
    obtain ⟨r, c, hbefore, -, rfl⟩ := mem_writesBefore.mp hwrite
    have hin : cursor fate first r c ≤ rowOffset ∧ rowOffset < cursor fate first r c + (fate r c).bytes.length := by
      simpa [covers] using hcovers
    rw [← cursor_succ] at hin
    have hr : r < rows := by omega
    have hc : c < n := by omega
    exact absurd hin ((h.apart r hr c hc (written_of_all hplaced hr hc)).1 rowOffset hmem)
  · refine .inl (getElem?_applyWrites ?_ ?_ ?_)
    · rw [List.length_replicate]
      exact tokenWrites_inside h.tokens
    · intro write hwrite hcovers
      obtain ⟨other, -, rfl⟩ := List.mem_map.mp hwrite
      have hat : other = rowOffset := by
        simp only [covers, List.length_singleton, decide_eq_true_eq] at hcovers
        omega
      rw [hat, Nat.sub_self]
      rfl
    · exact .inr ⟨(rowOffset, [tdsRowToken]), List.mem_map.mpr ⟨rowOffset, hmem, rfl⟩, by simp [covers]⟩

end Content

end Run

section Honours

variable {fastPath : FastPath} {bound : BoundDirectBatch} {columns : List FixedWidthColumn} {layout : RowLayout}

omit [Externals] in
theorem fromRowLayout_safe (columnCount : ℕ) : Safe (FixedWidthRowsLayout.fromRowLayout layout columnCount) := by
  refine safe_bind ?_ fun _ _ => ?_
  · refine safe_bind (safe_okOr _ _) fun _ _ => safe_bind (safe_ensure _ _) fun _ _ => ?_
    split
    · exact safe_ok _
    · rw [← forEach_zipIdx_fst]
      refine (forEach_zipIdx_safe (fun _ _ => True) 0 ?_ trivial).1
      intro i x _ _ _
      exact ⟨safe_ensure _ _, fun _ _ => trivial⟩
  · split
    · exact safe_bind (collect_safe fun _ _ => safe_checkedAdd _ _) fun _ _ => safe_ok _
    · refine safe_bind (collect_safe fun _ _ => ?_) fun _ _ => safe_ok _
      exact safe_bind (safe_bind (safe_okOr _ _) fun _ _ => safe_okOr _ _) fun _ _ => safe_ok _

theorem tryEncodeWithLayout_of_runs (hfixed : fixedWidthColumns fastPath bound.columns = some columns)
    (hruns : Runs bound layout) : tryEncodeFixedWidthRowsWithLayout fastPath bound layout =
      encodeFixedWidthRows bound.runtimeContext columns
        (placedRows layout bound.rowCount (firstOffset layout bound.columns.length)) := by
  obtain ⟨hrows, hcount, placed, hplaced⟩ := hruns
  have heq := fromRowLayout_of_ok hplaced
  rw [hcount] at heq
  rw [tryEncodeFixedWidthRowsWithLayout, if_neg hrows, ensure_of hcount, ok_bind, hfixed]
  dsimp only
  rw [hplaced, ok_bind, heq]
  rfl

theorem tryEncodeWithLayout_of_not_runs (hfixed : fixedWidthColumns fastPath bound.columns = some columns)
    (hruns : ¬Runs bound layout) : Safe (tryEncodeFixedWidthRowsWithLayout fastPath bound layout) ∧
      (bound.rowCount ≠ 0 → ∀ o, tryEncodeFixedWidthRowsWithLayout fastPath bound layout ≠ .ok o) := by
  rw [tryEncodeFixedWidthRowsWithLayout]
  by_cases hrows : bound.rowCount = 0
  · rw [if_pos hrows]
    exact ⟨safe_map _ (EncodedRowsPayload.new_safe _ _), fun h => absurd hrows h⟩
  · rw [if_neg hrows]
    by_cases hcount : layout.rowCount = bound.rowCount
    · rw [ensure_of hcount, ok_bind, hfixed]
      dsimp only
      have hnone : (FixedWidthRowsLayout.fromRowLayout layout bound.columns.length).toOption = none := by
        by_contra hsome
        obtain ⟨placed, hplaced⟩ := Option.ne_none_iff_exists'.mp hsome
        exact hruns ⟨hrows, hcount, placed, toOption_eq_some.mp hplaced⟩
      obtain ⟨e, he⟩ := fail_of_safe (fromRowLayout_safe _) hnone
      rw [he, fail_bind]
      exact ⟨safe_fail e, fun _ o h => by cases h⟩
    · rw [ensure, if_neg hcount, fail_bind]
      exact ⟨safe_fail _, fun _ o h => by cases h⟩

omit [Externals] in
theorem placed_of_runs (hruns : Runs bound layout) {placed : FixedWidthRowsLayout}
    (hplaced : FixedWidthRowsLayout.fromRowLayout layout bound.columns.length = .ok placed) :
    placed = placedRows layout bound.rowCount (firstOffset layout bound.columns.length) := by
  have heq := fromRowLayout_of_ok hplaced
  rw [hruns.2.1] at heq
  exact heq

section Running

variable (hfixed : fixedWidthColumns fastPath bound.columns = some columns)
  (hlength : columns.length = bound.columns.length)
  (hfill : FillByFate bound.runtimeContext bound.rowCount bound.fate columns)
  (hlt : layout.payloadLen < 2 ^ 64) (hruns : Runs bound layout)

include hlength hfill hlt hruns

theorem occupies_of_runs {placed : FixedWidthRowsLayout}
    (hplaced : FixedWidthRowsLayout.fromRowLayout layout bound.columns.length = .ok placed) {r c start stop : ℕ} :
    Occupies bound.runtimeContext columns placed r c start stop ↔
      (∀ rowOffset ∈ layout.rowTokenOffsets, rowOffset < layout.payloadLen) ∧
      c < bound.columns.length ∧ r < bound.rowCount ∧
      Written bound.fate (firstOffset layout bound.columns.length) layout.payloadLen bound.rowCount r c ∧
      start = cursor bound.fate (firstOffset layout bound.columns.length) r c ∧
      stop = cursor bound.fate (firstOffset layout bound.columns.length) r (c + 1) := by
  rw [placed_of_runs hruns hplaced, ← hlength]
  exact occupies_iff hfill (Nat.pos_of_ne_zero hruns.1) hlt

include hfixed

theorem tryEncodeWithLayout_eq_ok {o : Option EncodedRowsPayload} :
    tryEncodeFixedWidthRowsWithLayout fastPath bound layout = .ok o ↔
      (∀ rowOffset ∈ layout.rowTokenOffsets, rowOffset < layout.payloadLen) ∧
      (∀ c < bound.columns.length, ∀ r < bound.rowCount,
        Placed bound.fate (firstOffset layout bound.columns.length) layout.payloadLen r c) ∧
      ∃ payload, o = some payload ∧ EncodedRowsPayload.new (fatedState bound.fate
        (firstOffset layout bound.columns.length) bound.rowCount (tokensPayload layout) bound.columns.length 0).bytes
          layout.rowTokenOffsets = .ok payload := by
  rw [tryEncodeWithLayout_of_runs hfixed hruns, ← hlength]
  exact encode_eq_ok hfill (Nat.pos_of_ne_zero hruns.1) hlt

theorem tryEncodeWithLayout_safe_iff : Safe (tryEncodeFixedWidthRowsWithLayout fastPath bound layout) ↔
    (∀ rowOffset ∈ layout.rowTokenOffsets, rowOffset < layout.payloadLen) ∧
    ∀ c < bound.columns.length, ∀ r < bound.rowCount,
      (∀ c' < c, ∀ r' < bound.rowCount,
        Placed bound.fate (firstOffset layout bound.columns.length) layout.payloadLen r' c') →
      (∀ r' < r, Placed bound.fate (firstOffset layout bound.columns.length) layout.payloadLen r' c) →
      ¬Halts bound.fate (firstOffset layout bound.columns.length) layout.payloadLen r c := by
  rw [tryEncodeWithLayout_of_runs hfixed hruns, ← hlength]
  exact encode_safe_iff hfill (Nat.pos_of_ne_zero hruns.1) hlt

theorem suits_of_honours (h : HonoursLayout fastPath bound columns layout) : Suits bound.fate
    (firstOffset layout bound.columns.length) bound.rowCount bound.columns.length layout := by
  obtain ⟨hrows, hcount, placed, hplaced⟩ := id hruns
  have hoccupies := fun {r c start stop} => @occupies_of_runs _ bound columns layout hlength hfill hlt hruns placed
    hplaced r c start stop
  obtain ⟨htokens, hreaches⟩ := (tryEncodeWithLayout_safe_iff hfixed hlength hfill hlt hruns).mp h.safe
  have hseparates : Separates bound.fate (firstOffset layout bound.columns.length) bound.rowCount
      bound.columns.length layout := by
    refine ⟨htokens, fun r hr c hc hwritten => ?_⟩
    have hcell := h.apart placed hrows hcount hplaced r c _ _
      (hoccupies.mpr ⟨htokens, hc, hr, hwritten, rfl, rfl⟩)
    refine ⟨hcell.1, fun r' hr' c' hc' hwritten' hne => ?_⟩
    exact hcell.2 r' c' _ _ (hoccupies.mpr ⟨htokens, hc', hr', hwritten', rfl, rfl⟩) hne
  refine ⟨hseparates, h.allocates hruns, hreaches, fun hincreasing hall r hr c hc => ?_⟩
  have hempty (hnone : layout.rowTokenOffsets = []) : (fatedState bound.fate
      (firstOffset layout bound.columns.length) bound.rowCount (tokensPayload layout) bound.columns.length 0).bytes =
        [] := by
    rw [RowLayout.rowCount, hnone] at hcount
    exact absurd hcount.symm hrows
  -- all cells are written, so a payload is returned, and the claim says where its cells lie
  obtain ⟨payload, hpayload⟩ := EncodedRowsPayload.exists_new ⟨Separates.token_kept hall hseparates, hincreasing⟩
    hempty
  obtain ⟨placed', position, hplaced', hposition, hat, -⟩ := h.places payload
    ((tryEncodeWithLayout_eq_ok hfixed hlength hfill hlt hruns).mpr ⟨htokens, hall, payload, rfl, hpayload⟩) r hr c hc
  rw [hplaced, Except.ok.injEq] at hplaced'
  rw [← hplaced', hoccupies] at hat
  obtain ⟨-, -, -, -, hstart, hstop⟩ := hat
  rw [cursor_succ] at hstop
  exact ⟨position, hposition, hstart, by omega⟩

theorem honours_of_suits (hbytes : ∀ r c bytes, bound.cellBytes r c = some bytes →
      (bound.fate r c).isWritten = true → (bound.fate r c).bytes = bytes)
    (h : Suits bound.fate (firstOffset layout bound.columns.length) bound.rowCount bound.columns.length layout) :
    HonoursLayout fastPath bound columns layout := by
  obtain ⟨hseparates, hallocates, hreaches, hpositions⟩ := h
  refine ⟨fun _ => hallocates, ?_, fun placed _ _ hplaced r c start stop hat => ?_,
    fun payload hpayload r hr c hc => ?_⟩
  · exact (tryEncodeWithLayout_safe_iff hfixed hlength hfill hlt hruns).mpr ⟨hseparates.tokens, hreaches⟩
  · obtain ⟨-, hc, hr, hwritten, rfl, rfl⟩ := (occupies_of_runs hlength hfill hlt hruns hplaced).mp hat
    obtain ⟨htokensApart, hcellsApart⟩ := hseparates.apart r hr c hc hwritten
    refine ⟨htokensApart, fun r' c' start' stop' hat' hne => ?_⟩
    obtain ⟨-, hc', hr', hwritten', rfl, rfl⟩ := (occupies_of_runs hlength hfill hlt hruns hplaced).mp hat'
    exact hcellsApart r' hr' c' hc' hwritten' hne
  · obtain ⟨htokens, hall, written, hwritten, hnew⟩ :=
      (tryEncodeWithLayout_eq_ok hfixed hlength hfill hlt hruns).mp hpayload
    cases hwritten
    obtain ⟨⟨⟨-, hincreasing⟩, -⟩, hpayloadBytes, -⟩ := EncodedRowsPayload.new_eq_ok.mp hnew
    obtain ⟨position, hposition, hoffset, hlen⟩ := hpositions hincreasing hall r hr c hc
    obtain ⟨-, -, placed, hplaced⟩ := id hruns
    refine ⟨placed, position, hplaced, hposition, ?_, fun bytes hcellBytes => ?_⟩
    · exact (occupies_of_runs hlength hfill hlt hruns hplaced).mpr
        ⟨htokens, hc, hr, written_of_all hall hr hc, hoffset, by rw [cursor_succ]; omega⟩
    · rw [hpayloadBytes, hoffset, hlen, Separates.cell_bytes hall hseparates hr hc]
      exact hbytes r c bytes hcellBytes (hall c hc r hr).1

end Running

theorem honoursLayout_iff (hfixed : fixedWidthColumns fastPath bound.columns = some columns)
    (hlength : columns.length = bound.columns.length)
    (hfill : FillByFate bound.runtimeContext bound.rowCount bound.fate columns)
    (hbytes : ∀ r c bytes, bound.cellBytes r c = some bytes → (bound.fate r c).isWritten = true →
      (bound.fate r c).bytes = bytes)
    (hlt : layout.payloadLen < 2 ^ 64) : HonoursLayout fastPath bound columns layout ↔
      (Runs bound layout → Suits bound.fate (firstOffset layout bound.columns.length) bound.rowCount
        bound.columns.length layout) := by
  by_cases hruns : Runs bound layout
  case neg =>
    obtain ⟨hsafe, hnotOk⟩ := tryEncodeWithLayout_of_not_runs hfixed hruns
    refine iff_of_true ⟨fun h => absurd h hruns, hsafe, fun placed hrows hcount hplaced => ?_,
      fun payload hpayload r hr => ?_⟩ (fun h => absurd h hruns)
    · exact absurd ⟨hrows, hcount, placed, hplaced⟩ hruns
    · exact absurd hpayload (hnotOk (by omega) _)
  case pos =>
    constructor
    · intro h _
      exact suits_of_honours hfixed hlength hfill hlt hruns h
    · intro h
      exact honours_of_suits hfixed hlength hfill hlt hruns hbytes (h hruns)

end Honours

section Bound

variable {mappings : List SchemaMapping} {context : RuntimeConversionContext} {encoder : DirectEncoder}
  {batch : RecordBatch} {bound : BoundDirectBatch} {fastPath : FastPath} {columns : List FixedWidthColumn}

omit [Externals] in
theorem getElem?_of_mapM {f : BoundDirectColumn → Option FixedWidthColumn} {bounds : List BoundDirectColumn}
    (h : bounds.mapM f = some columns) : columns.length = bounds.length ∧
      ∀ (k : ℕ) column, columns[k]? = some column → ∃ b, bounds[k]? = some b ∧ f b = some column := by
  induction bounds generalizing columns with
  | nil =>
    cases h
    exact ⟨rfl, fun k column hcolumn => by simp at hcolumn⟩
  | cons b bounds ih =>
    rw [List.mapM_cons] at h
    simp only [Option.bind_eq_bind, Option.bind_eq_some_iff] at h
    obtain ⟨first, hfirst, rest, hrest, hcolumns⟩ := h
    cases hcolumns
    obtain ⟨hlength, hall⟩ := ih hrest
    refine ⟨by simp [hlength], fun k column hcolumn => ?_⟩
    cases k with
    | zero =>
      cases hcolumn
      exact ⟨b, rfl, hfirst⟩
    | succ k => exact hall k column hcolumn

theorem fillByFate_of_new (hencoder : DirectEncoder.newWithContext mappings context = .ok encoder)
    (hbound : BoundDirectBatch.new encoder batch = .ok bound)
    (hfixed : fixedWidthColumns fastPath bound.columns = some columns) :
    columns.length = bound.columns.length ∧
      FillByFate bound.runtimeContext bound.rowCount bound.fate columns := by
  obtain ⟨hcolumns, -, hrows⟩ := boundBatch_new_eq_ok.mp hbound
  obtain ⟨hmappings, -⟩ := newWithContext_eq_ok.mp hencoder
  have hsome := fixedWidthColumns_of_some hfixed
  rw [fixedWidthColumns, if_neg (by decide)] at hsome
  obtain ⟨hlength, hall⟩ := getElem?_of_mapM hsome
  refine ⟨hlength, fun k column hcolumn => ?_⟩
  obtain ⟨b, hb, hof⟩ := hall k column hcolumn
  have hfixedWidth : b.isFixedWidth = true := by
    by_contra hwide
    rw [fixedWidthColumn_eq_none (Bool.eq_false_iff.mpr hwide)] at hof
    cases hof
  have hsame : column.column = b := by
    simp only [fixedWidthColumn, Option.bind_eq_bind, Option.bind_eq_some_iff, Option.some.injEq] at hof
    obtain ⟨_, -, _, -, _, -, rfl⟩ := hof
    rfl
  have hfate : (bound.fate · k) = b.fate bound.runtimeContext := by
    funext r
    rw [BoundDirectBatch.fate, hb, Option.map_some, Option.getD_some]
  obtain ⟨mapping, encoding, array, hmapping, hencodes, harray, hbind⟩ := bound_column hencoder hcolumns hb
  obtain ⟨fill, hfill, hfollows, hloop⟩ := @fillsByFate_of_bind _ encoder array k mapping encoding b
    bound.runtimeContext hencodes (hmappings ▸ hmapping) hbind hfixedWidth
  rw [batch.sized array (List.mem_of_getElem? harray), ← hrows] at hloop
  rw [hsame]
  refine ⟨fill, hfill, fun r => ?_, hloop⟩
  rw [show bound.fate r k = b.fate bound.runtimeContext r from congrFun hfate r]
  exact hfollows r

theorem fate_bytes {r c : ℕ} {bytes : List UInt8} (h : bound.cellBytes r c = some bytes)
    (hwritten : (bound.fate r c).isWritten = true) : (bound.fate r c).bytes = bytes := by
  obtain ⟨column, hcolumn, hbytes⟩ := Option.bind_eq_some_iff.mp h
  have hfate : bound.fate r c = column.fate bound.runtimeContext r := by
    rw [BoundDirectBatch.fate, hcolumn, Option.map_some, Option.getD_some]
  rw [hfate] at hwritten ⊢
  cases hof : column.fate bound.runtimeContext r with
  | refused =>
    rw [hof] at hwritten
    cases hwritten
  | halted =>
    rw [hof] at hwritten
    cases hwritten
  | written new checked => exact BoundDirectColumn.fate_written hof hbytes

end Bound

/-- The fast path honours a layout exactly when it does not come to its loops or the layout suits the batch. -/
theorem layout_is_honoured_iff {mappings : List SchemaMapping} {context : RuntimeConversionContext}
    {encoder : DirectEncoder} {batch : RecordBatch} {bound : BoundDirectBatch} {fastPath : FastPath}
    {columns : List FixedWidthColumn} {rowTokenOffsets rowLengths : List ℕ} {cellPositions : List CellPosition}
    {payloadLen : ℕ} {layout : RowLayout} (hencoder : DirectEncoder.newWithContext mappings context = .ok encoder)
    (hbound : BoundDirectBatch.new encoder batch = .ok bound)
    (hfixed : fixedWidthColumns fastPath bound.columns = some columns)
    (hlayout : RowLayout.new rowTokenOffsets rowLengths cellPositions payloadLen = .ok layout) :
    HonoursLayout fastPath bound columns layout ↔ (Runs bound layout → Suits bound.fate
      (firstOffset layout bound.columns.length) bound.rowCount bound.columns.length layout) := by
  obtain ⟨hlength, hfill⟩ := fillByFate_of_new hencoder hbound hfixed
  apply honoursLayout_iff hfixed hlength hfill
  · intro r c bytes
    exact fate_bytes
  · exact payloadLen_lt hlayout

section LaidOut

omit [Externals]

variable {fate : ℕ → ℕ → CellFate} {rows columns : ℕ} {layout : RowLayout}

theorem cursor_of_laysOut (h : LaysOut rows columns (fun r c => (fate r c).bytes.length) layout) {r c : ℕ}
    (hr : r < rows) : cursor fate (firstOffset layout columns) r c =
      cellStart columns rowTokenLen (fun r c => (fate r c).bytes.length) r c := by
  have hfirst : firstOffset layout columns r =
      cellStart columns rowTokenLen (fun r c => (fate r c).bytes.length) r 0 := by
    rw [firstOffset, cellStart_zero]
    by_cases hcolumns : columns = 0
    · rw [if_pos hcolumns, h.tokens, List.getD_eq_getElem?_getD, List.getElem?_map, List.getElem?_range hr]
      rfl
    · have hat := @getElem?_table _ rows columns (fun r c => (⟨r, c, cellStart columns rowTokenLen
        (fun r c => (fate r c).bytes.length) r c, (fate r c).bytes.length⟩ : CellPosition)) _ _ hr
        (Nat.pos_of_ne_zero hcolumns)
      rw [Nat.add_zero, ← h.cells] at hat
      rw [if_neg hcolumns, hat, Option.map_some, Option.getD_some, cellStart_zero]
  induction c with
  | zero => rw [← hfirst, cursor, Finset.sum_range_zero, Nat.add_zero]
  | succ c ih => rw [cursor_succ, ih, cellStart_succ]

theorem suits_of_laysOut (h : LaysOut rows columns (fun r c => (fate r c).bytes.length) layout)
    (hallocates : layout.payloadLen ≤ isizeMax) (hwritten : ∀ r < rows, ∀ c < columns, (fate r c).isWritten = true) :
    Suits fate (firstOffset layout columns) rows columns layout := by
  have hcursor := fun {r c} (hr : r < rows) => @cursor_of_laysOut fate rows columns layout h r c hr
  have htoken : rowTokenLen = 1 := rfl
  refine ⟨⟨?_, ?_⟩, hallocates, ?_, ?_⟩
  · intro rowOffset hmem
    rw [h.tokens] at hmem
    obtain ⟨r, hr, rfl⟩ := List.mem_map.mp hmem
    have hend := @cellStart_le rows columns (fun r c => (fate r c).bytes.length) rowTokenLen r 0
      (List.mem_range.mp hr) (Nat.zero_le columns)
    rw [cellStart_zero] at hend
    rw [h.total]
    omega
  · intro r hr c hc _
    refine ⟨fun rowOffset hmem => ?_, fun r' hr' c' hc' _ hne => ?_⟩
    · rw [h.tokens] at hmem
      obtain ⟨i, -, rfl⟩ := List.mem_map.mp hmem
      rw [hcursor hr, hcursor hr]
      have hheads := @head_apart columns (fun r c => (fate r c).bytes.length) rowTokenLen r c hc i
      omega
    · rw [hcursor hr, hcursor hr, hcursor hr', hcursor hr']
      exact cells_apart hc hc' hne
  · intro c hc r hr _ _ hhalts
    have hend := @cellStart_le rows columns (fun r c => (fate r c).bytes.length) rowTokenLen r (c + 1) hr hc
    rcases hhalts with hhalted | ⟨-, hout, -⟩
    · have := hwritten r hr c hc
      rw [hhalted] at this
      cases this
    · rw [hcursor hr, h.total] at hout
      omega
  · intro _ _ r hr c hc
    have hat := @getElem?_table _ rows columns (fun r c => (⟨r, c, cellStart columns rowTokenLen
      (fun r c => (fate r c).bytes.length) r c, (fate r c).bytes.length⟩ : CellPosition)) _ _ hr hc
    rw [← h.cells] at hat
    exact ⟨_, hat, (hcursor hr).symm, rfl⟩

end LaidOut

def numberColumns : List FixedWidthColumn :=
  [⟨.int32 ⟨0, "id", .int, false, .primitive .int32ToInt⟩ ⟨2, fun _ => false, fun _ => ⟨258, fits_258⟩⟩,
      ⟨0, "id", .int, false, .primitive .int32ToInt⟩, none, 4, 1⟩,
    ⟨.boolean ⟨1, "flag", .bit, true, .primitive .booleanToBit⟩ ⟨2, fun i => i = 1, fun _ => true⟩,
      ⟨1, "flag", .bit, true, .primitive .booleanToBit⟩, none, 2, 1⟩]

def numberLayout : RowLayout where
  rowTokenOffsets := [0, 7]
  rowLengths := [7, 6]
  cellPositions := [⟨0, 0, 1, 4⟩, ⟨0, 1, 5, 2⟩, ⟨1, 0, 8, 4⟩, ⟨1, 1, 12, 1⟩]
  payloadLen := 13
  inside := by decide

def shortLayout : RowLayout where
  rowTokenOffsets := [0, 3]
  rowLengths := [3, 3]
  cellPositions := [⟨0, 0, 1, 1⟩, ⟨0, 1, 2, 1⟩, ⟨1, 0, 4, 1⟩, ⟨1, 1, 5, 1⟩]
  payloadLen := 6
  inside := by decide

def shiftedLayout : RowLayout where
  rowTokenOffsets := [0, 7]
  rowLengths := [7, 6]
  cellPositions := [⟨0, 0, 1, 2⟩, ⟨0, 1, 3, 4⟩, ⟨1, 0, 8, 4⟩, ⟨1, 1, 12, 1⟩]
  payloadLen := 13
  inside := by decide

omit [Externals] in
theorem fits_largest_day : fitsSigned 32 2147483647 := by decide

omit [Externals] in
theorem fits_zero_day : fitsSigned 32 0 := by decide

omit [Externals] in
theorem valid_day : validateIdentifier "day" .bracketQuoted = .ok () := rfl

def dayPlan : DirectColumnPlan := ⟨0, "day", .date, true, .temporal .date32ToDate⟩

def dayColumn : BoundDirectColumn :=
  .date32 dayPlan ⟨⟨0, "day", true, .date32⟩, ⟨⟨"day", valid_day⟩, .date, true⟩⟩
    ⟨2, fun _ => false, fun i => if i = 0 then ⟨0, fits_zero_day⟩ else ⟨2147483647, fits_largest_day⟩⟩

def dayBound : BoundDirectBatch := ⟨[dayColumn], ⟨sampleProfile, {}⟩, 2⟩

def dayColumns : List FixedWidthColumn :=
  [⟨dayColumn, dayPlan, some ⟨⟨0, "day", true, .date32⟩, ⟨⟨"day", valid_day⟩, .date, true⟩⟩, 4, 1⟩]

def dayLayout : RowLayout where
  rowTokenOffsets := [0, 3]
  rowLengths := [3, 5]
  cellPositions := [⟨0, 0, 1, 2⟩, ⟨1, 0, 4, 4⟩]
  payloadLen := 8
  inside := by decide

omit [Externals] in
theorem layout_is_honoured_at_sample : @HonoursLayout .silent {} numberBound numberColumns numberLayout := by
  have hwritten : ∀ r < 2, ∀ c < 2, (@BoundDirectBatch.fate .silent numberBound r c).isWritten = true := by decide
  refine (@layout_is_honoured_iff .silent numberMappings ⟨sampleProfile, {}⟩ numberEncoder numberBatch numberBound {}
    numberColumns [0, 7] [7, 6] numberLayout.cellPositions 13 numberLayout rfl rfl rfl rfl).mpr fun _ => ?_
  apply suits_of_laysOut _ (by decide) hwritten
  constructor
  · rfl
  · rfl
  · rfl
  · rfl

omit [Externals] in
/-- Rows that are too short make the fast path index outside of the payload, lengths in the wrong order leave cells in
the wrong place, and a cell is written over the token of the next row before that row is refused. -/
theorem layout_is_not_always_honoured :
    (RowLayout.new [0, 3] [3, 3] shortLayout.cellPositions 6 = .ok shortLayout ∧
      @tryEncodeFixedWidthRowsWithLayout .silent {} numberBound shortLayout = crash ∧
      ¬@HonoursLayout .silent {} numberBound numberColumns shortLayout) ∧
    (RowLayout.new [0, 7] [7, 6] shiftedLayout.cellPositions 13 = .ok shiftedLayout ∧
      (∃ payload, @tryEncodeFixedWidthRowsWithLayout .silent {} numberBound shiftedLayout = .ok (some payload)) ∧
      ¬@HonoursLayout .silent {} numberBound numberColumns shiftedLayout) ∧
    RowLayout.new [0, 3] [3, 5] dayLayout.cellPositions 8 = .ok dayLayout ∧
      @fixedWidthColumns {} dayBound.columns = some dayColumns ∧
      (∃ e, @tryEncodeFixedWidthRowsWithLayout .silent {} dayBound dayLayout = fail e) ∧
      ¬@HonoursLayout .silent {} dayBound dayColumns dayLayout := by
  have hcrash : @tryEncodeFixedWidthRowsWithLayout .silent {} numberBound shortLayout = crash := rfl
  obtain ⟨payload, hpayload, hbytes⟩ : ∃ payload,
      @tryEncodeFixedWidthRowsWithLayout .silent {} numberBound shiftedLayout = .ok (some payload) ∧
        payload.bytes = [0xD1, 2, 1, 0, 0, 1, 1, 0xD1, 2, 1, 0, 0, 0] := ⟨_, rfl, rfl⟩
  refine ⟨⟨rfl, hcrash, fun h => @HonoursLayout.safe .silent _ _ _ _ h hcrash⟩, ⟨rfl, ⟨payload, hpayload⟩, fun h => ?_⟩,
    rfl, rfl, ⟨_, rfl⟩, fun h => ?_⟩
  · have hplaces := @HonoursLayout.places .silent _ _ _ _ h payload hpayload
    obtain ⟨-, position, -, hposition, -, hcell⟩ := hplaces 0 (by decide) 1 (by decide)
    have hat : position = ⟨0, 1, 3, 4⟩ := (Option.some.inj hposition).symm
    have hsame := hcell [1, 1] rfl
    rw [hat, hbytes] at hsame
    exact absurd hsame (by decide)
  · have hday : @Occupies .silent dayBound.runtimeContext dayColumns ⟨[0, 3], [1, 4], 8⟩ 0 0 1 5 :=
      ⟨by decide, _, _, _, _, rfl, rfl, rfl, rfl, rfl, rfl⟩
    have hapart := @HonoursLayout.apart .silent _ _ _ _ h ⟨[0, 3], [1, 4], 8⟩ (by decide) rfl rfl 0 0 1 5 hday
    exact hapart.1 3 (by decide) (by decide)

end FixedWidth

end ArrowTiberius.Direct
