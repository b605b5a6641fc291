import ArrowTiberius.Direct.Rows.CellFate
import ArrowTiberius.Lib.Writes

namespace ArrowTiberius.Direct.FixedWidth

open Checked Tiling

namespace CellFate

def isWritten : CellFate → Bool
  | .written _ _ => true
  | _ => false

end CellFate

section Cells

variable (fate : ℕ → ℕ → CellFate) (first : ℕ → ℕ) (payloadLen : ℕ)

def cursor (r c : ℕ) : ℕ := first r + ∑ c' ∈ Finset.range c, (fate r c').bytes.length

def Placed (r c : ℕ) : Prop := (fate r c).isWritten = true ∧ cursor fate first r (c + 1) ≤ payloadLen

instance (r c : ℕ) : Decidable (Placed fate first payloadLen r c) := inferInstanceAs (Decidable (_ ∧ _))

def Halts (r c : ℕ) : Prop :=
  fate r c = .halted ∨ (fate r c).isWritten = true ∧ payloadLen < cursor fate first r (c + 1) ∧
    ¬((fate r c).checked = true ∧ cursor fate first r (c + 1) < 2 ^ 64)

def Written (rows r c : ℕ) : Prop :=
  (∀ c' < c, ∀ r' < rows, Placed fate first payloadLen r' c') ∧ ∀ r' ≤ r, Placed fate first payloadLen r' c

def cellWrite (c r : ℕ) : List (ℕ × List UInt8) :=
  if Placed fate first payloadLen r c then [(cursor fate first r c, (fate r c).bytes)] else []

def writesBefore (rows k i : ℕ) : List (ℕ × List UInt8) :=
  tile k (fun c => tile rows (cellWrite fate first payloadLen c)) ++ tile i (cellWrite fate first payloadLen k)

def fatedState (rows : ℕ) (base : List UInt8) (k i : ℕ) : FillState :=
  ⟨(List.range rows).map fun r => cursor fate first r (if r < i then k + 1 else k),
    applyWrites base (writesBefore fate first base.length rows k i)⟩

end Cells

section Run

variable {fate : ℕ → ℕ → CellFate} {first : ℕ → ℕ} {payloadLen rows : ℕ} {base : List UInt8}

theorem cursor_succ (r c : ℕ) : cursor fate first r (c + 1) = cursor fate first r c + (fate r c).bytes.length := by
  rw [cursor, Finset.sum_range_succ, ← Nat.add_assoc]
  rfl

theorem mem_cellWrite {c r : ℕ} {write : ℕ × List UInt8} : write ∈ cellWrite fate first payloadLen c r ↔
    Placed fate first payloadLen r c ∧ write = (cursor fate first r c, (fate r c).bytes) := by
  by_cases h : Placed fate first payloadLen r c <;> simp [cellWrite, h]

theorem mem_writesBefore {k i : ℕ} {write : ℕ × List UInt8} :
    write ∈ writesBefore fate first payloadLen rows k i ↔ ∃ r c, (c < k ∧ r < rows ∨ c = k ∧ r < i) ∧
      Placed fate first payloadLen r c ∧ write = (cursor fate first r c, (fate r c).bytes) := by
  simp only [writesBefore, List.mem_append, mem_tile, mem_cellWrite]
  constructor
  · rintro (⟨c, hc, r, hr, h⟩ | ⟨r, hr, h⟩)
    · exact ⟨r, c, .inl ⟨hc, hr⟩, h⟩
    · exact ⟨r, k, .inr ⟨rfl, hr⟩, h⟩
  · rintro ⟨r, c, ⟨hc, hr⟩ | ⟨rfl, hr⟩, h⟩
    · exact .inl ⟨c, hc, r, hr, h⟩
    · exact .inr ⟨r, hr, h⟩

theorem writesBefore_inside {k i : ℕ} :
    ∀ write ∈ writesBefore fate first payloadLen rows k i, write.1 + write.2.length ≤ payloadLen := by
  intro write hmem
  obtain ⟨r, c, -, hplaced, rfl⟩ := mem_writesBefore.mp hmem
  have h := hplaced.2
  rwa [cursor_succ] at h

theorem length_fatedState (k i : ℕ) : (fatedState fate first rows base k i).bytes.length = base.length :=
  length_applyWrites writesBefore_inside

theorem fatedState_next (k : ℕ) :
    fatedState fate first rows base k rows = fatedState fate first rows base (k + 1) 0 := by
  have hcursors : (List.range rows).map (fun r => cursor fate first r (if r < rows then k + 1 else k)) =
      (List.range rows).map fun r => cursor fate first r (if r < 0 then k + 1 + 1 else k + 1) := by
    apply List.map_congr_left
    intro r hr
    rw [if_pos (List.mem_range.mp hr), if_neg (by omega)]
  have hwrites : writesBefore fate first base.length rows k rows =
      writesBefore fate first base.length rows (k + 1) 0 := by
    rw [writesBefore, writesBefore, tile_zero, List.append_nil, tile_succ]
  rw [fatedState, fatedState, hcursors, hwrites]

section Cell

variable {cell : ℕ → ℕ → List UInt8 → Result (List UInt8 × ℕ)} {k i : ℕ}

theorem fatedState_step (hi : i < rows) (hplaced : Placed fate first base.length i k) :
    (⟨splice (fatedState fate first rows base k i).currentOffsets i [cursor fate first i (k + 1)],
      splice (fatedState fate first rows base k i).bytes (cursor fate first i k) (fate i k).bytes⟩ : FillState) =
      fatedState fate first rows base k (i + 1) := by
  have hcursors : splice (fatedState fate first rows base k i).currentOffsets i [cursor fate first i (k + 1)] =
      (fatedState fate first rows base k (i + 1)).currentOffsets := by
    simp only [fatedState]
    rw [splice_map_range hi]
    apply List.map_congr_left
    intro r _
    by_cases hr : r = i
    · subst hr
      simp
    · simp [Function.update_of_ne hr, show r < i + 1 ↔ r < i by omega]
  have hwrites : writesBefore fate first base.length rows k (i + 1) =
      writesBefore fate first base.length rows k i ++ [(cursor fate first i k, (fate i k).bytes)] := by
    rw [writesBefore, tile_succ, ← List.append_assoc, cellWrite, if_pos hplaced]
    rfl
  rw [hcursors]
  congr 1
  simp only [fatedState]
  rw [hwrites, applyWrites_append]
  rfl

theorem fillRow_fated (hi : i < rows) (hbase : base.length < 2 ^ 64) (hfollows : Follows (fate i k) (cell i)) :
    (∀ s, fillRow cell (fatedState fate first rows base k i) i = .ok s ↔
      Placed fate first base.length i k ∧ s = fatedState fate first rows base k (i + 1)) ∧
    (fillRow cell (fatedState fate first rows base k i) i = crash ↔ Halts fate first base.length i k) := by
  have hcursor : (fatedState fate first rows base k i).currentOffsets[i]? = some (cursor fate first i k) := by
    simp [fatedState, hi]
  have hlength := @length_fatedState fate first rows base k i
  rw [fillRow, getIndex_of_getElem? hcursor, ok_bind]
  rcases hfate : fate i k with _ | _ | ⟨new, checked⟩
  · obtain ⟨e, he⟩ : ∃ e, cell i (cursor fate first i k) (fatedState fate first rows base k i).bytes = fail e :=
      hfollows.refused hfate
    rw [he, fail_bind]
    simp [Placed, Halts, hfate, CellFate.isWritten, crash, fail]
  · rw [hfollows.halted hfate, crash_bind]
    simp [Placed, Halts, hfate, CellFate.isWritten]
  · have hnext := @cursor_succ fate first i k
    have hbytes : (fate i k).bytes = new := by
      rw [hfate]
      rfl
    rw [hbytes] at hnext
    by_cases hinside : cursor fate first i (k + 1) ≤ base.length
    · have hplaced : Placed fate first base.length i k := by
        refine ⟨?_, hinside⟩
        rw [hfate]
        rfl
      have hcell := @Follows.inside _ _ hfollows (cursor fate first i k) new
        (fatedState fate first rows base k i).bytes checked hfate (by omega) (by omega)
      have hset : (setIndex (fatedState fate first rows base k i).currentOffsets i (cursor fate first i (k + 1)) :
          Result (List ℕ)) = .ok _ := setIndex_of_lt (by simp [fatedState, hi]) _
      have hstep := @fatedState_step fate first rows base k i hi hplaced
      rw [hbytes] at hstep
      rw [hcell, ok_bind]
      dsimp only
      rw [unsignedOp_of_fits (fitsUnsigned_64.mpr (by omega)), ok_bind, Int.toNat_natCast, ← hnext, hset, ok_bind,
        pure_eq_ok, hstep]
      constructor
      · intro s
        simp [hplaced, eq_comm]
      · refine iff_of_false (safe_ok _) ?_
        rintro (h | ⟨-, h, -⟩)
        · rw [hfate] at h
          cases h
        · omega
    · obtain ⟨fault, hcell, hfault⟩ := @Follows.outside _ _ hfollows (cursor fate first i k) new
        (fatedState fate first rows base k i).bytes checked hfate (by omega)
      rw [hcell, error_bind]
      constructor
      · intro s
        refine iff_of_false (fun h => by cases h) ?_
        rintro ⟨⟨-, h⟩, -⟩
        exact hinside h
      · rw [crash, Except.error.injEq, hfault, ← hnext]
        simp only [Halts, hfate, CellFate.isWritten, CellFate.checked, reduceCtorEq, false_or, true_and]
        exact ⟨fun h => ⟨by omega, h⟩, fun h => h.2⟩

variable (hbase : base.length < 2 ^ 64) (hfollows : ∀ r, Follows (fate r k) (cell r))

include hbase hfollows

theorem fillRows_fated_before {i : ℕ} (hi : i ≤ rows) (s : FillState) :
    forRange i (fatedState fate first rows base k 0) (fillRow cell) = .ok s ↔
      (∀ r < i, Placed fate first base.length r k) ∧ s = fatedState fate first rows base k i :=
  forRange_eq_ok_iff _ (fatedState fate first rows base k)
    (fun i' hi' => (fillRow_fated (by omega) hbase (hfollows i')).1) s

theorem fillRows_fated_ok (s : FillState) :
    forRange rows (fatedState fate first rows base k 0) (fillRow cell) = .ok s ↔
      (∀ r < rows, Placed fate first base.length r k) ∧ s = fatedState fate first rows base (k + 1) 0 := by
  rw [← fatedState_next]
  exact fillRows_fated_before hbase hfollows le_rfl s

theorem fillRows_fated_crash :
    forRange rows (fatedState fate first rows base k 0) (fillRow cell) = crash ↔
      ∃ r < rows, (∀ r' < r, Placed fate first base.length r' k) ∧ Halts fate first base.length r k :=
  forRange_eq_crash_iff _ _ (fatedState fate first rows base k)
    (fun i hi => (fillRow_fated hi hbase (hfollows i)).1) fun i hi => (fillRow_fated hi hbase (hfollows i)).2

end Cell

variable [Externals] {context : RuntimeConversionContext} {columns : List FixedWidthColumn}

def FillByFate (context : RuntimeConversionContext) (rows : ℕ) (fate : ℕ → ℕ → CellFate)
    (columns : List FixedWidthColumn) : Prop :=
  ∀ (k : ℕ) column, columns[k]? = some column → ∃ fill, fillFixedWidthColumn context column.column = some fill ∧
    (∀ r, Follows (fate r k) (fixedWidthCell context column.column r)) ∧
    ∀ s : FillState, 0 < rows → s.currentOffsets.length = rows →
      fill s = forRange rows s (fillRow (fixedWidthCell context column.column))

variable (hfill : FillByFate context rows fate columns) (hrows : 0 < rows) (hbase : base.length < 2 ^ 64)

include hfill hrows hbase

theorem fillNext_fated {k : ℕ} {column : FixedWidthColumn} (hcolumn : columns[k]? = some column) :
    (∀ o, fillNextFixedWidthColumn context (some (fatedState fate first rows base k 0)) column = .ok o ↔
      (∀ r < rows, Placed fate first base.length r k) ∧ o = some (fatedState fate first rows base (k + 1) 0)) ∧
    (fillNextFixedWidthColumn context (some (fatedState fate first rows base k 0)) column = crash ↔
      ∃ r < rows, (∀ r' < r, Placed fate first base.length r' k) ∧ Halts fate first base.length r k) := by
  obtain ⟨fill, hcolumnFill, hfollows, hloop⟩ := hfill k column hcolumn
  have hrun := hloop (fatedState fate first rows base k 0) hrows (by simp [fatedState])
  have hnext : fillNextFixedWidthColumn context (some (fatedState fate first rows base k 0)) column =
      some <$> forRange rows (fatedState fate first rows base k 0)
        (fillRow (fixedWidthCell context column.column)) := by
    simp only [fillNextFixedWidthColumn, hcolumnFill, hrun]
  rw [hnext]
  constructor
  · intro o
    rw [map_eq_ok]
    constructor
    · rintro ⟨s, hs, rfl⟩
      obtain ⟨hplaced, rfl⟩ := (fillRows_fated_ok hbase hfollows s).mp hs
      exact ⟨hplaced, rfl⟩
    · rintro ⟨hplaced, rfl⟩
      exact ⟨_, (fillRows_fated_ok hbase hfollows _).mpr ⟨hplaced, rfl⟩, rfl⟩
  · rw [← fillRows_fated_crash hbase hfollows]
    cases forRange rows (fatedState fate first rows base k 0) (fillRow (fixedWidthCell context column.column)) <;>
      simp [crash]

theorem fillColumns_fated_ok (o : Option FillState) :
    fillFixedWidthColumns context columns (fatedState fate first rows base 0 0) = .ok o ↔
      (∀ c < columns.length, ∀ r < rows, Placed fate first base.length r c) ∧
        o = some (fatedState fate first rows base columns.length 0) := by
  have hloop := @forEach_zipIdx_eq_ok_iff Error _ _ columns (fun s x => fillNextFixedWidthColumn context s x.1)
    (fun c => ∀ r < rows, Placed fate first base.length r c)
    (fun k => some (fatedState fate first rows base k 0)) 0
    (fun k column hcolumn o => by
      rw [Nat.zero_add]
      exact (fillNext_fated hfill hrows hbase hcolumn).1 o) o
  rw [forEach_zipIdx_fst] at hloop
  simp only [Nat.zero_add] at hloop
  exact hloop

theorem fillColumns_fated_crash :
    fillFixedWidthColumns context columns (fatedState fate first rows base 0 0) = crash ↔
      ∃ c < columns.length, (∀ c' < c, ∀ r < rows, Placed fate first base.length r c') ∧
        ∃ r < rows, (∀ r' < r, Placed fate first base.length r' c) ∧ Halts fate first base.length r c := by
  have hloop := @forEach_zipIdx_eq_crash_iff Error _ _ columns (fun s x => fillNextFixedWidthColumn context s x.1)
    (fun c => ∀ r < rows, Placed fate first base.length r c)
    (fun c => ∃ r < rows, (∀ r' < r, Placed fate first base.length r' c) ∧ Halts fate first base.length r c)
    (fun k => some (fatedState fate first rows base k 0)) 0
    (fun k column hcolumn o => by
      rw [Nat.zero_add]
      exact (fillNext_fated hfill hrows hbase hcolumn).1 o)
    (fun k column hcolumn => by
      rw [Nat.zero_add]
      exact (fillNext_fated hfill hrows hbase hcolumn).2)
  rw [forEach_zipIdx_fst] at hloop
  simp only [Nat.zero_add] at hloop
  exact hloop

end Run

section Tokens

variable {payloadLen : ℕ}

def tokenWrites (rowTokenOffsets : List ℕ) : List (ℕ × List UInt8) :=
  rowTokenOffsets.map fun rowOffset => (rowOffset, [tdsRowToken])

theorem writeRowTokens (rowTokenOffsets : List ℕ) (bytes : List UInt8) :
    forEach rowTokenOffsets bytes writeRowToken = if ∀ rowOffset ∈ rowTokenOffsets, rowOffset < bytes.length then
      .ok (applyWrites bytes (tokenWrites rowTokenOffsets)) else crash := by
  induction rowTokenOffsets generalizing bytes with
  | nil => rfl
  | cons rowOffset rest ih =>
    rw [forEach_cons, writeRowToken]
    by_cases hinside : rowOffset < bytes.length
    · rw [setIndex_of_lt hinside, ok_bind, ih, length_splice (by rw [List.length_singleton]; omega)]
      simp only [List.mem_cons, forall_eq_or_imp, hinside, true_and]
      rfl
    · rw [setIndex_outside (by omega), crash_bind, if_neg]
      intro h
      exact hinside (h rowOffset (by simp))

theorem tokenWrites_inside {rowTokenOffsets : List ℕ} (h : ∀ rowOffset ∈ rowTokenOffsets, rowOffset < payloadLen) :
    ∀ write ∈ tokenWrites rowTokenOffsets, write.1 + write.2.length ≤ payloadLen := by
  intro write hmem
  obtain ⟨rowOffset, hrowOffset, rfl⟩ := List.mem_map.mp hmem
  exact h rowOffset hrowOffset

end Tokens

end ArrowTiberius.Direct.FixedWidth
