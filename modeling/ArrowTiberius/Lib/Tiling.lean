import Mathlib.Algebra.BigOperators.Group.Finset.Basic
import Mathlib.Algebra.Order.BigOperators.Group.Finset
import Mathlib.Data.Nat.Cast.Basic
import Mathlib.Data.List.Range
import Mathlib.Tactic.Common

open scoped BigOperators

namespace Tiling

variable {α : Type}

def tile (n : ℕ) (seg : ℕ → List α) : List α := (List.range n).flatMap seg

def splice (buf : List α) (offset : ℕ) (new : List α) : List α :=
  buf.take offset ++ new ++ buf.drop (offset + new.length)

@[simp] theorem tile_zero (seg : ℕ → List α) : tile 0 seg = [] := rfl

theorem tile_succ (n : ℕ) (seg : ℕ → List α) : tile (n + 1) seg = tile n seg ++ seg n := by
  simp [tile, List.range_succ]

theorem tile_add (m n : ℕ) (seg : ℕ → List α) :
    tile (m + n) seg = tile m seg ++ tile n fun i => seg (m + i) := by
  induction n with
  | zero => simp
  | succ n ih => rw [← Nat.add_assoc, tile_succ, ih, tile_succ, List.append_assoc]

theorem tile_succ' (n : ℕ) (seg : ℕ → List α) : tile (n + 1) seg = seg 0 ++ tile n fun i => seg (i + 1) := by
  rw [Nat.add_comm, tile_add, tile_succ]
  simp [Nat.add_comm]

theorem tile_congr {n : ℕ} {seg seg' : ℕ → List α} (h : ∀ i < n, seg i = seg' i) :
    tile n seg = tile n seg' := by
  induction n with
  | zero => rfl
  | succ n ih => rw [tile_succ, tile_succ, ih fun i hi => h i (by omega), h n (by omega)]

theorem length_tile (n : ℕ) (seg : ℕ → List α) :
    (tile n seg).length = ∑ i ∈ Finset.range n, (seg i).length := by
  induction n with
  | zero => rfl
  | succ n ih => rw [tile_succ, List.length_append, ih, Finset.sum_range_succ]

@[simp] theorem length_splice {buf new : List α} {offset : ℕ} (h : offset + new.length ≤ buf.length) :
    (splice buf offset new).length = buf.length := by
  simp only [splice, List.length_append, List.length_take, List.length_drop]
  omega

theorem splice_append_left {a b new : List α} {offset : ℕ} (h : offset + new.length ≤ a.length) :
    splice (a ++ b) offset new = splice a offset new ++ b := by
  rw [splice, splice, List.take_append_of_le_length (by omega), List.drop_append_of_le_length h]
  simp

theorem splice_append_right (a b new : List α) (offset : ℕ) :
    splice (a ++ b) (a.length + offset) new = a ++ splice b offset new := by
  rw [splice, splice, List.take_length_add_append, Nat.add_assoc, List.drop_length_add_append]
  simp

theorem splice_all {a new : List α} (h : new.length = a.length) : splice a 0 new = new := by
  simp [splice, h]

theorem splice_splice {buf a b : List α} {offset : ℕ} (h : offset + a.length + b.length ≤ buf.length) :
    splice (splice buf offset a) (offset + a.length) b = splice buf offset (a ++ b) := by
  have hlen : (buf.take offset ++ a).length = offset + a.length := by simp; omega
  have hfirst : splice buf offset a = (buf.take offset ++ a) ++ buf.drop (offset + a.length) := rfl
  calc splice (splice buf offset a) (offset + a.length) b
      = (buf.take offset ++ a) ++ splice (buf.drop (offset + a.length)) 0 b := by
        rw [hfirst, ← hlen, ← splice_append_right, Nat.add_zero]
    _ = splice buf offset (a ++ b) := by simp [splice, Nat.add_assoc]

theorem splice_tile {n k offset : ℕ} {seg : ℕ → List α} {new : List α} (hk : k < n)
    (h : offset + new.length ≤ (seg k).length) :
    splice (tile n seg) ((∑ i ∈ Finset.range k, (seg i).length) + offset) new =
      tile n (Function.update seg k (splice (seg k) offset new)) := by
  obtain ⟨d, rfl⟩ : ∃ d, n = k + 1 + d := ⟨n - (k + 1), by omega⟩
  rw [tile_add, tile_succ, ← length_tile, splice_append_left (by simp; omega), splice_append_right,
    tile_add (k + 1), tile_succ]
  have hbefore : tile k (Function.update seg k (splice (seg k) offset new)) = tile k seg :=
    tile_congr fun i hi => Function.update_of_ne (by omega) _ _
  have hafter : (tile d fun i => Function.update seg k (splice (seg k) offset new) (k + 1 + i)) =
      tile d fun i => seg (k + 1 + i) :=
    tile_congr fun i _ => Function.update_of_ne (by omega) _ _
  rw [hbefore, hafter, Function.update_self]

theorem getElem?_tile {n k i : ℕ} {seg : ℕ → List α} (hk : k < n) (hi : i < (seg k).length) :
    (tile n seg)[(∑ j ∈ Finset.range k, (seg j).length) + i]? = (seg k)[i]? := by
  obtain ⟨d, rfl⟩ : ∃ d, n = k + 1 + d := ⟨n - (k + 1), by omega⟩
  rw [← length_tile, tile_add, tile_succ, List.append_assoc, List.getElem?_append_right (by omega),
    Nat.add_sub_cancel_left, List.getElem?_append_left hi]

/-- A row-major grid: every row is its own head followed by its cells. -/
def grid (rows columns : ℕ) (head : List α) (cell : ℕ → ℕ → List α) : List α :=
  tile rows fun r => head ++ tile columns (cell r)

def rowLength (columns headLength : ℕ) (len : ℕ → ℕ → ℕ) (r : ℕ) : ℕ :=
  headLength + ∑ c ∈ Finset.range columns, len r c

def rowStart (columns headLength : ℕ) (len : ℕ → ℕ → ℕ) (r : ℕ) : ℕ :=
  ∑ i ∈ Finset.range r, rowLength columns headLength len i

def cellStart (columns headLength : ℕ) (len : ℕ → ℕ → ℕ) (r c : ℕ) : ℕ :=
  rowStart columns headLength len r + (headLength + ∑ j ∈ Finset.range c, len r j)

variable {rows columns : ℕ} {head : List α} {cell cell' : ℕ → ℕ → List α} {len : ℕ → ℕ → ℕ}

theorem rowStart_succ (columns headLength : ℕ) (len : ℕ → ℕ → ℕ) (r : ℕ) :
    rowStart columns headLength len (r + 1) =
      rowStart columns headLength len r + rowLength columns headLength len r :=
  Finset.sum_range_succ _ _

@[simp] theorem rowStart_zero (columns headLength : ℕ) (len : ℕ → ℕ → ℕ) :
    rowStart columns headLength len 0 = 0 := rfl

theorem cellStart_succ (columns headLength : ℕ) (len : ℕ → ℕ → ℕ) (r c : ℕ) :
    cellStart columns headLength len r (c + 1) = cellStart columns headLength len r c + len r c := by
  simp only [cellStart, Finset.sum_range_succ]
  omega

@[simp] theorem cellStart_zero (columns headLength : ℕ) (len : ℕ → ℕ → ℕ) (r : ℕ) :
    cellStart columns headLength len r 0 = rowStart columns headLength len r + headLength := by
  simp [cellStart]

theorem cellStart_columns (columns headLength : ℕ) (len : ℕ → ℕ → ℕ) (r : ℕ) :
    cellStart columns headLength len r columns = rowStart columns headLength len (r + 1) := by
  rw [rowStart_succ, cellStart, rowLength]

theorem rowLength_congr {headLength r r' : ℕ} {len len' : ℕ → ℕ → ℕ}
    (h : ∀ c < columns, len r c = len' r' c) :
    rowLength columns headLength len r = rowLength columns headLength len' r' := by
  rw [rowLength, rowLength, Finset.sum_congr rfl fun c hc => h c (Finset.mem_range.mp hc)]

theorem rowStart_congr {headLength r : ℕ} {len len' : ℕ → ℕ → ℕ}
    (h : ∀ i < r, ∀ c < columns, len i c = len' i c) :
    rowStart columns headLength len r = rowStart columns headLength len' r :=
  Finset.sum_congr rfl fun i hi => rowLength_congr (h i (Finset.mem_range.mp hi))

theorem rowStart_mono {headLength r r' : ℕ} (h : r ≤ r') :
    rowStart columns headLength len r ≤ rowStart columns headLength len r' :=
  Finset.sum_le_sum_of_subset (Finset.range_subset_range.mpr h)

theorem le_rowStart {headLength : ℕ} (h : 0 < headLength) (r : ℕ) : r ≤ rowStart columns headLength len r := by
  induction r with
  | zero => exact Nat.zero_le _
  | succ r ih =>
    have hrow : headLength ≤ rowLength columns headLength len r := Nat.le_add_right _ _
    rw [rowStart_succ]
    omega

theorem mul_le_rowStart {headLength : ℕ} (h : ∀ r < rows, ∀ c < columns, 0 < len r c) :
    rows * columns ≤ rowStart columns headLength len rows := by
  induction rows with
  | zero => simp
  | succ rows ih =>
    have hones : ∑ _c ∈ Finset.range columns, 1 ≤ ∑ c ∈ Finset.range columns, len rows c :=
      Finset.sum_le_sum fun c hc => h rows (Nat.lt_succ_self rows) c (Finset.mem_range.mp hc)
    have hrow : columns ≤ ∑ c ∈ Finset.range columns, len rows c := by simpa using hones
    have hrows := ih fun r hr => h r (by omega)
    rw [rowStart_succ, rowLength, Nat.succ_mul]
    omega

theorem cellStart_mono {headLength r c c' : ℕ} (h : c ≤ c') :
    cellStart columns headLength len r c ≤ cellStart columns headLength len r c' := by
  have hsum := Finset.sum_le_sum_of_subset (f := fun j => len r j) (Finset.range_subset_range.mpr h)
  simp only [cellStart]
  omega

theorem cellStart_le {headLength r c : ℕ} (hr : r < rows) (hc : c ≤ columns) :
    cellStart columns headLength len r c ≤ rowStart columns headLength len rows := by
  refine (cellStart_mono hc).trans ?_
  rw [cellStart_columns]
  exact rowStart_mono hr

theorem le_cellStart {headLength r c : ℕ} :
    rowStart columns headLength len r + headLength ≤ cellStart columns headLength len r c := by
  rw [← cellStart_zero]
  exact cellStart_mono (Nat.zero_le c)

theorem head_apart {headLength r c : ℕ} (hc : c < columns) (i : ℕ) :
    rowStart columns headLength len i + headLength ≤ cellStart columns headLength len r c ∨
      cellStart columns headLength len r (c + 1) ≤ rowStart columns headLength len i := by
  rcases Nat.lt_or_ge r i with hlt | hge
  · exact .inr (cellStart_le hlt hc)
  · exact .inl ((Nat.add_le_add_right (rowStart_mono hge) _).trans le_cellStart)

theorem cells_apart {headLength r c r' c' : ℕ} (hc : c < columns) (hc' : c' < columns) (hne : (r, c) ≠ (r', c')) :
    cellStart columns headLength len r (c + 1) ≤ cellStart columns headLength len r' c' ∨
      cellStart columns headLength len r' (c' + 1) ≤ cellStart columns headLength len r c := by
  rcases Nat.lt_trichotomy r r' with hlt | rfl | hlt
  · exact .inl ((cellStart_le hlt hc).trans ((Nat.le_add_right _ _).trans le_cellStart))
  · rcases Nat.lt_trichotomy c c' with hlt | rfl | hlt
    · exact .inl (cellStart_mono hlt)
    · exact absurd rfl hne
    · exact .inr (cellStart_mono hlt)
  · exact .inr ((cellStart_le hlt hc').trans ((Nat.le_add_right _ _).trans le_cellStart))

theorem rowStart_add (columns headLength : ℕ) (len : ℕ → ℕ → ℕ) (a b : ℕ) :
    rowStart columns headLength len (a + b) =
      rowStart columns headLength len a + rowStart columns headLength (fun r => len (a + r)) b :=
  Finset.sum_range_add _ _ _

theorem length_grid_row (r : ℕ) (hlen : ∀ c < columns, (cell r c).length = len r c) :
    (head ++ tile columns (cell r)).length = rowLength columns head.length len r := by
  rw [List.length_append, length_tile, rowLength,
    Finset.sum_congr rfl fun c hc => hlen c (Finset.mem_range.mp hc)]

theorem length_grid (hlen : ∀ r < rows, ∀ c < columns, (cell r c).length = len r c) :
    (grid rows columns head cell).length = rowStart columns head.length len rows := by
  rw [grid, length_tile, rowStart]
  exact Finset.sum_congr rfl fun r hr => length_grid_row r (hlen r (Finset.mem_range.mp hr))

theorem grid_congr (h : ∀ r < rows, ∀ c < columns, cell r c = cell' r c) :
    grid rows columns head cell = grid rows columns head cell' :=
  tile_congr fun r hr => by rw [tile_congr (h r hr)]

theorem grid_add (m n columns : ℕ) (head : List α) (cell : ℕ → ℕ → List α) :
    grid (m + n) columns head cell = grid m columns head cell ++ grid n columns head fun r => cell (m + r) :=
  tile_add _ _ _

theorem sum_length_rows {r : ℕ} (hr : r ≤ rows)
    (hlen : ∀ i < rows, ∀ j < columns, (cell i j).length = len i j) :
    ∑ i ∈ Finset.range r, (head ++ tile columns (cell i)).length = rowStart columns head.length len r :=
  Finset.sum_congr rfl fun i hi => length_grid_row i (hlen i (by have := Finset.mem_range.mp hi; omega))

theorem getElem?_grid_head {r i : ℕ} (hr : r < rows) (hi : i < head.length)
    (hlen : ∀ i < rows, ∀ j < columns, (cell i j).length = len i j) :
    (grid rows columns head cell)[rowStart columns head.length len r + i]? = head[i]? := by
  rw [← sum_length_rows (by omega) hlen, grid, getElem?_tile hr (by simp; omega), List.getElem?_append_left hi]

theorem getElem?_grid {r c i : ℕ} (hr : r < rows) (hc : c < columns)
    (hlen : ∀ i < rows, ∀ j < columns, (cell i j).length = len i j) (hi : i < len r c) :
    (grid rows columns head cell)[cellStart columns head.length len r c + i]? = (cell r c)[i]? := by
  have hcol : ∑ j ∈ Finset.range c, len r j = ∑ j ∈ Finset.range c, (cell r j).length :=
    Finset.sum_congr rfl fun j hj => (hlen r hr j (by have := Finset.mem_range.mp hj; omega)).symm
  have hinner : (tile columns (cell r))[(∑ j ∈ Finset.range c, (cell r j).length) + i]? = (cell r c)[i]? :=
    getElem?_tile hc (by rw [hlen r hr c hc]; exact hi)
  have hfit : (∑ j ∈ Finset.range c, (cell r j).length) + i < (tile columns (cell r)).length := by
    rw [length_tile]
    have h := Finset.sum_le_sum_of_subset (f := fun j => (cell r j).length)
      (Finset.range_subset_range.mpr (Nat.succ_le_of_lt hc))
    rw [Finset.sum_range_succ, hlen r hr c hc] at h
    omega
  rw [cellStart, hcol, ← sum_length_rows (by omega) hlen, grid, Nat.add_assoc, Nat.add_assoc,
    getElem?_tile hr (by simp only [List.length_append]; omega),
    List.getElem?_append_right (by omega), Nat.add_sub_cancel_left, hinner]

theorem splice_grid {r c : ℕ} {new : List α} (hr : r < rows) (hc : c < columns)
    (hlen : ∀ i < rows, ∀ j < columns, (cell i j).length = len i j) (hnew : new.length = len r c) :
    splice (grid rows columns head cell) (cellStart columns head.length len r c) new =
      grid rows columns head (Function.update cell r (Function.update (cell r) c new)) := by
  have hrow : rowStart columns head.length len r =
      ∑ i ∈ Finset.range r, (head ++ tile columns (cell i)).length := (sum_length_rows (Nat.le_of_lt hr) hlen).symm
  have hcol : ∑ j ∈ Finset.range c, len r j = ∑ j ∈ Finset.range c, (cell r j).length :=
    Finset.sum_congr rfl fun j hj => (hlen r hr j (by have := Finset.mem_range.mp hj; omega)).symm
  have hcell : new.length = (cell r c).length := by rw [hnew, hlen r hr c hc]
  have hinner : splice (tile columns (cell r)) (∑ j ∈ Finset.range c, (cell r j).length) new =
      tile columns (Function.update (cell r) c new) := by
    have h : splice (tile columns (cell r)) ((∑ j ∈ Finset.range c, (cell r j).length) + 0) new = _ :=
      splice_tile hc (by omega)
    rwa [Nat.add_zero, splice_all hcell] at h
  have hfit : head.length + (∑ j ∈ Finset.range c, (cell r j).length) + new.length ≤
      (head ++ tile columns (cell r)).length := by
    rw [List.length_append, length_tile]
    have h := Finset.sum_le_sum_of_subset (f := fun j => (cell r j).length)
      (Finset.range_subset_range.mpr (Nat.succ_le_of_lt hc))
    rw [Finset.sum_range_succ] at h
    omega
  have houter := @splice_tile _ rows r _ (fun i => head ++ tile columns (cell i)) new hr hfit
  rw [splice_append_right, hinner] at houter
  rw [cellStart, hrow, hcol, grid, houter, grid]
  refine tile_congr fun i _ => ?_
  by_cases hi : i = r
  · subst hi
    simp
  · simp [Function.update_of_ne hi]

def table (rows columns : ℕ) (entry : ℕ → ℕ → α) : List α := grid rows columns [] fun r c => [entry r c]

section table

variable {entry entry' : ℕ → ℕ → α}

theorem cellStart_table (columns r c : ℕ) : cellStart columns 0 (fun _ _ => 1) r c = r * columns + c := by
  simp [cellStart, rowStart, rowLength]

theorem table_congr (h : ∀ r < rows, ∀ c < columns, entry r c = entry' r c) :
    table rows columns entry = table rows columns entry' :=
  grid_congr fun r hr c hc => by rw [h r hr c hc]

theorem table_succ (rows columns : ℕ) (entry : ℕ → ℕ → α) :
    table (rows + 1) columns entry = table rows columns entry ++ tile columns fun c => [entry rows c] := by
  rw [table, grid, tile_succ, List.nil_append]
  rfl

@[simp] theorem length_table (rows columns : ℕ) (entry : ℕ → ℕ → α) :
    (table rows columns entry).length = rows * columns := by
  rw [table, @length_grid _ rows columns _ _ (fun _ _ => 1) fun _ _ _ _ => rfl]
  simp [rowStart, rowLength]

theorem getElem?_table {r c : ℕ} (hr : r < rows) (hc : c < columns) :
    (table rows columns entry)[r * columns + c]? = some (entry r c) := by
  have h := @getElem?_grid _ rows columns [] (fun r c => [entry r c]) (fun _ _ => 1) r c 0 hr hc
    (fun _ _ _ _ => rfl) (by decide)
  rwa [List.length_nil, cellStart_table] at h

theorem eq_table (default : α) {l : List α} (h : l.length = rows * columns) : ∃ entry, l = table rows columns entry := by
  refine ⟨fun r c => l.getD (r * columns + c) default, List.ext_getElem? fun i => ?_⟩
  by_cases hi : i < rows * columns
  · have hcolumns : 0 < columns := by
      by_contra hzero
      simp [show columns = 0 by omega] at hi
    have hr : i / columns < rows := Nat.div_lt_of_lt_mul (by rwa [Nat.mul_comm])
    have hc : i % columns < columns := Nat.mod_lt _ hcolumns
    have hi' : i / columns * columns + i % columns = i := Nat.div_add_mod' i columns
    have hentry := @getElem?_table _ rows columns (fun r c => l.getD (r * columns + c) default) _ _ hr hc
    rw [hi'] at hentry
    rw [hentry, List.getD_eq_getElem?_getD, List.getElem?_eq_getElem (by omega)]
    rfl
  · rw [List.getElem?_eq_none (by omega), List.getElem?_eq_none (by rw [length_table]; omega)]

theorem mem_tile {n : ℕ} {seg : ℕ → List α} {a : α} : a ∈ tile n seg ↔ ∃ i < n, a ∈ seg i := by
  simp [tile]

theorem mem_table {a : α} : a ∈ table rows columns entry ↔ ∃ r < rows, ∃ c < columns, a = entry r c := by
  simp [table, grid, mem_tile]

theorem splice_table {r c : ℕ} (hr : r < rows) (hc : c < columns) (a : α) :
    splice (table rows columns entry) (r * columns + c) [a] =
      table rows columns (Function.update entry r (Function.update (entry r) c a)) := by
  have h := @splice_grid _ rows columns [] (fun r c => [entry r c]) (fun _ _ => 1) r c [a] hr hc
    (fun _ _ _ _ => rfl) rfl
  rw [List.length_nil, cellStart_table] at h
  rw [table, h]
  refine grid_congr fun i _ j _ => ?_
  by_cases hi : i = r
  · subst hi
    by_cases hj : j = c
    · subst hj
      simp
    · simp [Function.update_of_ne hj]
  · simp [Function.update_of_ne hi]

theorem table_add (m n columns : ℕ) (entry : ℕ → ℕ → α) :
    table (m + n) columns entry = table m columns entry ++ table n columns fun r => entry (m + r) := grid_add _ _ _ _ _

theorem map_tile {β : Type} (f : α → β) (n : ℕ) (seg : ℕ → List α) : (tile n seg).map f = tile n fun i => (seg i).map f := by
  simp [tile, List.map_flatMap]

theorem map_table {β : Type} (f : α → β) (rows columns : ℕ) (entry : ℕ → ℕ → α) :
    (table rows columns entry).map f = table rows columns fun r c => f (entry r c) := by
  simp [table, grid, map_tile]

theorem drop_take_table {a n : ℕ} (h : a + n ≤ rows) :
    ((table rows columns entry).drop (a * columns)).take (n * columns) = table n columns fun r => entry (a + r) := by
  obtain ⟨d, rfl⟩ := Nat.exists_eq_add_of_le h
  rw [table_add, table_add, List.append_assoc, List.drop_left' (length_table _ _ _),
    List.take_left' (length_table _ _ _)]

theorem sum_tile (n : ℕ) (seg : ℕ → List ℕ) : (tile n seg).sum = ∑ i ∈ Finset.range n, (seg i).sum := by
  induction n with
  | zero => rfl
  | succ n ih => rw [tile_succ, List.sum_append, ih, Finset.sum_range_succ]

theorem rowStart_eq_sum (rows columns headLength : ℕ) (len : ℕ → ℕ → ℕ) :
    rowStart columns headLength len rows = rows * headLength + (table rows columns len).sum := by
  simp [rowStart, rowLength, table, grid, sum_tile, Finset.sum_add_distrib]

theorem splice_map_range {n i : ℕ} (hi : i < n) (f : ℕ → α) (a : α) :
    splice ((List.range n).map f) i [a] = (List.range n).map (Function.update f i a) := by
  have hseg (g : ℕ → α) : (List.range n).map g = tile n fun j => [g j] := by
    rw [tile, List.map_eq_flatMap]
  have hcount : ∑ j ∈ Finset.range i, [f j].length = i := by simp
  have h := @splice_tile _ n i 0 (fun j => [f j]) [a] hi (by simp)
  rw [hcount, Nat.add_zero] at h
  rw [hseg, h, hseg]
  refine tile_congr fun j _ => ?_
  by_cases hj : j = i
  · subst hj
    simp [splice]
  · simp [Function.update_of_ne hj]

theorem drop_take_range_map {a n : ℕ} {f : ℕ → α} (h : a + n ≤ rows) :
    (((List.range rows).map f).drop a).take n = (List.range n).map fun i => f (a + i) := by
  obtain ⟨d, rfl⟩ := Nat.exists_eq_add_of_le h
  rw [List.range_add, List.range_add]
  simp

end table

end Tiling
