import ArrowTiberius.Lib.Tiling

namespace Tiling

variable {α : Type}

def applyWrites (buf : List α) (writes : List (ℕ × List α)) : List α :=
  writes.foldl (fun buf write => splice buf write.1 write.2) buf

@[simp] theorem applyWrites_nil (buf : List α) : applyWrites buf [] = buf := rfl

theorem applyWrites_append (buf : List α) (a b : List (ℕ × List α)) :
    applyWrites buf (a ++ b) = applyWrites (applyWrites buf a) b := List.foldl_append

def covers (p : ℕ) (write : ℕ × List α) : Bool := write.1 ≤ p ∧ p < write.1 + write.2.length

theorem getElem?_splice {buf new : List α} {offset : ℕ} (h : offset + new.length ≤ buf.length) (p : ℕ) :
    (splice buf offset new)[p]? = if offset ≤ p ∧ p < offset + new.length then new[p - offset]? else buf[p]? := by
  have htake : (buf.take offset).length = offset := by
    rw [List.length_take]
    omega
  unfold splice
  by_cases hbefore : p < offset
  · rw [List.append_assoc, List.getElem?_append_left (by omega), List.getElem?_take_of_lt hbefore, if_neg (by omega)]
  · by_cases hin : p < offset + new.length
    · rw [List.append_assoc, List.getElem?_append_right (by omega), htake, List.getElem?_append_left (by omega),
        if_pos ⟨by omega, hin⟩]
    · rw [List.getElem?_append_right (by simp only [List.length_append]; omega), List.length_append, htake,
        List.getElem?_drop, if_neg (by omega)]
      exact congrArg (buf[·]?) (by omega)

theorem length_applyWrites {buf : List α} {writes : List (ℕ × List α)}
    (hinside : ∀ write ∈ writes, write.1 + write.2.length ≤ buf.length) :
    (applyWrites buf writes).length = buf.length := by
  induction writes generalizing buf with
  | nil => rfl
  | cons write writes ih =>
    have hlen := length_splice (hinside write (by simp))
    refine (ih fun other hother => ?_).trans hlen
    rw [hlen]
    exact hinside other (by simp [hother])

theorem getElem?_applyWrites {buf : List α} {writes : List (ℕ × List α)} {p : ℕ} {a : α}
    (hinside : ∀ write ∈ writes, write.1 + write.2.length ≤ buf.length)
    (hagree : ∀ write ∈ writes, covers p write = true → write.2[p - write.1]? = some a)
    (h : buf[p]? = some a ∨ ∃ write ∈ writes, covers p write = true) : (applyWrites buf writes)[p]? = some a := by
  induction writes generalizing buf with
  | nil =>
    rcases h with h | ⟨_, hmem, -⟩
    · exact h
    · cases hmem
  | cons write writes ih =>
    have hwrite := hinside write (by simp)
    have hat := getElem?_splice hwrite p
    apply @ih (splice buf write.1 write.2)
    · intro other hother
      rw [length_splice hwrite]
      exact hinside other (by simp [hother])
    · intro other hother
      exact hagree other (by simp [hother])
    · by_cases hcovers : covers p write = true
      · have hin : write.1 ≤ p ∧ p < write.1 + write.2.length := by simpa [covers] using hcovers
        rw [if_pos hin, hagree write (by simp) hcovers] at hat
        exact .inl hat
      · have hout : ¬(write.1 ≤ p ∧ p < write.1 + write.2.length) := by simpa [covers] using hcovers
        rw [if_neg hout] at hat
        rcases h with h | ⟨other, hmem, hother⟩
        · exact .inl (hat.trans h)
        · rcases List.mem_cons.mp hmem with rfl | hmem
          · exact absurd hother hcovers
          · exact .inr ⟨other, hmem, hother⟩

def columnWrites (rows columns headLength : ℕ) (len : ℕ → ℕ → ℕ) (c : ℕ) (new : ℕ → List α) : List (ℕ × List α) :=
  tile rows fun r => [(cellStart columns headLength len r c, new r)]

theorem countP_tile (q : α → Bool) (n : ℕ) (seg : ℕ → List α) :
    (tile n seg).countP q = ∑ i ∈ Finset.range n, (seg i).countP q := by
  induction n with
  | zero => rfl
  | succ n ih => rw [tile_succ, List.countP_append, ih, Finset.sum_range_succ]

section Intervals

variable {f : ℕ → ℕ} {p : ℕ}

theorem exists_interval {n : ℕ} (hfirst : f 0 ≤ p) (hlast : p < f n) : ∃ i < n, f i ≤ p ∧ p < f (i + 1) := by
  induction n with
  | zero => omega
  | succ n ih =>
    by_cases h : p < f n
    · obtain ⟨i, hi, hle, hlt⟩ := ih h
      exact ⟨i, by omega, hle, hlt⟩
    · exact ⟨n, by omega, by omega, hlast⟩

theorem interval_unique (hf : Monotone f) {i j : ℕ} (hi : f i ≤ p ∧ p < f (i + 1)) (hj : f j ≤ p ∧ p < f (j + 1)) :
    i = j := by
  by_contra hne
  rcases Nat.lt_or_gt_of_ne hne with h | h
  · have := hf (show i + 1 ≤ j from h)
    omega
  · have := hf (show j + 1 ≤ i from h)
    omega

end Intervals

section Grid

variable {rows columns headLength p : ℕ} {len : ℕ → ℕ → ℕ}

def InHead (rows columns headLength : ℕ) (len : ℕ → ℕ → ℕ) (p r : ℕ) : Prop :=
  r < rows ∧ rowStart columns headLength len r ≤ p ∧ p < rowStart columns headLength len r + headLength

def InCell (rows columns headLength : ℕ) (len : ℕ → ℕ → ℕ) (p r c : ℕ) : Prop :=
  r < rows ∧ c < columns ∧ cellStart columns headLength len r c ≤ p ∧
    p < cellStart columns headLength len r c + len r c

theorem InHead.inRow {r : ℕ} (h : InHead rows columns headLength len p r) :
    rowStart columns headLength len r ≤ p ∧ p < rowStart columns headLength len (r + 1) := by
  obtain ⟨-, hle, hlt⟩ := h
  have hhead := @le_cellStart columns len headLength r columns
  rw [cellStart_columns] at hhead
  exact ⟨hle, hlt.trans_le hhead⟩

theorem rowStart_monotone : Monotone (rowStart columns headLength len) := fun _ _ => rowStart_mono

theorem head_unique {r r' : ℕ} (h : InHead rows columns headLength len p r)
    (h' : InHead rows columns headLength len p r') : r = r' :=
  interval_unique rowStart_monotone h.inRow h'.inRow

theorem cell_unique {r r' c c' : ℕ} (h : InCell rows columns headLength len p r c)
    (h' : InCell rows columns headLength len p r' c') : r = r' ∧ c = c' := by
  obtain ⟨-, hc, hle, hlt⟩ := h
  obtain ⟨-, hc', hle', hlt'⟩ := h'
  rw [← cellStart_succ] at hlt hlt'
  have hsame : (r, c) = (r', c') := by
    by_contra hne
    have hapart := @cells_apart columns len headLength r c r' c' hc hc' hne
    omega
  exact Prod.mk.inj hsame

theorem head_not_cell {r r' c : ℕ} (h : InHead rows columns headLength len p r) :
    ¬InCell rows columns headLength len p r' c := by
  rintro ⟨-, hc, hle, hlt⟩
  obtain ⟨-, hle', hlt'⟩ := h
  rw [← cellStart_succ] at hlt
  have hapart := @head_apart columns len headLength r' c hc r
  omega

theorem exists_head_or_cell (h : p < rowStart columns headLength len rows) :
    (∃ r, InHead rows columns headLength len p r) ∨ ∃ r c, InCell rows columns headLength len p r c := by
  obtain ⟨r, hr, hle, hlt⟩ := exists_interval (f := rowStart columns headLength len) (Nat.zero_le p) h
  by_cases hhead : p < rowStart columns headLength len r + headLength
  · exact .inl ⟨r, hr, hle, hhead⟩
  · rw [← cellStart_columns] at hlt
    obtain ⟨c, hc, hcell, hnext⟩ := exists_interval (f := cellStart columns headLength len r)
      (by rw [cellStart_zero]; omega) hlt
    rw [cellStart_succ] at hnext
    exact .inr ⟨r, c, hr, hc, hcell, hnext⟩

theorem InHead.lt {r : ℕ} (h : InHead rows columns headLength len p r) : p < rowStart columns headLength len rows :=
  lt_of_lt_of_le h.inRow.2 (rowStart_mono h.1)

theorem InCell.lt {r c : ℕ} (h : InCell rows columns headLength len p r c) :
    p < rowStart columns headLength len rows := by
  obtain ⟨hr, hc, -, hlt⟩ := h
  rw [← cellStart_succ] at hlt
  exact hlt.trans_le (cellStart_le hr hc)

section Writes

variable {head : List α} {new : ℕ → ℕ → List α}

theorem applyWrites_columnWrites {cell : ℕ → ℕ → List α} {k : ℕ} {new : ℕ → List α} (hk : k < columns)
    (hlen : ∀ r < rows, ∀ c < columns, (cell r c).length = len r c) (hnew : ∀ r < rows, (new r).length = len r k) :
    applyWrites (grid rows columns head cell) (columnWrites rows columns head.length len k new) =
      grid rows columns head fun r c => if c = k then new r else cell r c := by
  have hrun (i : ℕ) (hi : i ≤ rows) : applyWrites (grid rows columns head cell)
      (tile i fun r => [(cellStart columns head.length len r k, new r)]) =
      grid rows columns head fun r c => if c = k ∧ r < i then new r else cell r c := by
    induction i with
    | zero => simp
    | succ i ih =>
      have hlen' : ∀ r < rows, ∀ c < columns, (if c = k ∧ r < i then new r else cell r c).length = len r c := by
        intro r hr c hc
        by_cases h : c = k ∧ r < i
        · rw [if_pos h, h.1, hnew r hr]
        · rw [if_neg h, hlen r hr c hc]
      rw [tile_succ, applyWrites_append, ih (by omega)]
      change splice _ _ (new i) = _
      rw [splice_grid hi hk hlen' (hnew i hi)]
      refine grid_congr fun r _ c _ => ?_
      by_cases hr : r = i
      · subst hr
        by_cases hc : c = k
        · subst hc
          simp
        · simp [hc]
      · simp [Function.update_of_ne hr, show r < i + 1 ↔ r < i by omega]
  rw [columnWrites, hrun rows le_rfl]
  refine grid_congr fun r hr c _ => ?_
  simp [hr]

theorem covers_cell (hlen : ∀ r < rows, ∀ c < columns, (new r c).length = len r c) {r c : ℕ} (hr : r < rows)
    (hc : c < columns) : covers p (cellStart columns headLength len r c, new r c) = true ↔
      InCell rows columns headLength len p r c := by
  simp [covers, InCell, hr, hc, hlen r hr c hc]

theorem countP_columnWrites (q : ℕ × List α → Bool) :
    (tile columns fun c => columnWrites rows columns headLength len c fun r => new r c).countP q =
      ∑ c ∈ Finset.range columns, ∑ r ∈ Finset.range rows,
        [(cellStart columns headLength len r c, new r c)].countP q := by
  simp only [countP_tile, columnWrites]

theorem countP_covers_head (hlen : ∀ r < rows, ∀ c < columns, (new r c).length = len r c) {r₀ : ℕ}
    (hhead : InHead rows columns headLength len p r₀) :
    (tile columns fun c => columnWrites rows columns headLength len c fun r => new r c).countP (covers p) = 0 := by
  rw [countP_columnWrites]
  refine Finset.sum_eq_zero fun c hc => Finset.sum_eq_zero fun r hr => ?_
  rw [Finset.mem_range] at hc hr
  rw [List.countP_singleton, if_neg]
  rw [covers_cell hlen hr hc]
  exact head_not_cell hhead

/-- The writes of all columns reach every position of a cell once. -/
theorem countP_covers_cell (hlen : ∀ r < rows, ∀ c < columns, (new r c).length = len r c) {r₀ c₀ : ℕ}
    (hcell : InCell rows columns headLength len p r₀ c₀) :
    (tile columns fun c => columnWrites rows columns headLength len c fun r => new r c).countP (covers p) = 1 := by
  have hr₀ := hcell.1
  have hc₀ := hcell.2.1
  rw [countP_columnWrites, Finset.sum_eq_single_of_mem c₀ (Finset.mem_range.mpr hc₀),
    Finset.sum_eq_single_of_mem r₀ (Finset.mem_range.mpr hr₀), List.countP_singleton,
    if_pos ((covers_cell hlen hr₀ hc₀).mpr hcell)]
  · intro r hr hne
    rw [Finset.mem_range] at hr
    rw [List.countP_singleton, if_neg]
    rw [covers_cell hlen hr hc₀]
    exact fun h => hne (cell_unique h hcell).1
  · intro c hc hne
    rw [Finset.mem_range] at hc
    refine Finset.sum_eq_zero fun r hr => ?_
    rw [Finset.mem_range] at hr
    rw [List.countP_singleton, if_neg]
    rw [covers_cell hlen hr hc]
    exact fun h => hne (cell_unique h hcell).2

theorem eq_grid {l : List α} (hlength : l.length = rowStart columns head.length len rows)
    (hheads : ∀ r < rows, ∀ i < head.length, l[rowStart columns head.length len r + i]? = head[i]?) :
    ∃ cell : ℕ → ℕ → List α, (∀ r < rows, ∀ c < columns, (cell r c).length = len r c) ∧
      l = grid rows columns head cell := by
  have hlen : ∀ r < rows, ∀ c < columns,
      ((l.drop (cellStart columns head.length len r c)).take (len r c)).length = len r c := by
    intro r hr c hc
    have hend := @cellStart_le rows columns len head.length r (c + 1) hr hc
    rw [cellStart_succ, ← hlength] at hend
    rw [List.length_take, List.length_drop]
    omega
  refine ⟨_, hlen, ?_⟩
  apply List.ext_getElem?
  intro p
  by_cases hp : p < rowStart columns head.length len rows
  · rcases exists_head_or_cell hp with ⟨r, hr, hle, hlt⟩ | ⟨r, c, hr, hc, hle, hlt⟩
    · obtain ⟨i, rfl⟩ := Nat.exists_eq_add_of_le hle
      have hi : i < head.length := by omega
      rw [hheads r hr i hi, getElem?_grid_head hr hi hlen]
    · obtain ⟨i, rfl⟩ := Nat.exists_eq_add_of_le hle
      have hi : i < len r c := by omega
      rw [getElem?_grid hr hc hlen hi, List.getElem?_take, if_pos hi, List.getElem?_drop]
  · rw [List.getElem?_eq_none (by omega), List.getElem?_eq_none (by rw [length_grid hlen]; omega)]

end Writes

end Grid

end Tiling
