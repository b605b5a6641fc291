import ArrowTiberius.Direct.Rows.FixedWidthCursors

namespace ArrowTiberius.Direct.FixedWidth

open Checked Tiling

namespace FixedWidthColumn

def nulls (column : FixedWidthColumn) : Arr Unit :=
  (fixedWidthColumnArray column.column).getD ⟨0, fun _ => false, fun _ => ()⟩

def cellLen (column : FixedWidthColumn) (r : ℕ) : ℕ :=
  if column.nulls.isNull r then column.nullCellLen else column.nonNullCellLen

variable [Externals]

def Measurable (column : FixedWidthColumn) : Prop :=
  validateColumnTimezoneMetadata column.nulls column = .ok () ∧
    (column.plan.nullable = true ∨ ∀ r < column.nulls.len, column.nulls.isNull r = false)

end FixedWidthColumn

def fixedWidthLen (fixed : List FixedWidthColumn) (r c : ℕ) : ℕ :=
  (fixed[c]?.map fun column => column.cellLen r).getD 0

theorem fixedWidthLen_of {fixed : List FixedWidthColumn} {c : ℕ} {column : FixedWidthColumn}
    (h : fixed[c]? = some column) (r : ℕ) : fixedWidthLen fixed r c = column.cellLen r := by
  rw [fixedWidthLen, h, Option.map_some, Option.getD_some]

theorem checkedAdd_eq_ok {lhs rhs n : ℕ} : checkedAdd lhs rhs = .ok n ↔ lhs + rhs < 2 ^ 64 ∧ n = lhs + rhs := by
  rw [checkedAdd, okOr_eq_ok, checkedAdd_eq_some]

theorem safe_checkedAdd (lhs rhs : ℕ) : Safe (checkedAdd lhs rhs) := safe_okOr _ _

section Lengths

variable {rows : ℕ} {column : FixedWidthColumn} {base : ℕ → ℕ} {lengths : List ℕ}

theorem addNullable_eq_ok : addNullableFixedWidthColumnLengths column.nulls column.nonNullCellLen column.nullCellLen
      ((List.range rows).map base) = .ok lengths ↔
    (∀ r < rows, base r + column.cellLen r < 2 ^ 64) ∧
      lengths = (List.range rows).map fun r => base r + column.cellLen r := by
  have hindexed : ((List.range rows).map base).zipIdx = (List.range rows).map fun r => (base r, r) := by
    refine List.ext_getElem? fun i => ?_
    by_cases hi : i < rows <;> simp [hi]
  rw [addNullableFixedWidthColumnLengths, hindexed]
  apply collect_map_range_eq_ok
  intro i _ a
  exact checkedAdd_eq_ok

theorem addNonNullable_eq_ok (h : ∀ r < rows, column.nulls.isNull r = false) :
    addNonNullableFixedWidthColumnLengths column.nonNullCellLen ((List.range rows).map base) = .ok lengths ↔
      (∀ r < rows, base r + column.cellLen r < 2 ^ 64) ∧
        lengths = (List.range rows).map fun r => base r + column.cellLen r := by
  apply collect_map_range_eq_ok
  intro i hi a
  rw [FixedWidthColumn.cellLen, h i hi]
  exact checkedAdd_eq_ok

variable [Externals]

theorem addFixedWidthColumnLengths_eq_ok (harray : fixedWidthColumnArray column.column = some column.nulls)
    (hrows : column.nulls.len = rows) :
    addFixedWidthColumnLengths ((List.range rows).map base) column = .ok lengths ↔
      (column.Measurable ∧ ∀ r < rows, base r + column.cellLen r < 2 ^ 64) ∧
        lengths = (List.range rows).map fun r => base r + column.cellLen r := by
  rw [addFixedWidthColumnLengths, harray, orCrash_some, ok_bind, bind_unit_eq_ok, FixedWidthColumn.Measurable, hrows,
    and_assoc, and_assoc]
  apply and_congr_right
  intro _
  by_cases hnullable : column.plan.nullable = true
  · rw [if_pos hnullable, addNullable_eq_ok]
    simp [hnullable]
  · rw [if_neg hnullable, bind_unit_eq_ok, ensure_eq_ok]
    simp only [hnullable, Bool.false_eq_true, false_or]
    apply and_congr_right
    intro hnulls
    exact addNonNullable_eq_ok hnulls

theorem addFixedWidthColumnLengths_safe {rowLengths : List ℕ}
    (harray : fixedWidthColumnArray column.column = some column.nulls)
    (hzones : Safe (validateColumnTimezoneMetadata column.nulls column)) :
    Safe (addFixedWidthColumnLengths rowLengths column) := by
  rw [addFixedWidthColumnLengths, harray, orCrash_some, ok_bind]
  apply safe_bind hzones
  intro _ _
  split
  · exact collect_safe fun x _ => safe_checkedAdd _ _
  · exact safe_bind (safe_ensure _ _) fun _ _ => collect_safe fun x _ => safe_checkedAdd _ _

end Lengths

section Rows

variable {rows columns : ℕ} {len : ℕ → ℕ → ℕ}

def rowsLayout (rows columns : ℕ) (len : ℕ → ℕ → ℕ) : FixedWidthRowsLayout :=
  ⟨(List.range rows).map (rowStart columns rowTokenLen len), cursors rows columns len 0,
    rowStart columns rowTokenLen len rows⟩

theorem placeRows_eq_ok {layout : FixedWidthRowsLayout} :
    forEach ((List.range rows).map (rowLength columns rowTokenLen len)) ⟨[], [], 0⟩ placeRow = .ok layout ↔
      rowStart columns rowTokenLen len rows < 2 ^ 64 ∧ layout = rowsLayout rows columns len := by
  have hloop := @forRange_eq_ok_iff Error _ rows (fun s i => placeRow s (rowLength columns rowTokenLen len i))
    (fun i => rowStart columns rowTokenLen len (i + 1) < 2 ^ 64) (fun i => rowsLayout i columns len)
    (by
      intro i _ s'
      have hrow : rowTokenLen ≤ rowLength columns rowTokenLen len i := Nat.le_add_right _ _
      have hcursor : cellStart columns rowTokenLen len i 0 = rowStart columns rowTokenLen len i + rowTokenLen :=
        cellStart_zero _ _ _ _
      simp only [placeRow, rowsLayout, cursors, bind_eq_ok, checkedAdd_eq_ok, pure_eq_ok, Except.ok.injEq,
        rowStart_succ, List.range_succ, List.map_append, List.map_cons, List.map_nil, hcursor]
      constructor
      · rintro ⟨_, ⟨-, rfl⟩, _, ⟨hlt, rfl⟩, rfl⟩
        exact ⟨hlt, rfl⟩
      · rintro ⟨hlt, rfl⟩
        exact ⟨_, ⟨by omega, rfl⟩, _, ⟨hlt, rfl⟩, rfl⟩) layout
  rw [rowEnds_lt (by decide)] at hloop
  rw [forEach_map]
  exact hloop

variable [Externals] {fixed : List FixedWidthColumn}

def HaveArrays (rows : ℕ) (fixed : List FixedWidthColumn) : Prop :=
  ∀ column ∈ fixed, fixedWidthColumnArray column.column = some column.nulls ∧ column.nulls.len = rows

theorem rowLengths_eq_ok (harrays : HaveArrays rows fixed) {lengths : List ℕ} :
    forEach fixed (List.replicate rows rowTokenLen) addFixedWidthColumnLengths = .ok lengths ↔
      (∀ (k : ℕ) column, fixed[k]? = some column → column.Measurable ∧
        ∀ r < rows, rowLength (k + 1) rowTokenLen (fixedWidthLen fixed) r < 2 ^ 64) ∧
        lengths = (List.range rows).map (rowLength fixed.length rowTokenLen (fixedWidthLen fixed)) := by
  have hloop := @forEach_zipIdx_eq_ok_iff Error _ _ fixed (fun s x => addFixedWidthColumnLengths s x.1)
    (fun k => ∀ column, fixed[k]? = some column → column.Measurable ∧
      ∀ r < rows, rowLength (k + 1) rowTokenLen (fixedWidthLen fixed) r < 2 ^ 64)
    (fun k => (List.range rows).map (rowLength k rowTokenLen (fixedWidthLen fixed))) 0
    (by
      intro k column hcolumn s'
      obtain ⟨harray, hrows⟩ := harrays column (List.mem_of_getElem? hcolumn)
      have hnext (r : ℕ) : rowLength (k + 1) rowTokenLen (fixedWidthLen fixed) r =
          rowLength k rowTokenLen (fixedWidthLen fixed) r + column.cellLen r := by
        rw [rowLength, Finset.sum_range_succ, fixedWidthLen_of hcolumn, rowLength, Nat.add_assoc]
      have hnext' : rowLength (k + 1) rowTokenLen (fixedWidthLen fixed) = _ := funext hnext
      rw [Nat.zero_add, addFixedWidthColumnLengths_eq_ok harray hrows, hnext']
      simp only [hcolumn, Option.some.injEq, forall_eq']) lengths
  have hinit : List.replicate rows rowTokenLen =
      (List.range rows).map (rowLength 0 rowTokenLen (fixedWidthLen fixed)) := by
    refine (List.eq_replicate_iff.mpr ⟨by simp, ?_⟩).symm
    intro n hn
    obtain ⟨r, -, rfl⟩ := List.mem_map.mp hn
    rfl
  simp only [Nat.zero_add] at hloop
  rw [hinit, ← forEach_zipIdx_fst, hloop]
  refine and_congr_left fun _ => ⟨fun h k column hcolumn => ?_, fun h k _ column hcolumn => h k column hcolumn⟩
  exact h k (List.getElem?_eq_some_iff.mp hcolumn).1 column hcolumn

theorem measureFixedWidthRows_eq_ok (harrays : HaveArrays rows fixed) {layout : FixedWidthRowsLayout} :
    measureFixedWidthRows rows fixed = .ok layout ↔ (∀ column ∈ fixed, column.Measurable) ∧
      rowStart fixed.length rowTokenLen (fixedWidthLen fixed) rows < 2 ^ 64 ∧
      layout = rowsLayout rows fixed.length (fixedWidthLen fixed) := by
  rw [measureFixedWidthRows, bind_eq_ok]
  constructor
  · rintro ⟨lengths, hlengths, hlayout⟩
    obtain ⟨hmeasured, rfl⟩ := (rowLengths_eq_ok harrays).mp hlengths
    refine ⟨fun column hcolumn => ?_, placeRows_eq_ok.mp hlayout⟩
    obtain ⟨k, hk⟩ := List.mem_iff_getElem?.mp hcolumn
    exact (hmeasured k column hk).1
  · rintro ⟨hmeasured, hfits, rfl⟩
    refine ⟨_, (rowLengths_eq_ok harrays).mpr ⟨fun k column hcolumn => ?_, rfl⟩, placeRows_eq_ok.mpr ⟨hfits, rfl⟩⟩
    refine ⟨hmeasured column (List.mem_of_getElem? hcolumn), fun r hr => lt_of_le_of_lt ?_ hfits⟩
    obtain ⟨hk, -⟩ := List.getElem?_eq_some_iff.mp hcolumn
    have hrow : rowLength (k + 1) rowTokenLen (fixedWidthLen fixed) r ≤
        rowLength fixed.length rowTokenLen (fixedWidthLen fixed) r := by
      have hsum := Finset.sum_le_sum_of_subset (f := fun j => fixedWidthLen fixed r j)
        (Finset.range_subset_range.mpr (Nat.succ_le_of_lt hk))
      exact Nat.add_le_add_left hsum rowTokenLen
    have hend : rowStart fixed.length rowTokenLen (fixedWidthLen fixed) (r + 1) ≤
        rowStart fixed.length rowTokenLen (fixedWidthLen fixed) rows := rowStart_mono hr
    rw [rowStart_succ] at hend
    omega

theorem measureFixedWidthRows_safe (harrays : HaveArrays rows fixed)
    (hzones : ∀ column ∈ fixed, Safe (validateColumnTimezoneMetadata column.nulls column)) :
    Safe (measureFixedWidthRows rows fixed) := by
  apply safe_bind
  · rw [← forEach_zipIdx_fst]
    refine (forEach_zipIdx_safe (fun _ _ => True) 0 (fun k column hcolumn s _ => ?_) trivial).1
    have hmem := List.mem_of_getElem? hcolumn
    exact ⟨addFixedWidthColumnLengths_safe (harrays column hmem).1 (hzones column hmem), fun _ _ => trivial⟩
  · intro lengths _
    rw [← forEach_zipIdx_fst]
    refine (forEach_zipIdx_safe (fun _ _ => True) 0 (fun k column hcolumn s _ => ⟨?_, fun _ _ => trivial⟩) trivial).1
    exact safe_bind (safe_checkedAdd _ _) fun _ _ => safe_bind (safe_checkedAdd _ _) fun _ _ => safe_ok _

end Rows

end ArrowTiberius.Direct.FixedWidth
