import ArrowTiberius.Direct.EncoderLaw

namespace ArrowTiberius.Direct

open Checked Tiling

variable [Externals] {bound : BoundDirectBatch} {m : MeasuredDirectBatch}

namespace BoundDirectBatch.Lawful

theorem appendCells_eq_ok (h : bound.Lawful) (haccepts : bound.Accepts)
    (hm : Measures bound.rowCount bound.columns.length bound.cellLength m) {r : ℕ} (hr : r < bound.rowCount)
    {tokens : List ℕ} {written : ℕ} {buf : List UInt8}
    (hfits : written + ∑ c ∈ Finset.range bound.columns.length, bound.cellLength r c < 2 ^ 64) :
    forEach bound.columns.zipIdx ⟨tokens, written, buf⟩ (DirectEncoder.appendMeasuredCell bound m r) =
      .ok ⟨tokens, written + ∑ c ∈ Finset.range bound.columns.length, bound.cellLength r c,
        buf ++ tile bound.columns.length (bound.bytes r)⟩ := by
  have hloop := @forEach_zipIdx_eq_ok_iff Error _ _ bound.columns (DirectEncoder.appendMeasuredCell bound m r)
    (fun _ => True)
    (fun k => ⟨tokens, written + ∑ c ∈ Finset.range k, bound.cellLength r c, buf ++ tile k (bound.bytes r)⟩) 0
    (by
      intro k column hcolumn s'
      obtain ⟨hk, -⟩ := List.getElem?_eq_some_iff.mp hcolumn
      obtain ⟨hbytes, hlength⟩ := cellBytes_of_accepts haccepts hcolumn r hr
      have happend : column.appendCell bound.runtimeContext (buf ++ tile k (bound.bytes r)) r (bound.bytes r k).length =
          .ok (buf ++ tile k (bound.bytes r) ++ bound.bytes r k) :=
        (h column (List.mem_of_getElem? hcolumn)).append_cell hbytes
      have hsum := Finset.sum_le_sum_of_subset (f := fun c => bound.cellLength r c) (Finset.range_subset_range.mpr hk)
      rw [Nat.succ_eq_add_one, Finset.sum_range_succ] at hsum
      have hwritten : FixedWidth.checkedAdd (written + ∑ c ∈ Finset.range k, bound.cellLength r c)
          (bound.cellLength r k) = .ok (written + ∑ c ∈ Finset.range (k + 1), bound.cellLength r c) := by
        rw [FixedWidth.checkedAdd, checkedAdd_of_lt (by omega), okOr_some, Finset.sum_range_succ, Nat.add_assoc]
      rw [hlength] at happend
      rw [Nat.zero_add, DirectEncoder.appendMeasuredCell, hm.cellLen_of_lt hr hk, ok_bind, happend, ok_bind, hwritten,
        ok_bind, pure_eq_ok, Except.ok.injEq, true_and, tile_succ, List.append_assoc]
      exact eq_comm)
  simp only [Nat.zero_add, Finset.range_zero, Finset.sum_empty, Nat.add_zero, tile_zero, List.append_nil] at hloop
  exact (hloop _).mpr ⟨fun _ _ => trivial, rfl⟩

theorem appendRows_eq_ok (h : bound.Lawful) (haccepts : bound.Accepts)
    (hm : Measures bound.rowCount bound.columns.length bound.cellLength m) {start count : ℕ}
    (hle : start + count ≤ bound.rowCount) (buf : List UInt8) :
    forRange count ⟨[], 0, buf⟩ (fun s i => DirectEncoder.appendRow bound m s (start + i)) =
      .ok ⟨(List.range count).map (rowStart bound.columns.length rowTokenLen fun r => bound.cellLength (start + r)),
        rowStart bound.columns.length rowTokenLen (fun r => bound.cellLength (start + r)) count,
        buf ++ grid count bound.columns.length [tdsRowToken] fun r => bound.bytes (start + r)⟩ := by
  have hloop := @forRange_eq_ok_of_step Error _ count
    (fun s i => DirectEncoder.appendRow bound m s (start + i))
    (fun i => ⟨(List.range i).map (rowStart bound.columns.length rowTokenLen fun r => bound.cellLength (start + r)),
      rowStart bound.columns.length rowTokenLen (fun r => bound.cellLength (start + r)) i,
      buf ++ grid i bound.columns.length [tdsRowToken] fun r => bound.bytes (start + r)⟩)
    (by
      intro i hi
      have hsum := rowStart_add bound.columns.length rowTokenLen bound.cellLength start (i + 1)
      have hend : rowStart bound.columns.length rowTokenLen bound.cellLength (start + (i + 1)) ≤
          rowStart bound.columns.length rowTokenLen bound.cellLength bound.rowCount := rowStart_mono (by omega)
      have hfits := hm.fits
      rw [rowStart_succ, rowLength] at hsum
      have hgrid : grid (i + 1) bound.columns.length [tdsRowToken] (fun r => bound.bytes (start + r)) =
          grid i bound.columns.length [tdsRowToken] (fun r => bound.bytes (start + r)) ++
            ([tdsRowToken] ++ tile bound.columns.length (bound.bytes (start + i))) := tile_succ _ _
      have htoken : FixedWidth.checkedAdd (rowStart bound.columns.length rowTokenLen
          (fun r => bound.cellLength (start + r)) i) 1 = .ok (rowStart bound.columns.length rowTokenLen
            (fun r => bound.cellLength (start + r)) i + rowTokenLen) := by
        rw [FixedWidth.checkedAdd, checkedAdd_of_lt (by unfold rowTokenLen at *; omega), okOr_some]
        rfl
      rw [DirectEncoder.appendRow, htoken, ok_bind, h.appendCells_eq_ok haccepts hm (by omega) (by omega), hgrid,
        List.range_succ, List.map_append, rowStart_succ, rowLength, Nat.add_assoc]
      simp only [List.append_assoc, List.map_cons, List.map_nil])
  have hinit : buf ++ grid 0 bound.columns.length [tdsRowToken] (fun r => bound.bytes (start + r)) = buf :=
    List.append_nil buf
  rwa [hinit] at hloop

end BoundDirectBatch.Lawful

end ArrowTiberius.Direct
