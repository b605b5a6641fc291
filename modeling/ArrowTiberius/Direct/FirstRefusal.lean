import ArrowTiberius.Direct.MeasureFailures

namespace ArrowTiberius.Direct

open Checked Tiling

section Column

variable {rows k columns : ℕ} {cellLen : ℕ → Result ℕ} {fault : Fault Error}

theorem measureColumn_eq_error {cellLengths : List ℕ} (hk : k < columns)
    (hlength : cellLengths.length = rows * columns)
    (h : measureColumn rows ⟨k, columns⟩ cellLengths cellLen = .error fault) :
    ∃ r < rows, (∀ r' < r, ∃ n, cellLen r' = .ok n) ∧ cellLen r = .error fault := by
  have hindex {r : ℕ} (hr : r < rows) {s : List ℕ} (hs : s.length = rows * columns) : r * columns + k < s.length := by
    have hnext := Nat.mul_le_mul_right columns (Nat.succ_le_of_lt hr)
    rw [Nat.succ_mul] at hnext
    omega
  obtain ⟨r, hr, s, hbefore, hs, hstop⟩ := forRange_eq_error (fun r => ∃ n, cellLen r = .ok n)
    (fun s : List ℕ => s.length = rows * columns)
    (by
      intro r hr s s' hs hs'
      obtain ⟨n, hn, hset⟩ := bind_eq_ok.mp hs'
      rw [setIndex_of_lt (hindex hr hs)] at hset
      cases hset
      refine ⟨⟨n, hn⟩, ?_⟩
      rw [length_splice (Nat.succ_le_of_lt (hindex hr hs))]
      exact hs) hlength h
  refine ⟨r, hr, hbefore, ?_⟩
  rcases bind_eq_error.mp hstop with herror | ⟨n, -, hset⟩
  · exact herror
  · rw [setIndex_of_lt (hindex hr hs)] at hset
    cases hset

theorem measureColumn_succeeds (n : ℕ) : (∃ cellLengths, measureColumn n ⟨0, 1⟩ (table n 1 fun _ _ => 0) cellLen =
    .ok cellLengths) ↔ ∀ r < n, ∃ m, cellLen r = .ok m := by
  have htable (cellLengths : List ℕ) := @measureColumn_table n 0 1 (fun r => (cellLen r).toOption) (fun _ _ => 0)
    cellLen cellLengths (by decide) fun r _ m => toOption_eq_some.symm
  simp only [htable, exists_and_left, exists_eq, and_true, Option.isSome_iff_exists, toOption_eq_some]

variable [Externals] {context : RuntimeConversionContext} {column : BoundDirectColumn} {field : FieldRef}

theorem measureCellLengths_eq_error (hlawful : ∀ n ≤ rows, (column.slice 0 n).Lawful context n)
    (hcells : MeasuresCells field rows fun n => (column.slice 0 n).measureCellLengths context) (hk : k < columns)
    {cellLengths : List ℕ} (hlength : cellLengths.length = rows * columns)
    (h : (column.slice 0 rows).measureCellLengths context ⟨k, columns⟩ cellLengths = .error fault) :
    ∃ e r, fault = .error e ∧ r < rows ∧ RefusesCell field r e ∧ column.cellBytes context r = none ∧
      ∀ r' < r, (column.cellBytes context r').isSome := by
  obtain ⟨cellLen, hmeasure, hfails⟩ := hcells
  dsimp only at hmeasure
  have hreads (n : ℕ) (hn : n ≤ rows) :
      (∀ r < n, ∃ m, cellLen r = .ok m) ↔ ∀ r < n, (column.cellBytes context r).isSome := by
    rw [← measureColumn_succeeds]
    simp only [← hmeasure, (hlawful n hn).measure_table (by decide : 0 < 1), BoundDirectColumn.cellBytes_slice,
      Nat.zero_add, exists_and_left, exists_eq, and_true]
  rw [hmeasure] at h
  obtain ⟨r, hr, hbefore, hstop⟩ := measureColumn_eq_error hk hlength h
  have hsome := (hreads r hr.le).mp hbefore
  have hfail := hfails r hr
  rw [hstop] at hfail
  cases hfail with
  | @error e he =>
    refine ⟨e, r, rfl, hr, he, ?_, hsome⟩
    by_contra hcell
    obtain ⟨m, hm⟩ := (hreads (r + 1) hr).mpr (by
      intro r' hr'
      rcases Nat.lt_succ_iff_lt_or_eq.mp hr' with hlt | rfl
      · exact hsome r' hlt
      · exact Option.ne_none_iff_isSome.mp hcell) r (Nat.lt_succ_self r)
    rw [hstop] at hm
    cases hm

end Column

section Batch

variable [Externals] {encoder : DirectEncoder} {batch : RecordBatch} {mappings : List SchemaMapping}
  {context : RuntimeConversionContext} {bound : BoundDirectBatch} {fault : Fault Error}

theorem lawful_slice (hencoder : DirectEncoder.newWithContext mappings context = .ok encoder)
    (hlimit : BinaryWithinLimit mappings) (hbound : BoundDirectBatch.new encoder batch = .ok bound)
    {column : BoundDirectColumn} (hmem : column ∈ bound.columns) {n : ℕ} (hn : n ≤ batch.numRows) :
    (column.slice 0 n).Lawful bound.runtimeContext n := by
  have hslice := boundBatch_new_slice (show 0 + n ≤ batch.numRows by omega) hbound
  exact lawful_of_new hencoder hlimit hslice _ (List.mem_map_of_mem hmem)

theorem measureBoundBatch_eq_error (hencoder : DirectEncoder.newWithContext mappings context = .ok encoder)
    (hlimit : BinaryWithinLimit mappings) (hbound : BoundDirectBatch.new encoder batch = .ok bound)
    (hwire : WithinWireLimits mappings batch) (hshape : validateRecordBatchEncodingShape batch mappings = .ok ())
    (hcells : bound.rowCount * bound.columns.length < 2 ^ 64) (h : bound.measureCellLengths = .error fault) :
    ∃ e i r mapping, fault = .error e ∧ mappings[i]? = some mapping ∧ r < bound.rowCount ∧
      RefusesCell (sourceField mapping) r e ∧ bound.cellBytes r i = none ∧
      (∀ r' < r, (bound.cellBytes r' i).isSome) ∧
      ∀ i' < i, ∀ r' < bound.rowCount, (bound.cellBytes r' i').isSome := by
  have hlawful := lawful_of_new hencoder hlimit hbound
  obtain ⟨hcolumns, -, hrows⟩ := boundBatch_new_eq_ok.mp hbound
  obtain ⟨hmappings, -⟩ := newWithContext_eq_ok.mp hencoder
  have hcount : fitsUnsigned 64 (bound.rowCount * bound.columns.length : ℕ) :=
    fitsUnsigned_64.mpr ⟨by positivity, by exact_mod_cast hcells⟩
  unfold BoundDirectBatch.measureCellLengths at h
  split at h
  · cases h
  · dsimp only at h
    rw [unsignedOp_of_fits hcount, ok_bind, Int.toNat_natCast, replicate_eq_table] at h
    obtain ⟨k, column, _, hcolumn, hbefore, ⟨entry, rfl⟩, hstop⟩ := forEach_zipIdx_eq_error
      (fun i => ∀ r < bound.rowCount, (bound.cellBytes r i).isSome)
      (fun s => ∃ entry, s = table bound.rowCount bound.columns.length entry) 0
      (by
        rintro i column hcolumn _ s' ⟨entry, rfl⟩ hs'
        obtain ⟨hi, -⟩ := List.getElem?_eq_some_iff.mp hcolumn
        rw [Nat.zero_add] at hs' ⊢
        obtain ⟨hsome, hs'⟩ := ((hlawful column (List.mem_of_getElem? hcolumn)).measure_table hi).mp hs'
        refine ⟨?_, _, hs'⟩
        intro r hr
        rw [BoundDirectBatch.Lawful.cellBytes_of_getElem? hcolumn]
        exact hsome r hr) ⟨_, rfl⟩ h
    obtain ⟨hk, -⟩ := List.getElem?_eq_some_iff.mp hcolumn
    obtain ⟨mapping, encoding, array, hmapping, hencodes, harray, hbind⟩ := bound_column hencoder hcolumns hcolumn
    obtain ⟨_, -, hindex, -⟩ := column_of_shape hshape hmapping
    rw [hindex] at harray
    have hlen : array.len = bound.rowCount := (batch.sized array (List.mem_of_getElem? harray)).trans hrows.symm
    have hmeasures := @measuresCells_of_bind _ encoder array k mapping encoding column bound.runtimeContext hencodes
      (hlimit mapping (List.mem_of_getElem? hmapping)) (hmappings ▸ hmapping) hbind
      (hwire k mapping array hmapping harray)
    have hwhole := slice_of_bind hbind
    rw [hlen] at hmeasures hwhole
    rw [Nat.zero_add] at hstop
    obtain ⟨e, r, hfault, hr, hrefuses, hnone, hsome⟩ := @measureCellLengths_eq_error bound.rowCount k
      bound.columns.length fault _ bound.runtimeContext column _
      (fun n hn => lawful_slice hencoder hlimit hbound (List.mem_of_getElem? hcolumn) (hrows ▸ hn)) hmeasures hk _
      (length_table _ _ entry) (hwhole.symm ▸ hstop)
    have hcell := @BoundDirectBatch.Lawful.cellBytes_of_getElem? _ bound k column hcolumn
    simp only [Nat.zero_add] at hbefore
    refine ⟨e, k, r, mapping, hfault, hmapping, hr, hrefuses, ?_, ?_, hbefore⟩
    · rw [hcell]
      exact hnone
    · intro r' hr'
      rw [hcell]
      exact hsome r' hr'

end Batch

end ArrowTiberius.Direct
