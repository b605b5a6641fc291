import ArrowTiberius.Direct.Rows.FixedWidthEquivalence

namespace ArrowTiberius.Direct

open Checked Tiling

namespace FixedWidth

variable {fastPath : FastPath}

theorem fixedWidthColumn_of_some {column : BoundDirectColumn} {fixed : FixedWidthColumn}
    (h : fixedWidthColumn fastPath column = some fixed) : fixedWidthColumn {} column = some fixed := by
  have hlen (plan : DirectColumnPlan) (n : ℕ) (hn : fixedWidthNonNullCellLen fastPath plan = some n) :
      fixedWidthNonNullCellLen {} plan = some n := by
    unfold fixedWidthNonNullCellLen at hn ⊢
    split at hn
    case h_2 | h_3 =>
      split at hn
      case isTrue => cases hn
      case isFalse => exact hn
    all_goals exact hn
  simp only [fixedWidthColumn, Option.bind_eq_bind, Option.bind_eq_some_iff] at h ⊢
  obtain ⟨parts, hparts, n, hn, rest⟩ := h
  exact ⟨parts, hparts, n, hlen _ n hn, rest⟩

theorem fixedWidthColumns_of_some {columns : List BoundDirectColumn} {fixed : List FixedWidthColumn}
    (h : fixedWidthColumns fastPath columns = some fixed) : fixedWidthColumns {} columns = some fixed := by
  unfold fixedWidthColumns at h ⊢
  split at h
  case isTrue => cases h
  case isFalse =>
    change columns.mapM (fixedWidthColumn {}) = some fixed
    induction columns generalizing fixed with
    | nil => exact h
    | cons column columns ih =>
      rw [List.mapM_cons] at h ⊢
      simp only [Option.bind_eq_bind, Option.bind_eq_some_iff] at h ⊢
      obtain ⟨first, hfirst, rest, hrest, hfixed⟩ := h
      exact ⟨first, fixedWidthColumn_of_some hfirst, rest, ih hrest, hfixed⟩

variable [Externals] {mappings : List SchemaMapping} {context : RuntimeConversionContext} {encoder : DirectEncoder}
  {batch : RecordBatch} {bound : BoundDirectBatch} {fixed : List FixedWidthColumn} {payload : EncodedRowsPayload}

theorem takes_of_some (hencoder : DirectEncoder.newWithContext mappings context = .ok encoder)
    (hlimit : BinaryWithinLimit mappings) (hbound : BoundDirectBatch.new encoder batch = .ok bound)
    (h : fixedWidthColumns fastPath bound.columns = some fixed) : Takes bound fixed := by
  have hsome := fixedWidthColumns_of_some h
  have hall : ∀ column ∈ bound.columns, column.isFixedWidth = true := by
    by_contra hwide
    push Not at hwide
    obtain ⟨column, hmem, hnot⟩ := hwide
    have hnone := mapM_eq_none ⟨column, hmem, Bool.eq_false_iff.mpr hnot⟩
    rw [fixedWidthColumns, if_neg (by decide), hnone] at hsome
    cases hsome
  obtain ⟨fixed', hfixed', htakes⟩ := exists_takes hencoder hlimit hbound hall
  rw [hsome, Option.some.injEq] at hfixed'
  exact hfixed' ▸ htakes

end FixedWidth

variable [Externals] {mappings : List SchemaMapping} {context : RuntimeConversionContext} {encoder : DirectEncoder}
  {batch : RecordBatch} {bound : BoundDirectBatch} {fastPath : FixedWidth.FastPath} {payload : EncodedRowsPayload}

namespace BoundDirectBatch

theorem writes_of_no_rows (hrows : bound.rowCount = 0) :
    EncodedRowsPayload.new [] [] = .ok payload ↔ bound.Accepts ∧ bound.Fits ∧ bound.Writes payload := by
  have haccepts : bound.Accepts := fun r hr => absurd hr (by omega)
  have hfits : bound.Fits := by
    rw [Fits, hrows, rowStart_zero, Nat.zero_mul]
    exact ⟨by decide, by decide⟩
  rw [Writes, hrows, new_empty]
  exact ⟨fun h => ⟨haccepts, hfits, h⟩, fun h => h.2.2⟩

end BoundDirectBatch

/-- A batch is encoded exactly when no column refuses a cell and the rows fit, whichever path encodes it. -/
theorem encodeBatch_eq_ok (hencoder : DirectEncoder.newWithContext mappings context = .ok encoder)
    (hlimit : BinaryWithinLimit mappings) (hshape : validateRecordBatchEncodingShape batch mappings = .ok ())
    (hbound : BoundDirectBatch.new encoder batch = .ok bound) :
    encoder.encodeBatch fastPath batch = .ok payload ↔ bound.Accepts ∧ bound.Fits ∧ bound.Writes payload := by
  obtain ⟨hmappings, -⟩ := newWithContext_eq_ok.mp hencoder
  have hlawful := lawful_of_new hencoder hlimit hbound
  obtain ⟨-, -, hrows⟩ := boundBatch_new_eq_ok.mp hbound
  rw [DirectEncoder.encodeBatch, DirectEncoder.encodeCheckedBatch, hmappings, hshape, ok_bind]
  by_cases hempty : encoder.plan.columns = [] ∧ batch.numRows = 0
  · rw [if_pos hempty, BoundDirectBatch.writes_of_no_rows (hrows.trans hempty.2)]
  rw [if_neg hempty, hbound, ok_bind]
  by_cases hzero : bound.rowCount = 0
  · rw [FixedWidth.tryEncodeFixedWidthRows, if_pos hzero, ← BoundDirectBatch.writes_of_no_rows hzero]
    cases EncodedRowsPayload.new [] [] <;> rfl
  cases hfixed : FixedWidth.fixedWidthColumns fastPath bound.columns with
  | none =>
    rw [FixedWidth.tryEncode_of_none hzero hfixed, ok_bind]
    exact hlawful.encodeRows_eq_ok
  | some fixed =>
    have htakes := FixedWidth.takes_of_some hencoder hlimit hbound hfixed
    rw [FixedWidth.tryEncode_of_some hzero hfixed, ← hlawful.encodeRows_eq_ok, bind_eq_ok]
    constructor
    · rintro ⟨o, ho, hpayload⟩
      obtain ⟨written, rfl, hwritten⟩ := (FixedWidth.measureAndEncode_eq_ok htakes hlawful).mp ho
      exact hwritten.trans hpayload
    · intro hwritten
      exact ⟨_, (FixedWidth.measureAndEncode_eq_ok htakes hlawful).mpr ⟨payload, rfl, hwritten⟩, rfl⟩

end ArrowTiberius.Direct
