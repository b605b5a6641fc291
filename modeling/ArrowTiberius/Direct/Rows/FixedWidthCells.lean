import ArrowTiberius.Direct.BindingLaw
import ArrowTiberius.Direct.Rows.FixedWidthCursors

namespace ArrowTiberius.Direct.FixedWidth

open Checked Tiling

variable {α : Type} {data : Arr α} {column : DirectColumnPlan}

def SoundCells (data : Arr α) (column : DirectColumnPlan) (cellBytes : ℕ → Option (List UInt8)) (len : ℕ → ℕ)
    (cell : ℕ → ℕ → List UInt8 → Result (List UInt8 × ℕ)) : Prop :=
  ∀ r, (data.isNull r = true → column.nullable = true) → CellLaw (cellBytes r) (len r) (cell r)

def nullOr (data : Arr α) (nullLen valueLen : ℕ) (r : ℕ) : ℕ := if data.isNull r then nullLen else valueLen

section Primitive

variable {valueLen : ℕ} {valueBytes : α → ℕ → Result (List UInt8)}

theorem writeFixedWidthValue_eq (data : Arr α) (column : DirectColumnPlan) (valueLen : ℕ)
    (valueBytes : α → ℕ → Result (List UInt8)) : writeFixedWidthValue data column valueLen valueBytes =
      writeCheckedFixedWidthValue data column valueLen valueBytes := by
  funext r offset bytes
  rw [writeFixedWidthValue, writeCheckedFixedWidthValue]
  by_cases hnullable : column.nullable = true
  · by_cases hnull : data.isNull r = true
    · simp only [hnullable, hnull, and_self, if_true]
    · simp only [hnullable, hnull, if_true, and_false, if_false, Bool.false_eq_true]
  · simp only [hnullable, if_false, false_and, Bool.false_eq_true]

theorem checked_cells (hvalueLen : valueLen < 256) (hrow : ∀ v r, (valueBytes v r).toOption = (valueBytes v 0).toOption)
    (hlen : ∀ v value, valueBytes v 0 = .ok value → value.length = valueLen) (hsafe : ∀ v r, Safe (valueBytes v r)) :
    SoundCells data column (Primitive.writtenBytes data column valueBytes)
      (nullOr data 1 (if column.nullable then valueLen + 1 else valueLen))
      (writeCheckedFixedWidthValue data column valueLen valueBytes) := by
  intro r hnulls
  refine ⟨fun {new} hnew => ?_, fun {offset new bytes} hnew hinside haddressable => ?_, fun {offset bytes} hnone => ?_⟩
  · unfold nullOr
    by_cases hnull : data.isNull r = true
    · obtain ⟨-, rfl⟩ := (Primitive.cellBytes_null hnull).mp hnew
      rw [if_pos hnull]
      rfl
    · obtain ⟨value, hvalue, rfl⟩ := (Primitive.cellBytes_value (Bool.eq_false_iff.mpr hnull)).mp hnew
      rw [if_neg hnull, ← hlen _ value (toOption_eq_some.mp hvalue)]
      split <;> simp
  · unfold writeCheckedFixedWidthValue
    by_cases hnull : data.isNull r = true
    · obtain ⟨hnullable, rfl⟩ := (Primitive.cellBytes_null hnull).mp hnew
      rw [List.length_singleton] at hinside
      rw [if_pos ⟨hnullable, hnull⟩, setIndex_of_lt (by omega), ok_bind]
      rfl
    · obtain ⟨value, hvalue, rfl⟩ := (Primitive.cellBytes_value (Bool.eq_false_iff.mpr hnull)).mp hnew
      have hlength := hlen _ value (toOption_eq_some.mp hvalue)
      rw [← hrow _ r, toOption_eq_some] at hvalue
      rw [if_neg (fun h => hnull h.2), hvalue, ok_bind]
      by_cases hnullable : column.nullable = true
      · simp only [hnullable, if_true] at hinside ⊢
        rw [List.length_cons] at hinside
        have hrest := @modifyRange_behind Error _ bytes [UInt8.ofNat valueLen] value offset (offset + cellLenPrefixLen)
          (offset + cellLenPrefixLen + valueLen) rfl (by rw [hlength])
          (by rw [List.singleton_append, List.length_cons]; exact hinside)
        rw [setIndex_of_lt (by omega), ok_bind, hrest, ok_bind, hlength]
        simp [cellLenPrefixLen, hlength, Nat.add_comm]
      · simp only [hnullable, if_false, Bool.false_eq_true] at hinside ⊢
        rw [modifyRange_of_le (by omega) (by omega) fun window hw => copyFromSlice_of_length (by omega), ok_bind, hlength]
        rfl
  · unfold writeCheckedFixedWidthValue
    by_cases hnull : data.isNull r = true
    · have hsome := (@Primitive.cellBytes_null _ _ column (fun v => (valueBytes v 0).toOption) r [0] hnull).mpr
        ⟨hnulls hnull, rfl⟩
      rw [Primitive.writtenBytes, hsome] at hnone
      cases hnone
    · have hvalue : (valueBytes (data.value r) r).toOption = none := by
        rw [hrow]
        by_contra hsome
        obtain ⟨value, hvalue⟩ := Option.ne_none_iff_exists'.mp hsome
        have hbytes := (@Primitive.cellBytes_value _ _ column (fun v => (valueBytes v 0).toOption) r _
          (Bool.eq_false_iff.mpr hnull)).mpr ⟨value, hvalue, rfl⟩
        rw [Primitive.writtenBytes, hbytes] at hnone
        cases hnone
      obtain ⟨e, he⟩ := fail_of_safe (hsafe _ r) hvalue
      exact ⟨e, by rw [if_neg (fun h => hnull h.2), he, fail_bind]⟩

theorem fixed_cells (hvalueLen : valueLen < 256)
    (hbytes : ∀ v, ∃ value, (∀ r, valueBytes v r = .ok value) ∧ value.length = valueLen) :
    SoundCells data column (Primitive.writtenBytes data column valueBytes)
      (nullOr data 1 (if column.nullable then valueLen + 1 else valueLen))
      (writeCheckedFixedWidthValue data column valueLen valueBytes) := by
  apply checked_cells hvalueLen
  · intro v r
    obtain ⟨value, hvalue, -⟩ := hbytes v
    rw [hvalue, hvalue]
  · intro v written hwritten
    obtain ⟨value, hvalue, hlength⟩ := hbytes v
    rw [hvalue, Except.ok.injEq] at hwritten
    rw [← hwritten, hlength]
  · intro v r
    obtain ⟨value, hvalue, -⟩ := hbytes v
    rw [hvalue]
    exact safe_ok value

end Primitive

theorem boolean_cell (data : Arr Bool) (column : DirectColumnPlan) : writeBooleanFixedWidthValue data column =
    writeCheckedFixedWidthValue data column 1 Primitive.booleanBytes := by
  rw [← writeFixedWidthValue_eq]
  funext r offset bytes
  rw [writeBooleanFixedWidthValue, writeFixedWidthValue, Primitive.booleanBytes]
  simp only [setIndex_eq_modifyRange, ok_bind]
  rfl

section Temporal

variable [Externals] {mapping : SchemaMapping} {valueLen : ℕ} {f : α → ℕ → Result Temporal.TemporalValue}
  {check validateNull : ℕ → Result Unit} {value : α → ℕ → Result (ℕ × (List UInt8 → Result (List UInt8)))}

theorem debugAssert_of {p : Prop} [Decidable p] (h : p) : debugAssert p = .ok () := by
  rw [debugAssert, assert_of h, ite_self]

theorem temporal_cells {kind : String}
    (hcheck : ∀ r, check r = .ok () ↔ Temporal.zonesResolve mapping = true) (hcheckSafe : ∀ r, Safe (check r))
    (hvalidateNull : validateNull = check)
    (hvalue : ∀ v r, value v r = (do
      check r
      let value ← f v r
      let len ← Temporal.temporalValueCellLen column value
      pure (len, value.writeCell column)))
    (hrow : ∀ v r s, (f v r).toOption = (f v s).toOption) (hsafe : ∀ v r, Safe (f v r))
    (hsuits : ∀ v value, (f v 0).toOption = some value → Temporal.Suits column value)
    (hlen : ∀ v value, (f v 0).toOption = some value → Temporal.temporalValueCellLen column value = .ok valueLen) :
    SoundCells data column (Temporal.cellBytes data mapping column fun v => (f v 0).toOption) (nullOr data 1 valueLen)
      (writeTemporalFixedWidthValue kind data column validateNull value) := by
  intro r hnulls
  refine ⟨fun {new} hnew => ?_, fun {offset new bytes} hnew hinside haddressable => ?_, fun {offset bytes} hnone => ?_⟩
  · unfold nullOr
    by_cases hnull : data.isNull r = true
    · obtain ⟨-, -, rfl⟩ := (Temporal.cellBytes_null hnull).mp hnew
      rw [if_pos hnull]
      rfl
    · obtain ⟨-, v, hv, rfl⟩ := (Temporal.cellBytes_value (Bool.eq_false_iff.mpr hnull)).mp hnew
      have hlength := hlen _ v hv
      rw [Temporal.temporalValueCellLen_of_suits (hsuits _ v hv), Except.ok.injEq] at hlength
      rw [if_neg hnull, hlength]
  · have hzones := (hcheck r).mpr (Temporal.zones_of_cellBytes hnew)
    unfold writeTemporalFixedWidthValue
    by_cases hnull : data.isNull r = true
    · obtain ⟨-, hnullable, rfl⟩ := (Temporal.cellBytes_null hnull).mp hnew
      rw [List.length_singleton] at hinside
      rw [if_pos hnull, debugAssert_of hnullable, ok_bind, hvalidateNull, hzones, ok_bind, setIndex_of_lt (by omega), ok_bind]
      rfl
    · obtain ⟨-, v, hv, rfl⟩ := (Temporal.cellBytes_value (Bool.eq_false_iff.mpr hnull)).mp hnew
      have hsuit := hsuits _ v hv
      rw [hrow _ 0 r, toOption_eq_some] at hv
      rw [if_neg hnull, hvalue, hzones, ok_bind, hv, ok_bind, Temporal.temporalValueCellLen_of_suits hsuit, ok_bind,
        pure_eq_ok, ok_bind]
      dsimp only
      rw [unsignedOp_of_fits (fitsUnsigned_64.mpr (by omega)), ok_bind, Int.toNat_natCast, ensure_of hinside, ok_bind,
        modifyRange_of_le (by omega) hinside fun window hw => Temporal.writeCell_of_suits hsuit (by omega), ok_bind]
      rfl
  · unfold writeTemporalFixedWidthValue
    by_cases hzones : check r = .ok ()
    · have hresolve := (hcheck r).mp hzones
      by_cases hnull : data.isNull r = true
      · rw [(Temporal.cellBytes_null hnull).mpr ⟨hresolve, hnulls hnull, rfl⟩] at hnone
        cases hnone
      · have hv : (f (data.value r) r).toOption = none := by
          rw [hrow _ r 0]
          by_contra hsome
          obtain ⟨v, hv⟩ := Option.ne_none_iff_exists'.mp hsome
          rw [(Temporal.cellBytes_value (Bool.eq_false_iff.mpr hnull)).mpr ⟨hresolve, v, hv, rfl⟩] at hnone
          cases hnone
        obtain ⟨e, he⟩ := fail_of_safe (hsafe _ r) hv
        exact ⟨e, by rw [if_neg hnull, hvalue, hzones, ok_bind, he, fail_bind, fail_bind]⟩
    · have hnoZone : (check r).toOption = none := by
        by_contra hsome
        obtain ⟨u, hu⟩ := Option.ne_none_iff_exists'.mp hsome
        exact hzones (toOption_eq_some.mp hu)
      obtain ⟨e, he⟩ := fail_of_safe (hcheckSafe r) hnoZone
      by_cases hnull : data.isNull r = true
      · exact ⟨e, by rw [if_pos hnull, debugAssert_of (hnulls hnull), ok_bind, hvalidateNull, he, fail_bind]⟩
      · exact ⟨e, by rw [if_neg hnull, hvalue, he, fail_bind, fail_bind]⟩

end Temporal

end ArrowTiberius.Direct.FixedWidth
