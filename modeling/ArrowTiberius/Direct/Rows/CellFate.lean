import ArrowTiberius.Direct.Rows.FixedWidthCells

namespace ArrowTiberius.Direct

open Checked Tiling

namespace FixedWidth

/-- What a column's loop makes of a cell wherever the cell stands: an error, a panic, or bytes at the cursor of the row.
Where they do not fit, a checked cell is an error and any other a panic. -/
inductive CellFate where
  | refused
  | halted
  | written (bytes : List UInt8) (checked : Bool)

namespace CellFate

def ofBytes (checked : Bool) : Option (List UInt8) → CellFate
  | some bytes => .written bytes checked
  | none => .refused

def bytes : CellFate → List UInt8
  | .written bytes _ => bytes
  | _ => []

def checked : CellFate → Bool
  | .written _ checked => checked
  | _ => false

theorem ofBytes_eq_written {checked checked' : Bool} {o : Option (List UInt8)} {new : List UInt8} :
    ofBytes checked o = .written new checked' ↔ o = some new ∧ checked = checked' := by
  cases o <;> simp [ofBytes]

theorem ofBytes_eq_refused {checked : Bool} {o : Option (List UInt8)} : ofBytes checked o = .refused ↔ o = none := by
  cases o <;> simp [ofBytes]

theorem ofBytes_ne_halted {checked : Bool} {o : Option (List UInt8)} : ofBytes checked o ≠ .halted := by
  cases o <;> simp [ofBytes]

end CellFate

structure Follows (fate : CellFate) (cell : ℕ → List UInt8 → Result (List UInt8 × ℕ)) : Prop where
  refused : ∀ {offset : ℕ} {bytes : List UInt8}, fate = .refused → ∃ e, cell offset bytes = fail e
  halted : ∀ {offset : ℕ} {bytes : List UInt8}, fate = .halted → cell offset bytes = crash
  inside : ∀ {offset : ℕ} {new bytes : List UInt8} {checked : Bool}, fate = .written new checked →
    offset + new.length ≤ bytes.length → bytes.length < 2 ^ 64 →
    cell offset bytes = .ok (splice bytes offset new, new.length)
  outside : ∀ {offset : ℕ} {new bytes : List UInt8} {checked : Bool}, fate = .written new checked →
    bytes.length < offset + new.length → ∃ fault, cell offset bytes = .error fault ∧
      (fault = .panic ↔ ¬(checked = true ∧ offset + new.length < 2 ^ 64))

section Follows

variable {cell : ℕ → List UInt8 → Result (List UInt8 × ℕ)}

theorem follows_refused (h : ∀ offset bytes, ∃ e, cell offset bytes = fail e) : Follows .refused cell := by
  constructor
  case refused =>
    intro offset bytes _
    exact h offset bytes
  all_goals
    intros
    contradiction

theorem follows_halted (h : ∀ offset bytes, cell offset bytes = crash) : Follows .halted cell := by
  constructor
  case halted =>
    intro offset bytes _
    exact h offset bytes
  all_goals
    intros
    contradiction

theorem follows_written {new : List UInt8} {checked : Bool}
    (hinside : ∀ offset bytes, offset + new.length ≤ bytes.length → bytes.length < 2 ^ 64 →
      cell offset bytes = .ok (splice bytes offset new, new.length))
    (houtside : ∀ offset bytes, bytes.length < offset + new.length → ∃ fault, cell offset bytes = .error fault ∧
      (fault = .panic ↔ ¬(checked = true ∧ offset + new.length < 2 ^ 64))) : Follows (.written new checked) cell := by
  constructor
  case inside =>
    rintro offset _ bytes _ ⟨⟩
    exact hinside offset bytes
  case outside =>
    rintro offset _ bytes _ ⟨⟩
    exact houtside offset bytes
  all_goals
    intros
    contradiction

end Follows

theorem CellLaw.follows {cellBytes : Option (List UInt8)} {len : ℕ} {checked : Bool}
    {cell : ℕ → List UInt8 → Result (List UInt8 × ℕ)} (h : CellLaw cellBytes len cell)
    (houtside : ∀ {offset offset' n : ℕ} {bytes bytes' done : List UInt8}, cell offset' bytes' = .ok (done, n) →
      bytes.length < offset + n → ∃ fault, cell offset bytes = .error fault ∧
        (fault = .panic ↔ ¬(checked = true ∧ offset + n < 2 ^ 64)))
    (haddressable : ∀ new, cellBytes = some new → new.length < 2 ^ 64) :
    Follows (.ofBytes checked cellBytes) cell where
  refused hfate := h.refuse (CellFate.ofBytes_eq_refused.mp hfate)
  halted hfate := absurd hfate CellFate.ofBytes_ne_halted
  inside hfate := h.accept (CellFate.ofBytes_eq_written.mp hfate).1
  outside {_ new _ _} hfate hout := by
    obtain ⟨hbytes, rfl⟩ := CellFate.ofBytes_eq_written.mp hfate
    have hroom := @h.accept 0 new (List.replicate new.length 0) hbytes (by simp)
      (by simpa using haddressable new hbytes)
    exact houtside hroom hout

section Primitive

variable {α : Type} {data : Arr α} {column : DirectColumnPlan} {valueLen : ℕ}
  {valueBytes : α → ℕ → Result (List UInt8)} {len : Arr α → ℕ → ℕ}

def seenArray (data : Arr α) (nullable : Bool) : Arr α := ⟨data.len, fun r => nullable && data.isNull r, data.value⟩

theorem writeChecked_seen : writeCheckedFixedWidthValue (seenArray data column.nullable) column valueLen valueBytes =
    writeCheckedFixedWidthValue data column valueLen valueBytes := by
  funext r offset bytes
  simp only [writeCheckedFixedWidthValue, seenArray]
  by_cases hnullable : column.nullable = true <;> simp [hnullable]

theorem writeChecked_outside {r offset offset' n : ℕ} {bytes bytes' done : List UInt8}
    (h : writeCheckedFixedWidthValue data column valueLen valueBytes r offset' bytes' = .ok (done, n))
    (hout : bytes.length < offset + n) :
    writeCheckedFixedWidthValue data column valueLen valueBytes r offset bytes = crash := by
  unfold writeCheckedFixedWidthValue at h ⊢
  by_cases hnull : column.nullable = true ∧ data.isNull r = true
  · rw [if_pos hnull] at h ⊢
    obtain ⟨_, -, h⟩ := bind_eq_ok.mp h
    cases h
    rw [setIndex_outside (by simp only [cellLenPrefixLen] at hout; omega), crash_bind]
  · rw [if_neg hnull] at h ⊢
    obtain ⟨value, hvalue, h⟩ := bind_eq_ok.mp h
    rw [hvalue, ok_bind]
    by_cases hnullable : column.nullable = true
    · rw [if_pos hnullable] at h ⊢
      obtain ⟨_, -, h⟩ := bind_eq_ok.mp h
      obtain ⟨_, -, h⟩ := bind_eq_ok.mp h
      cases h
      have htwo := @modifyRange_two_outside Error _ bytes [UInt8.ofNat valueLen] offset (offset + cellLenPrefixLen)
        (offset + cellLenPrefixLen + valueLen) rfl (by omega) fun dst => copyFromSlice dst value
      rw [setIndex_eq_modifyRange, ← bind_assoc]
      exact congrArg (· >>= _) htwo
    · rw [if_neg hnullable] at h ⊢
      obtain ⟨_, -, h⟩ := bind_eq_ok.mp h
      cases h
      rw [modifyRange_outside (by omega), crash_bind]

theorem primitive_follows
    (hcells : ∀ data : Arr α, SoundCells data column (Primitive.writtenBytes data column valueBytes) (len data)
      (writeCheckedFixedWidthValue data column valueLen valueBytes))
    (haddressable : ∀ r, len (seenArray data column.nullable) r < 2 ^ 64) (r : ℕ) :
    Follows (.ofBytes false (Primitive.writtenBytes (seenArray data column.nullable) column valueBytes r))
      (writeCheckedFixedWidthValue data column valueLen valueBytes r) := by
  rw [← writeChecked_seen]
  have hlaw := hcells (seenArray data column.nullable) r (by
    intro hnull
    exact (Bool.and_eq_true_iff.mp hnull).1)
  apply hlaw.follows
  · intro offset offset' n bytes bytes' done h hout
    refine ⟨.panic, writeChecked_outside h hout, iff_of_true rfl ?_⟩
    rintro ⟨hchecked, -⟩
    cases hchecked
  · intro new hnew
    rw [hlaw.length hnew]
    exact haddressable r

end Primitive

section FixedSizeBinary

variable {data : Arr (List UInt8)} {column : DirectColumnPlan} {length : ℕ}

def binaryFate (data : Arr (List UInt8)) (column : DirectColumnPlan) (length r : ℕ) : CellFate :=
  if length < 2 ^ 16 then
    if data.isNull r then
      if column.nullable then .written FixedSizeBinary.nullBytes false else .refused
    else if (data.value r).length = length then .written (LittleEndian.encode 2 length ++ data.value r) false
    else .refused
  else .refused

theorem binary_follows (hlength : length < 2 ^ 16) (r : ℕ) :
    Follows (binaryFate data column length r) (writeFixedSizeBinaryFixedWidthValue data column length r) := by
  unfold binaryFate
  rw [if_pos hlength]
  by_cases hnull : data.isNull r = true
  · rw [if_pos hnull]
    by_cases hnullable : column.nullable = true
    · rw [if_pos hnullable]
      have hlen : FixedSizeBinary.nullBytes.length = fixedSizeBinaryLenPrefixLen := rfl
      apply follows_written
      · intro offset bytes hinside _
        rw [hlen] at hinside
        rw [writeFixedSizeBinaryFixedWidthValue, if_pos hnull, ensure_of hnullable, ok_bind,
          modifyRange_of_le (by omega) hinside fun window hw => copyFromSlice_of_length
            (by rw [hw]; simp [fixedSizeBinaryLenPrefixLen]), ok_bind]
        rfl
      · intro offset bytes hout
        rw [hlen] at hout
        refine ⟨.panic, ?_, by simp⟩
        rw [writeFixedSizeBinaryFixedWidthValue, if_pos hnull, ensure_of hnullable, ok_bind, modifyRange_outside hout,
          crash_bind]
        rfl
    · rw [if_neg hnullable]
      apply follows_refused
      intro offset bytes
      refine ⟨firstNullError data column, ?_⟩
      rw [writeFixedSizeBinaryFixedWidthValue, if_pos hnull, ensure, if_neg hnullable, fail_bind]
  · rw [if_neg hnull]
    by_cases hvalue : (data.value r).length = length
    · rw [if_pos hvalue]
      have hlead : (LittleEndian.encode 2 length).length = fixedSizeBinaryLenPrefixLen :=
        LittleEndian.length_encode _ _
      apply follows_written
      · intro offset bytes hinside _
        have hrest := @modifyRange_behind Error _ bytes (LittleEndian.encode 2 length) (data.value r) offset
          (offset + fixedSizeBinaryLenPrefixLen) (offset + fixedSizeBinaryLenPrefixLen + length) (by rw [hlead])
          (by rw [hvalue]) hinside
        rw [List.length_append, hlead, hvalue] at hinside
        rw [writeFixedSizeBinaryFixedWidthValue, if_neg hnull]
        dsimp only
        rw [ensure_of hvalue, ok_bind, modifyRange_of_le (by omega) (by omega) fun window hw =>
          copyFromSlice_of_length (by rw [hw, hlead]; omega), ok_bind, hrest, ok_bind, List.length_append, hlead,
          hvalue]
        rfl
      · intro offset bytes hout
        rw [List.length_append, hlead, hvalue] at hout
        have htwo := @modifyRange_two_outside Error _ bytes (LittleEndian.encode 2 length) offset
          (offset + fixedSizeBinaryLenPrefixLen) (offset + fixedSizeBinaryLenPrefixLen + length) (by rw [hlead])
          (by omega) fun dst => copyFromSlice dst (data.value r)
        refine ⟨.panic, ?_, by simp⟩
        rw [writeFixedSizeBinaryFixedWidthValue, if_neg hnull]
        dsimp only
        rw [ensure_of hvalue, ok_bind, ← bind_assoc]
        exact congrArg (· >>= _) htwo
    · rw [if_neg hvalue]
      apply follows_refused
      intro offset bytes
      rw [writeFixedSizeBinaryFixedWidthValue, if_neg hnull]
      dsimp only
      rw [ensure, if_neg hvalue, fail_bind]
      exact ⟨_, rfl⟩

theorem binaryCell_of_short {classification : FixedSizeBinaryArrowToMssql}
    (hlength : FixedSizeBinary.binaryLength classification < 2 ^ 16) :
    fixedSizeBinaryFixedWidthCell data column classification =
      writeFixedSizeBinaryFixedWidthValue data column (FixedSizeBinary.binaryLength classification) := by
  funext r offset bytes
  rw [fixedSizeBinaryFixedWidthCell, ensure_of hlength, ok_bind]

theorem binaryCell_of_long {classification : FixedSizeBinaryArrowToMssql}
    (hlength : ¬FixedSizeBinary.binaryLength classification < 2 ^ 16) :
    fixedSizeBinaryFixedWidthCell data column classification =
      fun _ _ _ => fail (invalidPayload "fixed-size binary length does not fit u16") := by
  funext r offset bytes
  rw [fixedSizeBinaryFixedWidthCell, ensure, if_neg hlength, fail_bind]

theorem binaryCell_follows (classification : FixedSizeBinaryArrowToMssql) (r : ℕ) :
    Follows (binaryFate data column (FixedSizeBinary.binaryLength classification) r)
      (fixedSizeBinaryFixedWidthCell data column classification r) := by
  by_cases hlength : FixedSizeBinary.binaryLength classification < 2 ^ 16
  · rw [binaryCell_of_short hlength]
    exact binary_follows hlength r
  · rw [binaryCell_of_long hlength, binaryFate, if_neg hlength]
    apply follows_refused
    intro _ _
    exact ⟨_, rfl⟩

theorem fixedSizeBinary_cells (hlimit : length ≤ 0xfffe) :
    SoundCells data column (FixedSizeBinary.cellBytes data column length) (nullOr data 2 (length + 2))
      (writeFixedSizeBinaryFixedWidthValue data column length) := by
  intro r _
  have hfate {new : List UInt8} (h : FixedSizeBinary.cellBytes data column length r = some new) :
      binaryFate data column length r = .written new false := by
    rw [binaryFate, if_pos (by omega)]
    by_cases hnull : data.isNull r = true
    · obtain ⟨hnullable, rfl⟩ := (FixedSizeBinary.cellBytes_null hnull).mp h
      rw [if_pos hnull, if_pos hnullable]
    · obtain ⟨hvalue, rfl⟩ := (FixedSizeBinary.cellBytes_value hlimit (Bool.eq_false_iff.mpr hnull)).mp h
      rw [if_neg hnull, if_pos hvalue]
  have hrefused (h : FixedSizeBinary.cellBytes data column length r = none) :
      binaryFate data column length r = .refused := by
    rw [binaryFate, if_pos (by omega)]
    by_cases hnull : data.isNull r = true
    · have hnullable : ¬column.nullable = true := by
        intro hnullable
        rw [(FixedSizeBinary.cellBytes_null hnull).mpr ⟨hnullable, rfl⟩] at h
        cases h
      rw [if_pos hnull, if_neg hnullable]
    · have hvalue : ¬(data.value r).length = length := by
        intro hvalue
        rw [(FixedSizeBinary.cellBytes_value hlimit (Bool.eq_false_iff.mpr hnull)).mpr ⟨hvalue, rfl⟩] at h
        cases h
      rw [if_neg hnull, if_neg hvalue]
  have hfollows := @binary_follows data column length (by omega) r
  refine ⟨fun {new} hnew => ?_, fun hnew hinside haddressable => ?_, fun hnone => ?_⟩
  · unfold nullOr
    by_cases hnull : data.isNull r = true
    · obtain ⟨-, rfl⟩ := (FixedSizeBinary.cellBytes_null hnull).mp hnew
      rw [if_pos hnull]
      rfl
    · obtain ⟨hvalue, rfl⟩ := (FixedSizeBinary.cellBytes_value hlimit (Bool.eq_false_iff.mpr hnull)).mp hnew
      rw [if_neg hnull, List.length_append, LittleEndian.length_encode, hvalue, Nat.add_comm]
  · exact hfollows.inside (hfate hnew) hinside haddressable
  · exact hfollows.refused (hrefused hnone)

end FixedSizeBinary

section Temporal

variable [Externals] {α : Type} {data : Arr α} {column : DirectColumnPlan} {kind : String} {validateNull : ℕ → Result Unit}
  {value : α → ℕ → Result (ℕ × (List UInt8 → Result (List UInt8)))} {cellBytes : ℕ → Option (List UInt8)}
  {len : ℕ → ℕ}

/-- A temporal loop asserts that the column takes a null, and in a build without debug assertions writes one all the
same. It checks the place of a value. -/
def temporalFate (isNull nullable : Bool) (nullBytes cellBytes : Option (List UInt8)) : CellFate :=
  if isNull = true ∧ nullable = false then
    if Externals.debugAssertions then .halted else .ofBytes false nullBytes
  else .ofBytes (!isNull) cellBytes

theorem writeTemporal_outside {r offset offset' n : ℕ} {bytes bytes' done : List UInt8}
    (h : writeTemporalFixedWidthValue kind data column validateNull value r offset' bytes' = .ok (done, n))
    (hout : bytes.length < offset + n) :
    ∃ fault, writeTemporalFixedWidthValue kind data column validateNull value r offset bytes = .error fault ∧
      (fault = .panic ↔ ¬((!data.isNull r) = true ∧ offset + n < 2 ^ 64)) := by
  unfold writeTemporalFixedWidthValue at h ⊢
  by_cases hnull : data.isNull r = true
  · rw [if_pos hnull] at h ⊢
    obtain ⟨_, hnullable, h⟩ := bind_eq_ok.mp h
    obtain ⟨_, hvalidate, h⟩ := bind_eq_ok.mp h
    obtain ⟨_, -, h⟩ := bind_eq_ok.mp h
    cases h
    simp only [cellLenPrefixLen] at hout
    refine ⟨.panic, ?_, by simp [hnull]⟩
    rw [hnullable, ok_bind, hvalidate, ok_bind, setIndex_outside (by omega), crash_bind]
    rfl
  · rw [if_neg hnull] at h ⊢
    obtain ⟨⟨cellLen, write⟩, hvalue, h⟩ := bind_eq_ok.mp h
    obtain ⟨stop, -, h⟩ := bind_eq_ok.mp h
    obtain ⟨_, -, h⟩ := bind_eq_ok.mp h
    obtain ⟨_, -, h⟩ := bind_eq_ok.mp h
    cases h
    rw [hvalue, ok_bind]
    dsimp only
    by_cases hfits : offset + n < 2 ^ 64
    · rw [unsignedOp_of_fits (fitsUnsigned_64.mpr (by omega)), ok_bind, Int.toNat_natCast, ensure, if_neg (by omega),
        fail_bind]
      refine ⟨_, rfl, iff_of_false (fun h => by cases h) (not_not_intro ⟨?_, hfits⟩)⟩
      rw [Bool.eq_false_iff.mpr hnull]
      rfl
    · rw [unsignedOp, if_neg (fun h => hfits (by have := fitsUnsigned_64.mp h; omega)), crash_bind]
      exact ⟨_, rfl, iff_of_true rfl fun h => hfits h.2⟩

theorem temporal_follows {nullBytes : Option (List UInt8)}
    (hcells : SoundCells data column cellBytes len
      (writeTemporalFixedWidthValue kind data column validateNull value))
    (haddressable : ∀ r, len r < 2 ^ 64)
    (hnull : ∀ r, nullBytes = some [0] ∧ validateNull r = .ok () ∨
      nullBytes = none ∧ ∃ e, validateNull r = fail e) (r : ℕ) :
    Follows (temporalFate (data.isNull r) column.nullable nullBytes (cellBytes r))
      (writeTemporalFixedWidthValue kind data column validateNull value r) := by
  unfold temporalFate
  by_cases hmisread : data.isNull r = true ∧ column.nullable = false
  · rw [if_pos hmisread]
    by_cases hdebug : Externals.debugAssertions = true
    · rw [if_pos hdebug]
      apply follows_halted
      intro offset bytes
      rw [writeTemporalFixedWidthValue, if_pos hmisread.1, debugAssert, if_pos hdebug, assert,
        if_neg (by simp [hmisread.2]), crash_bind]
    · have hcell (offset : ℕ) (bytes : List UInt8) : writeTemporalFixedWidthValue kind data column validateNull value r
          offset bytes = (do
            validateNull r
            let bytes ← setIndex bytes offset 0
            pure (bytes, cellLenPrefixLen)) := by
        rw [writeTemporalFixedWidthValue, if_pos hmisread.1, debugAssert, if_neg hdebug, ok_bind]
      rw [if_neg hdebug]
      rcases hnull r with ⟨hbytes, hvalidate⟩ | ⟨hbytes, e, hvalidate⟩
      · rw [hbytes]
        apply follows_written
        · intro offset bytes hinside _
          rw [List.length_singleton] at hinside
          rw [hcell, hvalidate, ok_bind, setIndex_of_lt (by omega), ok_bind]
          rfl
        · intro offset bytes hout
          rw [List.length_singleton] at hout
          refine ⟨.panic, ?_, by simp⟩
          rw [hcell, hvalidate, ok_bind, setIndex_outside (by omega), crash_bind]
          rfl
      · rw [hbytes]
        apply follows_refused
        intro offset bytes
        exact ⟨e, by rw [hcell, hvalidate, fail_bind]⟩
  · rw [if_neg hmisread]
    have hlaw := hcells r (by
      intro hnull
      by_contra hnullable
      exact hmisread ⟨hnull, Bool.eq_false_iff.mpr hnullable⟩)
    apply hlaw.follows
    · exact writeTemporal_outside
    · intro new hnew
      rw [hlaw.length hnew]
      exact haddressable r

end Temporal

end FixedWidth

namespace BoundDirectColumn

open FixedWidth

def seen : BoundDirectColumn → BoundDirectColumn
  | .boolean plan array => .boolean plan (seenArray array plan.nullable)
  | .uint8 plan array => .uint8 plan (seenArray array plan.nullable)
  | .int8 plan array => .int8 plan (seenArray array plan.nullable)
  | .int16 plan array => .int16 plan (seenArray array plan.nullable)
  | .int32 plan array => .int32 plan (seenArray array plan.nullable)
  | .uint16 plan array => .uint16 plan (seenArray array plan.nullable)
  | .int64 plan array => .int64 plan (seenArray array plan.nullable)
  | .uint32 plan array => .uint32 plan (seenArray array plan.nullable)
  | .uint64 plan array => .uint64 plan (seenArray array plan.nullable)
  | .float16 plan array => .float16 plan (seenArray array plan.nullable)
  | .float32 plan array => .float32 plan (seenArray array plan.nullable)
  | .float64 plan array => .float64 plan (seenArray array plan.nullable)
  | bound => bound

variable [Externals]

def fate (context : RuntimeConversionContext) (bound : BoundDirectColumn) (r : ℕ) : CellFate :=
  match bound with
  | .fixedSizeBinary plan classification array =>
    binaryFate array plan (FixedSizeBinary.binaryLength classification) r
  | .date32 plan _ array => temporalFate (array.isNull r) plan.nullable (some [0]) (bound.cellBytes context r)
  | .date64 plan _ array => temporalFate (array.isNull r) plan.nullable (some [0]) (bound.cellBytes context r)
  | .timestamp _ plan mapping array | .dateTimeOffset _ plan mapping array =>
    temporalFate (array.isNull r) plan.nullable (if Temporal.zonesResolve mapping then some [0] else none)
      (bound.cellBytes context r)
  | .time32Second plan _ array => temporalFate (array.isNull r) plan.nullable (some [0]) (bound.cellBytes context r)
  | .time32Millisecond plan _ array =>
    temporalFate (array.isNull r) plan.nullable (some [0]) (bound.cellBytes context r)
  | .time64Microsecond plan _ array | .time64Nanosecond plan _ array =>
    temporalFate (array.isNull r) plan.nullable (some [0]) (bound.cellBytes context r)
  | _ => .ofBytes false (bound.seen.cellBytes context r)

section

variable {α : Type} {data : Arr α} {plan : DirectColumnPlan} {valueBytes : α → ℕ → Result (List UInt8)} {r : ℕ}
  {new bytes : List UInt8} {checked : Bool}

omit [Externals] in
theorem writtenBytes_seen (h : Primitive.writtenBytes data plan valueBytes r = some bytes) :
    Primitive.writtenBytes (seenArray data plan.nullable) plan valueBytes r = some bytes := by
  unfold Primitive.writtenBytes at h ⊢
  by_cases hnull : data.isNull r = true
  · obtain ⟨hnullable, rfl⟩ := (Primitive.cellBytes_null hnull).mp h
    have hseen : (seenArray data plan.nullable).isNull r = true := by simp [seenArray, hnull, hnullable]
    exact (Primitive.cellBytes_null hseen).mpr ⟨hnullable, rfl⟩
  · have hseen : (seenArray data plan.nullable).isNull r = false := by simp [seenArray, hnull]
    exact (Primitive.cellBytes_value hseen).mpr ((Primitive.cellBytes_value (Bool.eq_false_iff.mpr hnull)).mp h)

theorem temporalFate_written {mapping : SchemaMapping} {valueOf : α → Option Temporal.TemporalValue}
    {nullBytes : Option (List UInt8)}
    (hfate : temporalFate (data.isNull r) plan.nullable nullBytes (Temporal.cellBytes data mapping plan valueOf r) =
      .written new checked) (h : Temporal.cellBytes data mapping plan valueOf r = some bytes) : new = bytes := by
  unfold temporalFate at hfate
  split at hfate
  case isTrue hmisread =>
    have hnullable := ((Temporal.cellBytes_null hmisread.1).mp h).2.1
    rw [hmisread.2] at hnullable
    cases hnullable
  case isFalse =>
    rw [(CellFate.ofBytes_eq_written.mp hfate).1, Option.some.injEq] at h
    exact h

omit [Externals] in
theorem binaryFate_written {data : Arr (List UInt8)} {length : ℕ}
    (hfate : binaryFate data plan length r = .written new checked)
    (h : FixedSizeBinary.cellBytes data plan length r = some bytes) : new = bytes := by
  unfold binaryFate at hfate
  split at hfate
  case isFalse => cases hfate
  case isTrue =>
    by_cases hnull : data.isNull r = true
    · obtain ⟨hnullable, rfl⟩ := (FixedSizeBinary.cellBytes_null hnull).mp h
      rw [if_pos hnull, if_pos hnullable] at hfate
      cases hfate
      rfl
    · rw [if_neg hnull] at hfate
      split at hfate
      case isFalse => cases hfate
      case isTrue hvalue =>
        cases hfate
        rw [FixedSizeBinary.cellBytes, columnBytes_of_value (Bool.eq_false_iff.mpr hnull), FixedSizeBinary.payload,
          if_pos hvalue, Option.bind_some, Tds.wire_eq_some, Tds.frame, hvalue] at h
        exact h.2.symm

theorem fate_written {bound : BoundDirectColumn} {context : RuntimeConversionContext}
    (hfate : bound.fate context r = .written new checked) (h : bound.cellBytes context r = some bytes) :
    new = bytes := by
  have hseen (hfate : CellFate.ofBytes false (bound.seen.cellBytes context r) = .written new checked)
      (h : bound.seen.cellBytes context r = some bytes) : new = bytes := by
    rw [(CellFate.ofBytes_eq_written.mp hfate).1, Option.some.injEq] at h
    exact h
  cases bound with
  | fixedSizeBinary plan classification array => exact binaryFate_written hfate h
  | date32 | date64 | timestamp | dateTimeOffset | time32Second | time32Millisecond | time64Microsecond
  | time64Nanosecond => exact temporalFate_written hfate h
  | boolean | uint8 | int8 | int16 | int32 | uint16 | int64 | uint32 | uint64 | float16 | float32 | float64 =>
    exact hseen hfate (writtenBytes_seen h)
  | _ => exact hseen hfate h

end

end BoundDirectColumn

end ArrowTiberius.Direct
