import ArrowTiberius.Direct.Rows.CellFate
import ArrowTiberius.Direct.Rows.FixedWidthTemporal
import ArrowTiberius.Direct.Rows.FixedWidthMeasure

namespace ArrowTiberius.Direct

open Checked Tiling

def BoundDirectColumn.isFixedWidth : BoundDirectColumn → Bool
  | .uint64Decimal20_0 .. | .decimal32 .. | .decimal64 .. | .decimal128 .. | .decimal256 .. | .utf8 .. | .largeUtf8 ..
  | .utf8View .. | .binary .. | .largeBinary .. | .binaryView .. => false
  | _ => true

namespace FixedWidth

variable {α : Type} [Externals]

omit [Externals] in
theorem fixedWidthColumn_eq_none {column : BoundDirectColumn} (h : column.isFixedWidth = false) :
    fixedWidthColumn {} column = none := by
  cases column <;> first | rfl | cases h

structure FixedWidthLaw (context : RuntimeConversionContext) (rows : ℕ) (bound : BoundDirectColumn)
    (fixed : FixedWidthColumn) : Prop where
  column : fixed.column = bound
  array : fixedWidthColumnArray bound = some fixed.nulls
  length : fixed.nulls.len = rows
  positive : ∀ r, 0 < fixed.cellLen r
  zones_safe : Safe (validateColumnTimezoneMetadata fixed.nulls fixed)
  zones : (∀ r < rows, (bound.cellBytes context r).isSome) → validateColumnTimezoneMetadata fixed.nulls fixed = .ok ()
  nulls : ∀ r, fixed.nulls.isNull r = true → (bound.cellBytes context r).isSome → fixed.plan.nullable = true
  fills : (∀ r < rows, fixed.nulls.isNull r = true → fixed.plan.nullable = true) →
    FillsCells context rows bound (bound.cellBytes context) fixed.cellLen

def FillsByFate (context : RuntimeConversionContext) (rows : ℕ) (bound : BoundDirectColumn) : Prop :=
  ∃ fill, fillFixedWidthColumn context bound = some fill ∧
    (∀ r, Follows (bound.fate context r) (fixedWidthCell context bound r)) ∧
    ∀ s : FillState, 0 < rows → s.currentOffsets.length = rows →
      fill s = forRange rows s (fillRow (fixedWidthCell context bound))

def TakesColumn (context : RuntimeConversionContext) (rows : ℕ) (bound : BoundDirectColumn) : Prop :=
  ∃ fixed, fixedWidthColumn {} bound = some fixed ∧ FixedWidthLaw context rows bound fixed ∧
    FillsByFate context rows bound

section Zones

variable {data : Arr α} {mapping : SchemaMapping} {plan : DirectColumnPlan}

theorem validateZones_safe : Safe (validateFixedWidthTimestampTimezoneMetadata data mapping plan) := by
  unfold validateFixedWidthTimestampTimezoneMetadata
  split
  · apply forRange_safe fun _ _ => True
    · intro r _ _ _
      refine ⟨?_, fun _ _ => trivial⟩
      split
      · exact Temporal.validateNull_safe r
      · exact Temporal.validateMapping_safe r
    · trivial
  · exact safe_ok ()

theorem validateZones_of (h : 0 < data.len → Temporal.zonesResolve mapping = true) :
    validateFixedWidthTimestampTimezoneMetadata data mapping plan = .ok () := by
  unfold validateFixedWidthTimestampTimezoneMetadata
  split
  · apply forRange_eq_ok_of_step fun _ => ()
    intro r hr
    have hzones := (@Temporal.validateMapping_eq_ok _ mapping r ()).mpr (h (by omega))
    rw [Temporal.validateNull_eq, hzones]
    split <;> rfl
  · rfl

end Zones

theorem fixedWidth_of {bound : BoundDirectColumn} {context : RuntimeConversionContext} {data : Arr α}
    {plan : DirectColumnPlan} {mapping : Option SchemaMapping} {nonNull null : ℕ} {fill : FillState → Result FillState}
    (hparts : fixedWidthColumnParts bound = some (plan, mapping))
    (harray : fixedWidthColumnArray bound = some (data.map fun _ => ()))
    (hnonNull : fixedWidthNonNullCellLen {} plan = some nonNull) (hnull : fixedWidthNullCellLen plan = some null)
    (hpositive : 0 < nonNull ∧ 0 < null)
    (hzones : ∀ r, (bound.cellBytes context r).isSome → ∀ m ∈ mapping, Temporal.zonesResolve m = true)
    (hnulls : ∀ r, data.isNull r = true → (bound.cellBytes context r).isSome → plan.nullable = true)
    (hfill : fillFixedWidthColumn context bound = some fill)
    (hloop : ∀ s : FillState, s.currentOffsets.length = data.len →
      fill s = forRange data.len s (fillRow (fixedWidthCell context bound)))
    (hcells : SoundCells data plan (bound.cellBytes context) (nullOr data null nonNull) (fixedWidthCell context bound))
    (hfates : ∀ r, Follows (bound.fate context r) (fixedWidthCell context bound r)) :
    TakesColumn context data.len bound := by
  have hdata : (⟨bound, plan, mapping, nonNull, null⟩ : FixedWidthColumn).nulls = data.map fun _ => () := by
    rw [FixedWidthColumn.nulls, harray, Option.getD_some]
  have hlen : (⟨bound, plan, mapping, nonNull, null⟩ : FixedWidthColumn).cellLen = nullOr data null nonNull := by
    funext r
    rw [FixedWidthColumn.cellLen, hdata]
    rfl
  refine ⟨⟨bound, plan, mapping, nonNull, null⟩, ?_, ⟨rfl, ?_, ?_, ?_, ?_, ?_, ?_, ?_⟩, ?_⟩
  · simp [fixedWidthColumn, hparts, hnonNull, hnull]
  · rw [hdata, harray]
  · rw [hdata]
    rfl
  · intro r
    rw [FixedWidthColumn.cellLen]
    split
    · exact hpositive.2
    · exact hpositive.1
  · unfold validateColumnTimezoneMetadata
    split
    · exact validateZones_safe
    · exact safe_ok ()
  · intro hsome
    unfold validateColumnTimezoneMetadata
    split
    case h_1 m hm =>
      apply validateZones_of
      intro hlen
      rw [hdata] at hlen
      exact hzones 0 (hsome 0 hlen) m hm
    case h_2 => rfl
  · intro r hisNull hsome
    rw [hdata] at hisNull
    exact hnulls r hisNull hsome
  · intro hall
    rw [hdata] at hall
    rw [hlen]
    exact ⟨fill, _, hfill, .of_rows fun r hr => hcells r (hall r hr), hloop⟩
  · exact ⟨fill, hfill, hfates, fun s _ => hloop s⟩

omit [Externals] in
theorem fillTaken_eq {data : Arr α} {cell : ℕ → ℕ → List UInt8 → Result (List UInt8 × ℕ)} (s : FillState)
    (h : s.currentOffsets.length = data.len) : fillTaken data cell s = forRange data.len s (fillRow cell) := by
  rw [fillTaken, h, Nat.min_self]

section Primitive

variable {bound : BoundDirectColumn} {context : RuntimeConversionContext} {data : Arr α} {plan : DirectColumnPlan}
  {classification : PrimitiveArrowToMssql} {valueLen : ℕ} {valueBytes : α → ℕ → Result (List UInt8)}
  {fill : FillState → Result FillState}

omit [Externals] in
theorem primitive_nonNullCellLen (henc : plan.encoding = .primitive classification)
    (hlen : fixedWidthValueLen (.primitive classification) = some valueLen) (hvalueLen : valueLen < 256) :
    fixedWidthNonNullCellLen {} plan = some (if plan.nullable then valueLen + 1 else valueLen) := by
  unfold fixedWidthNonNullCellLen
  rw [henc]
  dsimp only
  rw [hlen]
  split
  · exact checkedAdd_of_lt (by simp only [cellLenPrefixLen]; omega)
  · rfl

theorem primitive_fixedWidth (henc : plan.encoding = .primitive classification)
    (hlen : fixedWidthValueLen (.primitive classification) = some valueLen) (hvalueLen : 0 < valueLen ∧ valueLen < 256)
    (hparts : fixedWidthColumnParts bound = some (plan, none))
    (harray : fixedWidthColumnArray bound = some (data.map fun _ => ()))
    (hbytes : bound.cellBytes context = Primitive.writtenBytes data plan valueBytes)
    (hfate : ∀ r, bound.fate context r =
      .ofBytes false (Primitive.writtenBytes (seenArray data plan.nullable) plan valueBytes r))
    (hfill : fillFixedWidthColumn context bound = some fill)
    (hcell : fixedWidthCell context bound = writeCheckedFixedWidthValue data plan valueLen valueBytes)
    (hloop : ∀ s : FillState, s.currentOffsets.length = data.len →
      fill s = forRange data.len s (fillRow (fixedWidthCell context bound)))
    (hcells : ∀ data : Arr α, SoundCells data plan (Primitive.writtenBytes data plan valueBytes)
      (nullOr data 1 (if plan.nullable then valueLen + 1 else valueLen))
      (writeCheckedFixedWidthValue data plan valueLen valueBytes)) :
    TakesColumn context data.len bound := by
  have hnullLen : fixedWidthNullCellLen plan = some 1 := by
    unfold fixedWidthNullCellLen
    rw [henc]
    rfl
  apply fixedWidth_of hparts harray (primitive_nonNullCellLen henc hlen hvalueLen.2) hnullLen _ _ _ hfill hloop
  · rw [hbytes, hcell]
    exact hcells data
  · intro r
    rw [hfate, hcell]
    apply primitive_follows hcells
    intro r
    unfold nullOr
    split
    · decide
    · split <;> omega
  · refine ⟨?_, by decide⟩
    split <;> omega
  · intro r _ m hm
    cases hm
  · intro r hnull hsome
    rw [hbytes] at hsome
    obtain ⟨bytes, h⟩ := Option.isSome_iff_exists.mp hsome
    exact ((Primitive.cellBytes_null hnull).mp h).1

end Primitive

section Temporal

variable {bound : BoundDirectColumn} {context : RuntimeConversionContext} {data : Arr α} {plan : DirectColumnPlan}
  {mapping : SchemaMapping} {classification : TemporalArrowToMssql} {valueLen : ℕ}
  {valueOf : α → Option Temporal.TemporalValue} {kind : String} {validateNull : ℕ → Result Unit}
  {value : α → ℕ → Result (ℕ × (List UInt8 → Result (List UInt8)))}

theorem temporal_fixedWidth {nullBytes : Option (List UInt8)} (henc : plan.encoding = .temporal classification)
    (hlen : fixedWidthNonNullCellLen {} plan = some valueLen) (hvalueLen : 0 < valueLen ∧ valueLen < 2 ^ 64)
    (hparts : fixedWidthColumnParts bound = some (plan, some mapping))
    (harray : fixedWidthColumnArray bound = some (data.map fun _ => ()))
    (hbytes : bound.cellBytes context = Temporal.cellBytes data mapping plan valueOf)
    (hfate : ∀ r, bound.fate context r =
      temporalFate (data.isNull r) plan.nullable nullBytes (bound.cellBytes context r))
    (hfill : fillFixedWidthColumn context bound = some (fillTaken data (fixedWidthCell context bound)))
    (hcell : fixedWidthCell context bound = writeTemporalFixedWidthValue kind data plan validateNull value)
    (hnull : ∀ r, nullBytes = some [0] ∧ validateNull r = .ok () ∨ nullBytes = none ∧ ∃ e, validateNull r = fail e)
    (hcells : SoundCells data plan (Temporal.cellBytes data mapping plan valueOf) (nullOr data 1 valueLen)
      (fixedWidthCell context bound)) :
    TakesColumn context data.len bound := by
  have hnullLen : fixedWidthNullCellLen plan = some 1 := by
    unfold fixedWidthNullCellLen
    rw [henc]
    rfl
  apply fixedWidth_of hparts harray hlen hnullLen ⟨hvalueLen.1, by decide⟩ _ _ hfill fillTaken_eq
  · rw [hbytes]
    exact hcells
  · intro r
    rw [hcell] at hcells
    rw [hfate, hbytes, hcell]
    apply temporal_follows hcells _ hnull
    intro r
    unfold nullOr
    split
    · decide
    · exact hvalueLen.2
  · intro r hsome m hm
    cases hm
    rw [hbytes] at hsome
    obtain ⟨bytes, h⟩ := Option.isSome_iff_exists.mp hsome
    exact Temporal.zones_of_cellBytes h
  · intro r hnull hsome
    rw [hbytes] at hsome
    obtain ⟨bytes, h⟩ := Option.isSome_iff_exists.mp hsome
    exact ((Temporal.cellBytes_null hnull).mp h).2.1

omit [Externals] in
theorem nulls_unasked (r : ℕ) : (some [0] : Option (List UInt8)) = some [0] ∧ (fun _ => .ok () : ℕ → Result Unit) r = .ok () ∨
    (some [0] : Option (List UInt8)) = none ∧ ∃ e, (fun _ => .ok () : ℕ → Result Unit) r = fail e :=
  .inl ⟨rfl, rfl⟩

theorem nulls_zoned (mapping : SchemaMapping) (r : ℕ) :
    (if Temporal.zonesResolve mapping then some [0] else none) = some [(0 : UInt8)] ∧
        validateNullTimestampTimezoneMetadata mapping r = .ok () ∨
      (if Temporal.zonesResolve mapping then some [0] else none) = (none : Option (List UInt8)) ∧
        ∃ e, validateNullTimestampTimezoneMetadata mapping r = fail e := by
  rw [Temporal.validateNull_eq]
  by_cases hzones : Temporal.zonesResolve mapping = true
  · exact .inl ⟨if_pos hzones, Temporal.validateMapping_eq_ok.mpr hzones⟩
  · refine .inr ⟨if_neg hzones, fail_of_safe (Temporal.validateMapping_safe r) ?_⟩
    by_contra hsome
    obtain ⟨u, hu⟩ := Option.ne_none_iff_exists'.mp hsome
    exact hzones (Temporal.validateMapping_eq_ok.mp (toOption_eq_some.mp hu))

end Temporal

section Bind

variable {encoder : DirectEncoder} {array : ArrayRef} {i : ℕ} {column : DirectColumnPlan} {mapping : SchemaMapping}
  {encoding : DirectColumnEncoding} {bound : BoundDirectColumn} {context : RuntimeConversionContext}

theorem fixedWidth_of_primitive {classification : PrimitiveArrowToMssql}
    (hbind : bindDirectArray encoder array i column = .ok bound)
    (henc : column.encoding = .primitive classification) :
    TakesColumn context array.len bound := by
  unfold bindDirectArray at hbind
  rw [henc] at hbind
  cases classification with
  | booleanToBit =>
    obtain ⟨data, hdata, rfl⟩ := map_eq_ok.mp hbind
    rw [← len_of_downcast hdata]
    apply primitive_fixedWidth henc rfl (by decide) rfl rfl rfl (fun _ => rfl) rfl
    · exact boolean_cell data column
    · exact fillTaken_eq
    · intro data
      apply fixed_cells (by decide)
      intro v
      exact ⟨_, fun _ => rfl, rfl⟩
  | uint64ToCheckedBigInt =>
    obtain ⟨data, hdata, rfl⟩ := map_eq_ok.mp hbind
    rw [← len_of_downcast hdata]
    apply primitive_fixedWidth henc rfl (by decide) rfl rfl rfl (fun _ => rfl) rfl rfl fillTaken_eq
    intro data
    apply checked_cells (by decide)
    · intro v r
      simp [Primitive.uint64CheckedBigintBytes]
    · intro v value hvalue
      simp only [Primitive.uint64CheckedBigintBytes, bind_eq_ok, pure_eq_ok, Except.ok.injEq] at hvalue
      obtain ⟨_, -, rfl⟩ := hvalue
      simp
    · intro v r
      exact safe_bind (safe_okOr _ _) fun _ _ => safe_ok _
  | float16ToReal | float32ToReal | float64ToFloat =>
    obtain ⟨data, hdata, rfl⟩ := map_eq_ok.mp hbind
    rw [← len_of_downcast hdata]
    apply primitive_fixedWidth henc rfl (by decide) rfl rfl rfl (fun _ => rfl) rfl rfl fillTaken_eq
    intro data
    apply checked_cells (by decide)
    · intro v r
      simp [Primitive.float16Bytes, Primitive.float32Bytes, Primitive.float64Bytes]
    · intro v value hvalue
      simp only [Primitive.float16Bytes, Primitive.float32Bytes, Primitive.float64Bytes, bind_eq_ok, pure_eq_ok,
        Except.ok.injEq] at hvalue
      obtain ⟨_, -, rfl⟩ := hvalue
      simp
    · intro v r
      exact safe_bind (safe_ensure _ _) fun _ _ => safe_ok _
  | _ =>
    obtain ⟨data, hdata, rfl⟩ := map_eq_ok.mp hbind
    rw [← len_of_downcast hdata]
    apply primitive_fixedWidth henc rfl (by decide) rfl rfl rfl (fun _ => rfl) rfl
    · exact writeFixedWidthValue_eq ..
    · intro s _
      rfl
    · intro data
      apply fixed_cells (by decide)
      intro v
      exact ⟨_, fun _ => rfl, by simp⟩

omit [Externals] in
theorem nonNullCellLen_of {classification : TemporalArrowToMssql} {valueLen : ℕ}
    (henc : column.encoding = .temporal classification)
    (h : fixedWidthNonNullCellLen {} { column with encoding := .temporal classification } = some valueLen) :
    fixedWidthNonNullCellLen {} column = some valueLen := by
  rw [← h, ← henc]

theorem fixedSizeBinary_fixedWidth {data : Arr (List UInt8)} {length : ℕ} (hlimit : length ≤ 0xfffe)
    (henc : column.encoding = .fixedSizeBinary (.fixedSizeBinaryToBinary length)) :
    TakesColumn context data.len (.fixedSizeBinary column (.fixedSizeBinaryToBinary length) data) := by
  have hnonNull : fixedWidthNonNullCellLen {} column = some (length + 2) := by
    unfold fixedWidthNonNullCellLen
    rw [henc]
    exact checkedAdd_eq_some.mpr ⟨by simp only [fixedSizeBinaryLenPrefixLen]; omega, rfl⟩
  have hnull : fixedWidthNullCellLen column = some 2 := by
    unfold fixedWidthNullCellLen
    rw [henc]
    rfl
  have hshort : FixedSizeBinary.binaryLength (.fixedSizeBinaryToBinary length) < 2 ^ 16 := by
    change length < 2 ^ 16
    omega
  have hcell : fixedWidthCell context (.fixedSizeBinary column (.fixedSizeBinaryToBinary length) data) =
      writeFixedSizeBinaryFixedWidthValue data column length := binaryCell_of_short hshort
  apply @fixedWidth_of _ _ _ context data column none (length + 2) 2 _ rfl rfl hnonNull hnull ⟨by omega, by decide⟩ _ _
    rfl
  · intro s hs
    unfold fillFixedSizeBinaryFixedWidthColumn
    dsimp only
    rw [ensure_of hshort, ok_bind, hcell]
    exact fillTaken_eq s hs
  · rw [hcell]
    exact fixedSizeBinary_cells hlimit
  · exact binaryCell_follows _
  · intro r _ m hm
    cases hm
  · intro r hisNull hsome
    obtain ⟨bytes, h⟩ := Option.isSome_iff_exists.mp hsome
    exact ((FixedSizeBinary.cellBytes_null hisNull).mp h).1

theorem fixedWidth_of_time {α : Type} {data : Arr α} {classification : TemporalArrowToMssql} {scale valueLen : ℕ}
    {time : α → ℕ → Result MssqlTime} (henc : column.encoding = .temporal classification)
    (hnonNull : fixedWidthNonNullCellLen {} column = some valueLen) (hlen : timeCellLen scale = .ok valueLen)
    (hvalueLen : 0 < valueLen ∧ valueLen < 2 ^ 64)
    (hparts : fixedWidthColumnParts bound = some (column, some mapping))
    (harray : fixedWidthColumnArray bound = some (data.map fun _ => ()))
    (hbytes : bound.cellBytes context =
      Temporal.cellBytes data mapping column fun v => (Temporal.TemporalValue.time <$> time v 0).toOption)
    (hfate : ∀ r, bound.fate context r =
      temporalFate (data.isNull r) column.nullable (some [0]) (bound.cellBytes context r))
    (hfill : fillFixedWidthColumn context bound = some (fillTaken data (fixedWidthCell context bound)))
    (hcell : fixedWidthCell context bound = timeFixedWidthCell data column time)
    (hzones : Temporal.zonesResolve mapping = true) (htarget : column.targetType ≠ .dateTime)
    (hrow : ∀ v r s, (time v r).toOption = (time v s).toOption) (hsafe : ∀ v r, Safe (time v r))
    (hvalid : ∀ v t, time v 0 = .ok t → ValidTime t ∧ t.scale = scale) :
    TakesColumn context data.len bound := by
  apply temporal_fixedWidth henc hnonNull hvalueLen hparts harray hbytes hfate hfill
    (by rw [hcell, timeFixedWidthCell]) nulls_unasked
  rw [hcell]
  exact time_cells hzones htarget hlen hrow hsafe hvalid

theorem fixedWidth_of_timeFromI64 {α : Type} {data : Arr α} {classification : TemporalArrowToMssql} {scale : ℕ}
    {increments : α → ℤ} {incrementsPerDay : ℤ} {unitName : String} (hscale : scale ≤ 7)
    (hday : incrementsPerDay = 86400 * 10 ^ scale) (henc : column.encoding = .temporal classification)
    (hlen : fixedWidthNonNullCellLen {} { column with encoding := .temporal classification } =
      (timeCellLen scale).toOption)
    (hparts : fixedWidthColumnParts bound = some (column, some mapping))
    (harray : fixedWidthColumnArray bound = some (data.map fun _ => ()))
    (hbytes : bound.cellBytes context = Temporal.cellBytes data mapping column fun v => (Temporal.TemporalValue.time <$>
      Time.mssqlTimeFromI64 mapping 0 (increments v) incrementsPerDay scale unitName).toOption)
    (hfate : ∀ r, bound.fate context r =
      temporalFate (data.isNull r) column.nullable (some [0]) (bound.cellBytes context r))
    (hfill : fillFixedWidthColumn context bound = some (fillTaken data (fixedWidthCell context bound)))
    (hcell : fixedWidthCell context bound = timeFixedWidthCell data column fun v r =>
      Time.mssqlTimeFromI64 mapping r (increments v) incrementsPerDay scale unitName)
    (hzones : Temporal.zonesResolve mapping = true) (htarget : column.targetType ≠ .dateTime) :
    TakesColumn context data.len bound := by
  have hcellLen := timeCellLen_of_le hscale
  have hvalueLen : 0 < 1 + Tds.timeLength scale ∧ 1 + Tds.timeLength scale < 2 ^ 64 := by
    have := timeLength_le scale
    omega
  rw [hcellLen] at hlen
  apply fixedWidth_of_time henc (nonNullCellLen_of henc hlen) hcellLen hvalueLen hparts harray hbytes hfate hfill hcell
    hzones htarget
  · intro v r s
    exact timeFromI64_toOption
  · intro v r
    exact (failsWith_mssqlTimeFromI64 _ _ _ _).safe
  · intro v t ht
    exact timeFromI64_valid hscale hday ht

theorem fixedWidth_of_temporal {classification : TemporalArrowToMssql}
    (hbind : bindDirectArray encoder array i column = .ok bound) (hmapping : encoder.mappings[i]? = some mapping)
    (hty : mapping.mssql.ty = column.targetType) (henc : column.encoding = .temporal classification)
    (hencodes : Encodes mapping.arrow.dataType column.targetType (.temporal classification)) :
    TakesColumn context array.len bound := by
  have hmapping' := mappingForColumnIndex_eq_ok.mpr hmapping
  unfold bindDirectArray at hbind
  rw [henc, hmapping'] at hbind
  generalize hdt : mapping.arrow.dataType = dataType at hencodes
  generalize htarget : column.targetType = ty at hencodes
  have hne (h : ty ≠ .dateTime) : column.targetType ≠ .dateTime := by rwa [htarget]
  have hplain (h : ∀ unit timezone, dataType ≠ .timestamp unit timezone) : Temporal.zonesResolve mapping = true :=
    Temporal.zonesResolve_of_plain (by rwa [hdt])
  have hbound (scale k : ℕ) (hk : k ≤ 5) : 0 < 1 + Tds.timeLength scale + k ∧ 1 + Tds.timeLength scale + k < 2 ^ 64 := by
    have := timeLength_le scale
    omega
  cases hencodes with
  | date32 =>
    obtain ⟨data, hdata, rfl⟩ := map_eq_ok.mp hbind
    rw [← len_of_downcast hdata]
    apply temporal_fixedWidth henc (nonNullCellLen_of henc rfl) (by decide) rfl rfl rfl (fun _ => rfl) rfl
      (by rw [fixedWidthCell, date32FixedWidthCell]) nulls_unasked
    exact @date32_cells _ _ _ context _ (hplain nofun) (hne nofun)
  | date64 =>
    obtain ⟨data, hdata, rfl⟩ := map_eq_ok.mp hbind
    rw [← len_of_downcast hdata]
    have hlen := datetime2CellLen_of_le (show 3 ≤ 7 by decide)
    apply temporal_fixedWidth henc (nonNullCellLen_of henc (congrArg Except.toOption hlen)) (hbound 3 3 (by decide))
      rfl rfl rfl (fun _ => rfl) rfl (by rw [fixedWidthCell, date64FixedWidthCell]) nulls_unasked
    exact @date64_cells _ _ _ _ context _ (hplain nofun) (hne nofun) hlen
  | time32Second =>
    obtain ⟨data, hdata, rfl⟩ := map_eq_ok.mp hbind
    rw [← len_of_downcast hdata]
    exact fixedWidth_of_timeFromI64 (show 0 ≤ 7 by decide) (by decide) henc rfl rfl rfl rfl (fun _ => rfl) rfl rfl
      (hplain nofun) (hne nofun)
  | time32Millisecond =>
    obtain ⟨data, hdata, rfl⟩ := map_eq_ok.mp hbind
    rw [← len_of_downcast hdata]
    exact fixedWidth_of_timeFromI64 (show 3 ≤ 7 by decide) (by decide) henc rfl rfl rfl rfl (fun _ => rfl) rfl rfl
      (hplain nofun) (hne nofun)
  | time64Microsecond =>
    obtain ⟨data, hdata, rfl⟩ := map_eq_ok.mp hbind
    rw [← len_of_downcast hdata]
    exact fixedWidth_of_timeFromI64 (show 6 ≤ 7 by decide) (by decide) henc rfl rfl rfl rfl (fun _ => rfl) rfl rfl
      (hplain nofun) (hne nofun)
  | time64Nanosecond =>
    obtain ⟨data, hdata, rfl⟩ := map_eq_ok.mp hbind
    rw [← len_of_downcast hdata]
    have hlen := timeCellLen_of_le (show 7 ≤ 7 by decide)
    apply fixedWidth_of_time henc (nonNullCellLen_of henc (congrArg Except.toOption hlen)) hlen
      (hbound 7 0 (by decide)) rfl
      rfl rfl (fun _ => rfl) rfl rfl (hplain nofun) (hne nofun)
    · intro v r s
      exact timeFromNanoseconds_toOption v
    · intro v r
      exact (failsWith_mssqlTimeFromNanoseconds _ _).safe
    · intro v t ht
      refine ⟨validTime_of_nanoseconds ht, ?_⟩
      obtain ⟨-, _, -, -, rfl⟩ := (mssqlTimeFromNanoseconds_eq_ok v).mp ht
      rfl
  | timestampDateTime | timestampTzDateTime =>
    obtain ⟨data, hdata, rfl⟩ := map_eq_ok.mp hbind
    rw [← len_of_downcast hdata]
    have hnonNull : fixedWidthNonNullCellLen {} column =
        some (if column.nullable then datetimeCellLen else datetimePayloadLen) := by
      rw [fixedWidthNonNullCellLen.eq_def, henc, htarget]
      dsimp only
      split <;> rfl
    have hvalueLen : 0 < (if column.nullable then datetimeCellLen else datetimePayloadLen) ∧
        (if column.nullable then datetimeCellLen else datetimePayloadLen) < 2 ^ 64 := by
      split <;> decide
    apply temporal_fixedWidth henc hnonNull hvalueLen rfl rfl rfl (fun _ => rfl) rfl
      (by rw [fixedWidthCell, timestampFixedWidthCell]) (nulls_zoned mapping)
    exact timestampDatetime_cells htarget
  | @timestampDateTime2 _ _ precision _ hprecision | @timestampTzDateTime2 _ _ precision _ hprecision =>
    obtain ⟨data, hdata, rfl⟩ := map_eq_ok.mp hbind
    rw [← len_of_downcast hdata]
    have hlen := datetime2CellLen_of_le hprecision
    have hnonNull : fixedWidthNonNullCellLen {} column = some (1 + Tds.timeLength precision + 3) := by
      rw [fixedWidthNonNullCellLen.eq_def, henc, htarget]
      exact congrArg Except.toOption hlen
    apply temporal_fixedWidth henc hnonNull (hbound precision 3 (by decide)) rfl rfl rfl (fun _ => rfl) rfl
      (by rw [fixedWidthCell, timestampFixedWidthCell]) (nulls_zoned mapping)
    exact timestampDatetime2_cells htarget (hty.trans htarget) hprecision hlen
  | dateTimeOffset =>
    obtain ⟨data, hdata, rfl⟩ := map_eq_ok.mp hbind
    rw [← len_of_downcast hdata]
    have hlen := datetimeoffsetCellLen_of_le (show 7 ≤ 7 by decide)
    apply temporal_fixedWidth henc (nonNullCellLen_of henc (congrArg Except.toOption hlen)) (hbound 7 5 (by decide))
      rfl rfl rfl (fun _ => rfl) rfl (by rw [fixedWidthCell, datetimeoffsetFixedWidthCell]) (nulls_zoned mapping)
    exact datetimeoffset_cells (hne nofun) hlen

theorem takesColumn_of_bind (hencodes : Encodes mapping.arrow.dataType mapping.mssql.ty encoding)
    (hlimit : AnnouncesLength mapping.mssql.ty) (hmapping : encoder.mappings[i]? = some mapping)
    (hbind : bindDirectArray encoder array i (DirectColumnPlan.fromMapping mapping encoding) = .ok bound)
    (hfixed : bound.isFixedWidth = true) : TakesColumn context array.len bound := by
  cases encoding with
  | primitive classification => exact fixedWidth_of_primitive hbind rfl
  | temporal classification => exact fixedWidth_of_temporal hbind hmapping rfl rfl hencodes
  | decimal classification =>
    unfold bindDirectArray at hbind
    dsimp only [DirectColumnPlan.fromMapping] at hbind
    rcases hsource : classification.source with _ | _ | _ | _
    all_goals
      rw [hsource] at hbind
      obtain ⟨data, -, rfl⟩ := map_eq_ok.mp hbind
      cases hfixed
  | uint64Decimal20_0 =>
    obtain ⟨data, -, rfl⟩ := map_eq_ok.mp hbind
    cases hfixed
  | variableWidth classification =>
    cases classification with
    | stringToNVarChar length =>
      obtain ⟨_, -, hbind⟩ := bind_eq_ok.mp hbind
      cases bindsText_of_bind hbind with
      | utf8 | largeUtf8 | utf8View => cases hfixed
    | bytesToVarBinary length =>
      obtain ⟨_, -, hbind⟩ := bind_eq_ok.mp hbind
      cases bindsBytes_of_bind hbind with
      | binary | largeBinary | binaryView => cases hfixed
  | fixedSizeBinary classification =>
    obtain ⟨data, hdata, rfl⟩ := map_eq_ok.mp hbind
    rw [← len_of_downcastFixedSizeBinary hdata]
    obtain ⟨length⟩ := classification
    generalize mapping.arrow.dataType = dataType at hencodes
    generalize hty : mapping.mssql.ty = ty at hencodes
    cases hencodes
    exact fixedSizeBinary_fixedWidth (hlimit length hty) rfl

theorem fixedWidth_of_bind (hencodes : Encodes mapping.arrow.dataType mapping.mssql.ty encoding)
    (hlimit : AnnouncesLength mapping.mssql.ty) (hmapping : encoder.mappings[i]? = some mapping)
    (hbind : bindDirectArray encoder array i (DirectColumnPlan.fromMapping mapping encoding) = .ok bound)
    (hfixed : bound.isFixedWidth = true) :
    ∃ fixed, fixedWidthColumn {} bound = some fixed ∧ FixedWidthLaw context array.len bound fixed := by
  obtain ⟨fixed, hcolumn, hlaw, -⟩ := @takesColumn_of_bind _ encoder array i mapping encoding bound context hencodes
    hlimit hmapping hbind hfixed
  exact ⟨fixed, hcolumn, hlaw⟩

omit [Externals] in
theorem forRange_refused {rows : ℕ} {e : Error} {s : FillState} (hrows : 0 < rows) (h : s.currentOffsets.length = rows) :
    forRange rows s (fillRow fun _ _ _ => fail e) = fail e := by
  obtain ⟨n, rfl⟩ := Nat.exists_eq_add_of_lt hrows
  have hfirst : 0 < s.currentOffsets.length := by omega
  have hcursor : (getIndex s.currentOffsets 0 : Result ℕ) = .ok s.currentOffsets[0] :=
    getIndex_of_getElem? (List.getElem?_eq_getElem hfirst)
  rw [forRange, Nat.zero_add, List.range_succ_eq_map, forEach_cons, fillRow, hcursor, ok_bind, fail_bind, fail_bind]

theorem fixedSizeBinary_fillsByFate {data : Arr (List UInt8)} {classification : FixedSizeBinaryArrowToMssql} :
    FillsByFate context data.len (.fixedSizeBinary column classification data) := by
  refine ⟨_, rfl, binaryCell_follows classification, fun s hrows hs => ?_⟩
  unfold fillFixedSizeBinaryFixedWidthColumn
  dsimp only [fixedWidthCell]
  by_cases hlength : FixedSizeBinary.binaryLength classification < 2 ^ 16
  · rw [ensure_of hlength, ok_bind, binaryCell_of_short hlength]
    exact fillTaken_eq s hs
  · rw [ensure, if_neg hlength, fail_bind, binaryCell_of_long hlength, forRange_refused hrows hs]

/-- The loop of any column of fixed width does with its cells what their fates say. -/
theorem fillsByFate_of_bind (hencodes : Encodes mapping.arrow.dataType mapping.mssql.ty encoding)
    (hmapping : encoder.mappings[i]? = some mapping)
    (hbind : bindDirectArray encoder array i (DirectColumnPlan.fromMapping mapping encoding) = .ok bound)
    (hfixed : bound.isFixedWidth = true) : FillsByFate context array.len bound := by
  by_cases hbinary : ∃ length, encoding = .fixedSizeBinary (.fixedSizeBinaryToBinary length)
  · obtain ⟨length, rfl⟩ := hbinary
    obtain ⟨data, hdata, rfl⟩ := map_eq_ok.mp hbind
    rw [← len_of_downcastFixedSizeBinary hdata]
    exact fixedSizeBinary_fillsByFate
  · have hlimit : AnnouncesLength mapping.mssql.ty := by
      intro length hty
      rw [hty] at hencodes
      generalize mapping.arrow.dataType = dataType at hencodes
      cases hencodes
      exact absurd ⟨_, rfl⟩ hbinary
    obtain ⟨_, -, -, hfills⟩ := @takesColumn_of_bind _ encoder array i mapping encoding bound context hencodes hlimit
      hmapping hbind hfixed
    exact hfills

end Bind

end FixedWidth

end ArrowTiberius.Direct
