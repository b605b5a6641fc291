import ArrowTiberius.Direct.Types.Temporal
import ArrowTiberius.Mssql.FromArrow.DatetimeRounding
import ArrowTiberius.Mssql.FromArrow.RowIndependence

namespace ArrowTiberius.Direct.Temporal

open Checked Tiling

variable {α : Type}

def TemporalValue.cell : TemporalValue → MssqlCell
  | .date value => .date (some value)
  | .time value => .time (some value)
  | .dateTime2 value => .dateTime2 (some value)
  | .dateTime value => .dateTime (some value)
  | .dateTimeOffset value => .dateTimeOffset (some value)

def TemporalValue.content : TemporalValue → List UInt8
  | .date value => Tds.encodeDate value
  | .time value => Tds.encodeTime value
  | .dateTime2 value => Tds.encodeDateTime2 value
  | .dateTime value => Tds.encodeDateTime value
  | .dateTimeOffset value => Tds.encodeDateTimeOffset value

theorem TemporalValue.payload_cell (value : TemporalValue) : Tds.payload value.cell = some value.content := by
  cases value <;> rfl

def framing (column : DirectColumnPlan) : Tds.Framing :=
  match column.targetType with
  | .dateTime => if column.nullable then .bytePrefixed else .plain
  | _ => .bytePrefixed

def Suits (column : DirectColumnPlan) : TemporalValue → Prop
  | .date value => ValidDate value ∧ column.targetType ≠ .dateTime
  | .time value => ValidTime value ∧ column.targetType ≠ .dateTime
  | .dateTime2 value => ValidDateTime2 value ∧ column.targetType ≠ .dateTime
  | .dateTime value => ValidDateTime value ∧ column.targetType = .dateTime
  | .dateTimeOffset value => ValidDateTimeOffset value ∧ column.targetType ≠ .dateTime

variable {column : DirectColumnPlan}

theorem framing_of_ne (h : column.targetType ≠ .dateTime) : framing column = .bytePrefixed := by
  unfold framing
  split
  · exact absurd ‹_› h
  · rfl

theorem framing_of_eq (h : column.targetType = .dateTime) :
    framing column = if column.nullable then .bytePrefixed else .plain := by
  unfold framing
  rw [h]

theorem framing_nullable (h : column.nullable = true) : framing column = .bytePrefixed := by
  unfold framing
  rw [if_pos h]
  split <;> rfl

theorem wire_framing (content : Option (List UInt8)) :
    Tds.wire (framing column) content = some (Tds.frame (framing column) content) := by
  unfold framing
  split
  · split
    · exact Tds.wire_bytePrefixed content
    · exact Tds.wire_plain content
  · exact Tds.wire_bytePrefixed content

theorem temporalValueCellLen_of_suits {value : TemporalValue} (h : Suits column value) :
    temporalValueCellLen column value = .ok (Tds.frame (framing column) (some value.content)).length := by
  cases value with
  | date value =>
    rw [framing_of_ne h.2]
    rfl
  | time value =>
    rw [framing_of_ne h.2, temporalValueCellLen, timeCellLenForValue, timeCellLen_of_le h.1.1, TemporalValue.content,
      Tds.frame, List.length_cons, Tds.length_encodeTime, Nat.add_comm]
  | dateTime2 value =>
    rw [framing_of_ne h.2, temporalValueCellLen, datetime2CellLenForValue, datetime2CellLen_of_le h.1.2.1,
      TemporalValue.content, Tds.frame, List.length_cons, Tds.length_encodeDateTime2]
    congr 1
    omega
  | dateTime value =>
    rw [framing_of_eq h.2, temporalValueCellLen, datetimeCellLenForColumn]
    by_cases hnullable : column.nullable = true
    · rw [if_pos hnullable, if_pos hnullable, TemporalValue.content, Tds.frame, List.length_cons,
        Tds.length_encodeDateTime]
      rfl
    · rw [if_neg hnullable, if_neg hnullable, TemporalValue.content, Tds.frame, Tds.length_encodeDateTime]
      rfl
  | dateTimeOffset value =>
    rw [framing_of_ne h.2, temporalValueCellLen, datetimeoffsetCellLenForValue, datetimeoffsetCellLen_of_le h.1.1.2.1,
      TemporalValue.content, Tds.frame, List.length_cons, Tds.length_encodeDateTimeOffset]
    congr 1
    omega

section Write

variable {position : CellPosition} {bytes : List UInt8}

theorem writeDirectCell_of {kind : String} {expectedLen : Result ℕ} {write : List UInt8 → Result (List UInt8)}
    {new : List UInt8} (hexpected : expectedLen = .ok new.length)
    (hwrite : ∀ window : List UInt8, window.length = new.length → write window = .ok new)
    (hlength : position.len = new.length) (hinside : position.offset + position.len ≤ bytes.length)
    (haddressable : bytes.length < 2 ^ 64) :
    writeDirectCell kind expectedLen write bytes position column = .ok (splice bytes position.offset new) := by
  rw [writeDirectCell, hexpected, ok_bind, checkPositionLen_of hlength, ok_bind]
  apply modifyCell_of hlength hinside haddressable
  intro window hw
  exact mapError_eq_ok.mpr (hwrite window hw)

def TemporalValue.writeCell (column : DirectColumnPlan) (value : TemporalValue) (cellBytes : List UInt8) :
    Result (List UInt8) :=
  match value with
  | .date value => writeDateCell cellBytes value
  | .time value => writeTimeCell cellBytes value
  | .dateTime2 value => writeDatetime2Cell cellBytes value
  | .dateTime value => if column.nullable then writeDatetimeCell cellBytes value else writeDatetimePayload cellBytes value
  | .dateTimeOffset value => writeDatetimeoffsetCell cellBytes value

theorem writeCell_of_suits {value : TemporalValue} {window : List UInt8} (h : Suits column value)
    (hw : window.length = (Tds.frame (framing column) (some value.content)).length) :
    value.writeCell column window = .ok (Tds.frame (framing column) (some value.content)) := by
  cases value with
  | date value =>
    rw [framing_of_ne h.2] at hw ⊢
    apply writeDateCell_of_length h.1
    exact hw
  | time value =>
    rw [framing_of_ne h.2] at hw ⊢
    apply writeTimeCell_of_length h.1
    rw [hw, TemporalValue.content, Tds.frame, List.length_cons, Tds.length_encodeTime, Nat.add_comm]
  | dateTime2 value =>
    rw [framing_of_ne h.2] at hw ⊢
    apply writeDatetime2Cell_of_length h.1
    rw [hw, TemporalValue.content, Tds.frame, List.length_cons, Tds.length_encodeDateTime2]
    omega
  | dateTime value =>
    rw [framing_of_eq h.2] at hw ⊢
    rw [TemporalValue.writeCell]
    by_cases hnullable : column.nullable = true
    · rw [if_pos hnullable] at hw
      rw [if_pos hnullable, if_pos hnullable]
      apply writeDatetimeCell_of_length h.1
      rw [hw, TemporalValue.content, Tds.frame, List.length_cons, Tds.length_encodeDateTime]
    · rw [if_neg hnullable] at hw
      rw [if_neg hnullable, if_neg hnullable]
      apply writeDatetimePayload_of_length h.1
      rw [hw, TemporalValue.content, Tds.frame, Tds.length_encodeDateTime]
  | dateTimeOffset value =>
    rw [framing_of_ne h.2] at hw ⊢
    apply writeDatetimeoffsetCell_of_length h.1
    rw [hw, TemporalValue.content, Tds.frame, List.length_cons, Tds.length_encodeDateTimeOffset]
    omega

theorem writeDirectTemporalValueCell_of {value : TemporalValue} (h : Suits column value)
    (hlength : position.len = (Tds.frame (framing column) (some value.content)).length)
    (hinside : position.offset + position.len ≤ bytes.length) (haddressable : bytes.length < 2 ^ 64) :
    writeDirectTemporalValueCell bytes position column value =
      .ok (splice bytes position.offset (Tds.frame (framing column) (some value.content))) := by
  have hlen := temporalValueCellLen_of_suits h
  have hwrite (window : List UInt8) (hw : window.length = (Tds.frame (framing column) (some value.content)).length) :=
    writeCell_of_suits h hw
  cases value with
  | date value => exact writeDirectCell_of hlen hwrite hlength hinside haddressable
  | time value => exact writeDirectCell_of hlen hwrite hlength hinside haddressable
  | dateTime2 value => exact writeDirectCell_of hlen hwrite hlength hinside haddressable
  | dateTime value => exact writeDirectCell_of hlen hwrite hlength hinside haddressable
  | dateTimeOffset value => exact writeDirectCell_of hlen hwrite hlength hinside haddressable

theorem writeNullDirectTemporalCell_of {r : ℕ} (hnullable : column.nullable = true) (hlength : position.len = 1)
    (hinside : position.offset + position.len ≤ bytes.length) (haddressable : bytes.length < 2 ^ 64) :
    writeNullDirectTemporalCell bytes position column r =
      .ok (splice bytes position.offset (Tds.frame .bytePrefixed none)) := by
  rw [writeNullDirectTemporalCell, nullTemporalCellLenForColumn, ensure_of hnullable, ok_bind, pure_eq_ok, ok_bind,
    checkPositionLen_of (show position.len = nullTemporalCellLen from hlength), ok_bind]
  apply modifyCell_of hlength hinside haddressable
  intro window hw
  exact writeNullTemporalCell_of_length hw

theorem appendDirectTemporalValueCell_of (buf : List UInt8) {value : TemporalValue} (h : Suits column value) :
    appendDirectTemporalValueCell buf column value =
      .ok (buf ++ Tds.frame (framing column) (some value.content)) := by
  cases value with
  | date value =>
    rw [framing_of_ne h.2]
    exact mapError_eq_ok.mpr (appendDateCell_of_valid buf h.1)
  | time value =>
    rw [framing_of_ne h.2]
    exact mapError_eq_ok.mpr (appendTimeCell_of_valid buf h.1)
  | dateTime2 value =>
    rw [framing_of_ne h.2]
    exact mapError_eq_ok.mpr (appendDatetime2Cell_of_valid buf h.1)
  | dateTime value =>
    rw [framing_of_eq h.2, appendDirectTemporalValueCell, appendDirectDatetimeCell]
    by_cases hnullable : column.nullable = true
    · rw [if_pos hnullable, if_pos hnullable]
      exact mapError_eq_ok.mpr (appendDatetimeCell_of_valid buf h.1)
    · have hcell : (List.replicate datetimePayloadLen (0 : UInt8)).length = 8 := rfl
      rw [if_neg hnullable, if_neg hnullable, mapError_eq_ok.mpr (writeDatetimePayload_of_length h.1 hcell), ok_bind]
      rfl
  | dateTimeOffset value =>
    rw [framing_of_ne h.2]
    exact mapError_eq_ok.mpr (appendDatetimeoffsetCell_of_valid buf h.1)

end Write

variable [Externals] {mapping : SchemaMapping} {data : Arr α} {valueOf : α → Option TemporalValue}

def zonesResolve (mapping : SchemaMapping) : Bool := succeeds (validateMappingTimestampTimezoneMetadata mapping 0)

theorem validateMapping_eq_ok {r : ℕ} {u : Unit} :
    validateMappingTimestampTimezoneMetadata mapping r = .ok u ↔ zonesResolve mapping = true := by
  have hrow : (validateMappingTimestampTimezoneMetadata mapping r).toOption =
      (validateMappingTimestampTimezoneMetadata mapping 0).toOption := by
    unfold validateMappingTimestampTimezoneMetadata
    split
    · exact validateTimestampTimezoneMetadata_toOption _
    · rfl
  rw [← toOption_eq_some, hrow, toOption_eq_some, zonesResolve, succeeds_iff]
  exact ⟨fun h => ⟨_, h⟩, fun ⟨_, h⟩ => h⟩

theorem zonesResolve_of_plain (h : ∀ unit timezone, mapping.arrow.dataType ≠ .timestamp unit timezone) :
    zonesResolve mapping = true := by
  unfold zonesResolve validateMappingTimestampTimezoneMetadata
  split
  case h_1 hdt => exact absurd hdt (h _ _)
  case h_2 => rfl

theorem validateNull_eq (r : ℕ) : validateNullTimestampTimezoneMetadata mapping r =
    validateMappingTimestampTimezoneMetadata mapping r := by
  unfold validateNullTimestampTimezoneMetadata validateMappingTimestampTimezoneMetadata
  split <;> rfl

def cellBytes (data : Arr α) (mapping : SchemaMapping) (column : DirectColumnPlan)
    (valueOf : α → Option TemporalValue) : ℕ → Option (List UInt8) :=
  columnBytes (framing column) (columnContent (if zonesResolve mapping then nullContent column else none) data
    fun v => if zonesResolve mapping then (valueOf v).map TemporalValue.content else none)

section Law

variable {r : ℕ} {bytes : List UInt8}

theorem cellBytes_null (hnull : data.isNull r = true) : cellBytes data mapping column valueOf r = some bytes ↔
    zonesResolve mapping = true ∧ column.nullable = true ∧ bytes = [0] := by
  rw [cellBytes, columnBytes_of_null hnull]
  by_cases hzones : zonesResolve mapping = true
  · rw [if_pos hzones, nullContent_wire_eq_some, wire_framing, Option.some.injEq]
    constructor
    · rintro ⟨hnullable, rfl⟩
      rw [framing_nullable hnullable]
      exact ⟨hzones, hnullable, rfl⟩
    · rintro ⟨-, hnullable, rfl⟩
      rw [framing_nullable hnullable]
      exact ⟨hnullable, rfl⟩
  · simp [hzones]

theorem cellBytes_value (hnull : data.isNull r = false) : cellBytes data mapping column valueOf r = some bytes ↔
    zonesResolve mapping = true ∧ ∃ value, valueOf (data.value r) = some value ∧
      bytes = Tds.frame (framing column) (some value.content) := by
  rw [cellBytes, columnBytes_of_value hnull]
  by_cases hzones : zonesResolve mapping = true
  · simp only [hzones, if_true, true_and, Option.bind_map, Option.bind_eq_some_iff, Function.comp_apply, wire_framing,
      Option.some.injEq]
    exact exists_congr fun _ => and_congr_right fun _ => eq_comm
  · simp [hzones]

omit [Externals] in
theorem nullTemporalCellLen_eq_ok {n : ℕ} :
    nullTemporalCellLenForColumn column r = .ok n ↔ column.nullable = true ∧ n = 1 := by
  simp only [nullTemporalCellLenForColumn, bind_unit_eq_ok, ensure_eq_ok, pure_eq_ok, Except.ok.injEq]
  exact and_congr_right fun _ => eq_comm

theorem measure_cell {valueLen : α → ℕ → Result ℕ} (hlen : ∀ v r n, valueLen v r = .ok n ↔
      ∃ value, valueOf v = some value ∧ n = (Tds.frame (framing column) (some value.content)).length) (n : ℕ) :
    (if data.isNull r then do
      validateNullTimestampTimezoneMetadata mapping r
      nullTemporalCellLenForColumn column r
    else do
      validateMappingTimestampTimezoneMetadata mapping r
      valueLen (data.value r) r) = .ok n ↔
      ∃ bytes, cellBytes data mapping column valueOf r = some bytes ∧ n = bytes.length := by
  by_cases hnull : data.isNull r = true
  · simp only [if_pos hnull, validateNull_eq, bind_unit_eq_ok, validateMapping_eq_ok, nullTemporalCellLen_eq_ok,
      cellBytes_null hnull]
    constructor
    · rintro ⟨hzones, hnullable, rfl⟩
      exact ⟨[0], ⟨hzones, hnullable, rfl⟩, rfl⟩
    · rintro ⟨_, ⟨hzones, hnullable, rfl⟩, rfl⟩
      exact ⟨hzones, hnullable, rfl⟩
  · simp only [if_neg hnull, bind_unit_eq_ok, validateMapping_eq_ok, hlen,
      cellBytes_value (Bool.eq_false_iff.mpr hnull)]
    constructor
    · rintro ⟨hzones, value, hvalue, rfl⟩
      exact ⟨_, ⟨hzones, value, hvalue, rfl⟩, rfl⟩
    · rintro ⟨_, ⟨hzones, value, hvalue, rfl⟩, rfl⟩
      exact ⟨hzones, value, hvalue, rfl⟩

theorem fill_cell {fillValue : α → ℕ → CellPosition → List UInt8 → Result (List UInt8)} {new : List UInt8}
    {position : CellPosition}
    (hfill : ∀ v value, valueOf v = some value →
      fillValue v r position bytes = writeDirectTemporalValueCell bytes position column value)
    (hsuits : ∀ v value, valueOf v = some value → Suits column value)
    (hnew : cellBytes data mapping column valueOf r = some new) (hlength : position.len = new.length)
    (hinside : position.offset + position.len ≤ bytes.length) (haddressable : bytes.length < 2 ^ 64) :
    (if data.isNull r then writeNullDirectTemporalCell bytes position column r
    else fillValue (data.value r) r position bytes) = .ok (splice bytes position.offset new) := by
  by_cases hnull : data.isNull r = true
  · obtain ⟨-, hnullable, rfl⟩ := (cellBytes_null hnull).mp hnew
    rw [if_pos hnull]
    apply writeNullDirectTemporalCell_of hnullable hlength hinside haddressable
  · obtain ⟨-, value, hvalue, rfl⟩ := (cellBytes_value (Bool.eq_false_iff.mpr hnull)).mp hnew
    rw [if_neg hnull, hfill _ value hvalue]
    apply writeDirectTemporalValueCell_of (hsuits _ value hvalue) hlength hinside haddressable

theorem zones_of_cellBytes (h : cellBytes data mapping column valueOf r = some bytes) :
    zonesResolve mapping = true := by
  by_cases hnull : data.isNull r = true
  · exact ((cellBytes_null hnull).mp h).1
  · exact ((cellBytes_value (Bool.eq_false_iff.mpr hnull)).mp h).1

theorem append_cell {appendValue : α → ℕ → Result (ℕ × TemporalValue)} (buf : List UInt8)
    (happend : ∀ v value, valueOf v = some value →
      appendValue v r = .ok ((Tds.frame (framing column) (some value.content)).length, value))
    (hsuits : ∀ v value, valueOf v = some value → Suits column value)
    (h : cellBytes data mapping column valueOf r = some bytes) :
    appendTemporalValue data mapping column appendValue buf r bytes.length = .ok (buf ++ bytes) := by
  have hzones := (@validateMapping_eq_ok _ mapping r ()).mpr (zones_of_cellBytes h)
  unfold appendTemporalValue
  by_cases hnull : data.isNull r = true
  · obtain ⟨-, hnullable, rfl⟩ := (cellBytes_null hnull).mp h
    rw [if_pos hnull, validateNull_eq, hzones, ok_bind, nullTemporalCellLen_eq_ok.mpr ⟨hnullable, rfl⟩, ok_bind,
      ensure_of (show [(0 : UInt8)].length = 1 from rfl), ok_bind, pure_eq_ok, appendNullTemporalCell]
  · obtain ⟨-, value, hvalue, rfl⟩ := (cellBytes_value (Bool.eq_false_iff.mpr hnull)).mp h
    rw [if_neg hnull, hzones, ok_bind, happend _ value hvalue, ok_bind]
    dsimp only
    rw [ensure_of rfl, ok_bind, appendDirectTemporalValueCell_of buf (hsuits _ value hvalue)]

variable {valueLen : α → ℕ → Result ℕ} {fillValue : α → ℕ → CellPosition → List UInt8 → Result (List UInt8)}
  {appendValue : α → ℕ → Result (ℕ × TemporalValue)}

theorem plain_law
    (hlen : ∀ v r n, valueLen v r = .ok n ↔
      ∃ value, valueOf v = some value ∧ n = (Tds.frame (framing column) (some value.content)).length)
    (hfill : ∀ v r position bytes value, valueOf v = some value →
      fillValue v r position bytes = writeDirectTemporalValueCell bytes position column value)
    (happend : ∀ v r value, valueOf v = some value →
      appendValue v r = .ok ((Tds.frame (framing column) (some value.content)).length, value))
    (hsuits : ∀ v value, valueOf v = some value → Suits column value) :
    ColumnLaw data.len (cellBytes data mapping column valueOf)
      (measureTemporalValues data mapping column valueLen) (fillPlainColumn data column fillValue)
      (appendTemporalValue data mapping column appendValue) := by
  apply ColumnLaw.of_cells
  · intro r n
    exact measure_cell hlen n
  · intro r new position bytes hnew hlength hinside haddressable
    exact fill_cell (fun v value => hfill v r position bytes value) hsuits hnew hlength hinside haddressable
  · intro r bytes buf h
    exact append_cell buf (fun v value => happend v r value) hsuits h

theorem zoned_law
    (hlen : ∀ v r n, valueLen v r = .ok n ↔
      ∃ value, valueOf v = some value ∧ n = (Tds.frame (framing column) (some value.content)).length)
    (hfill : ∀ v r position bytes value, valueOf v = some value →
      fillValue v r position bytes = writeDirectTemporalValueCell bytes position column value)
    (happend : ∀ v r value, valueOf v = some value →
      appendValue v r = .ok ((Tds.frame (framing column) (some value.content)).length, value))
    (hsuits : ∀ v value, valueOf v = some value → Suits column value) :
    ColumnLaw data.len (cellBytes data mapping column valueOf)
      (measureTemporalValues data mapping column valueLen) (fillZonedColumn data mapping column fillValue)
      (appendTemporalValue data mapping column appendValue) := by
  apply ColumnLaw.of_cells
  · intro r n
    exact measure_cell hlen n
  · intro r new position bytes hnew hlength hinside haddressable
    have hzones := (@validateMapping_eq_ok _ mapping r ()).mpr (zones_of_cellBytes hnew)
    simp only [validateNull_eq, hzones, ok_bind]
    exact fill_cell (fun v value => hfill v r position bytes value) hsuits hnew hlength hinside haddressable
  · intro r bytes buf h
    exact append_cell buf (fun v value => happend v r value) hsuits h

end Law

end ArrowTiberius.Direct.Temporal
