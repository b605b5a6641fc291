import ArrowTiberius.Direct.Rows.FixedWidthCells
import ArrowTiberius.Mssql.FromArrow.TemporalFailures

namespace ArrowTiberius.Direct.FixedWidth

open Checked Tiling

variable {α β : Type} [Externals] {data : Arr α} {mapping : SchemaMapping} {column : DirectColumnPlan} {valueLen : ℕ}
  {context : RuntimeConversionContext}

section Values

variable {mk : β → Temporal.TemporalValue} {g : α → ℕ → Result β} {lenOf : β → Result ℕ}
  {writeOf : List UInt8 → β → Result (List UInt8)} {check validateNull : ℕ → Result Unit}
  {value : α → ℕ → Result (ℕ × (List UInt8 → Result (List UInt8)))}

theorem value_cells {kind : String}
    (hcheck : ∀ r, check r = .ok () ↔ Temporal.zonesResolve mapping = true) (hcheckSafe : ∀ r, Safe (check r))
    (hvalidateNull : validateNull = check)
    (hvalue : ∀ v r, value v r = (do
      check r
      let b ← g v r
      let cellLen ← lenOf b
      pure (cellLen, (writeOf · b))))
    (hlenOf : ∀ b, Temporal.temporalValueCellLen column (mk b) = lenOf b)
    (hwriteOf : ∀ b, (mk b).writeCell column = (writeOf · b))
    (hrow : ∀ v r s, (g v r).toOption = (g v s).toOption) (hsafe : ∀ v r, Safe (g v r))
    (hsuits : ∀ v b, g v 0 = .ok b → Temporal.Suits column (mk b))
    (hlen : ∀ v b, g v 0 = .ok b → lenOf b = .ok valueLen) :
    SoundCells data column (Temporal.cellBytes data mapping column fun v => (mk <$> g v 0).toOption) (nullOr data 1 valueLen)
      (writeTemporalFixedWidthValue kind data column validateNull value) := by
  apply @temporal_cells _ data column _ mapping valueLen (fun v r => mk <$> g v r) check validateNull value kind
    hcheck hcheckSafe hvalidateNull
  · intro v r
    rw [hvalue]
    simp only [bind_map_left, hlenOf, hwriteOf]
  · exact Temporal.toOption_map_row mk hrow
  · intro v r
    exact safe_map mk (hsafe v r)
  · exact Temporal.suits_of_map g hsuits
  · intro v written hwritten
    obtain ⟨b, hb, rfl⟩ := map_eq_ok.mp (toOption_eq_some.mp hwritten)
    rw [hlenOf]
    exact hlen v b hb

theorem plain_check (hzones : Temporal.zonesResolve mapping = true) (r : ℕ) :
    (fun _ => .ok () : ℕ → Result Unit) r = .ok () ↔ Temporal.zonesResolve mapping = true :=
  iff_of_true rfl hzones

end Values

theorem date32_cells {data : Arr (SInt 32)} (hzones : Temporal.zonesResolve mapping = true)
    (htarget : column.targetType ≠ .dateTime) :
    SoundCells data column ((BoundDirectColumn.date32 column mapping data).cellBytes context) (nullOr data 1 dateCellLen)
      (date32FixedWidthCell data column) := by
  have hbaseline (v : SInt 32) (r : ℕ) : (Temporal.mssqlDateFromArrowDate32 column r v).toOption =
      (ArrowTiberius.mssqlDateFromArrowDate32 mapping 0 v).toOption := Temporal.mssqlDateFromArrowDate32_toOption v
  have hvalues : (BoundDirectColumn.date32 column mapping data).cellBytes context =
      Temporal.cellBytes data mapping column fun v =>
        (Temporal.TemporalValue.date <$> Temporal.mssqlDateFromArrowDate32 column 0 v).toOption := by
    simp only [BoundDirectColumn.cellBytes, toOption_map, hbaseline]
  rw [hvalues]
  apply @value_cells _ _ _ data mapping column dateCellLen _ (fun v r => Temporal.mssqlDateFromArrowDate32 column r v)
    (fun _ => .ok dateCellLen) writeDateCell _ _ _ _ (plain_check hzones) (fun _ => safe_ok ()) rfl
  · intro v r
    rfl
  · intro b
    rfl
  · intro b
    rfl
  · intro v r s
    rw [hbaseline, hbaseline]
  · exact Temporal.date32_safe
  · intro v date hdate
    rw [← toOption_eq_some, hbaseline, toOption_eq_some] at hdate
    exact ⟨validDate_of_date32 hdate, htarget⟩
  · intro v b _
    rfl

theorem date64_cells {data : Arr (SInt 64)} (hzones : Temporal.zonesResolve mapping = true)
    (htarget : column.targetType ≠ .dateTime)
    (hlen : datetime2CellLen 3 = .ok valueLen) :
    SoundCells data column ((BoundDirectColumn.date64 column mapping data).cellBytes context) (nullOr data 1 valueLen)
      (date64FixedWidthCell data column) := by
  have hbaseline (v : SInt 64) (r : ℕ) : (Temporal.mssqlDatetime2FromArrowDate64 column r v).toOption =
      (ArrowTiberius.mssqlDatetime2FromArrowDate64 mapping 0 v).toOption := Temporal.mssqlDatetime2FromArrowDate64_toOption v
  have hvalues : (BoundDirectColumn.date64 column mapping data).cellBytes context =
      Temporal.cellBytes data mapping column fun v =>
        (Temporal.TemporalValue.dateTime2 <$> Temporal.mssqlDatetime2FromArrowDate64 column 0 v).toOption := by
    simp only [BoundDirectColumn.cellBytes, toOption_map, hbaseline]
  rw [hvalues]
  apply @value_cells _ _ _ data mapping column valueLen _ (fun v r => Temporal.mssqlDatetime2FromArrowDate64 column r v)
    (fun value => datetime2CellLen value.time.scale) writeDatetime2Cell _ _ _ _ (plain_check hzones)
    (fun _ => safe_ok ()) rfl
  · intro v r
    rfl
  · intro b
    rfl
  · intro b
    rfl
  · intro v r s
    rw [hbaseline, hbaseline]
  · exact Temporal.date64_safe
  · intro v datetime hdatetime
    rw [← toOption_eq_some, hbaseline, toOption_eq_some] at hdatetime
    exact ⟨validDateTime2_of_date64 hdatetime, htarget⟩
  · intro v datetime hdatetime
    simp only [Temporal.mssqlDatetime2FromArrowDate64, bind_eq_ok, pure_eq_ok, Except.ok.injEq] at hdatetime
    obtain ⟨_, -, _, -, rfl⟩ := hdatetime
    exact hlen

theorem time_cells {time : α → ℕ → Result MssqlTime} {scale : ℕ} (hzones : Temporal.zonesResolve mapping = true)
    (htarget : column.targetType ≠ .dateTime)
    (hlen : timeCellLen scale = .ok valueLen) (hrow : ∀ v r s, (time v r).toOption = (time v s).toOption)
    (hsafe : ∀ v r, Safe (time v r)) (hvalid : ∀ v t, time v 0 = .ok t → ValidTime t ∧ t.scale = scale) :
    SoundCells data column (Temporal.cellBytes data mapping column fun v => (Temporal.TemporalValue.time <$> time v 0).toOption)
      (nullOr data 1 valueLen)
      (timeFixedWidthCell data column time) := by
  apply @value_cells _ _ _ data mapping column valueLen _ time (fun value => timeCellLen value.scale) writeTimeCell _ _ _ _
    (plain_check hzones) (fun _ => safe_ok ()) rfl
  · intro v r
    rfl
  · intro b
    rfl
  · intro b
    rfl
  · exact hrow
  · exact hsafe
  · intro v t ht
    exact ⟨(hvalid v t ht).1, htarget⟩
  · intro v t ht
    rw [(hvalid v t ht).2, hlen]

omit [Externals] in
theorem timeFromI64_valid {increments incrementsPerDay : ℤ} {scale : ℕ} {unitName : String} {r : ℕ} {t : MssqlTime}
    (hscale : scale ≤ 7) (hday : incrementsPerDay = 86400 * 10 ^ scale)
    (h : Time.mssqlTimeFromI64 mapping r increments incrementsPerDay scale unitName = .ok t) :
    ValidTime t ∧ t.scale = scale := by
  refine ⟨validTime_of_mssqlTimeFromI64 hscale hday h, ?_⟩
  obtain ⟨-, rfl⟩ := mssqlTimeFromI64_eq_ok.mp h
  rfl

section Timestamps

variable {unit : TimeUnit} {data : Arr (SInt 64)}

def timestampTemporalValue : TimestampFixedWidthValue → Temporal.TemporalValue
  | .dateTime value => .dateTime value
  | .dateTime2 value => .dateTime2 value

omit [Externals] in
theorem timestampTemporalValue_map (v : SInt 64) (r : ℕ) : timestampTemporalValue <$>
    timestampFixedWidthValue mapping column r v unit context.nanosecondPolicy context.datetimeRounding =
      Temporal.timestampValue unit mapping context column v r := by
  unfold timestampFixedWidthValue Temporal.timestampValue
  generalize column.targetType = ty
  cases ty with
  | dateTime => exact Functor.map_map _ _ _
  | dateTime2 _ => exact Functor.map_map _ _ _
  | _ => rfl

theorem validateNull_eq_validateMapping :
    validateNullTimestampTimezoneMetadata mapping = validateMappingTimestampTimezoneMetadata mapping := by
  funext r
  exact Temporal.validateNull_eq r

theorem timestamp_cells
    (hrow : ∀ v r s, (timestampFixedWidthValue mapping column r v unit context.nanosecondPolicy
      context.datetimeRounding).toOption = (timestampFixedWidthValue mapping column s v unit context.nanosecondPolicy
      context.datetimeRounding).toOption)
    (hsafe : ∀ v r, Safe (timestampFixedWidthValue mapping column r v unit context.nanosecondPolicy
      context.datetimeRounding))
    (hvalid : ∀ v b, timestampFixedWidthValue mapping column 0 v unit context.nanosecondPolicy
      context.datetimeRounding = .ok b → Temporal.Suits column (timestampTemporalValue b) ∧
        timestampFixedWidthValueLen column b = .ok valueLen) :
    SoundCells data column ((BoundDirectColumn.timestamp unit column mapping data).cellBytes context) (nullOr data 1 valueLen)
      (timestampFixedWidthCell unit data mapping column context) := by
  have hvalues : (BoundDirectColumn.timestamp unit column mapping data).cellBytes context =
      Temporal.cellBytes data mapping column fun v => (timestampTemporalValue <$>
        timestampFixedWidthValue mapping column 0 v unit context.nanosecondPolicy context.datetimeRounding).toOption := by
    simp only [BoundDirectColumn.cellBytes, timestampTemporalValue_map]
  rw [hvalues]
  apply @value_cells _ _ _ data mapping column valueLen timestampTemporalValue
    (fun v r => timestampFixedWidthValue mapping column r v unit context.nanosecondPolicy context.datetimeRounding)
    (timestampFixedWidthValueLen column) (fun cellBytes value => writeTimestampFixedWidthValue cellBytes column value)
    (validateMappingTimestampTimezoneMetadata mapping) _ _ _ (fun _ => Temporal.validateMapping_eq_ok)
    Temporal.validateMapping_safe validateNull_eq_validateMapping
  · intro v r
    rfl
  · intro b
    cases b <;> rfl
  · intro b
    cases b <;> rfl
  · exact hrow
  · exact hsafe
  · intro v b hb
    exact (hvalid v b hb).1
  · intro v b hb
    exact (hvalid v b hb).2

theorem timestampDatetime_cells (htarget : column.targetType = .dateTime) :
    SoundCells data column ((BoundDirectColumn.timestamp unit column mapping data).cellBytes context)
      (nullOr data 1 (if column.nullable then datetimeCellLen else datetimePayloadLen))
      (timestampFixedWidthCell unit data mapping column context) := by
  apply timestamp_cells
  · intro v r s
    simp only [timestampFixedWidthValue, htarget, toOption_map]
    rw [timestampDatetime_toOption rfl]
  · intro v r
    simp only [timestampFixedWidthValue, htarget]
    exact safe_map _ (failsWith_timestampDatetime unit v _ _).safe
  · intro v b hb
    simp only [timestampFixedWidthValue, htarget, map_eq_ok] at hb
    obtain ⟨datetime, hdatetime, rfl⟩ := hb
    exact ⟨⟨validDateTime_of_timestampDatetime hdatetime, htarget⟩, rfl⟩

theorem timestampDatetime2_cells {precision : ℕ} (htarget : column.targetType = .dateTime2 precision)
    (hty : mapping.mssql.ty = .dateTime2 precision) (hprecision : precision ≤ 7)
    (hlen : datetime2CellLen precision = .ok valueLen) :
    SoundCells data column ((BoundDirectColumn.timestamp unit column mapping data).cellBytes context) (nullOr data 1 valueLen)
      (timestampFixedWidthCell unit data mapping column context) := by
  apply timestamp_cells
  · intro v r s
    simp only [timestampFixedWidthValue, htarget, toOption_map]
    rw [timestampDatetime2_toOption rfl rfl]
  · intro v r
    simp only [timestampFixedWidthValue, htarget]
    exact safe_map _ (failsWith_timestampDatetime2 hty hprecision).safe
  · intro v b hb
    simp only [timestampFixedWidthValue, htarget, map_eq_ok] at hb
    obtain ⟨datetime, hdatetime, rfl⟩ := hb
    obtain ⟨-, _, -, -, -, -, hscale, -⟩ := (timestamp_eq_ok_iff hty hprecision).mp hdatetime
    refine ⟨⟨validDateTime2_of_timestamp hty hprecision hdatetime, by simp [htarget]⟩, ?_⟩
    rw [timestampFixedWidthValueLen, hscale, hlen]

theorem datetimeoffset_cells (htarget : column.targetType ≠ .dateTime)
    (hlen : datetimeoffsetCellLen 7 = .ok valueLen) :
    SoundCells data column ((BoundDirectColumn.dateTimeOffset unit column mapping data).cellBytes context)
      (nullOr data 1 valueLen)
      (datetimeoffsetFixedWidthCell unit data mapping column context.nanosecondPolicy) := by
  apply @value_cells _ _ _ data mapping column valueLen Temporal.TemporalValue.dateTimeOffset
    (fun v r => Temporal.datetimeoffsetValue unit mapping context v r)
    (fun value => datetimeoffsetCellLen value.datetime2.time.scale) writeDatetimeoffsetCell
    (validateMappingTimestampTimezoneMetadata mapping) _ _ _ (fun _ => Temporal.validateMapping_eq_ok)
    Temporal.validateMapping_safe validateNull_eq_validateMapping
  · intro v r
    simp only [Temporal.datetimeoffsetValue, bind_assoc]
  · intro b
    rfl
  · intro b
    rfl
  · exact Temporal.datetimeoffsetValue_toOption
  · intro v r
    exact safe_bind (Temporal.timezone_safe r) fun timezone _ => (failsWith_timestampDatetimeoffset unit v timezone _).safe
  · intro v datetime hdatetime
    obtain ⟨timezone, -, hvalue⟩ := bind_eq_ok.mp hdatetime
    exact ⟨validDateTimeOffset_of_timestamp hvalue, htarget⟩
  · intro v datetime hdatetime
    obtain ⟨timezone, -, hvalue⟩ := bind_eq_ok.mp hdatetime
    obtain ⟨-, _, _, -, -, -, -, -, -, rfl⟩ := timestampDatetimeoffset_eq_ok.mp hvalue
    exact hlen

end Timestamps

end ArrowTiberius.Direct.FixedWidth
