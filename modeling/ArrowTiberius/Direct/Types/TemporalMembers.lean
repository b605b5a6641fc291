import ArrowTiberius.Direct.Types.TemporalLaw
import ArrowTiberius.Mssql.FromArrow.TemporalFailures
import ArrowTiberius.Mssql.FromArrow.Validity

namespace ArrowTiberius.Direct.Temporal

open Checked

variable {α : Type} [Externals] {data : Arr α} {mapping : SchemaMapping} {column : DirectColumnPlan}

structure TemporalValues (column : DirectColumnPlan) (f : α → ℕ → Result TemporalValue) : Prop where
  row : ∀ v r s, (f v r).toOption = (f v s).toOption
  suits : ∀ v value, (f v 0).toOption = some value → Suits column value
  safe : ∀ v r, Safe (f v r)

section Values

variable {f : α → ℕ → Result TemporalValue}

omit [Externals] in
theorem TemporalValues.eq_ok_iff (h : TemporalValues column f) {v : α} {r : ℕ} {value : TemporalValue} :
    f v r = .ok value ↔ (f v 0).toOption = some value := by
  rw [← h.row v r 0, toOption_eq_some]

omit [Externals] in
theorem TemporalValues.cellLen_eq_ok (h : TemporalValues column f) (v : α) (r n : ℕ) :
    (f v r >>= temporalValueCellLen column) = .ok n ↔ ∃ value, (f v 0).toOption = some value ∧
      n = (Tds.frame (framing column) (some value.content)).length := by
  simp only [bind_eq_ok, h.eq_ok_iff]
  apply exists_congr
  intro value
  apply and_congr_right
  intro hvalue
  rw [temporalValueCellLen_of_suits (h.suits v value hvalue), Except.ok.injEq]
  exact eq_comm

theorem plain_law_of_value (h : TemporalValues column f) :
    ColumnLaw data.len (cellBytes data mapping column fun v => (f v 0).toOption)
      (measureTemporalValues data mapping column fun v rowIndex => f v rowIndex >>= temporalValueCellLen column)
      (fillPlainColumn data column fun v rowIndex cell bytes =>
        f v rowIndex >>= writeDirectTemporalValueCell bytes cell column)
      (appendTemporalValue data mapping column fun v rowIndex => do
        let value ← f v rowIndex
        let len ← temporalValueCellLen column value
        pure (len, value)) := by
  apply plain_law h.cellLen_eq_ok _ _ h.suits
  · intro v r position bytes value hvalue
    rw [h.eq_ok_iff.mpr hvalue, ok_bind]
  · intro v r value hvalue
    rw [h.eq_ok_iff.mpr hvalue, ok_bind, temporalValueCellLen_of_suits (h.suits v value hvalue)]
    rfl

theorem zoned_law_of_value (h : TemporalValues column f) :
    ColumnLaw data.len (cellBytes data mapping column fun v => (f v 0).toOption)
      (measureTemporalValues data mapping column fun v rowIndex => f v rowIndex >>= temporalValueCellLen column)
      (fillZonedColumn data mapping column fun v rowIndex cell bytes =>
        f v rowIndex >>= writeDirectTemporalValueCell bytes cell column)
      (appendTemporalValue data mapping column fun v rowIndex => do
        let value ← f v rowIndex
        let len ← temporalValueCellLen column value
        pure (len, value)) := by
  apply zoned_law h.cellLen_eq_ok _ _ h.suits
  · intro v r position bytes value hvalue
    rw [h.eq_ok_iff.mpr hvalue, ok_bind]
  · intro v r value hvalue
    rw [h.eq_ok_iff.mpr hvalue, ok_bind, temporalValueCellLen_of_suits (h.suits v value hvalue)]
    rfl

end Values

omit [Externals] in
theorem toOption_map_row {β : Type} {g : α → ℕ → Result β} (mk : β → TemporalValue)
    (hrow : ∀ v r s, (g v r).toOption = (g v s).toOption) (v : α) (r s : ℕ) :
    (mk <$> g v r).toOption = (mk <$> g v s).toOption := by
  rw [toOption_map, toOption_map, hrow v r s]

omit [Externals] in
theorem suits_of_map {β : Type} (g : α → ℕ → Result β) {mk : β → TemporalValue}
    (h : ∀ v b, g v 0 = .ok b → Suits column (mk b)) (v : α) (value : TemporalValue)
    (hvalue : (mk <$> g v 0).toOption = some value) : Suits column value := by
  obtain ⟨b, hb, rfl⟩ := map_eq_ok.mp (toOption_eq_some.mp hvalue)
  exact h v b hb

omit [Externals] in
theorem TemporalValues.map {β : Type} {g : α → ℕ → Result β} {mk : β → TemporalValue}
    (hrow : ∀ v r s, (g v r).toOption = (g v s).toOption) (hsuits : ∀ v b, g v 0 = .ok b → Suits column (mk b))
    (hsafe : ∀ v r, Safe (g v r)) : TemporalValues column fun v r => mk <$> g v r :=
  ⟨toOption_map_row mk hrow, suits_of_map g hsuits, fun v r => safe_map mk (hsafe v r)⟩

theorem validateNull_safe (r : ℕ) : Safe (validateNullTimestampTimezoneMetadata mapping r) :=
  failsWith_validateNullTimestampTimezoneMetadata.safe

theorem validateMapping_safe (r : ℕ) : Safe (validateMappingTimestampTimezoneMetadata mapping r) :=
  failsWith_validateMappingTimestampTimezoneMetadata.safe

section Dates

omit [Externals]

theorem date32_safe (value : SInt 32) (r : ℕ) : Safe (mssqlDateFromArrowDate32 column r value) := by
  have hfits := fitsSigned_32.mp value.fits
  have hdays : fitsSigned 64 (value.val + sqlServerDateUnixEpochDays) :=
    fitsSigned_64.mpr (by unfold sqlServerDateUnixEpochDays; omega)
  rw [mssqlDateFromArrowDate32, signedOp_of_fits hdays, ok_bind]
  split
  · exact safe_ok _
  · exact safe_fail _

theorem date64_safe (value : SInt 64) (r : ℕ) : Safe (mssqlDatetime2FromArrowDate64 column r value) := by
  have hfits := fitsSigned_64.mp value.fits
  have hdays : fitsSigned 64 (value.val / millisecondsPerDay + sqlServerDateUnixEpochDays) :=
    fitsSigned_64.mpr (by unfold millisecondsPerDay sqlServerDateUnixEpochDays; omega)
  unfold mssqlDatetime2FromArrowDate64
  dsimp only
  rw [signedOp_of_fits hdays, ok_bind]
  exact safe_bind (safe_ensure _ _) fun _ _ => safe_ok _

theorem date32_values (mapping : SchemaMapping) (htarget : column.targetType ≠ .dateTime) :
    TemporalValues column fun v r => TemporalValue.date <$> mssqlDateFromArrowDate32 column r v := by
  have hbaseline (v : SInt 32) (r : ℕ) : (mssqlDateFromArrowDate32 column r v).toOption =
      (ArrowTiberius.mssqlDateFromArrowDate32 mapping 0 v).toOption := mssqlDateFromArrowDate32_toOption v
  apply TemporalValues.map
  · intro v r s
    rw [hbaseline, hbaseline]
  · intro v date hdate
    rw [← toOption_eq_some, hbaseline, toOption_eq_some] at hdate
    exact ⟨validDate_of_date32 hdate, htarget⟩
  · exact date32_safe

theorem date64_values (mapping : SchemaMapping) (htarget : column.targetType ≠ .dateTime) :
    TemporalValues column fun v r => TemporalValue.dateTime2 <$> mssqlDatetime2FromArrowDate64 column r v := by
  have hbaseline (v : SInt 64) (r : ℕ) : (mssqlDatetime2FromArrowDate64 column r v).toOption =
      (ArrowTiberius.mssqlDatetime2FromArrowDate64 mapping 0 v).toOption := mssqlDatetime2FromArrowDate64_toOption v
  apply TemporalValues.map
  · intro v r s
    rw [hbaseline, hbaseline]
  · intro v datetime hdatetime
    rw [← toOption_eq_some, hbaseline, toOption_eq_some] at hdatetime
    exact ⟨validDateTime2_of_date64 hdatetime, htarget⟩
  · exact date64_safe

theorem time_values {increments : α → ℤ} {incrementsPerDay : ℤ} {scale : ℕ} {unitName : String} (hscale : scale ≤ 7)
    (hday : incrementsPerDay = 86400 * 10 ^ scale) (htarget : column.targetType ≠ .dateTime) :
    TemporalValues column fun v r => TemporalValue.time <$>
      Time.mssqlTimeFromI64 mapping r (increments v) incrementsPerDay scale unitName := by
  apply @TemporalValues.map _ column _ fun v r =>
    Time.mssqlTimeFromI64 mapping r (increments v) incrementsPerDay scale unitName
  · intro v r s
    exact timeFromI64_toOption
  · intro v t ht
    exact ⟨validTime_of_mssqlTimeFromI64 hscale hday ht, htarget⟩
  · intro v r
    exact (failsWith_mssqlTimeFromI64 _ _ _ _).safe

theorem time64Nanosecond_values {context : RuntimeConversionContext} (htarget : column.targetType ≠ .dateTime) :
    TemporalValues column fun v r => TemporalValue.time <$>
      mssqlTimeFromArrowTime64Nanosecond mapping r v context.nanosecondPolicy := by
  apply TemporalValues.map
  · intro v r s
    exact timeFromNanoseconds_toOption v
  · intro v t ht
    exact ⟨validTime_of_nanoseconds ht, htarget⟩
  · intro v r
    exact (failsWith_mssqlTimeFromNanoseconds _ _).safe

end Dates

section Timestamps

variable {unit : TimeUnit} {context : RuntimeConversionContext}

omit [Externals] in
theorem timestamp_values (hty : mapping.mssql.ty = column.targetType) (htarget : column.targetType = .dateTime ∨
      ∃ precision ≤ 7, column.targetType = .dateTime2 precision) :
    TemporalValues column (timestampValue unit mapping context column) := by
  rcases htarget with h | ⟨precision, hprecision, h⟩
  · have hvalue : timestampValue unit mapping context column = fun v r => TemporalValue.dateTime <$>
        timestampDatetime unit mapping r v context.nanosecondPolicy context.datetimeRounding := by
      funext v r
      rw [timestampValue, h]
    rw [hvalue]
    apply TemporalValues.map
    · intro v r s
      exact timestampDatetime_toOption rfl
    · intro v datetime hdatetime
      exact ⟨validDateTime_of_timestampDatetime hdatetime, h⟩
    · intro v r
      exact (failsWith_timestampDatetime unit v _ _).safe
  · have hvalue : timestampValue unit mapping context column = fun v r => TemporalValue.dateTime2 <$>
        timestampDatetime2 unit mapping r v context.nanosecondPolicy := by
      funext v r
      rw [timestampValue, h]
    rw [hvalue]
    apply TemporalValues.map
    · intro v r s
      exact timestampDatetime2_toOption rfl rfl
    · intro v datetime hdatetime
      exact ⟨validDateTime2_of_timestamp (hty.trans h) hprecision hdatetime, by simp [h]⟩
    · intro v r
      exact (failsWith_timestampDatetime2 (hty.trans h) hprecision).safe

omit [Externals] in
theorem timezone_safe (r : ℕ) : Safe (timestampTimezoneForDatetimeoffset mapping r) := by
  unfold timestampTimezoneForDatetimeoffset
  split
  · exact safe_bind (safe_ensure _ _) fun _ _ => safe_ok _
  · exact safe_fail _

theorem datetimeoffsetValue_toOption (v : SInt 64) (r s : ℕ) :
    (datetimeoffsetValue unit mapping context v r).toOption = (datetimeoffsetValue unit mapping context v s).toOption := by
  have hzone : (timestampTimezoneForDatetimeoffset mapping r).toOption =
      (timestampTimezoneForDatetimeoffset mapping s).toOption := by
    unfold timestampTimezoneForDatetimeoffset
    split
    · simp only [toOption_bind, toOption_ensure, pure_eq_ok, toOption_ok]
    · rfl
  simp only [datetimeoffsetValue, toOption_bind, hzone]
  congr 1
  funext timezone
  exact timestampDatetimeoffset_toOption rfl

theorem datetimeoffset_values (htarget : column.targetType ≠ .dateTime) :
    TemporalValues column fun v r => TemporalValue.dateTimeOffset <$> datetimeoffsetValue unit mapping context v r := by
  apply TemporalValues.map
  · exact datetimeoffsetValue_toOption
  · intro v datetime hdatetime
    obtain ⟨timezone, -, hvalue⟩ := bind_eq_ok.mp hdatetime
    exact ⟨validDateTimeOffset_of_timestamp hvalue, htarget⟩
  · intro v r
    exact safe_bind (timezone_safe r) fun timezone _ => (failsWith_timestampDatetimeoffset unit v timezone _).safe

end Timestamps

theorem date32_law {data : Arr (SInt 32)} (htarget : column.targetType ≠ .dateTime) :
    ColumnLaw data.len (cellBytes data mapping column fun v =>
        (TemporalValue.date <$> ArrowTiberius.mssqlDateFromArrowDate32 mapping 0 v).toOption)
      (measureDate32ColumnCellLengths data mapping column) (fillDate32Column data column)
      (appendDate32Cell data mapping column) := by
  have hbaseline (v : SInt 32) : (mssqlDateFromArrowDate32 column 0 v).toOption =
      (ArrowTiberius.mssqlDateFromArrowDate32 mapping 0 v).toOption := mssqlDateFromArrowDate32_toOption v
  have h := @plain_law_of_value _ _ data mapping column _ (date32_values mapping htarget)
  simp only [toOption_map, hbaseline, bind_map_left] at h ⊢
  exact h

theorem date64_law {data : Arr (SInt 64)} (htarget : column.targetType ≠ .dateTime) :
    ColumnLaw data.len (cellBytes data mapping column fun v =>
        (TemporalValue.dateTime2 <$> ArrowTiberius.mssqlDatetime2FromArrowDate64 mapping 0 v).toOption)
      (measureDate64ColumnCellLengths data mapping column) (fillDate64Column data column)
      (appendDate64Cell data mapping column) := by
  have hbaseline (v : SInt 64) : (mssqlDatetime2FromArrowDate64 column 0 v).toOption =
      (ArrowTiberius.mssqlDatetime2FromArrowDate64 mapping 0 v).toOption := mssqlDatetime2FromArrowDate64_toOption v
  have h := @plain_law_of_value _ _ data mapping column _ (date64_values mapping htarget)
  simp only [toOption_map, hbaseline, bind_map_left] at h ⊢
  exact h

theorem time_law {time : α → ℕ → Result MssqlTime}
    (h : TemporalValues column fun v r => TemporalValue.time <$> time v r) :
    ColumnLaw data.len (cellBytes data mapping column fun v => (TemporalValue.time <$> time v 0).toOption)
      (measureTimeColumnCellLengths data mapping column time) (fillTimeColumn data column time)
      (appendTimeArrayCell data mapping column time) := by
  have hlaw := @plain_law_of_value _ _ data mapping column _ h
  simp only [bind_map_left] at hlaw
  exact hlaw

theorem timestamp_law {unit : TimeUnit} {data : Arr (SInt 64)} {context : RuntimeConversionContext}
    (hty : mapping.mssql.ty = column.targetType) (htarget : column.targetType = .dateTime ∨
      ∃ precision ≤ 7, column.targetType = .dateTime2 precision) :
    ColumnLaw data.len (cellBytes data mapping column fun v => (timestampValue unit mapping context column v 0).toOption)
      (measureTimestampColumnCellLengths unit data mapping context column)
      (fillTimestampDirectColumn unit data mapping context column)
      (appendTimestampArrayCell unit data mapping context column) :=
  zoned_law_of_value (timestamp_values hty htarget)

theorem datetimeoffset_law {unit : TimeUnit} {data : Arr (SInt 64)} {context : RuntimeConversionContext}
    (htarget : column.targetType ≠ .dateTime) :
    ColumnLaw data.len (cellBytes data mapping column fun v =>
        (TemporalValue.dateTimeOffset <$> datetimeoffsetValue unit mapping context v 0).toOption)
      (measureDatetimeoffsetColumnCellLengths unit data mapping context column)
      (fillDatetimeoffsetDirectColumn unit data mapping context column)
      (appendDatetimeoffsetArrayCell unit data mapping context column) := by
  have h := @zoned_law_of_value _ _ data mapping column _
    (@datetimeoffset_values _ mapping column unit context htarget)
  simp only [bind_map_left] at h
  exact h

end ArrowTiberius.Direct.Temporal
