import ArrowTiberius.Mssql.FromArrow.DatetimeRounding
import ArrowTiberius.Mssql.FromArrow.NanosecondPolicy
import ArrowTiberius.Mssql.FromArrow.RowIndependence

namespace ArrowTiberius

open Checked Rounding Direct

variable {mapping : SchemaMapping} {rowIndex : ℕ} {policy : NanosecondPolicy}

theorem validDate_of_date32 {value : SInt 32} {result : MssqlDate}
    (h : ArrowTiberius.mssqlDateFromArrowDate32 mapping rowIndex value = .ok result) : ValidDate result := by
  have hmax : (ArrowTiberius.sqlServerDateMaxDays : ℤ) = 3652058 := rfl
  simp only [ArrowTiberius.mssqlDateFromArrowDate32, bind_eq_ok, ensure_eq_ok, pure_eq_ok, Except.ok.injEq] at h
  obtain ⟨days, -, _, hrange, rfl⟩ := h
  rw [hmax] at hrange
  change days.toNat ≤ 3652058
  omega

theorem validDateTime2_of_date64 {value : SInt 64} {result : MssqlDateTime2}
    (h : ArrowTiberius.mssqlDatetime2FromArrowDate64 mapping rowIndex value = .ok result) : ValidDateTime2 result := by
  have hmax : (ArrowTiberius.sqlServerDateMaxDays : ℤ) = 3652058 := rfl
  have hday : millisecondsPerDay = 86400000 := rfl
  simp only [ArrowTiberius.mssqlDatetime2FromArrowDate64, bind_eq_ok, ensure_eq_ok, pure_eq_ok, Except.ok.injEq] at h
  obtain ⟨days, -, _, hrange, rfl⟩ := h
  rw [hmax] at hrange
  rw [hday]
  refine ⟨?_, (show 3 ≤ 7 by decide), ?_⟩
  · change days.toNat ≤ 3652058
    omega
  · change (value.val % 86400000).toNat < 86400 * 10 ^ 3
    omega

theorem validTime_of_mssqlTimeFromI64 {increments incrementsPerDay : ℤ} {scale : ℕ} {unitName : String}
    {result : MssqlTime} (hscale : scale ≤ 7) (hday : incrementsPerDay = 86400 * 10 ^ scale)
    (h : Time.mssqlTimeFromI64 mapping rowIndex increments incrementsPerDay scale unitName = .ok result) :
    ValidTime result := by
  obtain ⟨⟨hnonneg, hlt⟩, rfl⟩ := mssqlTimeFromI64_eq_ok.mp h
  refine ⟨hscale, ?_⟩
  rw [hday] at hlt
  have hcast : ((increments.toNat : ℕ) : ℤ) = increments := Int.toNat_of_nonneg hnonneg
  exact_mod_cast hcast ▸ hlt

theorem validTime_of_nanoseconds {value : SInt 64} {result : MssqlTime}
    (h : mssqlTimeFromArrowTime64Nanosecond mapping rowIndex value policy = .ok result) : ValidTime result := by
  obtain ⟨hday, ticks, hticks, hlt, rfl⟩ := (mssqlTimeFromNanoseconds_eq_ok value).mp h
  refine ⟨le_refl 7, ?_⟩
  change ticks.toNat < 86400 * 10 ^ 7
  omega

theorem validDateTime2_of_timestamp {unit : TimeUnit} {value : SInt 64} {precision : ℕ} {result : MssqlDateTime2}
    (hty : mapping.mssql.ty = .dateTime2 precision) (hprecision : precision ≤ 7)
    (h : timestampDatetime2 unit mapping rowIndex value policy = .ok result) : ValidDateTime2 result := by
  obtain ⟨-, _, -, -, -, hlt, hscale, hincrements, rfl⟩ := (timestamp_eq_ok_iff hty hprecision).mp h
  have hnonneg : (0 : ℤ) ≤ result.time.increments * incrementTicks result.time.scale := by positivity
  refine ⟨?_, hscale ▸ hprecision, by rw [hscale]; exact hincrements⟩
  unfold datetime2Instant endInstant at hlt
  unfold ValidDate
  omega

section Rows

variable {r s : ℕ}

theorem timeFromI64_toOption {increments incrementsPerDay : ℤ} {scale : ℕ} {unitName : String} :
    (Time.mssqlTimeFromI64 mapping r increments incrementsPerDay scale unitName).toOption =
      (Time.mssqlTimeFromI64 mapping s increments incrementsPerDay scale unitName).toOption := by
  apply toOption_congr
  intro result
  rw [mssqlTimeFromI64_eq_ok, mssqlTimeFromI64_eq_ok]

theorem timeFromNanoseconds_toOption (value : SInt 64) :
    (Time.mssqlTimeFromNanoseconds mapping r value.val policy).toOption =
      (Time.mssqlTimeFromNanoseconds mapping s value.val policy).toOption := by
  apply toOption_congr
  intro result
  simp only [mssqlTimeFromNanoseconds_eq_ok, nanosecondsTo100nsTicks_eq_ok]

end Rows

variable [Externals]

theorem validDateTimeOffset_of_timestamp {unit : TimeUnit} {value : SInt 64} {timezone : String}
    {result : MssqlDateTimeOffset}
    (h : timestampDatetimeoffset unit mapping rowIndex value timezone policy = .ok result) :
    ValidDateTimeOffset result := by
  obtain ⟨_, minutes, ticks, -, -, hle, -, hcalendar, -, rfl⟩ := timestampDatetimeoffset_eq_ok.mp h
  exact validDateTimeOffset_of_splitInstant hcalendar hle

theorem resolution_of_datetimeoffset {unit : TimeUnit} {value : SInt 64} {timezone : String}
    {result : MssqlDateTimeOffset}
    (h : timestampDatetimeoffset unit mapping rowIndex value timezone policy = .ok result) :
    ∃ resolution, timezoneResolutionFromMetadata mapping rowIndex timezone = .ok resolution := by
  obtain ⟨resolution, _, _, hresolution, -⟩ := timestampDatetimeoffset_eq_ok.mp h
  exact ⟨resolution, hresolution⟩

end ArrowTiberius
