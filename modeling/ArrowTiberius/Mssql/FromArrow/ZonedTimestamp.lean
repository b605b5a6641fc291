import ArrowTiberius.Mssql.FromArrow.SourceTicks

namespace ArrowTiberius

open Checked Rounding

variable {mapping : SchemaMapping} {rowIndex : ℕ} {policy : NanosecondPolicy}

def InCalendar (ticks : ℤ) : Prop := firstInstant ≤ ticks ∧ ticks < endInstant

theorem nearest_one (ticks : ℤ) : nearest (incrementTicks 7) ticks = ticks := by
  simp [nearest, incrementTicks]

theorem mssqlDatetime2FromUnixEpoch100nsTicks_eq_ok {ticks sourceValue : ℤ} {unitName : String} {value : MssqlDateTime2}
    (hlo : -2 ^ 100 ≤ ticks) (hhi : ticks < 2 ^ 100) :
    mssqlDatetime2FromUnixEpoch100nsTicks mapping rowIndex ticks unitName sourceValue = .ok value ↔
      InCalendar ticks ∧ value = splitInstant 7 ticks := by
  apply (datetime2AtScale_eq_ok (le_refl 7) hlo hhi).trans
  rw [nearest_one]
  exact and_assoc.symm

theorem datetimeoffsetFromTicks_eq_ok {ticks minutes sourceValue : ℤ} {unitName : String}
    {result : MssqlDateTimeOffset} (hlo : -2 ^ 99 ≤ ticks) (hhi : ticks < 2 ^ 99) (hminutes : minutes.natAbs ≤ 840) :
    mssqlDatetimeoffsetFromUtc100nsTicks mapping rowIndex ticks minutes unitName sourceValue = .ok result ↔
      InCalendar ticks ∧ InCalendar (ticks + minutes * 60 * 10000000) ∧ result = ⟨splitInstant 7 ticks, minutes⟩ := by
  have hsecond : ticks100nsPerSecond = 10000000 := rfl
  have hoffset : fitsSigned 128 (minutes * 60 * 10000000) := fitsSigned_128.mpr (by omega)
  have hlocal : fitsSigned 128 (ticks + minutes * 60 * 10000000) := fitsSigned_128.mpr (by omega)
  rw [mssqlDatetimeoffsetFromUtc100nsTicks, hsecond, signedOp_of_fits hoffset, ok_bind, checkedSigned_of_fits hlocal,
    okOr_some, ok_bind]
  simp only [validateDatetimeoffsetLocalRange, bind_eq_ok, pure_eq_ok, Except.ok.injEq,
    mssqlDatetime2FromUnixEpoch100nsTicks_eq_ok (show -2 ^ 100 ≤ ticks by omega) (show ticks < 2 ^ 100 by omega),
    mssqlDatetime2FromUnixEpoch100nsTicks_eq_ok (show -2 ^ 100 ≤ ticks + minutes * 60 * 10000000 by omega)
      (show ticks + minutes * 60 * 10000000 < 2 ^ 100 by omega)]
  constructor
  · rintro ⟨_, ⟨_, ⟨hlocal, -⟩, -⟩, _, ⟨hutc, rfl⟩, rfl⟩
    exact ⟨hutc, hlocal, rfl⟩
  · rintro ⟨hutc, hlocal, rfl⟩
    exact ⟨(), ⟨_, ⟨hlocal, rfl⟩, trivial⟩, _, ⟨hutc, rfl⟩, rfl⟩

theorem sqlServerOffsetMinutes_eq_ok {seconds minutes : ℤ} : sqlServerOffsetMinutes mapping rowIndex seconds = .ok minutes ↔
    seconds = minutes * 60 ∧ minutes.natAbs ≤ 840 := by
  have hmax : sqlServerDatetimeoffsetMaxOffsetMinutes = 840 := rfl
  simp only [sqlServerOffsetMinutes, bind_eq_ok, ensure_eq_ok, okOr_eq_ok, checkedSigned_eq_some, pure_eq_ok,
    Except.ok.injEq, hmax]
  constructor
  · rintro ⟨_, hwhole, _, ⟨-, rfl⟩, _, hle, rfl⟩
    have hdvd := Int.dvd_of_tmod_eq_zero hwhole
    exact ⟨(Int.tdiv_mul_cancel hdvd).symm, by omega⟩
  · rintro ⟨rfl, hle⟩
    have hquotient : (minutes * 60).tdiv 60 = minutes := Int.mul_tdiv_cancel minutes (by decide)
    refine ⟨(), Int.mul_tmod_left minutes 60, minutes, ⟨?_, hquotient.symm⟩, (), by omega, rfl⟩
    rw [hquotient]
    exact fitsSigned_16.mpr (by omega)

section Instants

variable [Externals] {timezone : String}

def TimezoneResolution.secondsAhead (resolution : TimezoneResolution) (instant : ℤ) : Option ℤ :=
  match resolution with
  | .fixedOffset minutes => some (minutes * 60)
  | .named timezone => Externals.localMinusUtc timezone (instant / 1000000000) (instant % 1000000000).toNat

theorem offsetForInstant_eq_ok {resolution : TimezoneResolution} {instant minutes : ℤ}
    (hresolution : timezoneResolutionFromMetadata mapping rowIndex timezone = .ok resolution) :
    resolution.offsetForInstant mapping rowIndex (instant / 1000000000) (instant % 1000000000).toNat = .ok minutes ↔
      resolution.secondsAhead instant = some (minutes * 60) ∧ minutes.natAbs ≤ 840 := by
  constructor
  · intro h
    refine ⟨?_, natAbs_of_offsetForInstant hresolution h⟩
    cases resolution with
    | fixedOffset offset =>
      cases h
      rfl
    | named zone =>
      simp only [TimezoneResolution.offsetForInstant, bind_eq_ok, okOr_eq_ok, sqlServerOffsetMinutes_eq_ok] at h
      obtain ⟨seconds, hseconds, rfl, -⟩ := h
      exact hseconds
  · rintro ⟨hseconds, hle⟩
    cases resolution with
    | fixedOffset offset =>
      have hsame : offset * 60 = minutes * 60 := Option.some.inj hseconds
      rw [TimezoneResolution.offsetForInstant, Except.ok.injEq]
      omega
    | named zone =>
      simp only [TimezoneResolution.offsetForInstant, bind_eq_ok, okOr_eq_ok, sqlServerOffsetMinutes_eq_ok]
      exact ⟨_, hseconds, rfl, hle⟩

theorem timestampDatetimeoffset_eq_bind (unit : TimeUnit) (value : SInt 64) :
    timestampDatetimeoffset unit mapping rowIndex value timezone policy = (do
      let resolution ← timezoneResolutionFromMetadata mapping rowIndex timezone
      let offsetMinutes ← resolution.offsetForInstant mapping rowIndex (sourceInstant unit value.val / 1000000000)
        (sourceInstant unit value.val % 1000000000).toNat
      let utcTicks ← sourceTicks unit mapping rowIndex value policy
      mssqlDatetimeoffsetFromUtc100nsTicks mapping rowIndex utcTicks offsetMinutes (unitName unit) value.val) := by
  have hparts {seconds nanoseconds : ℤ} (hlo : 0 ≤ nanoseconds) (hhi : nanoseconds < 1000000000) :
      epochParts mapping rowIndex seconds nanoseconds = .ok (seconds, nanoseconds.toNat) := by
    rw [epochParts, checkedUnsigned_of_fits (fitsUnsigned_32.mpr (by omega)), okOr_some, ok_bind, pure_eq_ok]
  cases unit with
  | second =>
    have hinstant : sourceInstant .second value.val = value.val * 1000000000 := rfl
    have hseconds : value.val * 1000000000 / 1000000000 = value.val := by omega
    have hnanoseconds : value.val * 1000000000 % 1000000000 = 0 := by omega
    rw [hinstant, hseconds, hnanoseconds]
    rfl
  | millisecond =>
    have hinstant : sourceInstant .millisecond value.val = value.val * 1000000 := rfl
    have hseconds : value.val * 1000000 / 1000000000 = value.val / 1000 := by omega
    have hnanoseconds : value.val * 1000000 % 1000000000 = value.val % 1000 * 1000000 := by omega
    have hfits : fitsSigned 64 (value.val % 1000 * 1000000) := fitsSigned_64.mpr (by omega)
    rw [hinstant, hseconds, hnanoseconds, timestampDatetimeoffset, mssqlDatetimeoffsetFromArrowTimestampMillisecond,
      epochPartsFromMilliseconds, signedOp_of_fits hfits, ok_bind, hparts (by omega) (by omega), ok_bind]
    rfl
  | microsecond =>
    have hinstant : sourceInstant .microsecond value.val = value.val * 1000 := rfl
    have hseconds : value.val * 1000 / 1000000000 = value.val / 1000000 := by omega
    have hnanoseconds : value.val * 1000 % 1000000000 = value.val % 1000000 * 1000 := by omega
    have hfits : fitsSigned 64 (value.val % 1000000 * 1000) := fitsSigned_64.mpr (by omega)
    rw [hinstant, hseconds, hnanoseconds, timestampDatetimeoffset, mssqlDatetimeoffsetFromArrowTimestampMicrosecond,
      epochPartsFromMicroseconds, signedOp_of_fits hfits, ok_bind, hparts (by omega) (by omega), ok_bind]
    rfl
  | nanosecond =>
    have hinstant : sourceInstant .nanosecond value.val = value.val := mul_one _
    rw [hinstant, timestampDatetimeoffset, mssqlDatetimeoffsetFromArrowTimestampNanosecond,
      epochPartsFromNanoseconds, hparts (by omega) (by omega), ok_bind]
    rfl

theorem timestampDatetimeoffset_eq_ok {unit : TimeUnit} {value : SInt 64} {result : MssqlDateTimeOffset} :
    timestampDatetimeoffset unit mapping rowIndex value timezone policy = .ok result ↔
      ∃ resolution minutes ticks, timezoneResolutionFromMetadata mapping rowIndex timezone = .ok resolution ∧
        resolution.secondsAhead (sourceInstant unit value.val) = some (minutes * 60) ∧ minutes.natAbs ≤ 840 ∧
        NormalisesTo policy unit value.val ticks ∧ InCalendar ticks ∧ InCalendar (ticks + minutes * 60 * 10000000) ∧
        result = ⟨splitInstant 7 ticks, minutes⟩ := by
  simp only [timestampDatetimeoffset_eq_bind, bind_eq_ok, sourceTicks_eq_ok]
  constructor
  · rintro ⟨resolution, hresolution, minutes, hminutes, ticks, hticks, h⟩
    obtain ⟨hseconds, hle⟩ := (offsetForInstant_eq_ok hresolution).mp hminutes
    exact ⟨resolution, minutes, ticks, hresolution, hseconds, hle, hticks,
      (datetimeoffsetFromTicks_eq_ok hticks.bounds.1 hticks.bounds.2 hle).mp h⟩
  · rintro ⟨resolution, minutes, ticks, hresolution, hseconds, hle, hticks, h⟩
    exact ⟨resolution, hresolution, minutes, (offsetForInstant_eq_ok hresolution).mpr ⟨hseconds, hle⟩, ticks, hticks,
      (datetimeoffsetFromTicks_eq_ok hticks.bounds.1 hticks.bounds.2 hle).mpr h⟩

end Instants

theorem splitInstant_seven {ticks : ℤ} (h : InCalendar ticks) :
    datetime2Instant (splitInstant 7 ticks) = ticks ∧ Direct.ValidDateTime2 (splitInstant 7 ticks) := by
  obtain ⟨hfirst, hend⟩ := h
  obtain ⟨hscale, hincrements, hinstant⟩ := (eq_splitInstant_iff (le_refl 7) (one_dvd ticks) hfirst).mp rfl
  refine ⟨hinstant, ?_, le_refl 7, hincrements⟩
  unfold firstInstant at hfirst
  unfold endInstant at hend
  change (ticks / 864000000000 + 719162).toNat ≤ 3652058
  omega

theorem validDateTimeOffset_of_splitInstant {ticks minutes : ℤ} (h : InCalendar ticks) (hle : minutes.natAbs ≤ 840) :
    Direct.ValidDateTimeOffset ⟨splitInstant 7 ticks, minutes⟩ := ⟨(splitInstant_seven h).2, hle⟩

variable [Externals]

/-- A zoned timestamp keeps its instant, and the zone's offset at it. -/
theorem timestamp_to_datetimeoffset (unit : TimeUnit) (mapping : SchemaMapping) (rowIndex : ℕ) (value : SInt 64)
    (timezone : String) (policy : NanosecondPolicy) :
    (succeeds (timestampDatetimeoffset unit mapping rowIndex value timezone policy) ↔
      ∃ resolution seconds ticks, timezoneResolutionFromMetadata mapping rowIndex timezone = .ok resolution ∧
        resolution.secondsAhead (sourceInstant unit value.val) = some seconds ∧
        (60 ∣ seconds ∧ -840 ≤ seconds / 60 ∧ seconds / 60 ≤ 840) ∧ NormalisesTo policy unit value.val ticks ∧
        InCalendar ticks ∧ InCalendar (ticks + seconds * 10000000)) ∧
    (∀ result, timestampDatetimeoffset unit mapping rowIndex value timezone policy = .ok result →
      (∃ resolution, timezoneResolutionFromMetadata mapping rowIndex timezone = .ok resolution ∧
        resolution.secondsAhead (sourceInstant unit value.val) = some (result.offsetMinutes * 60)) ∧
      NormalisesTo policy unit value.val (datetime2Instant result.datetime2) ∧ result.datetime2.time.scale = 7 ∧
      ∃ n, Direct.datetimeoffsetCellLen 7 = .ok n ∧
        ∀ dst, dst.length = n → succeeds (Direct.writeDatetimeoffsetCell dst result)) ∧
    Safe (timestampDatetimeoffset unit mapping rowIndex value timezone policy) := by
  refine ⟨?_, ?_, (failsWith_timestampDatetimeoffset unit value timezone policy).safe⟩
  · simp only [succeeds_iff, timestampDatetimeoffset_eq_ok]
    constructor
    · rintro ⟨_, resolution, minutes, ticks, hresolution, hseconds, hle, hticks, hutc, hlocal, -⟩
      exact ⟨resolution, minutes * 60, ticks, hresolution, hseconds, by omega, hticks, hutc, hlocal⟩
    · rintro ⟨resolution, seconds, ticks, hresolution, hseconds, ⟨⟨minutes, rfl⟩, hlo, hhi⟩, hticks, hutc, hlocal⟩
      rw [mul_comm 60] at hseconds hlocal
      exact ⟨_, resolution, minutes, ticks, hresolution, hseconds, by omega, hticks, hutc, hlocal, rfl⟩
  · intro result h
    obtain ⟨resolution, minutes, ticks, hresolution, hseconds, hle, hticks, hutc, -, rfl⟩ :=
      timestampDatetimeoffset_eq_ok.mp h
    refine ⟨⟨resolution, hresolution, hseconds⟩, ?_, rfl, 11, rfl, ?_⟩
    · rw [(splitInstant_seven hutc).1]
      exact hticks
    · intro dst hdst
      exact succeeds_iff.mpr ⟨_, Direct.writeDatetimeoffsetCell_of_length
        (validDateTimeOffset_of_splitInstant hutc hle) hdst⟩

end ArrowTiberius
