import ArrowTiberius.Mssql.FromArrow.Datetime2Rounding
import ArrowTiberius.Mssql.FromArrow.Temporal

namespace ArrowTiberius

open Checked

variable {mapping : SchemaMapping} {rowIndex : ℕ}

theorem failsWith_mssqlDateFromArrowDate32 (value : SInt 32) :
    FailsWith (IsValueError mapping rowIndex) (mssqlDateFromArrowDate32 mapping rowIndex value) := by
  have hfits := fitsSigned_32.mp value.fits
  have hdays : fitsSigned 64 (value.val + sqlServerDateUnixEpochDays) :=
    fitsSigned_64.mpr (by unfold sqlServerDateUnixEpochDays; omega)
  refine failsWith_bind (failsWith_signedOp hdays) fun _ _ => ?_
  exact failsWith_bind (failsWith_ensure fun _ => isValueError_timestamp _) fun _ _ => failsWith_ok _

theorem failsWith_mssqlDatetime2FromArrowDate64 (value : SInt 64) :
    FailsWith (IsValueError mapping rowIndex) (mssqlDatetime2FromArrowDate64 mapping rowIndex value) := by
  have hfits := fitsSigned_64.mp value.fits
  have hdays : fitsSigned 64 (value.val / millisecondsPerDay + sqlServerDateUnixEpochDays) :=
    fitsSigned_64.mpr (by unfold millisecondsPerDay sqlServerDateUnixEpochDays; omega)
  refine failsWith_bind (failsWith_signedOp hdays) fun _ _ => ?_
  exact failsWith_bind (failsWith_ensure fun _ => isValueError_timestamp _) fun _ _ => failsWith_ok _

theorem failsWith_mssqlTimeFromI64 (increments incrementsPerDay : ℤ) (scale : ℕ) (unitName : String) :
    FailsWith (IsValueError mapping rowIndex)
      (Time.mssqlTimeFromI64 mapping rowIndex increments incrementsPerDay scale unitName) :=
  failsWith_bind (failsWith_ensure fun _ => isValueError_timestamp _) fun _ _ => failsWith_ok _

theorem failsWith_mssqlTimeFromNanoseconds (nanoseconds : ℤ) (policy : NanosecondPolicy) :
    FailsWith (IsValueError mapping rowIndex)
      (Time.mssqlTimeFromNanoseconds mapping rowIndex nanoseconds policy) := by
  have hticks : FailsWith (IsValueError mapping rowIndex)
      (Time.nanosecondsTo100nsTicks mapping rowIndex nanoseconds policy) := by
    unfold Time.nanosecondsTo100nsTicks
    cases policy with
    | rejectNon100ns =>
      dsimp only
      split_ifs
      · exact failsWith_ok _
      · exact failsWith_fail.mpr (isValueError_lossy _)
    | truncateTo100ns => exact failsWith_ok _
    | roundTo100ns =>
      dsimp only
      split_ifs
      · exact failsWith_okOr fun _ => isValueError_timestamp _
      · exact failsWith_ok _
  refine failsWith_bind (failsWith_ensure fun _ => isValueError_timestamp _) fun _ _ => ?_
  refine failsWith_bind hticks fun _ _ => failsWith_bind (failsWith_okOr fun _ => isValueError_timestamp _) fun _ _ => ?_
  exact failsWith_bind (failsWith_ensure fun _ => isValueError_timestamp _) fun _ _ => failsWith_ok _

theorem failsWith_fixedOffsetMinutes {unsupported : Error} (timezoneBytes : List UInt8)
    (h : IsValueError mapping rowIndex unsupported) :
    FailsWith (IsValueError mapping rowIndex) (fixedOffsetMinutes timezoneBytes unsupported) := by
  rcases fixedOffsetMinutes_eq timezoneBytes unsupported with ⟨minutes, -, hok⟩ | ⟨-, hfail⟩
  · rw [hok]
    exact failsWith_ok _
  · rw [hfail]
    exact failsWith_fail.mpr h

theorem failsWith_round100nsTicksToNearestDatetimeFragment (ticks : ℤ) : FailsWith (IsValueError mapping rowIndex)
    (round100nsTicksToNearestDatetimeFragment mapping rowIndex ticks) := by
  refine failsWith_bind (failsWith_okOr fun _ => isValueError_timestamp _) fun numerator _ => ?_
  have hdoubled : fitsSigned 128 (numerator % ticks100nsPerSecond * 2) :=
    fitsSigned_128.mpr (by unfold ticks100nsPerSecond; omega)
  refine failsWith_bind (failsWith_signedOp hdoubled) fun _ _ => ?_
  split
  · exact failsWith_okOr fun _ => isValueError_timestamp _
  · exact failsWith_ok _

theorem failsWith_round100nsTicksToNearestMillisecond (ticks : ℤ) : FailsWith (IsValueError mapping rowIndex)
    (round100nsTicksToNearestMillisecond mapping rowIndex ticks) := by
  have hdoubled : fitsSigned 128 (ticks % ticks100nsPerMillisecond * 2) :=
    fitsSigned_128.mpr (by unfold ticks100nsPerMillisecond; omega)
  refine failsWith_bind (failsWith_signedOp hdoubled) fun _ _ => failsWith_bind ?_ fun _ _ =>
    failsWith_okOr fun _ => isValueError_timestamp _
  split
  · exact failsWith_okOr fun _ => isValueError_timestamp _
  · exact failsWith_ok _

theorem fits_of_round100nsTicksToNearestDatetimeFragment {ticks fragments : ℤ}
    (h : round100nsTicksToNearestDatetimeFragment mapping rowIndex ticks = .ok fragments) :
    fitsSigned 128 fragments := by
  simp only [round100nsTicksToNearestDatetimeFragment, bind_eq_ok, okOr_eq_ok, checkedSigned_eq_some,
    signedOp_eq_ok] at h
  obtain ⟨numerator, ⟨hticks, rfl⟩, _, -, h⟩ := h
  have hrange := fitsSigned_128.mp hticks
  split at h
  · obtain ⟨hfits, rfl⟩ := checkedSigned_eq_some.mp (okOr_eq_ok.mp h)
    exact hfits
  · cases h
    exact fitsSigned_128.mpr (by unfold ticks100nsPerSecond; omega)

theorem failsWith_mssqlDatetimeFromUnixEpoch100nsTicks (ticks : ℤ) (unitName : String) (sourceValue : ℤ)
    (rounding : DateTimeRounding) : FailsWith (IsValueError mapping rowIndex)
    (mssqlDatetimeFromUnixEpoch100nsTicks mapping rowIndex ticks unitName sourceValue rounding) := by
  have hround : FailsWith (IsValueError mapping rowIndex)
      (round100nsTicksToDatetimeFragments mapping rowIndex ticks rounding) := by
    cases rounding with
    | legacyPre130 => exact failsWith_bind (failsWith_round100nsTicksToNearestMillisecond ticks) fun _ _ =>
        failsWith_round100nsTicksToNearestDatetimeFragment _
    | compat130Plus => exact failsWith_round100nsTicksToNearestDatetimeFragment ticks
  have hfits (fragments : ℤ) (h : round100nsTicksToDatetimeFragments mapping rowIndex ticks rounding = .ok fragments) :
      fitsSigned 128 fragments := by
    cases rounding with
    | legacyPre130 =>
      obtain ⟨_, -, h⟩ := bind_eq_ok.mp h
      exact fits_of_round100nsTicksToNearestDatetimeFragment h
    | compat130Plus => exact fits_of_round100nsTicksToNearestDatetimeFragment h
  refine failsWith_bind (failsWith_ensure fun _ => isValueError_timestamp _) fun _ _ => ?_
  refine failsWith_bind hround fun fragments hfragments => ?_
  have hrange := fitsSigned_128.mp (hfits fragments hfragments)
  have hdays : fitsSigned 128 (fragments / sqlServerDatetimeFragmentsPerDay + sqlServerDatetimeDaysFrom1900ToUnixEpoch) :=
    fitsSigned_128.mpr (by
      unfold sqlServerDatetimeFragmentsPerDay sqlServerDatetimeFragmentsPerSecond
        sqlServerDatetimeDaysFrom1900ToUnixEpoch
      omega)
  refine failsWith_bind (failsWith_signedOp hdays) fun _ _ => ?_
  refine failsWith_bind (failsWith_ensure fun _ => isValueError_timestamp _) fun _ _ => ?_
  refine failsWith_bind (failsWith_okOr fun _ => isValueError_timestamp _) fun _ _ => ?_
  exact failsWith_bind (failsWith_okOr fun _ => isValueError_timestamp _) fun _ _ => failsWith_ok _

theorem fits_ticks (value : SInt 64) {factor : ℤ} (hlo : 0 ≤ factor) (hhi : factor ≤ 10000000) :
    fitsSigned 128 (value.val * factor) ∧ -2 ^ 98 ≤ value.val * factor ∧ value.val * factor < 2 ^ 98 := by
  have hfits := fitsSigned_64.mp value.fits
  have hlower : -2 ^ 98 ≤ value.val * factor := by nlinarith
  have hupper : value.val * factor < 2 ^ 98 := by nlinarith
  exact ⟨fitsSigned_128.mpr ⟨by omega, by omega⟩, hlower, hupper⟩

theorem failsWith_timestampDatetime (unit : TimeUnit) (value : SInt 64) (policy : NanosecondPolicy)
    (rounding : DateTimeRounding) :
    FailsWith (IsValueError mapping rowIndex) (timestampDatetime unit mapping rowIndex value policy rounding) := by
  cases unit with
  | second => exact failsWith_bind (failsWith_signedOp (fits_ticks value (by decide) (by decide)).1) fun _ _ =>
      failsWith_mssqlDatetimeFromUnixEpoch100nsTicks _ _ _ _
  | millisecond => exact failsWith_bind (failsWith_signedOp (fits_ticks value (by decide) (by decide)).1) fun _ _ =>
      failsWith_mssqlDatetimeFromUnixEpoch100nsTicks _ _ _ _
  | microsecond => exact failsWith_bind (failsWith_signedOp (fits_ticks value (by decide) (by decide)).1) fun _ _ =>
      failsWith_mssqlDatetimeFromUnixEpoch100nsTicks _ _ _ _
  | nanosecond => exact failsWith_bind (failsWith_nanosecondsTo100nsTicks _ _ _ _) fun _ _ =>
      failsWith_mssqlDatetimeFromUnixEpoch100nsTicks _ _ _ _

theorem failsWith_mssqlDatetimeoffsetFromUtc100nsTicks {ticks offsetMinutes : ℤ} (unitName : String) (sourceValue : ℤ)
    (hticks : -2 ^ 99 ≤ ticks ∧ ticks < 2 ^ 99) (hoffset : offsetMinutes.natAbs ≤ 840) :
    FailsWith (IsValueError mapping rowIndex)
      (mssqlDatetimeoffsetFromUtc100nsTicks mapping rowIndex ticks offsetMinutes unitName sourceValue) := by
  have hfits : fitsSigned 128 (offsetMinutes * 60 * ticks100nsPerSecond) :=
    fitsSigned_128.mpr (by unfold ticks100nsPerSecond; omega)
  refine failsWith_bind (failsWith_signedOp hfits) fun offsetTicks hoffsetTicks => ?_
  obtain ⟨-, rfl⟩ := signedOp_eq_ok.mp hoffsetTicks
  refine failsWith_bind (failsWith_okOr fun _ => isValueError_timestamp _) fun localTicks hlocal => ?_
  obtain ⟨-, rfl⟩ := checkedSigned_eq_some.mp (okOr_eq_ok.mp hlocal)
  have hvalue : offsetMinutes * 60 * ticks100nsPerSecond = offsetMinutes * 600000000 := by
    unfold ticks100nsPerSecond
    omega
  refine failsWith_bind (failsWith_bind (failsWith_datetime2AtScale (le_refl 7) ?_ ?_) fun _ _ => failsWith_ok _)
    fun _ _ => ?_
  · omega
  · omega
  exact failsWith_bind (failsWith_datetime2AtScale (le_refl 7) (by omega) (by omega)) fun _ _ => failsWith_ok _

variable [Externals]

theorem failsWith_timezoneResolutionFromMetadata (timezone : String) :
    FailsWith (IsValueError mapping rowIndex) (timezoneResolutionFromMetadata mapping rowIndex timezone) := by
  unfold timezoneResolutionFromMetadata
  split
  case isTrue => exact failsWith_ok _
  case isFalse =>
    split
    case h_1 offset hoffset =>
      refine failsWith_map _ ?_
      unfold parseSqlServerFixedTimezoneOffset at hoffset
      split at hoffset
      · cases hoffset
        exact failsWith_fixedOffsetMinutes _ (isValueError_timezone _)
      · cases hoffset
    case h_2 => exact failsWith_bind (failsWith_okOr fun _ => isValueError_timezone _) fun _ _ => failsWith_ok _

theorem failsWith_offsetForInstant (resolution : TimezoneResolution) (seconds : ℤ) (nanoseconds : ℕ) :
    FailsWith (IsValueError mapping rowIndex) (resolution.offsetForInstant mapping rowIndex seconds nanoseconds) := by
  cases resolution with
  | fixedOffset => exact failsWith_ok _
  | named =>
    refine failsWith_bind (failsWith_okOr fun _ => isValueError_timestamp _) fun _ _ => ?_
    refine failsWith_bind (failsWith_ensure fun _ => isValueError_timezone _) fun _ _ => ?_
    refine failsWith_bind (failsWith_okOr fun _ => isValueError_timezone _) fun _ _ => ?_
    exact failsWith_bind (failsWith_ensure fun _ => isValueError_timezone _) fun _ _ => failsWith_ok _

theorem failsWith_validateTimestampTimezoneMetadata (timezone : Option String) :
    FailsWith (IsValueError mapping rowIndex) (validateTimestampTimezoneMetadata mapping rowIndex timezone) := by
  unfold validateTimestampTimezoneMetadata
  split
  · exact failsWith_ok _
  · exact failsWith_bind (failsWith_timezoneResolutionFromMetadata _) fun _ _ => failsWith_ok _

theorem failsWith_validateMappingTimestampTimezoneMetadata :
    FailsWith (IsValueError mapping rowIndex) (validateMappingTimestampTimezoneMetadata mapping rowIndex) := by
  unfold validateMappingTimestampTimezoneMetadata
  split
  · exact failsWith_validateTimestampTimezoneMetadata _
  · exact failsWith_ok _

theorem failsWith_validateNullTimestampTimezoneMetadata :
    FailsWith (IsValueError mapping rowIndex) (validateNullTimestampTimezoneMetadata mapping rowIndex) := by
  unfold validateNullTimestampTimezoneMetadata
  split
  · exact failsWith_validateTimestampTimezoneMetadata _
  · exact failsWith_ok _

omit [Externals] in
theorem failsWith_epochParts (seconds nanoseconds : ℤ) :
    FailsWith (IsValueError mapping rowIndex) (epochParts mapping rowIndex seconds nanoseconds) :=
  failsWith_bind (failsWith_okOr fun _ => isValueError_timestamp _) fun _ _ => failsWith_ok _

theorem failsWith_timestampDatetimeoffset (unit : TimeUnit) (value : SInt 64) (timezone : String)
    (policy : NanosecondPolicy) : FailsWith (IsValueError mapping rowIndex)
    (timestampDatetimeoffset unit mapping rowIndex value timezone policy) := by
  have hscaled {factor : ℤ} {seconds : ℤ} {nanoseconds : ℕ} (unitName : String) (hlo : 0 ≤ factor)
      (hhi : factor ≤ 10000000) : FailsWith (IsValueError mapping rowIndex) (do
        let resolution ← timezoneResolutionFromMetadata mapping rowIndex timezone
        let offsetMinutes ← resolution.offsetForInstant mapping rowIndex seconds nanoseconds
        let utcTicks ← signedOp 128 (value.val * factor)
        mssqlDatetimeoffsetFromUtc100nsTicks mapping rowIndex utcTicks offsetMinutes unitName value.val) := by
    obtain ⟨hfits, hlower, hupper⟩ := fits_ticks value hlo hhi
    refine failsWith_bind (failsWith_timezoneResolutionFromMetadata timezone) fun resolution hresolution => ?_
    refine failsWith_bind (failsWith_offsetForInstant resolution _ _) fun offset hoffset => ?_
    rw [signedOp_of_fits hfits, ok_bind]
    exact failsWith_mssqlDatetimeoffsetFromUtc100nsTicks _ _ ⟨by omega, by omega⟩
      (natAbs_of_offsetForInstant hresolution hoffset)
  cases unit with
  | second => exact hscaled "second" (by decide) (by decide)
  | millisecond =>
    have hnanoseconds : fitsSigned 64 (value.val % 1000 * 1000000) := fitsSigned_64.mpr (by omega)
    refine failsWith_bind (failsWith_bind (failsWith_signedOp hnanoseconds) fun _ _ => failsWith_epochParts _ _)
      fun _ _ => ?_
    exact hscaled "millisecond" (by decide) (by decide)
  | microsecond =>
    have hnanoseconds : fitsSigned 64 (value.val % 1000000 * 1000) := fitsSigned_64.mpr (by omega)
    refine failsWith_bind (failsWith_bind (failsWith_signedOp hnanoseconds) fun _ _ => failsWith_epochParts _ _)
      fun _ _ => ?_
    exact hscaled "microsecond" (by decide) (by decide)
  | nanosecond =>
    refine failsWith_bind (failsWith_epochParts _ _) fun _ _ => ?_
    refine failsWith_bind (failsWith_timezoneResolutionFromMetadata timezone) fun resolution hresolution => ?_
    refine failsWith_bind (failsWith_offsetForInstant resolution _ _) fun offset hoffset => ?_
    refine failsWith_bind (failsWith_nanosecondsTo100nsTicks _ _ _ _) fun ticks hticks => ?_
    have hbounds := ((nanosecondsTo100nsTicks_eq_ok value).mp hticks).bounds
    exact failsWith_mssqlDatetimeoffsetFromUtc100nsTicks _ _ hbounds (natAbs_of_offsetForInstant hresolution hoffset)

end ArrowTiberius
