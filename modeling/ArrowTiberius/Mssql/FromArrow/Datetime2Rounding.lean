import Mathlib.Algebra.Ring.Divisibility.Basic
import ArrowTiberius.Direct.TemporalValue
import ArrowTiberius.Lib.Rounding
import ArrowTiberius.Mssql.FromArrow.Datetime2
import ArrowTiberius.Mssql.FromArrow.ValueError

namespace ArrowTiberius

open Checked Rounding

/-- The instant of a source value in 100 ns ticks, once the policy has dealt with what is finer. -/
def NormalisesTo (policy : NanosecondPolicy) (unit : TimeUnit) (value ticks : ℤ) : Prop :=
  match unit, policy with
  | .second, _ => ticks = value * 10000000
  | .millisecond, _ => ticks = value * 10000
  | .microsecond, _ => ticks = value * 10
  | .nanosecond, .rejectNon100ns => value = 100 * ticks
  | .nanosecond, .truncateTo100ns => 100 * ticks ≤ value ∧ value < 100 * ticks + 100
  | .nanosecond, .roundTo100ns => IsNearest 100 value (100 * ticks)

def incrementTicks (scale : ℕ) : ℕ := 10 ^ (7 - scale)

def datetime2Instant (value : MssqlDateTime2) : ℤ :=
  ((value.date.days : ℤ) - 719162) * 864000000000 + value.time.increments * incrementTicks value.time.scale

def firstInstant : ℤ := -719162 * 864000000000

def endInstant : ℤ := (3652059 - 719162) * 864000000000

theorem incrementTicks_pos (scale : ℕ) : 0 < incrementTicks scale := Nat.pow_pos (by decide)

theorem ticksPerDatetime2Increment_of_le {scale : ℕ} (h : scale ≤ 7) :
    ticksPerDatetime2Increment scale = .ok (incrementTicks scale) := by
  interval_cases scale <;> rfl

theorem dvd_day {scale : ℕ} (h : scale ≤ 7) : (incrementTicks scale : ℤ) ∣ 864000000000 := by
  interval_cases scale <;> decide

theorem nanosecondsTo100nsTicks_eq_ok {mapping : SchemaMapping} {rowIndex : ℕ} {policy : NanosecondPolicy}
    (value : SInt 64) {ticks : ℤ} : nanosecondsTo100nsTicks mapping rowIndex value.val policy = .ok ticks ↔
      NormalisesTo policy .nanosecond value.val ticks := by
  have hfits := fitsSigned_64.mp value.fits
  have hnext : fitsSigned 64 (value.val / 100 + 1) := fitsSigned_64.mpr (by omega)
  have hunit : nanosecondsPer100nsTick = 100 := rfl
  cases policy with
  | rejectNon100ns =>
    unfold nanosecondsTo100nsTicks NormalisesTo
    by_cases h : value.val % nanosecondsPer100nsTick = 0
    · simp only [if_pos h, Except.ok.injEq]
      rw [hunit] at h ⊢
      omega
    · simp only [if_neg h, fail_ne_ok, false_iff]
      rw [hunit] at h
      omega
  | truncateTo100ns =>
    simp only [nanosecondsTo100nsTicks, hunit, NormalisesTo, Except.ok.injEq]
    omega
  | roundTo100ns =>
    have hround : nanosecondsTo100nsTicks mapping rowIndex value.val .roundTo100ns = .ok ticks ↔
        100 * ticks = nearest 100 value.val := by
      unfold nanosecondsTo100nsTicks nearest
      simp only [hunit]
      by_cases h : value.val % 100 ≥ 50
      · rw [if_neg (by omega : ¬2 * (value.val % 100) < 100), if_pos h, checkedSigned_of_fits hnext, okOr_some,
          Except.ok.injEq]
        omega
      · rw [if_pos (by omega : 2 * (value.val % 100) < 100), if_neg h, Except.ok.injEq]
        omega
    exact hround.trans (isNearest_iff (by decide)).symm

theorem failsWith_nanosecondsTo100nsTicks (mapping : SchemaMapping) (rowIndex : ℕ) (policy : NanosecondPolicy)
    (value : ℤ) : FailsWith (IsValueError mapping rowIndex) (nanosecondsTo100nsTicks mapping rowIndex value policy) := by
  cases policy with
  | rejectNon100ns =>
    simp only [nanosecondsTo100nsTicks]
    split_ifs
    · exact failsWith_ok _
    · exact failsWith_fail.mpr (isValueError_lossy _)
  | truncateTo100ns => exact failsWith_ok _
  | roundTo100ns =>
    simp only [nanosecondsTo100nsTicks]
    split_ifs
    · exact failsWith_okOr fun _ => isValueError_timestamp _
    · exact failsWith_ok _

theorem round100nsTicks_eq {mapping : SchemaMapping} {rowIndex : ℕ} {ticks : ℤ} {scale : ℕ} (hscale : scale ≤ 7)
    (hlo : -2 ^ 100 ≤ ticks) (hhi : ticks < 2 ^ 100) :
    round100nsTicksToDatetime2Scale mapping rowIndex ticks scale = .ok (nearest (incrementTicks scale) ticks) := by
  unfold round100nsTicksToDatetime2Scale
  split
  case isTrue h =>
    subst h
    simp [nearest, incrementTicks, sqlServerDatetime2TimestampScale]
  case isFalse h =>
    have hpos : (0 : ℤ) < incrementTicks scale := mod_cast incrementTicks_pos scale
    have hle : (incrementTicks scale : ℤ) ≤ 10000000 := mod_cast Nat.pow_le_pow_right (by decide) (by omega : 7 - scale ≤ 7)
    have hnonneg := Int.emod_nonneg ticks hpos.ne'
    have hlt := Int.emod_lt_of_pos ticks hpos
    have hquotLo : -2 ^ 100 ≤ ticks / incrementTicks scale := (Int.le_ediv_iff_mul_le hpos).mpr (by nlinarith)
    have hquotHi : ticks / incrementTicks scale < 2 ^ 100 := Int.ediv_lt_of_lt_mul hpos (by nlinarith)
    have hnear := isNearest_nearest (t := ticks) hpos
    have hdouble : fitsSigned 128 (ticks % incrementTicks scale * 2) := fitsSigned_128.mpr (by omega)
    have hnext : fitsSigned 128 (ticks / incrementTicks scale + 1) := fitsSigned_128.mpr (by omega)
    have hproduct : fitsSigned 128 (nearest (incrementTicks scale) ticks) :=
      fitsSigned_128.mpr (by have := hnear.above; have := hnear.below; omega)
    rw [ticksPerDatetime2Increment_of_le hscale, ok_bind, signedOp_of_fits hdouble, ok_bind]
    by_cases hhalf : 2 * (ticks % incrementTicks scale) < incrementTicks scale
    · rw [nearest, if_pos hhalf] at hproduct
      rw [if_neg (by omega), ok_bind, checkedSigned_of_fits hproduct, okOr_some, nearest, if_pos hhalf]
    · rw [nearest, if_neg hhalf] at hproduct
      rw [if_pos (by omega), checkedSigned_of_fits hnext, okOr_some, ok_bind, checkedSigned_of_fits hproduct, okOr_some,
        nearest, if_neg hhalf]

def splitInstant (scale : ℕ) (instant : ℤ) : MssqlDateTime2 :=
  ⟨⟨(instant / 864000000000 + 719162).toNat⟩, ⟨(instant % 864000000000).toNat / incrementTicks scale, scale⟩⟩

theorem datetime2AtScale_eq_ok {mapping : SchemaMapping} {rowIndex : ℕ} {ticks : ℤ} {unitName : String}
    {sourceValue : ℤ} {scale : ℕ} (hscale : scale ≤ 7) (hlo : -2 ^ 100 ≤ ticks) (hhi : ticks < 2 ^ 100)
    {value : MssqlDateTime2} :
    mssqlDatetime2FromUnixEpoch100nsTicksAtScale mapping rowIndex ticks unitName sourceValue scale = .ok value ↔
      firstInstant ≤ ticks ∧ nearest (incrementTicks scale) ticks < endInstant ∧
        value = splitInstant scale (nearest (incrementTicks scale) ticks) := by
  have hpos : (0 : ℤ) < incrementTicks scale := mod_cast incrementTicks_pos scale
  have hle : (incrementTicks scale : ℤ) ≤ 10000000 := mod_cast Nat.pow_le_pow_right (by decide) (by omega : 7 - scale ≤ 7)
  have hnear := isNearest_nearest (t := ticks) hpos
  have habove := hnear.above
  have hbelow := hnear.below
  simp only [mssqlDatetime2FromUnixEpoch100nsTicksAtScale, bind_eq_ok, ensure_eq_ok, round100nsTicks_eq hscale hlo hhi,
    Except.ok.injEq, signedOp_eq_ok, okOr_eq_ok, checkedUnsigned_eq_some, ticksPerDatetime2Increment_of_le hscale,
    pure_eq_ok]
  generalize hx : nearest (incrementTicks scale) ticks = x at *
  have hfirst : sqlServerDatetime2MinUnixEpoch100nsTicks = firstInstant := rfl
  have hday : ticks100nsPerDay = 864000000000 := rfl
  have hepoch : sqlServerDateUnixEpochDays = 719162 := rfl
  have hmax : sqlServerDateMaxDays = 3652058 := rfl
  rw [hfirst, hday, hepoch, hmax]
  constructor
  · rintro ⟨_, hge, _, rfl, _, ⟨-, rfl⟩, _, hdays, days, ⟨-, rfl⟩, t, ⟨-, rfl⟩, _, rfl, rfl⟩
    exact ⟨by omega, by unfold endInstant; omega, rfl⟩
  · rintro ⟨hge, hlt, rfl⟩
    have hxlo : firstInstant ≤ x :=
      hx ▸ le_nearest_of_le hpos ((dvd_day hscale).mul_left _) hge
    unfold firstInstant at hge hxlo
    unfold endInstant at hlt
    refine ⟨(), by unfold firstInstant; omega, x, rfl, _, ⟨fitsSigned_128.mpr (by omega), rfl⟩, (), by omega, _,
      ⟨fitsUnsigned_32.mpr (by omega), rfl⟩, _, ⟨fitsUnsigned_64.mpr (by omega), rfl⟩, _, rfl, rfl⟩

theorem failsWith_datetime2AtScale {mapping : SchemaMapping} {rowIndex : ℕ} {ticks : ℤ} {unitName : String}
    {sourceValue : ℤ} {scale : ℕ} (hscale : scale ≤ 7) (hlo : -2 ^ 100 ≤ ticks) (hhi : ticks < 2 ^ 100) :
    FailsWith (IsValueError mapping rowIndex)
      (mssqlDatetime2FromUnixEpoch100nsTicksAtScale mapping rowIndex ticks unitName sourceValue scale) := by
  have hpos : (0 : ℤ) < incrementTicks scale := mod_cast incrementTicks_pos scale
  have hle : (incrementTicks scale : ℤ) ≤ 10000000 := mod_cast Nat.pow_le_pow_right (by decide) (by omega : 7 - scale ≤ 7)
  have hnear := isNearest_nearest (t := ticks) hpos
  have habove := hnear.above
  have hbelow := hnear.below
  have hdays : fitsSigned 128 (nearest (incrementTicks scale) ticks / ticks100nsPerDay + sqlServerDateUnixEpochDays) :=
    fitsSigned_128.mpr (by unfold ticks100nsPerDay sqlServerDateUnixEpochDays; omega)
  unfold mssqlDatetime2FromUnixEpoch100nsTicksAtScale
  refine failsWith_bind (failsWith_ensure fun _ => isValueError_timestamp _) fun _ _ => ?_
  rw [round100nsTicks_eq hscale hlo hhi, ok_bind, signedOp_of_fits hdays, ok_bind]
  refine failsWith_bind (failsWith_ensure fun _ => isValueError_timestamp _) fun _ _ => ?_
  refine failsWith_bind (failsWith_okOr fun _ => isValueError_timestamp _) fun _ _ => ?_
  refine failsWith_bind (failsWith_okOr fun _ => isValueError_timestamp _) fun _ _ => ?_
  rw [ticksPerDatetime2Increment_of_le hscale, ok_bind]
  exact failsWith_ok _

theorem incrementTicks_mul {scale : ℕ} (h : scale ≤ 7) : incrementTicks scale * (86400 * 10 ^ scale) = 864000000000 := by
  interval_cases scale <;> rfl

theorem eq_splitInstant_iff {scale : ℕ} (hscale : scale ≤ 7) {instant : ℤ} (hdvd : (incrementTicks scale : ℤ) ∣ instant)
    (hfirst : firstInstant ≤ instant) {value : MssqlDateTime2} :
    value = splitInstant scale instant ↔
      value.time.scale = scale ∧ value.time.increments < 86400 * 10 ^ scale ∧ datetime2Instant value = instant := by
  have hpos := incrementTicks_pos scale
  have hday := incrementTicks_mul hscale
  obtain ⟨ticks, hticks⟩ : ∃ ticks : ℕ, (ticks : ℤ) = instant % 864000000000 :=
    ⟨(instant % 864000000000).toNat, by omega⟩
  obtain ⟨days, hdays⟩ : ∃ days : ℕ, (days : ℤ) = instant / 864000000000 + 719162 :=
    ⟨(instant / 864000000000 + 719162).toNat, by unfold firstInstant at hfirst; omega⟩
  have hdvdTicks : incrementTicks scale ∣ ticks := by
    have : (incrementTicks scale : ℤ) ∣ ticks := by
      rw [hticks, Int.emod_def]
      exact dvd_sub hdvd (Dvd.dvd.mul_right (dvd_day hscale) _)
    exact_mod_cast this
  obtain ⟨increments, rfl⟩ := hdvdTicks
  have hsplit : splitInstant scale instant = ⟨⟨days⟩, ⟨increments, scale⟩⟩ := by
    have hincrements : (instant % 864000000000).toNat = incrementTicks scale * increments := by omega
    have htoNat : (instant / 864000000000 + 719162).toNat = days := by omega
    rw [splitInstant, hincrements, htoNat, Nat.mul_div_cancel_left _ hpos]
  rw [hsplit]
  obtain ⟨⟨d⟩, ⟨n, s⟩⟩ := value
  simp only [datetime2Instant, MssqlDateTime2.mk.injEq, MssqlDate.mk.injEq, MssqlTime.mk.injEq]
  constructor
  · rintro ⟨rfl, rfl, rfl⟩
    refine ⟨rfl, ?_, by push_cast at hticks; linarith [Int.emod_add_mul_ediv instant 864000000000]⟩
    have hlt : incrementTicks s * n < incrementTicks s * (86400 * 10 ^ s) := by omega
    exact Nat.lt_of_mul_lt_mul_left hlt
  · rintro ⟨rfl, hlt, hinstant⟩
    have hbound : incrementTicks s * n < 864000000000 := hday ▸ Nat.mul_lt_mul_of_pos_left hlt hpos
    have hn : (n : ℤ) * incrementTicks s = (incrementTicks s * n : ℕ) := by push_cast; ring
    rw [hn] at hinstant
    have hsame : incrementTicks s * n = incrementTicks s * increments := by omega
    exact ⟨by omega, Nat.eq_of_mul_eq_mul_left hpos hsame, rfl⟩

theorem NormalisesTo.bounds {policy : NanosecondPolicy} {unit : TimeUnit} {value : SInt 64} {ticks : ℤ}
    (h : NormalisesTo policy unit value.val ticks) : -2 ^ 99 ≤ ticks ∧ ticks < 2 ^ 99 := by
  have hfits := fitsSigned_64.mp value.fits
  cases unit with
  | second => change ticks = _ at h; omega
  | millisecond => change ticks = _ at h; omega
  | microsecond => change ticks = _ at h; omega
  | nanosecond =>
    cases policy with
    | rejectNon100ns => change value.val = _ at h; omega
    | truncateTo100ns => change _ ∧ _ at h; omega
    | roundTo100ns =>
      have habove := IsNearest.above h
      have hbelow := IsNearest.below h
      omega

def unitName : TimeUnit → String
  | .second => "second"
  | .millisecond => "millisecond"
  | .microsecond => "microsecond"
  | .nanosecond => "nanosecond"

theorem timestampTicks_eq {mapping : SchemaMapping} {rowIndex precision : ℕ} (unitName : String)
    {ticks sourceValue : ℤ} (hty : mapping.mssql.ty = .dateTime2 precision) (hprecision : precision ≤ 7) :
    mssqlDatetime2FromArrowTimestampTicks mapping rowIndex ticks unitName sourceValue =
      mssqlDatetime2FromUnixEpoch100nsTicksAtScale mapping rowIndex ticks unitName sourceValue precision := by
  have htarget : targetDatetime2TimestampScale mapping rowIndex = .ok precision := by
    unfold targetDatetime2TimestampScale
    rw [hty]
    exact if_pos hprecision
  rw [mssqlDatetime2FromArrowTimestampTicks, htarget, ok_bind]

theorem timestampDatetime2_eq (unit : TimeUnit) {mapping : SchemaMapping} (rowIndex : ℕ) {precision : ℕ}
    (value : SInt 64) (policy : NanosecondPolicy) (hty : mapping.mssql.ty = .dateTime2 precision)
    (hprecision : precision ≤ 7) :
    (∃ ticks, NormalisesTo policy unit value.val ticks ∧ timestampDatetime2 unit mapping rowIndex value policy =
      mssqlDatetime2FromUnixEpoch100nsTicksAtScale mapping rowIndex ticks (unitName unit) value.val precision) ∨
    ((∀ ticks, ¬NormalisesTo policy unit value.val ticks) ∧
      ∃ error, timestampDatetime2 unit mapping rowIndex value policy = fail error ∧
        IsValueError mapping rowIndex error) := by
  have hfits := fitsSigned_64.mp value.fits
  have hscaled (factor : ℤ) (hlo : 0 ≤ factor) (hhi : factor ≤ 10000000) : fitsSigned 128 (value.val * factor) :=
    fitsSigned_128.mpr ⟨by nlinarith, by nlinarith⟩
  cases unit with
  | second =>
    refine .inl ⟨value.val * 10000000, rfl, ?_⟩
    rw [timestampDatetime2, mssqlDatetime2FromArrowTimestampSecond, signedOp_of_fits (hscaled _ (by decide) (by decide)),
      ok_bind, timestampTicks_eq _ hty hprecision]
    rfl
  | millisecond =>
    refine .inl ⟨value.val * 10000, rfl, ?_⟩
    rw [timestampDatetime2, mssqlDatetime2FromArrowTimestampMillisecond,
      signedOp_of_fits (hscaled _ (by decide) (by decide)), ok_bind, timestampTicks_eq _ hty hprecision]
    rfl
  | microsecond =>
    refine .inl ⟨value.val * 10, rfl, ?_⟩
    rw [timestampDatetime2, mssqlDatetime2FromArrowTimestampMicrosecond,
      signedOp_of_fits (hscaled _ (by decide) (by decide)), ok_bind, timestampTicks_eq _ hty hprecision]
    rfl
  | nanosecond =>
    rw [timestampDatetime2, mssqlDatetime2FromArrowTimestampNanosecond]
    have hfails := failsWith_nanosecondsTo100nsTicks mapping rowIndex policy value.val
    rcases hticks : nanosecondsTo100nsTicks mapping rowIndex value.val policy with (error | _) | ticks
    · refine .inr ⟨fun ticks h => ?_, error, rfl, hfails.of_fail hticks⟩
      rw [(nanosecondsTo100nsTicks_eq_ok value).mpr h] at hticks
      cases hticks
    · exact absurd hticks hfails.safe
    · exact .inl ⟨ticks, (nanosecondsTo100nsTicks_eq_ok value).mp hticks, timestampTicks_eq _ hty hprecision⟩

theorem NormalisesTo.unique {policy : NanosecondPolicy} {unit : TimeUnit} {value a b : ℤ}
    (ha : NormalisesTo policy unit value a) (hb : NormalisesTo policy unit value b) : a = b := by
  cases unit with
  | second => exact ha.trans hb.symm
  | millisecond => exact ha.trans hb.symm
  | microsecond => exact ha.trans hb.symm
  | nanosecond =>
    cases policy with
    | rejectNon100ns => change value = _ at ha hb; omega
    | truncateTo100ns => change _ ∧ _ at ha hb; omega
    | roundTo100ns =>
      have := IsNearest.unique ha hb
      omega

theorem timestamp_eq_ok_iff {unit : TimeUnit} {mapping : SchemaMapping} {rowIndex precision : ℕ} {value : SInt 64}
    {policy : NanosecondPolicy} (hty : mapping.mssql.ty = .dateTime2 precision) (hprecision : precision ≤ 7)
    {result : MssqlDateTime2} : timestampDatetime2 unit mapping rowIndex value policy = .ok result ↔
      ∃ ticks instant, NormalisesTo policy unit value.val ticks ∧ firstInstant ≤ ticks ∧
        IsNearest (incrementTicks precision) ticks instant ∧ instant < endInstant ∧
        result.time.scale = precision ∧ result.time.increments < 86400 * 10 ^ precision ∧
        datetime2Instant result = instant := by
  have hpos : (0 : ℤ) < incrementTicks precision := mod_cast incrementTicks_pos precision
  have hpoint {ticks instant : ℤ} (hge : firstInstant ≤ ticks) (hnear : IsNearest (incrementTicks precision) ticks instant) :
      result = splitInstant precision instant ↔ result.time.scale = precision ∧
        result.time.increments < 86400 * 10 ^ precision ∧ datetime2Instant result = instant := by
    refine eq_splitInstant_iff hprecision hnear.dvd ?_
    exact (isNearest_iff hpos).mp hnear ▸ le_nearest_of_le hpos ((dvd_day hprecision).mul_left _) hge
  rcases timestampDatetime2_eq unit rowIndex value policy hty hprecision with
    ⟨ticks, hticks, heq⟩ | ⟨hnone, error, heq, -⟩
  · have hbounds := hticks.bounds
    rw [heq, datetime2AtScale_eq_ok hprecision (by omega) (by omega)]
    constructor
    · rintro ⟨hge, hlt, hresult⟩
      have hnear := isNearest_nearest (t := ticks) hpos
      exact ⟨ticks, _, hticks, hge, hnear, hlt, (hpoint hge hnear).mp hresult⟩
    · rintro ⟨ticks', instant, hticks', hge, hnear, hlt, hresult⟩
      obtain rfl := hticks.unique hticks'
      have heq := (isNearest_iff hpos).mp hnear
      exact ⟨hge, heq ▸ hlt, heq ▸ (hpoint hge hnear).mpr hresult⟩
  · rw [heq]
    refine iff_of_false (by simp) ?_
    rintro ⟨ticks, -, hticks, -⟩
    exact hnone ticks hticks

theorem failsWith_timestampDatetime2 {unit : TimeUnit} {mapping : SchemaMapping} {rowIndex precision : ℕ}
    {value : SInt 64} {policy : NanosecondPolicy} (hty : mapping.mssql.ty = .dateTime2 precision)
    (hprecision : precision ≤ 7) :
    FailsWith (IsValueError mapping rowIndex) (timestampDatetime2 unit mapping rowIndex value policy) := by
  rcases timestampDatetime2_eq unit rowIndex value policy hty hprecision with
    ⟨ticks, hticks, heq⟩ | ⟨-, error, heq, herror⟩
  · have hbounds := hticks.bounds
    exact heq ▸ failsWith_datetime2AtScale hprecision (by omega) (by omega)
  · exact heq ▸ failsWith_fail.mpr herror

theorem nanosecondsTo100nsTicks_succeeds {mapping : SchemaMapping} {rowIndex : ℕ} {policy : NanosecondPolicy}
    (value : SInt 64) (h : policy ≠ .rejectNon100ns) :
    ∃ ticks, nanosecondsTo100nsTicks mapping rowIndex value.val policy = .ok ticks := by
  simp only [nanosecondsTo100nsTicks_eq_ok]
  cases policy with
  | rejectNon100ns => exact absurd rfl h
  | truncateTo100ns => exact ⟨value.val / 100, by change _ ∧ _; omega⟩
  | roundTo100ns =>
    obtain ⟨ticks, hticks⟩ := (isNearest_nearest (t := value.val) (by decide : (0 : ℤ) < 100)).dvd
    have hnear : IsNearest 100 value.val (100 * ticks) := hticks ▸ isNearest_nearest (by decide)
    exact ⟨ticks, hnear⟩

/-- A timestamp converts exactly when its instant, normalised by the policy and rounded to the precision, is one of
the calendar, and converts to that instant. -/
theorem timestamp_to_datetime2 (unit : TimeUnit) (mapping : SchemaMapping) (rowIndex precision : ℕ)
    (value : SInt 64) (policy : NanosecondPolicy) (hty : mapping.mssql.ty = .dateTime2 precision)
    (hprecision : precision ≤ 7) :
    (succeeds (timestampDatetime2 unit mapping rowIndex value policy) ↔
      ∃ ticks instant, NormalisesTo policy unit value.val ticks ∧ firstInstant ≤ ticks ∧
        IsNearest (incrementTicks precision) ticks instant ∧ instant < endInstant) ∧
    (∀ result, timestampDatetime2 unit mapping rowIndex value policy = .ok result →
      (∃ ticks, NormalisesTo policy unit value.val ticks ∧
        IsNearest (incrementTicks precision) ticks (datetime2Instant result)) ∧
      result.time.scale = precision ∧ result.time.increments < 86400 * 10 ^ precision ∧
      result.date.days ≤ 3652058 ∧
      ∀ dst, Direct.datetime2CellLen precision = .ok dst.length → succeeds (Direct.writeDatetime2Cell dst result)) ∧
    Safe (timestampDatetime2 unit mapping rowIndex value policy) ∧
    (policy ≠ .rejectNon100ns → ∃ ticks, nanosecondsTo100nsTicks mapping rowIndex value.val policy = .ok ticks) ∧
    (∀ ticks, NormalisesTo policy unit value.val ticks →
      ∃ instant, round100nsTicksToDatetime2Scale mapping rowIndex ticks precision = .ok instant) := by
  have hpos : (0 : ℤ) < incrementTicks precision := mod_cast incrementTicks_pos precision
  simp only [succeeds_iff]
  refine ⟨⟨?_, ?_⟩, ?_, (failsWith_timestampDatetime2 hty hprecision).safe, nanosecondsTo100nsTicks_succeeds value,
    fun ticks h => ⟨_, round100nsTicks_eq hprecision (by have := h.bounds; omega) (by have := h.bounds; omega)⟩⟩
  · rintro ⟨result, hresult⟩
    obtain ⟨ticks, instant, hticks, hge, hnear, hlt, -⟩ := (timestamp_eq_ok_iff hty hprecision).mp hresult
    exact ⟨ticks, instant, hticks, hge, hnear, hlt⟩
  · rintro ⟨ticks, instant, hticks, hge, hnear, hlt⟩
    have hfirst : firstInstant ≤ instant :=
      (isNearest_iff hpos).mp hnear ▸ le_nearest_of_le hpos ((dvd_day hprecision).mul_left _) hge
    exact ⟨splitInstant precision instant, (timestamp_eq_ok_iff hty hprecision).mpr ⟨ticks, instant, hticks, hge, hnear,
      hlt, (eq_splitInstant_iff hprecision hnear.dvd hfirst).mp rfl⟩⟩
  · intro result hresult
    obtain ⟨ticks, _, hticks, -, hnear, hlt, hscale, hincrements, rfl⟩ := (timestamp_eq_ok_iff hty hprecision).mp hresult
    have hdays : result.date.days ≤ 3652058 := by
      have hnonneg : (0 : ℤ) ≤ result.time.increments * incrementTicks result.time.scale := by positivity
      unfold datetime2Instant endInstant at hlt
      omega
    refine ⟨⟨ticks, hticks, hnear⟩, hscale, hincrements, hdays, fun dst hdst => ?_⟩
    have hvalid : Direct.ValidDateTime2 result :=
      ⟨hdays, hscale ▸ hprecision, by rw [hscale]; exact hincrements⟩
    refine ⟨_, Direct.writeDatetime2Cell_of_length hvalid ?_⟩
    rw [Direct.datetime2CellLen, Direct.timePayloadLen_of_le hprecision] at hdst
    rw [hscale]
    exact (Except.ok.inj hdst).symm

def wholeSecondMapping : SchemaMapping where
  arrow := ⟨0, "at", false, .timestamp .millisecond none⟩
  mssql := ⟨⟨"at", rfl⟩, .dateTime2 0, false⟩

theorem timestamp_to_datetime2_carries_over_midnight :
    succeeds (timestampDatetime2 .millisecond wholeSecondMapping 0 ⟨-500, by decide⟩ .rejectNon100ns) = true := by
  refine (timestamp_to_datetime2 .millisecond wholeSecondMapping 0 0 ⟨-500, by decide⟩ .rejectNon100ns rfl
    (by decide)).1.mpr ⟨-5000000, 0, ?_, by decide, ⟨by decide, by decide, by decide⟩, by decide⟩
  rfl

end ArrowTiberius
