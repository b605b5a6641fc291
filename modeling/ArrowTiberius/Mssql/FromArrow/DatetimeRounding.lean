import ArrowTiberius.Mssql.FromArrow.SourceTicks

namespace ArrowTiberius

open Checked Rounding

variable {mapping : SchemaMapping} {rowIndex : ℕ} {policy : NanosecondPolicy} {rounding : DateTimeRounding}

def fragmentsOf (rounding : DateTimeRounding) (ticks : ℤ) : ℤ :=
  match rounding with
  | .legacyPre130 => nearestCount 10000000 (nearest 10000 ticks * 300)
  | .compat130Plus => nearestCount 10000000 (ticks * 300)

/-- The nearest fragment, of the instant or of the millisecond nearest to it. -/
def RoundsTo (rounding : DateTimeRounding) (ticks fragments : ℤ) : Prop :=
  match rounding with
  | .legacyPre130 => ∃ milliseconds, IsNearest 10000 ticks milliseconds ∧
      IsNearest 10000000 (milliseconds * 300) (fragments * 10000000)
  | .compat130Plus => IsNearest 10000000 (ticks * 300) (fragments * 10000000)

theorem isNearest_mul_iff {factor t k : ℤ} (hpos : 0 < factor) :
    IsNearest factor t (k * factor) ↔ k = nearestCount factor t := by
  rw [isNearest_iff hpos, nearest_eq]
  exact mul_left_inj' hpos.ne'

theorem roundsTo_iff {ticks fragments : ℤ} : RoundsTo rounding ticks fragments ↔ fragments = fragmentsOf rounding ticks := by
  cases rounding with
  | compat130Plus => exact isNearest_mul_iff (by decide)
  | legacyPre130 =>
    simp only [RoundsTo, isNearest_mul_iff (show (0 : ℤ) < 10000000 by decide),
      isNearest_iff (show (0 : ℤ) < 10000 by decide), exists_eq_left]
    rfl

def datetimeInstant (value : MssqlDateTime) : ℤ := (value.days - 25567) * 25920000 + value.secondsFragments

def firstDatetimeInstant : ℤ := (-53690 - 25567) * 864000000000

def endDatetimeFragments : ℤ := (2958464 - 25567) * 25920000

theorem round100nsTicksToNearestDatetimeFragment_eq {ticks : ℤ} (hlo : -2 ^ 100 ≤ ticks) (hhi : ticks < 2 ^ 100) :
    round100nsTicksToNearestDatetimeFragment mapping rowIndex ticks = .ok (nearestCount 10000000 (ticks * 300)) := by
  have hsecond : ticks100nsPerSecond = 10000000 := rfl
  have hfragments : sqlServerDatetimeFragmentsPerSecond = 300 := rfl
  have hnumerator : fitsSigned 128 (ticks * 300) := fitsSigned_128.mpr (by omega)
  have hdouble : fitsSigned 128 (ticks * 300 % 10000000 * 2) := fitsSigned_128.mpr (by omega)
  have hnext : fitsSigned 128 (ticks * 300 / 10000000 + 1) := fitsSigned_128.mpr (by omega)
  rw [round100nsTicksToNearestDatetimeFragment, hfragments, hsecond, checkedSigned_of_fits hnumerator, okOr_some,
    ok_bind, signedOp_of_fits hdouble, ok_bind, nearestCount]
  by_cases hhalf : 2 * (ticks * 300 % 10000000) < 10000000
  · rw [if_neg (by omega), if_pos hhalf]
  · rw [if_pos (by omega), if_neg hhalf, checkedSigned_of_fits hnext, okOr_some]

theorem round100nsTicksToNearestMillisecond_eq {ticks : ℤ} (hlo : -2 ^ 99 ≤ ticks) (hhi : ticks < 2 ^ 99) :
    round100nsTicksToNearestMillisecond mapping rowIndex ticks = .ok (nearest 10000 ticks) := by
  have hmillisecond : ticks100nsPerMillisecond = 10000 := rfl
  have hdouble : fitsSigned 128 (ticks % 10000 * 2) := fitsSigned_128.mpr (by omega)
  have hnext : fitsSigned 128 (ticks / 10000 + 1) := fitsSigned_128.mpr (by omega)
  rw [round100nsTicksToNearestMillisecond, hmillisecond, signedOp_of_fits hdouble, ok_bind, nearest]
  by_cases hhalf : 2 * (ticks % 10000) < 10000
  · rw [if_neg (by omega), if_pos hhalf, ok_bind, checkedSigned_of_fits (fitsSigned_128.mpr (by omega)), okOr_some]
  · rw [if_pos (by omega), if_neg hhalf, checkedSigned_of_fits hnext, okOr_some, ok_bind,
      checkedSigned_of_fits (fitsSigned_128.mpr (by omega)), okOr_some]

theorem nearest_millisecond_bounds {ticks : ℤ} (hlo : -2 ^ 99 ≤ ticks) (hhi : ticks < 2 ^ 99) :
    -2 ^ 100 ≤ nearest 10000 ticks ∧ nearest 10000 ticks < 2 ^ 100 := by
  have hnear := isNearest_nearest (t := ticks) (show (0 : ℤ) < 10000 by decide)
  have habove := hnear.above
  have hbelow := hnear.below
  omega

theorem round100nsTicksToDatetimeFragments_eq {ticks : ℤ} (hlo : -2 ^ 99 ≤ ticks) (hhi : ticks < 2 ^ 99) :
    round100nsTicksToDatetimeFragments mapping rowIndex ticks rounding = .ok (fragmentsOf rounding ticks) := by
  cases rounding with
  | compat130Plus => exact round100nsTicksToNearestDatetimeFragment_eq (by omega) (by omega)
  | legacyPre130 =>
    obtain ⟨hlo', hhi'⟩ := nearest_millisecond_bounds hlo hhi
    rw [round100nsTicksToDatetimeFragments, round100nsTicksToNearestMillisecond_eq hlo hhi, ok_bind,
      round100nsTicksToNearestDatetimeFragment_eq hlo' hhi', fragmentsOf]

theorem fragmentsOf_mono {s t : ℤ} (h : s ≤ t) : fragmentsOf rounding s ≤ fragmentsOf rounding t := by
  cases rounding with
  | compat130Plus =>
    apply nearestCount_mono (by decide)
    omega
  | legacyPre130 =>
    have hmilliseconds := nearestCount_mono (show (0 : ℤ) < 10000 by decide) h
    apply nearestCount_mono (by decide)
    rw [nearest_eq, nearest_eq]
    omega

theorem fragmentsOf_days (days : ℤ) : fragmentsOf rounding (days * 864000000000) = days * 25920000 := by
  have hfragments : days * 864000000000 * 300 = days * 25920000 * 10000000 := by ring
  cases rounding with
  | compat130Plus => rw [fragmentsOf, hfragments, nearestCount_mul (by decide)]
  | legacyPre130 =>
    have hmilliseconds : days * 864000000000 = days * 86400000 * 10000 := by ring
    have hnear : nearest 10000 (days * 864000000000) = days * 864000000000 := by
      rw [nearest_eq, hmilliseconds, nearestCount_mul (by decide)]
    rw [fragmentsOf, hnear, hfragments, nearestCount_mul (by decide)]

theorem fragmentsOf_compat (ticks : ℤ) :
    IsNearest 10000000 (ticks * 300) (fragmentsOf .compat130Plus ticks * 10000000) :=
  isNearest_nearest (by decide)

theorem fragmentsOf_legacy (ticks : ℤ) :
    |2 * (ticks * 300 - fragmentsOf .legacyPre130 ticks * 10000000)| ≤ 10000000 + 2 * (5000 * 300) := by
  have hmillisecond := isNearest_nearest (t := ticks) (show (0 : ℤ) < 10000 by decide)
  have hfragment := isNearest_nearest (t := nearest 10000 ticks * 300) (show (0 : ℤ) < 10000000 by decide)
  rw [nearest_eq 10000000] at hfragment
  have habove := hmillisecond.above
  have hbelow := hmillisecond.below
  have habove' := hfragment.above
  have hbelow' := hfragment.below
  rw [fragmentsOf, abs_le]
  constructor <;> omega

theorem fragmentsOf_whole_millisecond {ticks : ℤ} (h : 10000 ∣ ticks) :
    fragmentsOf .legacyPre130 ticks = fragmentsOf .compat130Plus ticks := by
  obtain ⟨milliseconds, rfl⟩ := h
  have hnear : nearest 10000 (10000 * milliseconds) = 10000 * milliseconds := by
    rw [nearest_eq, mul_comm 10000, nearestCount_mul (by decide)]
  rw [fragmentsOf, fragmentsOf, hnear]

def splitFragments (fragments : ℤ) : MssqlDateTime := ⟨fragments / 25920000 + 25567, (fragments % 25920000).toNat⟩

theorem eq_splitFragments_iff {value : MssqlDateTime} {fragments : ℤ} :
    value = splitFragments fragments ↔ value.secondsFragments < 25920000 ∧ datetimeInstant value = fragments := by
  obtain ⟨days, secondsFragments⟩ := value
  simp only [splitFragments, datetimeInstant, MssqlDateTime.mk.injEq]
  omega

theorem mssqlDatetimeFromTicks_eq_ok {ticks sourceValue : ℤ} {unitName : String} (hlo : -2 ^ 99 ≤ ticks)
    (hhi : ticks < 2 ^ 99) {result : MssqlDateTime} :
    mssqlDatetimeFromUnixEpoch100nsTicks mapping rowIndex ticks unitName sourceValue rounding = .ok result ↔
      firstDatetimeInstant ≤ ticks ∧ fragmentsOf rounding ticks < endDatetimeFragments ∧
        result = splitFragments (fragmentsOf rounding ticks) := by
  have hfirst : sqlServerDatetimeMinUnixEpoch100nsTicks = firstDatetimeInstant := rfl
  have hday : sqlServerDatetimeFragmentsPerDay = 25920000 := rfl
  have hepoch : sqlServerDatetimeDaysFrom1900ToUnixEpoch = 25567 := rfl
  have hmin : sqlServerDatetimeMinDays = -53690 := rfl
  have hmax : sqlServerDatetimeMaxDays = 2958463 := rfl
  simp only [mssqlDatetimeFromUnixEpoch100nsTicks, bind_eq_ok, ensure_eq_ok,
    round100nsTicksToDatetimeFragments_eq hlo hhi, Except.ok.injEq, signedOp_eq_ok, okOr_eq_ok,
    checkedSigned_eq_some, checkedUnsigned_eq_some, pure_eq_ok, hfirst, hday, hepoch, hmin, hmax]
  constructor
  · rintro ⟨_, hge, _, rfl, _, ⟨-, rfl⟩, _, hdays, _, ⟨-, rfl⟩, _, ⟨-, rfl⟩, rfl⟩
    refine ⟨by omega, ?_, rfl⟩
    unfold endDatetimeFragments
    omega
  · rintro ⟨hge, hlt, rfl⟩
    have hstart : fragmentsOf rounding ((-53690 - 25567) * 864000000000) ≤ fragmentsOf rounding ticks :=
      fragmentsOf_mono hge
    rw [fragmentsOf_days] at hstart
    unfold endDatetimeFragments at hlt
    generalize fragmentsOf rounding ticks = fragments at *
    exact ⟨(), by omega, fragments, rfl, _, ⟨fitsSigned_128.mpr (by omega), rfl⟩, (), by omega, _,
      ⟨fitsSigned_32.mpr (by omega), rfl⟩, _, ⟨fitsUnsigned_32.mpr (by omega), rfl⟩, rfl⟩

theorem timestampDatetime_eq_ok {unit : TimeUnit} {value : SInt 64} {result : MssqlDateTime} :
    timestampDatetime unit mapping rowIndex value policy rounding = .ok result ↔
      ∃ ticks, NormalisesTo policy unit value.val ticks ∧ firstDatetimeInstant ≤ ticks ∧
        fragmentsOf rounding ticks < endDatetimeFragments ∧ result = splitFragments (fragmentsOf rounding ticks) := by
  simp only [timestampDatetime_eq_bind, bind_eq_ok, sourceTicks_eq_ok]
  apply exists_congr
  intro ticks
  apply and_congr_right
  intro hticks
  exact mssqlDatetimeFromTicks_eq_ok hticks.bounds.1 hticks.bounds.2

theorem validDateTime_of_timestampDatetime {unit : TimeUnit} {value : SInt 64} {result : MssqlDateTime}
    (h : timestampDatetime unit mapping rowIndex value policy rounding = .ok result) : Direct.ValidDateTime result := by
  obtain ⟨ticks, -, hge, hlt, rfl⟩ := timestampDatetime_eq_ok.mp h
  have hstart : fragmentsOf rounding ((-53690 - 25567) * 864000000000) ≤ fragmentsOf rounding ticks :=
    fragmentsOf_mono hge
  rw [fragmentsOf_days] at hstart
  unfold endDatetimeFragments at hlt
  refine ⟨⟨?_, ?_⟩, ?_⟩ <;> simp only [splitFragments] <;> omega

theorem timestampDatetime_mono {unit unit' : TimeUnit} {value value' : SInt 64} {result result' : MssqlDateTime}
    {mapping' : SchemaMapping} {rowIndex' : ℕ} (hle : sourceInstant unit value.val ≤ sourceInstant unit' value'.val)
    (h : timestampDatetime unit mapping rowIndex value policy rounding = .ok result)
    (h' : timestampDatetime unit' mapping' rowIndex' value' policy rounding = .ok result') :
    datetimeInstant result ≤ datetimeInstant result' := by
  obtain ⟨s, hs, -, -, hresult⟩ := timestampDatetime_eq_ok.mp h
  obtain ⟨t, ht, -, -, hresult'⟩ := timestampDatetime_eq_ok.mp h'
  rw [(eq_splitFragments_iff.mp hresult).2, (eq_splitFragments_iff.mp hresult').2]
  apply fragmentsOf_mono
  exact (normalisesTo_iff_sourceInstant.mp hs).mono (normalisesTo_iff_sourceInstant.mp ht) hle

theorem timestampDatetime_modes_agree {unit : TimeUnit} {value : SInt 64}
    (h : ∀ ticks, NormalisesTo policy unit value.val ticks → 10000 ∣ ticks) :
    timestampDatetime unit mapping rowIndex value policy .legacyPre130 =
      timestampDatetime unit mapping rowIndex value policy .compat130Plus := by
  rw [timestampDatetime_eq_bind, timestampDatetime_eq_bind]
  rcases hticks : sourceTicks unit mapping rowIndex value policy with error | ticks
  · rfl
  · have hnormal := sourceTicks_eq_ok.mp hticks
    obtain ⟨hlo, hhi⟩ := hnormal.bounds
    simp only [ok_bind, mssqlDatetimeFromUnixEpoch100nsTicks, round100nsTicksToDatetimeFragments_eq hlo hhi,
      fragmentsOf_whole_millisecond (h ticks hnormal)]

/-- Timestamps become the nearest `datetime`, after a detour over milliseconds before compatibility level 130. -/
theorem timestamp_to_datetime (unit : TimeUnit) (mapping : SchemaMapping) (rowIndex : ℕ) (value : SInt 64)
    (policy : NanosecondPolicy) :
    (∀ rounding, succeeds (timestampDatetime unit mapping rowIndex value policy rounding) ↔
      ∃ ticks fragments, NormalisesTo policy unit value.val ticks ∧ firstDatetimeInstant ≤ ticks ∧
        RoundsTo rounding ticks fragments ∧ fragments < endDatetimeFragments) ∧
    (∀ rounding result, timestampDatetime unit mapping rowIndex value policy rounding = .ok result →
      (∃ ticks, NormalisesTo policy unit value.val ticks ∧ RoundsTo rounding ticks (datetimeInstant result) ∧
        (rounding = .compat130Plus → IsNearest 10000000 (ticks * 300) (datetimeInstant result * 10000000)) ∧
        (rounding = .legacyPre130 →
          |2 * (ticks * 300 - datetimeInstant result * 10000000)| ≤ 10000000 + 2 * (5000 * 300))) ∧
      Direct.validateDatetime result = .ok ()) ∧
    ((∀ ticks, NormalisesTo policy unit value.val ticks → 10000 ∣ ticks) →
      timestampDatetime unit mapping rowIndex value policy .legacyPre130 =
        timestampDatetime unit mapping rowIndex value policy .compat130Plus) ∧
    (∀ rounding unit' (value' : SInt 64) result result',
      sourceInstant unit value.val ≤ sourceInstant unit' value'.val →
      timestampDatetime unit mapping rowIndex value policy rounding = .ok result →
      timestampDatetime unit' mapping rowIndex value' policy rounding = .ok result' →
      datetimeInstant result ≤ datetimeInstant result') ∧
    ∀ rounding, Safe (timestampDatetime unit mapping rowIndex value policy rounding) := by
  refine ⟨?_, ?_, timestampDatetime_modes_agree, ?_, ?_⟩
  · intro rounding
    simp only [succeeds_iff, timestampDatetime_eq_ok, roundsTo_iff]
    constructor
    · rintro ⟨result, ticks, hticks, hge, hlt, -⟩
      exact ⟨ticks, _, hticks, hge, rfl, hlt⟩
    · rintro ⟨ticks, _, hticks, hge, rfl, hlt⟩
      exact ⟨_, ticks, hticks, hge, hlt, rfl⟩
  · intro rounding result h
    refine ⟨?_, Direct.validateDatetime_eq_ok.mpr (validDateTime_of_timestampDatetime h)⟩
    obtain ⟨ticks, hticks, -, -, hresult⟩ := timestampDatetime_eq_ok.mp h
    have hinstant := (eq_splitFragments_iff.mp hresult).2
    refine ⟨ticks, hticks, roundsTo_iff.mpr hinstant, ?_, ?_⟩
    · rintro rfl
      rw [hinstant]
      exact fragmentsOf_compat ticks
    · rintro rfl
      rw [hinstant]
      exact fragmentsOf_legacy ticks
  · intro rounding unit' value' result result' hle h h'
    exact timestampDatetime_mono hle h h'
  · intro rounding
    exact (failsWith_timestampDatetime unit value policy rounding).safe

/-- The two modes part where a source lies between milliseconds. -/
example : fragmentsOf .legacyPre130 6845820 = 206 ∧ fragmentsOf .compat130Plus 6845820 = 205 := by decide

end ArrowTiberius
