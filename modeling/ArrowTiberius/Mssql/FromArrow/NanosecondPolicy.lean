import ArrowTiberius.Mssql.FromArrow.Datetime2Rounding
import ArrowTiberius.Mssql.FromArrow.Temporal

namespace ArrowTiberius

open Checked Rounding

def WritableTime (value : MssqlTime) : Prop :=
  ∃ n, Direct.timeCellLen value.scale = .ok n ∧ ∀ dst, dst.length = n → succeeds (Direct.writeTimeCell dst value)

theorem writableTime_of_valid {value : MssqlTime} (h : Direct.ValidTime value) : WritableTime value := by
  refine ⟨1 + Tds.timeLength value.scale, ?_, ?_⟩
  · rw [Direct.timeCellLen, Direct.timePayloadLen_of_le h.1]
    rfl
  · intro dst hdst
    exact succeeds_iff.mpr ⟨_, Direct.writeTimeCell_of_length h hdst⟩

variable {mapping : SchemaMapping} {rowIndex : ℕ}

theorem mssqlTimeFromI64_eq_ok {increments incrementsPerDay : ℤ} {scale : ℕ} {unitName : String} {result : MssqlTime} :
    Time.mssqlTimeFromI64 mapping rowIndex increments incrementsPerDay scale unitName = .ok result ↔
      (0 ≤ increments ∧ increments < incrementsPerDay) ∧ result = ⟨increments.toNat, scale⟩ := by
  simp only [Time.mssqlTimeFromI64, bind_unit_eq_ok, ensure_eq_ok, pure_eq_ok, Except.ok.injEq]
  exact and_congr_right fun _ => eq_comm

theorem writableTime_of_mssqlTimeFromI64 {increments incrementsPerDay : ℤ} {scale : ℕ} {unitName : String}
    {result : MssqlTime} (hscale : scale ≤ 7) (hday : incrementsPerDay = 86400 * 10 ^ scale)
    (h : Time.mssqlTimeFromI64 mapping rowIndex increments incrementsPerDay scale unitName = .ok result) :
    WritableTime result := by
  obtain ⟨⟨hnonneg, hlt⟩, rfl⟩ := mssqlTimeFromI64_eq_ok.mp h
  apply writableTime_of_valid
  refine ⟨hscale, ?_⟩
  rw [hday] at hlt
  have hcast : ((increments.toNat : ℕ) : ℤ) = increments := Int.toNat_of_nonneg hnonneg
  exact_mod_cast hcast ▸ hlt

theorem time_nanosecondsTo100nsTicks_toOption (value : ℤ) (policy : NanosecondPolicy) :
    (Time.nanosecondsTo100nsTicks mapping rowIndex value policy).toOption =
      (nanosecondsTo100nsTicks mapping rowIndex value policy).toOption := by
  cases policy with
  | rejectNon100ns =>
    simp only [Time.nanosecondsTo100nsTicks, nanosecondsTo100nsTicks]
    split <;> rfl
  | truncateTo100ns => rfl
  | roundTo100ns => simp only [Time.nanosecondsTo100nsTicks, nanosecondsTo100nsTicks, toOption_ite, toOption_okOr]

theorem time_nanosecondsTo100nsTicks_eq_ok {value ticks : ℤ} {policy : NanosecondPolicy} :
    Time.nanosecondsTo100nsTicks mapping rowIndex value policy = .ok ticks ↔
      nanosecondsTo100nsTicks mapping rowIndex value policy = .ok ticks := by
  rw [← toOption_eq_some, ← toOption_eq_some, time_nanosecondsTo100nsTicks_toOption]

theorem NormalisesTo.nonneg {policy : NanosecondPolicy} {value ticks : ℤ} (hvalue : 0 ≤ value)
    (h : NormalisesTo policy .nanosecond value ticks) : 0 ≤ ticks ∧ ticks ≤ value + 50 := by
  cases policy with
  | rejectNon100ns =>
    change value = _ at h
    omega
  | truncateTo100ns =>
    change _ ∧ _ at h
    omega
  | roundTo100ns =>
    have habove := IsNearest.above h
    have hbelow := IsNearest.below h
    omega

theorem mssqlTimeFromNanoseconds_eq_ok (value : SInt 64) {policy : NanosecondPolicy} {result : MssqlTime} :
    Time.mssqlTimeFromNanoseconds mapping rowIndex value.val policy = .ok result ↔
      (0 ≤ value.val ∧ value.val < 86400000000000) ∧ ∃ ticks,
        nanosecondsTo100nsTicks mapping rowIndex value.val policy = .ok ticks ∧ ticks < 864000000000 ∧
          result = ⟨ticks.toNat, 7⟩ := by
  simp only [Time.mssqlTimeFromNanoseconds, bind_eq_ok, ensure_eq_ok, okOr_eq_ok, checkedUnsigned_eq_some,
    pure_eq_ok, Except.ok.injEq, time_nanosecondsTo100nsTicks_eq_ok]
  constructor
  · rintro ⟨_, hday, ticks, hticks, _, ⟨hfits, rfl⟩, _, hlt, rfl⟩
    refine ⟨hday, ticks, hticks, ?_, rfl⟩
    unfold Time.ticks100nsPerDay at hlt
    omega
  · rintro ⟨hday, ticks, hticks, hlt, rfl⟩
    obtain ⟨hnonneg, -⟩ := ((nanosecondsTo100nsTicks_eq_ok value).mp hticks).nonneg hday.1
    refine ⟨(), hday, ticks, hticks, _, ⟨fitsUnsigned_64.mpr ⟨hnonneg, by omega⟩, rfl⟩, (), ?_, rfl⟩
    unfold Time.ticks100nsPerDay
    omega

theorem writableTime_of_mssqlTimeFromNanoseconds (value : SInt 64) {policy : NanosecondPolicy} {result : MssqlTime}
    (h : Time.mssqlTimeFromNanoseconds mapping rowIndex value.val policy = .ok result) : WritableTime result := by
  obtain ⟨-, ticks, -, hlt, rfl⟩ := (mssqlTimeFromNanoseconds_eq_ok value).mp h
  apply writableTime_of_valid
  refine ⟨le_refl 7, ?_⟩
  dsimp only
  omega

theorem nanosecondsTo100nsTicks_truncate (value : ℤ) :
    nanosecondsTo100nsTicks mapping rowIndex value .truncateTo100ns = .ok (value / 100) := rfl

theorem nanosecondsTo100nsTicks_round (value : SInt 64) :
    ∃ rounded, nanosecondsTo100nsTicks mapping rowIndex value.val .roundTo100ns = .ok rounded ∧
      IsNearest 100 value.val (100 * rounded) := by
  obtain ⟨rounded, hrounded⟩ := @nanosecondsTo100nsTicks_succeeds mapping rowIndex .roundTo100ns value nofun
  exact ⟨rounded, hrounded, (nanosecondsTo100nsTicks_eq_ok value).mp hrounded⟩

theorem nanosecondsTo100nsTicks_reject (value : SInt 64) {ticks : ℤ} :
    nanosecondsTo100nsTicks mapping rowIndex value.val .rejectNon100ns = .ok ticks ↔ value.val = 100 * ticks :=
  nanosecondsTo100nsTicks_eq_ok value

/-- What the three policies make of a count of nanoseconds, and which times of day they let through to the writer. -/
theorem nanosecond_policy_law (mapping : SchemaMapping) (rowIndex : ℕ) (value : SInt 64) :
    (∃ truncated rounded : ℤ,
      nanosecondsTo100nsTicks mapping rowIndex value.val .truncateTo100ns = .ok truncated ∧
      (100 * truncated ≤ value.val ∧ value.val < 100 * truncated + 100) ∧
      nanosecondsTo100nsTicks mapping rowIndex value.val .roundTo100ns = .ok rounded ∧
      IsNearest 100 value.val (100 * rounded) ∧
      (truncated ≤ rounded ∧ rounded ≤ truncated + 1) ∧
      (succeeds (nanosecondsTo100nsTicks mapping rowIndex value.val .rejectNon100ns) ↔ 100 ∣ value.val) ∧
      (100 ∣ value.val → nanosecondsTo100nsTicks mapping rowIndex value.val .rejectNon100ns = .ok truncated ∧
        rounded = truncated)) ∧
    (∀ policy, Safe (nanosecondsTo100nsTicks mapping rowIndex value.val policy) ∧
      (Time.nanosecondsTo100nsTicks mapping rowIndex value.val policy).toOption =
        (nanosecondsTo100nsTicks mapping rowIndex value.val policy).toOption) ∧
    (∀ policy result, mssqlTimeFromArrowTime64Nanosecond mapping rowIndex value policy = .ok result ↔
      (0 ≤ value.val ∧ value.val < 86400000000000) ∧ ∃ ticks,
        nanosecondsTo100nsTicks mapping rowIndex value.val policy = .ok ticks ∧ ticks < 864000000000 ∧
          result = ⟨ticks.toNat, 7⟩) ∧
    (∀ policy result, mssqlTimeFromArrowTime64Nanosecond mapping rowIndex value policy = .ok result →
      WritableTime result) ∧
    (∀ result, mssqlTimeFromArrowTime64Microsecond mapping rowIndex value = .ok result → WritableTime result) ∧
    (∀ (value : SInt 32) result, mssqlTimeFromArrowTime32Millisecond mapping rowIndex value = .ok result →
      WritableTime result) ∧
    ∀ (value : SInt 32) result, mssqlTimeFromArrowTime32Second mapping rowIndex value = .ok result →
      WritableTime result := by
  refine ⟨?_, ?_, ?_, ?_, ?_, ?_, ?_⟩
  · obtain ⟨rounded, hrounded, hnear⟩ := @nanosecondsTo100nsTicks_round mapping rowIndex value
    have habove := hnear.above
    have hbelow := hnear.below
    refine ⟨value.val / 100, rounded, nanosecondsTo100nsTicks_truncate _, by omega, hrounded, hnear, by omega, ?_, ?_⟩
    · simp only [succeeds_iff, nanosecondsTo100nsTicks_reject]
      exact Iff.rfl
    · intro hdvd
      refine ⟨(nanosecondsTo100nsTicks_reject value).mpr (by omega), by omega⟩
  · intro policy
    exact ⟨(failsWith_nanosecondsTo100nsTicks _ _ _ _).safe, time_nanosecondsTo100nsTicks_toOption _ _⟩
  · intro policy result
    exact mssqlTimeFromNanoseconds_eq_ok value
  · intro policy result h
    exact writableTime_of_mssqlTimeFromNanoseconds value h
  · intro result h
    refine writableTime_of_mssqlTimeFromI64 ?_ ?_ h <;> decide
  · intro value result h
    refine writableTime_of_mssqlTimeFromI64 ?_ ?_ h <;> decide
  · intro value result h
    refine writableTime_of_mssqlTimeFromI64 ?_ ?_ h <;> decide

/-- Fifty nanoseconds before midnight the rounding policy leaves the day. -/
example (mapping : SchemaMapping) :
    ¬∃ result, mssqlTimeFromArrowTime64Nanosecond mapping 0 ⟨86399999999950, by decide⟩ .roundTo100ns = .ok result :=
  nofun

end ArrowTiberius
