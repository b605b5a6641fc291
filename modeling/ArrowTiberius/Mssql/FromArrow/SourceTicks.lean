import ArrowTiberius.Mssql.FromArrow.Datetime2Rounding
import ArrowTiberius.Mssql.FromArrow.TemporalFailures

namespace ArrowTiberius

open Checked Rounding

variable {mapping : SchemaMapping} {rowIndex : ℕ} {value : SInt 64} {policy : NanosecondPolicy}

def sourceTicks (unit : TimeUnit) (mapping : SchemaMapping) (rowIndex : ℕ) (value : SInt 64)
    (policy : NanosecondPolicy) : Result ℤ :=
  match unit with
  | .second => signedOp 128 (value.val * ticks100nsPerSecond)
  | .millisecond => signedOp 128 (value.val * ticks100nsPerMillisecond)
  | .microsecond => signedOp 128 (value.val * ticks100nsPerMicrosecond)
  | .nanosecond => nanosecondsTo100nsTicks mapping rowIndex value.val policy

theorem sourceTicks_eq_ok {unit : TimeUnit} {ticks : ℤ} :
    sourceTicks unit mapping rowIndex value policy = .ok ticks ↔ NormalisesTo policy unit value.val ticks := by
  have hscaled {factor : ℤ} (hlo : 0 ≤ factor) (hhi : factor ≤ 10000000) :
      (signedOp 128 (value.val * factor) : Result ℤ) = .ok ticks ↔ ticks = value.val * factor := by
    rw [signedOp_of_fits (fits_ticks value hlo hhi).1, Except.ok.injEq]
    exact eq_comm
  cases unit with
  | second => exact hscaled (by decide) (by decide)
  | millisecond => exact hscaled (by decide) (by decide)
  | microsecond => exact hscaled (by decide) (by decide)
  | nanosecond => exact nanosecondsTo100nsTicks_eq_ok value

theorem timestampDatetime_eq_bind (unit : TimeUnit) (rounding : DateTimeRounding) :
    timestampDatetime unit mapping rowIndex value policy rounding = (do
      let ticks ← sourceTicks unit mapping rowIndex value policy
      mssqlDatetimeFromUnixEpoch100nsTicks mapping rowIndex ticks (unitName unit) value.val rounding) := by
  cases unit <;> rfl

theorem timestampDatetime2_eq_bind (unit : TimeUnit) : timestampDatetime2 unit mapping rowIndex value policy = (do
    let ticks ← sourceTicks unit mapping rowIndex value policy
    mssqlDatetime2FromArrowTimestampTicks mapping rowIndex ticks (unitName unit) value.val) := by
  cases unit <;> rfl

def unitNanoseconds : TimeUnit → ℤ
  | .second => 1000000000
  | .millisecond => 1000000
  | .microsecond => 1000
  | .nanosecond => 1

def sourceInstant (unit : TimeUnit) (value : ℤ) : ℤ := value * unitNanoseconds unit

theorem normalisesTo_iff_sourceInstant {unit : TimeUnit} {value ticks : ℤ} :
    NormalisesTo policy unit value ticks ↔ NormalisesTo policy .nanosecond (sourceInstant unit value) ticks := by
  have hexact {factor : ℤ} : ticks = value * factor ↔
      NormalisesTo policy .nanosecond (value * (100 * factor)) ticks := by
    have hmul : value * (100 * factor) = 100 * (value * factor) := by ring
    rw [hmul]
    cases policy with
    | rejectNon100ns =>
      change _ ↔ 100 * (value * factor) = 100 * ticks
      omega
    | truncateTo100ns =>
      change _ ↔ 100 * ticks ≤ 100 * (value * factor) ∧ 100 * (value * factor) < 100 * ticks + 100
      omega
    | roundTo100ns =>
      constructor
      · intro h
        exact ⟨Dvd.intro _ rfl, by omega, by omega⟩
      · intro h
        have habove := IsNearest.above h
        have hbelow := IsNearest.below h
        omega
  cases unit with
  | second => exact hexact
  | millisecond => exact hexact
  | microsecond => exact hexact
  | nanosecond => rw [sourceInstant, unitNanoseconds, mul_one]

theorem NormalisesTo.mono {a b s t : ℤ} (hs : NormalisesTo policy .nanosecond a s)
    (ht : NormalisesTo policy .nanosecond b t) (h : a ≤ b) : s ≤ t := by
  cases policy with
  | rejectNon100ns =>
    change a = 100 * s at hs
    change b = 100 * t at ht
    omega
  | truncateTo100ns =>
    change 100 * s ≤ a ∧ a < 100 * s + 100 at hs
    change 100 * t ≤ b ∧ b < 100 * t + 100 at ht
    omega
  | roundTo100ns =>
    have habove := IsNearest.above hs
    have hbelow := IsNearest.below ht
    omega

end ArrowTiberius
