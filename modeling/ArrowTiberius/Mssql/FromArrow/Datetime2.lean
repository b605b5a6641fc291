import ArrowTiberius.Mssql.Cell
import ArrowTiberius.Schema.Mapping
import ArrowTiberius.Schema.Policy

namespace ArrowTiberius

open Checked

def sqlServerDateUnixEpochDays : ℤ := 719162

def sqlServerDateMaxDays : ℤ := 3652058

def sqlServerDatetime2TimestampScale : ℕ := 7

def ticks100nsPerSecond : ℤ := 10000000

def ticks100nsPerMillisecond : ℤ := 10000

def ticks100nsPerMicrosecond : ℤ := 10

def ticks100nsPerDay : ℤ := 864000000000

def nanosecondsPer100nsTick : ℤ := 100

def sqlServerDatetime2MinUnixEpoch100nsTicks : ℤ := -sqlServerDateUnixEpochDays * ticks100nsPerDay

def nanosecondsTo100nsTicks (mapping : SchemaMapping) (rowIndex : ℕ) (nanosecondsFromUnixEpoch : ℤ)
    (policy : NanosecondPolicy) : Result ℤ :=
  let baseTicks := nanosecondsFromUnixEpoch / nanosecondsPer100nsTick
  let remainder := nanosecondsFromUnixEpoch % nanosecondsPer100nsTick
  match policy with
  | .rejectNon100ns =>
    if remainder = 0 then .ok baseTicks
    else fail (rowError mapping rowIndex .lossyConversionRequiresPolicy
      s!"Arrow timestamp nanosecond value {nanosecondsFromUnixEpoch} is not divisible by 100ns")
  | .truncateTo100ns => .ok baseTicks
  | .roundTo100ns =>
    if remainder ≥ 50 then
      okOr (checkedSigned 64 (baseTicks + 1)) (rowError mapping rowIndex .timestampOutOfRange
        s!"Arrow timestamp nanosecond value {nanosecondsFromUnixEpoch} overflows while rounding to 100ns")
    else .ok baseTicks

def ticksPerDatetime2Increment (scale : ℕ) : Result ℕ := do
  let exponent ← unsignedOp 8 (sqlServerDatetime2TimestampScale - scale)
  unsignedOp 64 (10 ^ exponent)

def round100nsTicksToDatetime2Scale (mapping : SchemaMapping) (rowIndex : ℕ) (ticks : ℤ) (scale : ℕ) :
    Result ℤ :=
  if scale = sqlServerDatetime2TimestampScale then .ok ticks
  else do
    let factor ← ticksPerDatetime2Increment scale
    let doubled ← signedOp 128 (ticks % factor * 2)
    let roundedBase ← (
      if doubled ≥ factor then
        okOr (checkedSigned 128 (ticks / factor + 1)) (rowError mapping rowIndex .timestampOutOfRange
          "Arrow timestamp overflows while rounding to datetime2 precision")
      else .ok (ticks / factor))
    okOr (checkedSigned 128 (roundedBase * factor)) (rowError mapping rowIndex .timestampOutOfRange
      "Arrow timestamp overflows while rounding to datetime2 precision")

def timestampOutOfDatetime2Range (mapping : SchemaMapping) (rowIndex : ℕ) (unitName : String)
    (sourceValue : ℤ) : Error :=
  rowError mapping rowIndex .timestampOutOfRange
    s!"Arrow timestamp {unitName} value {sourceValue} is outside SQL Server datetime2 range"

def mssqlDatetime2FromUnixEpoch100nsTicksAtScale (mapping : SchemaMapping) (rowIndex : ℕ)
    (ticksFromUnixEpoch : ℤ) (unitName : String) (sourceValue : ℤ) (scale : ℕ) : Result MssqlDateTime2 := do
  ensure (¬ticksFromUnixEpoch < sqlServerDatetime2MinUnixEpoch100nsTicks)
    (timestampOutOfDatetime2Range mapping rowIndex unitName sourceValue)
  let ticksFromUnixEpoch ← round100nsTicksToDatetime2Scale mapping rowIndex ticksFromUnixEpoch scale
  let days ← signedOp 128 (ticksFromUnixEpoch / ticks100nsPerDay + sqlServerDateUnixEpochDays)
  ensure (0 ≤ days ∧ days ≤ sqlServerDateMaxDays)
    (timestampOutOfDatetime2Range mapping rowIndex unitName sourceValue)
  let days ← okOr (checkedUnsigned 32 days) (rowError mapping rowIndex .timestampOutOfRange
    s!"Arrow timestamp {unitName} value {sourceValue} has an invalid SQL Server date component")
  let ticksSinceMidnight ← okOr (checkedUnsigned 64 (ticksFromUnixEpoch % ticks100nsPerDay))
    (rowError mapping rowIndex .timestampOutOfRange
      s!"Arrow timestamp {unitName} value {sourceValue} has an invalid SQL Server time component")
  let incrementFactor ← ticksPerDatetime2Increment scale
  pure ⟨⟨days⟩, ⟨ticksSinceMidnight / incrementFactor, scale⟩⟩

def mssqlDatetime2FromUnixEpoch100nsTicks (mapping : SchemaMapping) (rowIndex : ℕ) (ticksFromUnixEpoch : ℤ)
    (unitName : String) (sourceValue : ℤ) : Result MssqlDateTime2 :=
  mssqlDatetime2FromUnixEpoch100nsTicksAtScale mapping rowIndex ticksFromUnixEpoch unitName sourceValue
    sqlServerDatetime2TimestampScale

def targetDatetime2TimestampScale (mapping : SchemaMapping) (rowIndex : ℕ) : Result ℕ :=
  match mapping.mssql.ty with
  | .dateTime2 precision =>
    if precision ≤ sqlServerDatetime2TimestampScale then .ok precision
    else fail (rowError mapping rowIndex .valueConversionUnsupported
      s!"SQL Server datetime2 precision {precision} is outside range 0..=7")
  | ty => fail (rowError mapping rowIndex .valueConversionUnsupported
      s!"expected Arrow timestamp planned as datetime2, got SQL Server {ty.toSql}")

def mssqlDatetime2FromArrowTimestampTicks (mapping : SchemaMapping) (rowIndex : ℕ) (ticksFromUnixEpoch : ℤ)
    (unitName : String) (sourceValue : ℤ) : Result MssqlDateTime2 := do
  let scale ← targetDatetime2TimestampScale mapping rowIndex
  mssqlDatetime2FromUnixEpoch100nsTicksAtScale mapping rowIndex ticksFromUnixEpoch unitName sourceValue scale

def mssqlDatetime2FromArrowTimestampSecond (mapping : SchemaMapping) (rowIndex : ℕ) (value : SInt 64) :
    Result MssqlDateTime2 := do
  let ticks ← signedOp 128 (value.val * ticks100nsPerSecond)
  mssqlDatetime2FromArrowTimestampTicks mapping rowIndex ticks "second" value.val

def mssqlDatetime2FromArrowTimestampMillisecond (mapping : SchemaMapping) (rowIndex : ℕ) (value : SInt 64) :
    Result MssqlDateTime2 := do
  let ticks ← signedOp 128 (value.val * ticks100nsPerMillisecond)
  mssqlDatetime2FromArrowTimestampTicks mapping rowIndex ticks "millisecond" value.val

def mssqlDatetime2FromArrowTimestampMicrosecond (mapping : SchemaMapping) (rowIndex : ℕ) (value : SInt 64) :
    Result MssqlDateTime2 := do
  let ticks ← signedOp 128 (value.val * ticks100nsPerMicrosecond)
  mssqlDatetime2FromArrowTimestampTicks mapping rowIndex ticks "microsecond" value.val

def mssqlDatetime2FromArrowTimestampNanosecond (mapping : SchemaMapping) (rowIndex : ℕ) (value : SInt 64)
    (policy : NanosecondPolicy) : Result MssqlDateTime2 := do
  let ticks ← nanosecondsTo100nsTicks mapping rowIndex value.val policy
  mssqlDatetime2FromArrowTimestampTicks mapping rowIndex ticks "nanosecond" value.val

def timestampDatetime2 (unit : TimeUnit) (mapping : SchemaMapping) (rowIndex : ℕ) (value : SInt 64)
    (policy : NanosecondPolicy) : Result MssqlDateTime2 :=
  match unit with
  | .second => mssqlDatetime2FromArrowTimestampSecond mapping rowIndex value
  | .millisecond => mssqlDatetime2FromArrowTimestampMillisecond mapping rowIndex value
  | .microsecond => mssqlDatetime2FromArrowTimestampMicrosecond mapping rowIndex value
  | .nanosecond => mssqlDatetime2FromArrowTimestampNanosecond mapping rowIndex value policy

end ArrowTiberius
