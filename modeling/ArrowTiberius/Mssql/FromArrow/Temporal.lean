import ArrowTiberius.Conversion.ArrowToMssql
import ArrowTiberius.Mssql.FromArrow.Datetime2
import ArrowTiberius.Mssql.FromArrow.Timezone

namespace ArrowTiberius

open Checked

def millisecondsPerDay : ℤ := 86400000

def mssqlDateFromArrowDate32 (mapping : SchemaMapping) (rowIndex : ℕ) (daysFromUnixEpoch : SInt 32) :
    Result MssqlDate := do
  let days ← signedOp 64 (daysFromUnixEpoch.val + sqlServerDateUnixEpochDays)
  ensure (0 ≤ days ∧ days ≤ sqlServerDateMaxDays) (rowError mapping rowIndex .timestampOutOfRange
    s!"Arrow Date32 day offset {daysFromUnixEpoch.val} is outside SQL Server date range")
  pure ⟨days.toNat⟩

def mssqlDatetime2FromArrowDate64 (mapping : SchemaMapping) (rowIndex : ℕ) (millisecondsFromUnixEpoch : SInt 64) :
    Result MssqlDateTime2 := do
  let days ← signedOp 64 (millisecondsFromUnixEpoch.val / millisecondsPerDay + sqlServerDateUnixEpochDays)
  ensure (0 ≤ days ∧ days ≤ sqlServerDateMaxDays) (rowError mapping rowIndex .timestampOutOfRange
    s!"Arrow Date64 millisecond value {millisecondsFromUnixEpoch.val} is outside SQL Server datetime2 range")
  pure ⟨⟨days.toNat⟩, ⟨(millisecondsFromUnixEpoch.val % millisecondsPerDay).toNat, 3⟩⟩

namespace Time

def secondsPerDay : ℤ := 86400

def microsecondsPerDay : ℤ := 86400000000

def nanosecondsPerDay : ℤ := 86400000000000

def ticks100nsPerDay : ℕ := 864000000000

def timeOutOfRange (mapping : SchemaMapping) (rowIndex : ℕ) (unitName : String) (value : ℤ) : Error :=
  rowError mapping rowIndex .timestampOutOfRange s!"Arrow {unitName} value {value} is outside SQL Server time range"

def nanosecondsTo100nsTicks (mapping : SchemaMapping) (rowIndex : ℕ) (nanosecondsSinceMidnight : ℤ)
    (policy : NanosecondPolicy) : Result ℤ :=
  let baseTicks := nanosecondsSinceMidnight / nanosecondsPer100nsTick
  let remainder := nanosecondsSinceMidnight % nanosecondsPer100nsTick
  match policy with
  | .rejectNon100ns =>
    if remainder = 0 then .ok baseTicks
    else fail (rowError mapping rowIndex .lossyConversionRequiresPolicy
      s!"Arrow Time64 nanosecond value {nanosecondsSinceMidnight} is not divisible by 100ns")
  | .truncateTo100ns => .ok baseTicks
  | .roundTo100ns =>
    if remainder ≥ 50 then
      okOr (checkedSigned 64 (baseTicks + 1))
        (timeOutOfRange mapping rowIndex "Time64 nanosecond" nanosecondsSinceMidnight)
    else .ok baseTicks

def mssqlTimeFromI64 (mapping : SchemaMapping) (rowIndex : ℕ) (increments incrementsPerDay : ℤ) (scale : ℕ)
    (unitName : String) : Result MssqlTime := do
  ensure (0 ≤ increments ∧ increments < incrementsPerDay) (timeOutOfRange mapping rowIndex unitName increments)
  pure ⟨increments.toNat, scale⟩

def mssqlTimeFromNanoseconds (mapping : SchemaMapping) (rowIndex : ℕ) (nanosecondsSinceMidnight : ℤ)
    (policy : NanosecondPolicy) : Result MssqlTime := do
  ensure (0 ≤ nanosecondsSinceMidnight ∧ nanosecondsSinceMidnight < nanosecondsPerDay)
    (timeOutOfRange mapping rowIndex "Time64 nanosecond" nanosecondsSinceMidnight)
  let ticks ← nanosecondsTo100nsTicks mapping rowIndex nanosecondsSinceMidnight policy
  let ticks ← okOr (checkedUnsigned 64 ticks)
    (timeOutOfRange mapping rowIndex "Time64 nanosecond" nanosecondsSinceMidnight)
  ensure (¬ticks ≥ ticks100nsPerDay) (timeOutOfRange mapping rowIndex "Time64 nanosecond" nanosecondsSinceMidnight)
  pure ⟨ticks, 7⟩

end Time

def mssqlTimeFromArrowTime32Second (mapping : SchemaMapping) (rowIndex : ℕ) (value : SInt 32) : Result MssqlTime :=
  Time.mssqlTimeFromI64 mapping rowIndex value.val Time.secondsPerDay 0 "Time32 second"

def mssqlTimeFromArrowTime32Millisecond (mapping : SchemaMapping) (rowIndex : ℕ) (value : SInt 32) :
    Result MssqlTime :=
  Time.mssqlTimeFromI64 mapping rowIndex value.val millisecondsPerDay 3 "Time32 millisecond"

def mssqlTimeFromArrowTime64Microsecond (mapping : SchemaMapping) (rowIndex : ℕ) (value : SInt 64) :
    Result MssqlTime :=
  Time.mssqlTimeFromI64 mapping rowIndex value.val Time.microsecondsPerDay 6 "Time64 microsecond"

def mssqlTimeFromArrowTime64Nanosecond (mapping : SchemaMapping) (rowIndex : ℕ) (value : SInt 64)
    (policy : NanosecondPolicy) : Result MssqlTime :=
  Time.mssqlTimeFromNanoseconds mapping rowIndex value.val policy

def sqlServerDatetimeDaysFrom1900ToUnixEpoch : ℤ := 25567

def sqlServerDatetimeMinDays : ℤ := -53690

def sqlServerDatetimeMaxDays : ℤ := 2958463

def sqlServerDatetimeFragmentsPerSecond : ℤ := 300

def sqlServerDatetimeFragmentsPerDay : ℤ := 86400 * sqlServerDatetimeFragmentsPerSecond

def sqlServerDatetimeMinUnixEpoch100nsTicks : ℤ :=
  (sqlServerDatetimeMinDays - sqlServerDatetimeDaysFrom1900ToUnixEpoch) * ticks100nsPerDay

def timestampOutOfDatetimeRange (mapping : SchemaMapping) (rowIndex : ℕ) (unitName : String) (sourceValue : ℤ) :
    Error :=
  rowError mapping rowIndex .timestampOutOfRange
    s!"Arrow timestamp {unitName} value {sourceValue} is outside SQL Server datetime range"

def round100nsTicksToNearestMillisecond (mapping : SchemaMapping) (rowIndex : ℕ) (ticks : ℤ) : Result ℤ := do
  let doubled ← signedOp 128 (ticks % ticks100nsPerMillisecond * 2)
  let milliseconds ← (
    if doubled ≥ ticks100nsPerMillisecond then
      okOr (checkedSigned 128 (ticks / ticks100nsPerMillisecond + 1)) (rowError mapping rowIndex .timestampOutOfRange
        "Arrow timestamp overflows while rounding to millisecond precision")
    else .ok (ticks / ticks100nsPerMillisecond))
  okOr (checkedSigned 128 (milliseconds * ticks100nsPerMillisecond)) (rowError mapping rowIndex .timestampOutOfRange
    "Arrow timestamp overflows while rounding to millisecond precision")

def round100nsTicksToNearestDatetimeFragment (mapping : SchemaMapping) (rowIndex : ℕ) (ticks : ℤ) : Result ℤ := do
  let numerator ← okOr (checkedSigned 128 (ticks * sqlServerDatetimeFragmentsPerSecond))
    (rowError mapping rowIndex .timestampOutOfRange
      "Arrow timestamp overflows while converting to SQL Server datetime")
  let doubled ← signedOp 128 (numerator % ticks100nsPerSecond * 2)
  if doubled ≥ ticks100nsPerSecond then
    okOr (checkedSigned 128 (numerator / ticks100nsPerSecond + 1)) (rowError mapping rowIndex .timestampOutOfRange
      "Arrow timestamp overflows while rounding to SQL Server datetime")
  else .ok (numerator / ticks100nsPerSecond)

def round100nsTicksToDatetimeFragments (mapping : SchemaMapping) (rowIndex : ℕ) (ticks : ℤ)
    (rounding : DateTimeRounding) : Result ℤ :=
  match rounding with
  | .legacyPre130 => do
    let ticks ← round100nsTicksToNearestMillisecond mapping rowIndex ticks
    round100nsTicksToNearestDatetimeFragment mapping rowIndex ticks
  | .compat130Plus => round100nsTicksToNearestDatetimeFragment mapping rowIndex ticks

def mssqlDatetimeFromUnixEpoch100nsTicks (mapping : SchemaMapping) (rowIndex : ℕ) (ticksFromUnixEpoch : ℤ)
    (unitName : String) (sourceValue : ℤ) (rounding : DateTimeRounding) : Result MssqlDateTime := do
  ensure (¬ticksFromUnixEpoch < sqlServerDatetimeMinUnixEpoch100nsTicks)
    (timestampOutOfDatetimeRange mapping rowIndex unitName sourceValue)
  let fragments ← round100nsTicksToDatetimeFragments mapping rowIndex ticksFromUnixEpoch rounding
  let days ← signedOp 128 (fragments / sqlServerDatetimeFragmentsPerDay + sqlServerDatetimeDaysFrom1900ToUnixEpoch)
  ensure (sqlServerDatetimeMinDays ≤ days ∧ days ≤ sqlServerDatetimeMaxDays)
    (timestampOutOfDatetimeRange mapping rowIndex unitName sourceValue)
  let days ← okOr (checkedSigned 32 days) (rowError mapping rowIndex .timestampOutOfRange
    s!"Arrow timestamp {unitName} value {sourceValue} has an invalid SQL Server datetime date component")
  let secondsFragments ← okOr (checkedUnsigned 32 (fragments % sqlServerDatetimeFragmentsPerDay))
    (rowError mapping rowIndex .timestampOutOfRange
      s!"Arrow timestamp {unitName} value {sourceValue} has an invalid SQL Server datetime time component")
  pure ⟨days, secondsFragments⟩

def mssqlDatetimeFromArrowTimestampSecond (mapping : SchemaMapping) (rowIndex : ℕ) (value : SInt 64)
    (rounding : DateTimeRounding) : Result MssqlDateTime := do
  let ticks ← signedOp 128 (value.val * ticks100nsPerSecond)
  mssqlDatetimeFromUnixEpoch100nsTicks mapping rowIndex ticks "second" value.val rounding

def mssqlDatetimeFromArrowTimestampMillisecond (mapping : SchemaMapping) (rowIndex : ℕ) (value : SInt 64)
    (rounding : DateTimeRounding) : Result MssqlDateTime := do
  let ticks ← signedOp 128 (value.val * ticks100nsPerMillisecond)
  mssqlDatetimeFromUnixEpoch100nsTicks mapping rowIndex ticks "millisecond" value.val rounding

def mssqlDatetimeFromArrowTimestampMicrosecond (mapping : SchemaMapping) (rowIndex : ℕ) (value : SInt 64)
    (rounding : DateTimeRounding) : Result MssqlDateTime := do
  let ticks ← signedOp 128 (value.val * ticks100nsPerMicrosecond)
  mssqlDatetimeFromUnixEpoch100nsTicks mapping rowIndex ticks "microsecond" value.val rounding

def mssqlDatetimeFromArrowTimestampNanosecond (mapping : SchemaMapping) (rowIndex : ℕ) (value : SInt 64)
    (policy : NanosecondPolicy) (rounding : DateTimeRounding) : Result MssqlDateTime := do
  let ticks ← nanosecondsTo100nsTicks mapping rowIndex value.val policy
  mssqlDatetimeFromUnixEpoch100nsTicks mapping rowIndex ticks "nanosecond" value.val rounding

def timestampDatetime (unit : TimeUnit) (mapping : SchemaMapping) (rowIndex : ℕ) (value : SInt 64)
    (policy : NanosecondPolicy) (rounding : DateTimeRounding) : Result MssqlDateTime :=
  match unit with
  | .second => mssqlDatetimeFromArrowTimestampSecond mapping rowIndex value rounding
  | .millisecond => mssqlDatetimeFromArrowTimestampMillisecond mapping rowIndex value rounding
  | .microsecond => mssqlDatetimeFromArrowTimestampMicrosecond mapping rowIndex value rounding
  | .nanosecond => mssqlDatetimeFromArrowTimestampNanosecond mapping rowIndex value policy rounding

def epochParts (mapping : SchemaMapping) (rowIndex : ℕ) (secondsFromUnixEpoch nanoseconds : ℤ) : Result (ℤ × ℕ) := do
  let nanoseconds ← okOr (checkedUnsigned 32 nanoseconds) (rowError mapping rowIndex .timestampOutOfRange
    s!"timestamp nanosecond component {nanoseconds} is outside valid range")
  pure (secondsFromUnixEpoch, nanoseconds)

def epochPartsFromMilliseconds (mapping : SchemaMapping) (rowIndex : ℕ) (value : SInt 64) : Result (ℤ × ℕ) := do
  let nanoseconds ← signedOp 64 (value.val % 1000 * 1000000)
  epochParts mapping rowIndex (value.val / 1000) nanoseconds

def epochPartsFromMicroseconds (mapping : SchemaMapping) (rowIndex : ℕ) (value : SInt 64) : Result (ℤ × ℕ) := do
  let nanoseconds ← signedOp 64 (value.val % 1000000 * 1000)
  epochParts mapping rowIndex (value.val / 1000000) nanoseconds

def epochPartsFromNanoseconds (mapping : SchemaMapping) (rowIndex : ℕ) (value : SInt 64) : Result (ℤ × ℕ) :=
  epochParts mapping rowIndex (value.val / 1000000000) (value.val % 1000000000)

def validateDatetimeoffsetLocalRange (mapping : SchemaMapping) (rowIndex : ℕ) (localTicksFromUnixEpoch : ℤ)
    (unitName : String) (sourceValue : ℤ) : Result Unit := do
  let _ ← mssqlDatetime2FromUnixEpoch100nsTicks mapping rowIndex localTicksFromUnixEpoch unitName sourceValue

def mssqlDatetimeoffsetFromUtc100nsTicks (mapping : SchemaMapping) (rowIndex : ℕ) (utcTicksFromUnixEpoch : ℤ)
    (offsetMinutes : ℤ) (unitName : String) (sourceValue : ℤ) : Result MssqlDateTimeOffset := do
  let offsetTicks ← signedOp 128 (offsetMinutes * 60 * ticks100nsPerSecond)
  let localTicks ← okOr (checkedSigned 128 (utcTicksFromUnixEpoch + offsetTicks))
    (rowError mapping rowIndex .timestampOutOfRange s!"Arrow timestamp {unitName} value {
      sourceValue} overflows while applying timezone offset {offsetMinutes} minute(s)")
  validateDatetimeoffsetLocalRange mapping rowIndex localTicks unitName sourceValue
  let utcDatetime2 ← mssqlDatetime2FromUnixEpoch100nsTicks mapping rowIndex utcTicksFromUnixEpoch unitName sourceValue
  pure ⟨utcDatetime2, offsetMinutes⟩

variable [Externals]

def mssqlDatetimeoffsetFromArrowTimestampSecond (mapping : SchemaMapping) (rowIndex : ℕ) (value : SInt 64)
    (timezone : String) : Result MssqlDateTimeOffset := do
  let resolution ← timezoneResolutionFromMetadata mapping rowIndex timezone
  let offsetMinutes ← resolution.offsetForInstant mapping rowIndex value.val 0
  let utcTicks ← signedOp 128 (value.val * ticks100nsPerSecond)
  mssqlDatetimeoffsetFromUtc100nsTicks mapping rowIndex utcTicks offsetMinutes "second" value.val

def mssqlDatetimeoffsetFromArrowTimestampMillisecond (mapping : SchemaMapping) (rowIndex : ℕ) (value : SInt 64)
    (timezone : String) : Result MssqlDateTimeOffset := do
  let (seconds, nanoseconds) ← epochPartsFromMilliseconds mapping rowIndex value
  let resolution ← timezoneResolutionFromMetadata mapping rowIndex timezone
  let offsetMinutes ← resolution.offsetForInstant mapping rowIndex seconds nanoseconds
  let utcTicks ← signedOp 128 (value.val * ticks100nsPerMillisecond)
  mssqlDatetimeoffsetFromUtc100nsTicks mapping rowIndex utcTicks offsetMinutes "millisecond" value.val

def mssqlDatetimeoffsetFromArrowTimestampMicrosecond (mapping : SchemaMapping) (rowIndex : ℕ) (value : SInt 64)
    (timezone : String) : Result MssqlDateTimeOffset := do
  let (seconds, nanoseconds) ← epochPartsFromMicroseconds mapping rowIndex value
  let resolution ← timezoneResolutionFromMetadata mapping rowIndex timezone
  let offsetMinutes ← resolution.offsetForInstant mapping rowIndex seconds nanoseconds
  let utcTicks ← signedOp 128 (value.val * ticks100nsPerMicrosecond)
  mssqlDatetimeoffsetFromUtc100nsTicks mapping rowIndex utcTicks offsetMinutes "microsecond" value.val

def mssqlDatetimeoffsetFromArrowTimestampNanosecond (mapping : SchemaMapping) (rowIndex : ℕ) (value : SInt 64)
    (timezone : String) (policy : NanosecondPolicy) : Result MssqlDateTimeOffset := do
  let (seconds, nanoseconds) ← epochPartsFromNanoseconds mapping rowIndex value
  let resolution ← timezoneResolutionFromMetadata mapping rowIndex timezone
  let offsetMinutes ← resolution.offsetForInstant mapping rowIndex seconds nanoseconds
  let utcTicks ← nanosecondsTo100nsTicks mapping rowIndex value.val policy
  mssqlDatetimeoffsetFromUtc100nsTicks mapping rowIndex utcTicks offsetMinutes "nanosecond" value.val

def timestampDatetimeoffset (unit : TimeUnit) (mapping : SchemaMapping) (rowIndex : ℕ) (value : SInt 64)
    (timezone : String) (policy : NanosecondPolicy) : Result MssqlDateTimeOffset :=
  match unit with
  | .second => mssqlDatetimeoffsetFromArrowTimestampSecond mapping rowIndex value timezone
  | .millisecond => mssqlDatetimeoffsetFromArrowTimestampMillisecond mapping rowIndex value timezone
  | .microsecond => mssqlDatetimeoffsetFromArrowTimestampMicrosecond mapping rowIndex value timezone
  | .nanosecond => mssqlDatetimeoffsetFromArrowTimestampNanosecond mapping rowIndex value timezone policy

def validateTimestampTimezoneMetadata (mapping : SchemaMapping) (rowIndex : ℕ) (timezone : Option String) :
    Result Unit :=
  match timezone.filter fun timezone => !timezone.isEmpty with
  | none => .ok ()
  | some timezone => do
    let _ ← timezoneResolutionFromMetadata mapping rowIndex timezone

def validateMappingTimestampTimezoneMetadata (mapping : SchemaMapping) (rowIndex : ℕ) : Result Unit :=
  match mapping.arrow.dataType with
  | .timestamp _ timezone => validateTimestampTimezoneMetadata mapping rowIndex timezone
  | _ => .ok ()

def validateNullTimestampTimezoneMetadata (mapping : SchemaMapping) (rowIndex : ℕ) : Result Unit :=
  match mapping.arrow.dataType with
  | .timestamp _ timezone => do
    validateTimestampTimezoneMetadata mapping rowIndex timezone
  | _ => .ok ()

def mssqlDateValue (mapping : SchemaMapping) (rowIndex : ℕ) (cell : ArrowCell) : Result MssqlDate := do
  let classification ← TemporalArrowToMssql.classify mapping rowIndex
  match cell, classification with
  | .date32 value, .date32ToDate => mssqlDateFromArrowDate32 mapping rowIndex value
  | cell, classification => fail (rowError mapping rowIndex .valueTypeMismatch
      s!"expected Arrow Date32 payload, got {Externals.debug (cell, classification)}")

def mssqlTimeValue (context : RuntimeConversionContext) (mapping : SchemaMapping) (rowIndex : ℕ) (cell : ArrowCell) :
    Result MssqlTime := do
  let classification ← TemporalArrowToMssql.classify mapping rowIndex
  match cell, classification with
  | .time32Second value, .time32SecondToTime =>
    Time.mssqlTimeFromI64 mapping rowIndex value.val Time.secondsPerDay 0 "Time32 second"
  | .time32Millisecond value, .time32MillisecondToTime =>
    Time.mssqlTimeFromI64 mapping rowIndex value.val millisecondsPerDay 3 "Time32 millisecond"
  | .time64Microsecond value, .time64MicrosecondToTime =>
    Time.mssqlTimeFromI64 mapping rowIndex value.val Time.microsecondsPerDay 6 "Time64 microsecond"
  | .time64Nanosecond value, .time64NanosecondToTime =>
    Time.mssqlTimeFromNanoseconds mapping rowIndex value.val context.nanosecondPolicy
  | cell, classification => fail (rowError mapping rowIndex .valueTypeMismatch
      s!"expected Arrow time-only payload planned as time, got {Externals.debug (cell, classification)}")

def nullTimeCell (mapping : SchemaMapping) (rowIndex : ℕ) : Result MssqlCell := do
  let classification ← TemporalArrowToMssql.classify mapping rowIndex
  match classification with
  | .time32SecondToTime | .time32MillisecondToTime | .time64MicrosecondToTime | .time64NanosecondToTime =>
    .ok (.time none)
  | classification => fail (unsupportedValueConversion mapping rowIndex
      s!"planned temporal mapping {Externals.debug classification} is not a time conversion")

def datetimeMappingKind (mapping : SchemaMapping) (rowIndex : ℕ) : Result Unit :=
  match mapping.arrow.dataType, mapping.mssql.ty with
  | .timestamp _ _, .dateTime => .ok ()
  | _, _ => fail (conversionNotSupported "temporal" mapping rowIndex)

def mssqlDatetimeValue (context : RuntimeConversionContext) (mapping : SchemaMapping) (rowIndex : ℕ)
    (cell : ArrowCell) : Result MssqlDateTime := do
  datetimeMappingKind mapping rowIndex
  match cell with
  | .timestamp unit value => do
    validateMappingTimestampTimezoneMetadata mapping rowIndex
    timestampDatetime unit mapping rowIndex value context.nanosecondPolicy context.datetimeRounding
  | cell => fail (rowError mapping rowIndex .valueTypeMismatch
      s!"expected Arrow timestamp payload planned as datetime, got {Externals.debug cell}")

def nullDatetimeCell (mapping : SchemaMapping) (rowIndex : ℕ) : Result MssqlCell := do
  datetimeMappingKind mapping rowIndex
  validateNullTimestampTimezoneMetadata mapping rowIndex
  pure (.dateTime none)

inductive DateTime2MappingKind where
  | date64
  | timestamp
  deriving DecidableEq, Repr

def datetime2MappingKind (mapping : SchemaMapping) (rowIndex : ℕ) : Result DateTime2MappingKind :=
  match mapping.arrow.dataType, mapping.mssql.ty with
  | .date64, .dateTime2 3 => .ok .date64
  | .timestamp _ _, .dateTime2 precision =>
    if precision ≤ sqlServerDatetime2TimestampScale then .ok .timestamp
    else fail (conversionNotSupported "temporal" mapping rowIndex)
  | _, _ => fail (conversionNotSupported "temporal" mapping rowIndex)

def mssqlDatetime2Value (context : RuntimeConversionContext) (mapping : SchemaMapping) (rowIndex : ℕ)
    (cell : ArrowCell) : Result MssqlDateTime2 := do
  let mappingKind ← datetime2MappingKind mapping rowIndex
  match cell, mappingKind with
  | .date64 value, .date64 => mssqlDatetime2FromArrowDate64 mapping rowIndex value
  | .timestamp unit value, .timestamp => do
    validateMappingTimestampTimezoneMetadata mapping rowIndex
    timestampDatetime2 unit mapping rowIndex value context.nanosecondPolicy
  | cell, mappingKind => fail (rowError mapping rowIndex .valueTypeMismatch
      s!"expected Arrow Date64 or timestamp payload planned as datetime2, got {Externals.debug (cell, mappingKind)}")

def nullDatetime2Cell (mapping : SchemaMapping) (rowIndex : ℕ) : Result MssqlCell := do
  let _ ← datetime2MappingKind mapping rowIndex
  validateNullTimestampTimezoneMetadata mapping rowIndex
  pure (.dateTime2 none)

def timestampTimezone (mapping : SchemaMapping) : Option String :=
  match mapping.arrow.dataType with
  | .timestamp _ timezone => timezone
  | _ => none

def notDatetimeoffset (mapping : SchemaMapping) (rowIndex : ℕ) (cell : ArrowCell)
    (classification : TemporalArrowToMssql) : Error :=
  rowError mapping rowIndex .valueTypeMismatch
    s!"expected timezone-aware Arrow timestamp payload planned as datetimeoffset, got {
      Externals.debug (cell, classification, timestampTimezone mapping)}"

def mssqlDatetimeoffsetValue (context : RuntimeConversionContext) (mapping : SchemaMapping) (rowIndex : ℕ)
    (cell : ArrowCell) : Result MssqlDateTimeOffset := do
  let classification ← TemporalArrowToMssql.classify mapping rowIndex
  match cell, classification, timestampTimezone mapping with
  | .timestamp unit value, .timestampTzToDateTimeOffset planned, some timezone =>
    if unit = planned then timestampDatetimeoffset unit mapping rowIndex value timezone context.nanosecondPolicy
    else fail (notDatetimeoffset mapping rowIndex cell classification)
  | _, _, _ => fail (notDatetimeoffset mapping rowIndex cell classification)

def nullDatetimeoffsetCell (mapping : SchemaMapping) (rowIndex : ℕ) : Result MssqlCell := do
  let classification ← TemporalArrowToMssql.classify mapping rowIndex
  match classification with
  | .timestampTzToDateTimeOffset _ => do
    validateNullTimestampTimezoneMetadata mapping rowIndex
    pure (.dateTimeOffset none)
  | classification => fail (unsupportedValueConversion mapping rowIndex
      s!"planned temporal mapping {Externals.debug classification} is not a datetimeoffset conversion")

end ArrowTiberius
