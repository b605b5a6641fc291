import ArrowTiberius.Mssql.FromArrow
import ArrowTiberius.Mssql.FromArrow.ZonedTimestamp

namespace ArrowTiberius

open Checked

variable {mapping mapping' : SchemaMapping} {r s : ℕ} {policy : NanosecondPolicy}

theorem sourceTicks_toOption {unit unit' : TimeUnit} {value value' : SInt 64}
    (h : sourceInstant unit value.val = sourceInstant unit' value'.val) :
    (sourceTicks unit mapping r value policy).toOption = (sourceTicks unit' mapping' s value' policy).toOption := by
  apply toOption_congr
  intro ticks
  rw [sourceTicks_eq_ok, sourceTicks_eq_ok, normalisesTo_iff_sourceInstant, h, ← normalisesTo_iff_sourceInstant]

theorem datetimeFromTicks_toOption {ticks sourceValue sourceValue' : ℤ} {unitName unitName' : String}
    {rounding : DateTimeRounding} :
    (mssqlDatetimeFromUnixEpoch100nsTicks mapping r ticks unitName sourceValue rounding).toOption =
      (mssqlDatetimeFromUnixEpoch100nsTicks mapping' s ticks unitName' sourceValue' rounding).toOption := by
  have hround : (round100nsTicksToDatetimeFragments mapping r ticks rounding).toOption =
      (round100nsTicksToDatetimeFragments mapping' s ticks rounding).toOption := by
    cases rounding <;>
      simp only [round100nsTicksToDatetimeFragments, round100nsTicksToNearestMillisecond,
        round100nsTicksToNearestDatetimeFragment, toOption_bind, toOption_ite, toOption_okOr, toOption_ok]
  simp only [mssqlDatetimeFromUnixEpoch100nsTicks, toOption_bind, toOption_ensure, toOption_okOr, hround, pure_eq_ok,
    toOption_ok]

theorem datetime2AtScale_toOption {ticks sourceValue sourceValue' : ℤ} {unitName unitName' : String} {scale : ℕ} :
    (mssqlDatetime2FromUnixEpoch100nsTicksAtScale mapping r ticks unitName sourceValue scale).toOption =
      (mssqlDatetime2FromUnixEpoch100nsTicksAtScale mapping' s ticks unitName' sourceValue' scale).toOption := by
  simp only [mssqlDatetime2FromUnixEpoch100nsTicksAtScale, round100nsTicksToDatetime2Scale, toOption_bind, toOption_ite,
    toOption_ensure, toOption_okOr, pure_eq_ok, toOption_ok]

theorem targetScale_toOption (hty : mapping.mssql.ty = mapping'.mssql.ty) :
    (targetDatetime2TimestampScale mapping r).toOption = (targetDatetime2TimestampScale mapping' s).toOption := by
  unfold targetDatetime2TimestampScale
  rw [hty]
  cases mapping'.mssql.ty with
  | dateTime2 precision => simp only [toOption_ite, toOption_ok, toOption_fail]
  | _ => rfl

section Instants

variable {unit unit' : TimeUnit} {value value' : SInt 64}

theorem timestampDatetime_toOption {rounding : DateTimeRounding}
    (h : sourceInstant unit value.val = sourceInstant unit' value'.val) :
    (timestampDatetime unit mapping r value policy rounding).toOption =
      (timestampDatetime unit' mapping' s value' policy rounding).toOption := by
  rw [timestampDatetime_eq_bind, timestampDatetime_eq_bind, toOption_bind, toOption_bind, sourceTicks_toOption h]
  congr 1
  funext ticks
  exact datetimeFromTicks_toOption

theorem timestampDatetime2_toOption (hty : mapping.mssql.ty = mapping'.mssql.ty)
    (h : sourceInstant unit value.val = sourceInstant unit' value'.val) :
    (timestampDatetime2 unit mapping r value policy).toOption =
      (timestampDatetime2 unit' mapping' s value' policy).toOption := by
  rw [timestampDatetime2_eq_bind, timestampDatetime2_eq_bind, toOption_bind, toOption_bind, sourceTicks_toOption h]
  congr 1
  funext ticks
  simp only [mssqlDatetime2FromArrowTimestampTicks, toOption_bind]
  rw [targetScale_toOption hty]
  congr 1
  funext scale
  exact datetime2AtScale_toOption

variable [Externals]

theorem timezoneResolutionFromMetadata_toOption (timezone : String) :
    (timezoneResolutionFromMetadata mapping r timezone).toOption =
      (timezoneResolutionFromMetadata mapping' s timezone).toOption := by
  have hfixed (bytes : List UInt8) (e e' : Error) :
      (fixedOffsetMinutes bytes e).toOption = (fixedOffsetMinutes bytes e').toOption := by
    apply toOption_congr
    intro minutes
    rw [fixedOffsetMinutes_eq_ok, fixedOffsetMinutes_eq_ok]
  simp only [timezoneResolutionFromMetadata, toOption_ite, toOption_ok]
  congr 1
  unfold parseSqlServerFixedTimezoneOffset
  by_cases hsign : (Ascii.bytes timezone).head? = some 43 ∨ (Ascii.bytes timezone).head? = some 45
  · rw [if_pos hsign, if_pos hsign, toOption_map, toOption_map, hfixed]
  · simp only [if_neg hsign, toOption_bind, toOption_okOr, pure_eq_ok, toOption_ok]

theorem validateTimestampTimezoneMetadata_toOption (timezone : Option String) :
    (validateTimestampTimezoneMetadata mapping r timezone).toOption =
      (validateTimestampTimezoneMetadata mapping' s timezone).toOption := by
  unfold validateTimestampTimezoneMetadata
  cases timezone.filter fun timezone => !timezone.isEmpty with
  | none => rfl
  | some timezone =>
    have hzone : (timezoneResolutionFromMetadata mapping r timezone).toOption =
      (timezoneResolutionFromMetadata mapping' s timezone).toOption := timezoneResolutionFromMetadata_toOption timezone
    simp only [toOption_bind, hzone, pure_eq_ok, toOption_ok]

theorem timestampDatetimeoffset_toOption {timezone : String}
    (h : sourceInstant unit value.val = sourceInstant unit' value'.val) :
    (timestampDatetimeoffset unit mapping r value timezone policy).toOption =
      (timestampDatetimeoffset unit' mapping' s value' timezone policy).toOption := by
  rw [timestampDatetimeoffset_eq_bind, timestampDatetimeoffset_eq_bind, h]
  simp only [toOption_bind]
  have hzone : (timezoneResolutionFromMetadata mapping r timezone).toOption =
      (timezoneResolutionFromMetadata mapping' s timezone).toOption := timezoneResolutionFromMetadata_toOption timezone
  rw [hzone, sourceTicks_toOption h]
  congr 1
  funext resolution
  have hoffset (seconds : ℤ) (nanoseconds : ℕ) : (resolution.offsetForInstant mapping r seconds nanoseconds).toOption =
      (resolution.offsetForInstant mapping' s seconds nanoseconds).toOption := by
    cases resolution with
    | fixedOffset => rfl
    | named => simp only [TimezoneResolution.offsetForInstant, sqlServerOffsetMinutes, toOption_bind, toOption_okOr,
        toOption_ensure, pure_eq_ok, toOption_ok]
  rw [hoffset]
  congr 1
  funext minutes
  congr 1
  funext ticks
  have hscale (ticks : ℤ) : (mssqlDatetime2FromUnixEpoch100nsTicks mapping r ticks (unitName unit) value.val).toOption =
      (mssqlDatetime2FromUnixEpoch100nsTicks mapping' s ticks (unitName unit') value'.val).toOption :=
    datetime2AtScale_toOption
  simp only [mssqlDatetimeoffsetFromUtc100nsTicks, validateDatetimeoffsetLocalRange, toOption_bind, toOption_okOr,
    pure_eq_ok, toOption_ok, hscale]

end Instants

end ArrowTiberius
