import ArrowTiberius.Direct.Types.Temporal
import ArrowTiberius.Mssql.FromArrow.RowIndependence
import ArrowTiberius.Schema.Soundness

namespace ArrowTiberius

open Checked Rounding

section Date64

variable {mapping tsMapping : SchemaMapping} {r s : ℕ}

theorem datetime2FromDate64_eq_ok {value : SInt 64} {result : MssqlDateTime2} :
    mssqlDatetime2FromArrowDate64 mapping r value = .ok result ↔
      (0 ≤ value.val / 86400000 + 719162 ∧ value.val / 86400000 + 719162 ≤ 3652058) ∧
        result = ⟨⟨(value.val / 86400000 + 719162).toNat⟩, ⟨(value.val % 86400000).toNat, 3⟩⟩ := by
  have hday : millisecondsPerDay = 86400000 := rfl
  have hepoch : sqlServerDateUnixEpochDays = 719162 := rfl
  have hmax : sqlServerDateMaxDays = 3652058 := rfl
  have hfits := fitsSigned_64.mp value.fits
  have hdays : fitsSigned 64 (value.val / 86400000 + 719162) := fitsSigned_64.mpr (by omega)
  simp only [mssqlDatetime2FromArrowDate64, hday, hepoch, hmax, signedOp_of_fits hdays, ok_bind, bind_unit_eq_ok,
    ensure_eq_ok, pure_eq_ok, Except.ok.injEq]
  exact and_congr_right fun _ => eq_comm

theorem splitInstant_millisecond (value : ℤ) : splitInstant 3 (nearest (incrementTicks 3) (value * 10000)) =
    ⟨⟨(value / 86400000 + 719162).toNat⟩, ⟨(value % 86400000).toNat, 3⟩⟩ := by
  have hincrement : incrementTicks 3 = 10000 := rfl
  have hnearest : nearest (incrementTicks 3) (value * 10000) = value * 10000 := by
    rw [hincrement, nearest_eq, Nat.cast_ofNat, nearestCount_mul (by decide)]
  have hday : value * 10000 / 864000000000 = value / 86400000 := by omega
  have hticks : (value * 10000 % 864000000000).toNat / 10000 = (value % 86400000).toNat := by omega
  rw [hnearest, splitInstant, hincrement, hday, hticks]

theorem datetime2FromDate64_toOption (hty : tsMapping.mssql.ty = .dateTime2 3) (value : SInt 64) :
    (mssqlDatetime2FromArrowDate64 mapping r value).toOption =
      (mssqlDatetime2FromArrowTimestampMillisecond tsMapping s value).toOption := by
  apply toOption_congr
  intro result
  obtain ⟨hfits, hlo, hhi⟩ := fits_ticks value (show (0 : ℤ) ≤ 10000 by decide) (by decide)
  have hmillisecond : ticks100nsPerMillisecond = 10000 := rfl
  rw [datetime2FromDate64_eq_ok, mssqlDatetime2FromArrowTimestampMillisecond, hmillisecond, signedOp_of_fits hfits,
    ok_bind, timestampTicks_eq _ hty (by decide), datetime2AtScale_eq_ok (by decide) (by omega) (by omega),
    splitInstant_millisecond]
  have hnearest : nearest (incrementTicks 3) (value.val * 10000) = value.val * 10000 := by
    have hincrement : incrementTicks 3 = 10000 := rfl
    rw [hincrement, nearest_eq, Nat.cast_ofNat, nearestCount_mul (by decide)]
  rw [hnearest, ← and_assoc]
  apply and_congr_left
  intro _
  unfold firstInstant endInstant
  omega

end Date64

variable [Externals]

inductive TimestampTarget : MssqlType → Prop where
  | dateTime : TimestampTarget .dateTime
  | dateTime2 (precision : ℕ) : TimestampTarget (.dateTime2 precision)
  | dateTimeOffset : TimestampTarget (.dateTimeOffset 7)

theorem timestampCell_toOption {context : RuntimeConversionContext} {mapping mapping' : SchemaMapping} {r s : ℕ}
    {unit unit' : TimeUnit} {value value' : SInt 64} {timezone : Option String}
    (hsource : mapping.arrow.dataType = .timestamp unit timezone)
    (hsource' : mapping'.arrow.dataType = .timestamp unit' timezone) (hty : mapping.mssql.ty = mapping'.mssql.ty)
    (htarget : TimestampTarget mapping'.mssql.ty)
    (hinstant : sourceInstant unit value.val = sourceInstant unit' value'.val) :
    (mssqlCellFromArrowCell context mapping (.timestamp unit value) r).toOption =
      (mssqlCellFromArrowCell context mapping' (.timestamp unit' value') s).toOption := by
  have hzone : (validateMappingTimestampTimezoneMetadata mapping r).toOption =
    (validateMappingTimestampTimezoneMetadata mapping' s).toOption := by
    unfold validateMappingTimestampTimezoneMetadata
    rw [hsource, hsource']
    exact validateTimestampTimezoneMetadata_toOption timezone
  generalize hty' : mapping'.mssql.ty = ty at htarget hty
  cases htarget with
  | dateTime =>
    have hvalue : (timestampDatetime unit mapping r value context.nanosecondPolicy context.datetimeRounding).toOption =
      (timestampDatetime unit' mapping' s value' context.nanosecondPolicy context.datetimeRounding).toOption :=
        timestampDatetime_toOption hinstant
    simp only [mssqlCellFromArrowCell, hty, hty', mssqlDatetimeValue, datetimeMappingKind, hsource, hsource',
      toOption_bind, toOption_ok, hzone, hvalue]
  | dateTime2 precision =>
    have hvalue : (timestampDatetime2 unit mapping r value context.nanosecondPolicy).toOption =
      (timestampDatetime2 unit' mapping' s value' context.nanosecondPolicy).toOption :=
        timestampDatetime2_toOption (hty.trans hty'.symm) hinstant
    simp only [mssqlCellFromArrowCell, hty, hty', mssqlDatetime2Value, datetime2MappingKind, hsource, hsource',
      toOption_bind, toOption_ite, toOption_ok, toOption_fail]
    by_cases hprecision : precision ≤ sqlServerDatetime2TimestampScale
    · simp only [if_pos hprecision, Option.bind_some, toOption_bind, hzone, hvalue]
    · simp only [if_neg hprecision, Option.bind_none]
  | dateTimeOffset =>
    have hvalue (timezone : String) :
        (timestampDatetimeoffset unit mapping r value timezone context.nanosecondPolicy).toOption =
      (timestampDatetimeoffset unit' mapping' s value' timezone context.nanosecondPolicy).toOption :=
        timestampDatetimeoffset_toOption hinstant
    simp only [mssqlCellFromArrowCell, hty, hty', mssqlDatetimeoffsetValue, TemporalArrowToMssql.classify, hsource,
      hsource', timestampTimezone, toOption_bind, toOption_ite, toOption_ok, toOption_fail]
    by_cases hfree : isTimezoneFree timezone = true
    · simp only [hfree, not_true, if_false, Option.bind_none]
    · simp only [hfree, Bool.false_eq_true, not_false_eq_true, if_true, Option.bind_some]
      cases timezone with
      | none => rfl
      | some timezone => simp only [if_true, hvalue]

/-- Equal instants become equal cells whatever unit counts them, and a `Date64` becomes what a timestamp in
milliseconds does. -/
theorem temporal_unit_independence :
    (∀ (context : RuntimeConversionContext) (mapping mapping' : SchemaMapping) (r s : ℕ) (unit unit' : TimeUnit)
      (value value' : SInt 64) (timezone : Option String),
      mapping.arrow.dataType = .timestamp unit timezone → mapping'.arrow.dataType = .timestamp unit' timezone →
      mapping.mssql.ty = mapping'.mssql.ty → TimestampTarget mapping'.mssql.ty →
      sourceInstant unit value.val = sourceInstant unit' value'.val →
      (mssqlCellFromArrowCell context mapping (.timestamp unit value) r).toOption =
        (mssqlCellFromArrowCell context mapping' (.timestamp unit' value') s).toOption) ∧
    (∀ (mapping tsMapping : SchemaMapping) (column : Direct.DirectColumnPlan) (r s : ℕ) (value : SInt 64),
      tsMapping.mssql.ty = .dateTime2 3 →
      (mssqlDatetime2FromArrowDate64 mapping r value).toOption =
        (mssqlDatetime2FromArrowTimestampMillisecond tsMapping s value).toOption ∧
      (Direct.Temporal.mssqlDatetime2FromArrowDate64 column r value).toOption =
        (mssqlDatetime2FromArrowTimestampMillisecond tsMapping s value).toOption) := by
  constructor
  · intro context mapping mapping' r s unit unit' value value' timezone hsource hsource' hty htarget hinstant
    exact timestampCell_toOption hsource hsource' hty htarget hinstant
  · intro mapping tsMapping column r s value hty
    have hbaseline : (mssqlDatetime2FromArrowDate64 mapping r value).toOption =
      (mssqlDatetime2FromArrowTimestampMillisecond tsMapping s value).toOption := datetime2FromDate64_toOption hty value
    exact ⟨hbaseline, (Direct.Temporal.mssqlDatetime2FromArrowDate64_toOption value).trans hbaseline⟩

def datetime2Mapping (dataType : DataType) : SchemaMapping where
  arrow := ⟨0, "instant", false, dataType⟩
  mssql := ⟨⟨"instant", rfl⟩, .dateTime2 3, false⟩

omit [Externals] in
theorem temporal_unit_independence_at_one_second :
    (@mssqlCellFromArrowCell .silent ⟨sampleProfile, {}⟩ (datetime2Mapping (.timestamp .second none))
      (.timestamp .second ⟨1, by decide⟩) 0).toOption =
      (@mssqlCellFromArrowCell .silent ⟨sampleProfile, {}⟩ (datetime2Mapping (.timestamp .millisecond none))
        (.timestamp .millisecond ⟨1000, by decide⟩) 0).toOption ∧
    (mssqlDatetime2FromArrowDate64 (datetime2Mapping .date64) 0 ⟨1000, by decide⟩).toOption =
      (mssqlDatetime2FromArrowTimestampMillisecond (datetime2Mapping (.timestamp .millisecond none)) 0
        ⟨1000, by decide⟩).toOption :=
  ⟨(@temporal_unit_independence .silent).1 ⟨sampleProfile, {}⟩ _ _ 0 0 .second .millisecond _ _ none rfl rfl rfl (.dateTime2 3) rfl,
    ((@temporal_unit_independence .silent).2 _ (datetime2Mapping (.timestamp .millisecond none))
      ⟨0, "at", .dateTime2 3, false, .temporal .date64ToDateTime2⟩ 0 0 _ rfl).1⟩

end ArrowTiberius
