import ArrowTiberius.Lib.MachineInt
import ArrowTiberius.Schema.Mapping

namespace ArrowTiberius

open Checked

def valueErrorCodes : List DiagnosticCode :=
  [.nullInNonNullableColumn, .integerOutOfRange, .nonFiniteFloat, .valueTooLong, .timestampOutOfRange,
    .lossyConversionRequiresPolicy, .timezoneUnsupported]

/-- The errors about the value of a cell. The code of a decimal that is too large is also that of a scale no
value can have, so the text tells them apart. -/
inductive IsValueError (mapping : SchemaMapping) (rowIndex : ℕ) : Error → Prop where
  | code {code : DiagnosticCode} {message : String} (h : code ∈ valueErrorCodes) :
      IsValueError mapping rowIndex (rowError mapping rowIndex code message)
  | decimalPrecision {unscaled : ℤ} {precision : ℕ} (h : 10 ^ precision ≤ unscaled.natAbs) :
      IsValueError mapping rowIndex (rowError mapping rowIndex .decimalOutOfRange
        s!"decimal value {unscaled} does not fit planned precision {precision}")
  | decimalNormalization {unscaled arrowScale : ℤ} (h : ¬fitsSigned 128 (unscaled * 10 ^ arrowScale.natAbs)) :
      IsValueError mapping rowIndex (rowError mapping rowIndex .decimalOutOfRange
        s!"decimal value {unscaled} overflows while normalizing scale {arrowScale}")
  | decimalDowncast {unscaled : ℤ} (h : ¬fitsSigned 128 unscaled) :
      IsValueError mapping rowIndex (rowError mapping rowIndex .decimalOutOfRange
        "Arrow Decimal256 value does not fit runtime i128 decimal representation")

variable {mapping : SchemaMapping} {rowIndex : ℕ}

theorem isValueError_timestamp (message : String) :
    IsValueError mapping rowIndex (rowError mapping rowIndex .timestampOutOfRange message) := .code (by decide)

theorem isValueError_timezone (message : String) :
    IsValueError mapping rowIndex (rowError mapping rowIndex .timezoneUnsupported message) := .code (by decide)

theorem isValueError_lossy (message : String) :
    IsValueError mapping rowIndex (rowError mapping rowIndex .lossyConversionRequiresPolicy message) :=
  .code (by decide)

end ArrowTiberius
