import ArrowTiberius.Mssql.FromArrow.Scalar
import ArrowTiberius.Mssql.FromArrow.Temporal

namespace ArrowTiberius

open Checked

variable [Externals]

def nullMssqlCell (mapping : SchemaMapping) (rowIndex : ℕ) : Result MssqlCell :=
  match mapping.mssql.ty with
  | .bit => .ok (.bit none)
  | .tinyInt => .ok (.tinyInt none)
  | .smallInt => .ok (.smallInt none)
  | .int => .ok (.int none)
  | .bigInt => .ok (.bigInt none)
  | .decimal precision scale =>
    if supportsNullDecimalCell mapping then .ok (.decimal none)
    else fail (unsupportedValueConversion mapping rowIndex
      s!"planned SQL Server type {(MssqlType.decimal precision scale).toSql} is not supported yet")
  | .date => .ok (.date none)
  | .time _ => nullTimeCell mapping rowIndex
  | .dateTime => nullDatetimeCell mapping rowIndex
  | .dateTime2 _ => nullDatetime2Cell mapping rowIndex
  | .dateTimeOffset _ => nullDatetimeoffsetCell mapping rowIndex
  | .real => .ok (.real none)
  | .float _ => .ok (.float none)
  | .nVarChar _ => .ok (.nVarChar none)
  | .varBinary _ => .ok (.varBinary none)
  | .binary _ => .ok (.varBinary none)

def mssqlCellFromArrowCell (context : RuntimeConversionContext) (mapping : SchemaMapping) (cell : ArrowCell)
    (rowIndex : ℕ) : Result MssqlCell :=
  match cell with
  | .null => do
    ensure mapping.mssql.nullable (rowError mapping rowIndex .nullInNonNullableColumn
      "null value in non-nullable planned column")
    nullMssqlCell mapping rowIndex
  | cell =>
    match mapping.mssql.ty with
    | .bit | .tinyInt | .smallInt | .int | .bigInt | .real | .float _ => primitiveMssqlCell mapping rowIndex cell
    | .decimal _ _ => do
      let value ← mssqlDecimalValue mapping rowIndex cell
      pure (.decimal (some value))
    | .date => do
      let value ← mssqlDateValue mapping rowIndex cell
      pure (.date (some value))
    | .time _ => do
      let value ← mssqlTimeValue context mapping rowIndex cell
      pure (.time (some value))
    | .dateTime => do
      let value ← mssqlDatetimeValue context mapping rowIndex cell
      pure (.dateTime (some value))
    | .dateTime2 _ => do
      let value ← mssqlDatetime2Value context mapping rowIndex cell
      pure (.dateTime2 (some value))
    | .dateTimeOffset _ => do
      let value ← mssqlDatetimeoffsetValue context mapping rowIndex cell
      pure (.dateTimeOffset (some value))
    | .nVarChar length => nvarCharCell mapping rowIndex length cell
    | .varBinary length => varBinaryCell mapping rowIndex length cell
    | .binary length => binaryCell mapping rowIndex length cell

end ArrowTiberius
