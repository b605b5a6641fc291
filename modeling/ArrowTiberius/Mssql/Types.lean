import Mathlib.Data.Int.Notation
import Mathlib.Tactic.Common

namespace ArrowTiberius

inductive MssqlTypeLength where
  | bounded (length : ℕ)
  | max
  deriving DecidableEq, Repr

def MssqlTypeLength.render : MssqlTypeLength → String
  | .bounded length => toString length
  | .max => "max"

structure MssqlTimePrecision where
  get : ℕ
  le_seven : get ≤ 7
  deriving DecidableEq, Repr

namespace MssqlTimePrecision

def new? (precision : ℕ) : Option MssqlTimePrecision := if h : precision ≤ 7 then some ⟨precision, h⟩ else none

def zero : MssqlTimePrecision := ⟨0, by decide⟩

def three : MssqlTimePrecision := ⟨3, by decide⟩

def six : MssqlTimePrecision := ⟨6, by decide⟩

def seven : MssqlTimePrecision := ⟨7, by decide⟩

end MssqlTimePrecision

inductive MssqlType where
  | bit
  | tinyInt
  | smallInt
  | int
  | bigInt
  | real
  | float (precision : ℕ)
  | nVarChar (length : MssqlTypeLength)
  | varBinary (length : MssqlTypeLength)
  | binary (length : ℕ)
  | decimal (precision : ℕ) (scale : ℤ)
  | date
  | time (precision : MssqlTimePrecision)
  | dateTime
  | dateTime2 (precision : ℕ)
  | dateTimeOffset (precision : ℕ)
  deriving DecidableEq, Repr

def MssqlType.toSql : MssqlType → String
  | .bit => "bit"
  | .tinyInt => "tinyint"
  | .smallInt => "smallint"
  | .int => "int"
  | .bigInt => "bigint"
  | .real => "real"
  | .float precision => s!"float({precision})"
  | .nVarChar length => s!"nvarchar({length.render})"
  | .varBinary length => s!"varbinary({length.render})"
  | .binary length => s!"binary({length})"
  | .decimal precision scale => s!"decimal({precision},{scale})"
  | .date => "date"
  | .time precision => s!"time({precision.get})"
  | .dateTime => "datetime"
  | .dateTime2 precision => s!"datetime2({precision})"
  | .dateTimeOffset precision => s!"datetimeoffset({precision})"

end ArrowTiberius
