import ArrowTiberius.Arrow.Value

namespace ArrowTiberius

open Checked

structure MssqlDecimal where
  unscaled : ℤ
  scale : ℕ
  deriving DecidableEq, Repr

structure MssqlDate where
  days : ℕ
  deriving DecidableEq, Repr

structure MssqlDateTime where
  days : ℤ
  secondsFragments : ℕ
  deriving DecidableEq, Repr

structure MssqlTime where
  increments : ℕ
  scale : ℕ
  deriving DecidableEq, Repr

structure MssqlDateTime2 where
  date : MssqlDate
  time : MssqlTime
  deriving DecidableEq, Repr

structure MssqlDateTimeOffset where
  datetime2 : MssqlDateTime2
  offsetMinutes : ℤ
  deriving DecidableEq, Repr

inductive MssqlCell where
  | bit (value : Option Bool)
  | tinyInt (value : Option UInt8)
  | smallInt (value : Option (SInt 16))
  | int (value : Option (SInt 32))
  | bigInt (value : Option (SInt 64))
  | decimal (value : Option MssqlDecimal)
  | date (value : Option MssqlDate)
  | time (value : Option MssqlTime)
  | dateTime (value : Option MssqlDateTime)
  | dateTime2 (value : Option MssqlDateTime2)
  | dateTimeOffset (value : Option MssqlDateTimeOffset)
  | real (value : Option F32)
  | float (value : Option F64)
  | nVarChar (value : Option String)
  | varBinary (value : Option (List UInt8))
  deriving DecidableEq

end ArrowTiberius
