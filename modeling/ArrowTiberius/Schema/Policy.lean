import ArrowTiberius.Diagnostic

namespace ArrowTiberius

open Checked

inductive StringPolicy where
  | nVarCharMax
  | nVarChar (length : ℕ)
  | observedNVarChar
  deriving DecidableEq, Repr

inductive BinaryPolicy where
  | varBinaryMax
  | varBinary (length : ℕ)
  | observedVarBinary
  deriving DecidableEq, Repr

inductive TimestampPolicy where
  | dateTime2 (precision : ℕ)
  | dateTime
  deriving DecidableEq, Repr

inductive TimezonePolicy where
  | reject
  | dateTimeOffset
  | normalizeUtcDateTime2
  deriving DecidableEq, Repr

inductive NanosecondPolicy where
  | rejectNon100ns
  | roundTo100ns
  | truncateTo100ns
  deriving DecidableEq, Repr

inductive UInt64Policy where
  | reject
  | decimal20_0
  | checkedBigInt
  deriving DecidableEq, Repr

inductive DecimalPolicy where
  | rejectNegativeScale
  | normalizeNegativeScale
  deriving DecidableEq, Repr

inductive Decimal256Policy where
  | checkedDowncast
  | reject
  deriving DecidableEq, Repr

inductive FloatPolicy where
  | rejectNonFinite
  deriving DecidableEq, Repr

inductive Date64Policy where
  | rejectNonMidnight
  | timestampDateTime2
  deriving DecidableEq, Repr

structure PlanOptions where
  stringPolicy : StringPolicy := .nVarCharMax
  binaryPolicy : BinaryPolicy := .varBinaryMax
  timezonePolicy : TimezonePolicy := .reject
  timestampPolicy : TimestampPolicy := .dateTime2 7
  nanosecondPolicy : NanosecondPolicy := .rejectNon100ns
  uint64Policy : UInt64Policy := .reject
  decimalPolicy : DecimalPolicy := .rejectNegativeScale
  decimal256Policy : Decimal256Policy := .checkedDowncast
  floatPolicy : FloatPolicy := .rejectNonFinite
  date64Policy : Date64Policy := .rejectNonMidnight
  deriving DecidableEq, Repr

def isSupportedLevel (level : ℕ) : Bool := level ∈ [100, 110, 120, 130, 140, 150, 160, 170]

structure CompatibilityLevel where
  asU16 : ℕ
  supported : isSupportedLevel asU16 = true
  deriving DecidableEq, Repr

def CompatibilityLevel.new (level : ℕ) : Result CompatibilityLevel :=
  if h : isSupportedLevel level = true then .ok ⟨level, h⟩ else fail (.invalidCompatibilityLevel level)

def MssqlVersion.supportsCompatibilityLevel (version : MssqlVersion) (level : CompatibilityLevel) : Bool :=
  match version with
  | .sqlServer2016 => level.asU16 ≤ 130
  | .sqlServer2017 => level.asU16 ≤ 140
  | .sqlServer2019 => level.asU16 ≤ 150
  | .sqlServer2022 => level.asU16 ≤ 160
  | .sqlServer2025 => level.asU16 ≤ 170

structure MssqlProfile where
  version : MssqlVersion
  compatibilityLevel : CompatibilityLevel
  supported : version.supportsCompatibilityLevel compatibilityLevel = true
  deriving DecidableEq, Repr

def MssqlProfile.new (version : MssqlVersion) (level : CompatibilityLevel) : Result MssqlProfile :=
  if h : version.supportsCompatibilityLevel level = true then .ok ⟨version, level, h⟩
  else fail (.unsupportedCompatibilityLevel version level.asU16)

inductive DateTimeRounding where
  | legacyPre130
  | compat130Plus
  deriving DecidableEq, Repr

def MssqlProfile.datetimeRounding (profile : MssqlProfile) : DateTimeRounding :=
  if profile.compatibilityLevel.asU16 < 130 then .legacyPre130 else .compat130Plus

structure RuntimeConversionContext where
  profile : MssqlProfile
  planOptions : PlanOptions
  deriving DecidableEq, Repr

namespace RuntimeConversionContext

def nanosecondPolicy (context : RuntimeConversionContext) : NanosecondPolicy := context.planOptions.nanosecondPolicy

def datetimeRounding (context : RuntimeConversionContext) : DateTimeRounding := context.profile.datetimeRounding

end RuntimeConversionContext

end ArrowTiberius
