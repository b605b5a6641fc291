import ArrowTiberius.Lib.Outcome

namespace ArrowTiberius

inductive DiagnosticSeverity where
  | warning
  | error
  deriving DecidableEq, Repr

inductive DiagnosticCode where
  | unsupportedArrowType
  | lossyConversionRequiresPolicy
  | policyApplied
  | identifierInvalid
  | identifierTooLong
  | decimalOutOfRange
  | integerOutOfRange
  | timestampOutOfRange
  | timezoneUnsupported
  | schemaMismatch
  | backendUnavailable
  | profileDependentConversion
  | observedDataRequired
  | valueConversionUnsupported
  | valueTypeMismatch
  | nullInNonNullableColumn
  | nonFiniteFloat
  | valueTooLong
  | rowIndexOutOfBounds
  | directEncodingInvalidPayload
  | directEncodingUnsupportedMapping
  | directEncodingUnsupportedBatch
  deriving DecidableEq, Repr

structure FieldRef where
  index : ℕ
  name : String
  deriving DecidableEq, Repr

structure Diagnostic where
  severity : DiagnosticSeverity
  code : DiagnosticCode
  message : String
  field : Option FieldRef
  row : Option ℕ
  deriving DecidableEq, Repr

namespace Diagnostic

def error (code : DiagnosticCode) (message : String) : Diagnostic := ⟨.error, code, message, none, none⟩

def withField (d : Diagnostic) (field : FieldRef) : Diagnostic := { d with field := some field }

def withRow (d : Diagnostic) (row : ℕ) : Diagnostic := { d with row := some row }

def isError (d : Diagnostic) : Bool := d.severity = .error

end Diagnostic

abbrev DiagnosticSet := List Diagnostic

def DiagnosticSet.hasErrors (diagnostics : DiagnosticSet) : Bool := diagnostics.any Diagnostic.isError

inductive WritePhase where
  | schemaPlanning
  | writerInitialization
  | targetMetadataValidation
  | batchWrite
  | batchSchemaValidation
  | valueConversion
  | directEncoding
  | packetWrite
  | finish
  | finalize
  deriving DecidableEq, Repr

inductive WriteBackend where
  | auto
  | baselineTokenRow
  | directFramedBulk
  | directRawBulk
  deriving DecidableEq, Repr

inductive MssqlVersion where
  | sqlServer2016
  | sqlServer2017
  | sqlServer2019
  | sqlServer2022
  | sqlServer2025
  deriving DecidableEq, Repr

/-- The errors the modelled functions return. A driver error carries its text. -/
inductive Error where
  | writePhaseContext (phase : WritePhase) (source : Error)
  | invalidCompatibilityLevel (level : ℕ)
  | unsupportedCompatibilityLevel (version : MssqlVersion) (compatibilityLevel : ℕ)
  | invalidIdentifier (reason : String)
  | planning (diagnostics : DiagnosticSet)
  | valueConversion (diagnostics : DiagnosticSet)
  | directEncoding (diagnostics : DiagnosticSet)
  | backendUnavailable (backend : WriteBackend) (reason : String)
  | tiberius (source : String)
  deriving Repr

namespace Error

def withWritePhase (e : Error) (phase : WritePhase) : Error := .writePhaseContext phase e

def writePhase : Error → Option WritePhase
  | .writePhaseContext phase _ => some phase
  | .planning _ => some .schemaPlanning
  | .valueConversion _ => some .valueConversion
  | .directEncoding _ => some .directEncoding
  | _ => none

end Error

abbrev Result (α : Type) := Checked.Outcome Error α

end ArrowTiberius
