import ArrowTiberius.Diagnostic

namespace ArrowTiberius

def WritePhase.asStr : WritePhase → String
  | .schemaPlanning => "schema_planning"
  | .writerInitialization => "writer_initialization"
  | .targetMetadataValidation => "target_metadata_validation"
  | .batchWrite => "batch_write"
  | .batchSchemaValidation => "batch_schema_validation"
  | .valueConversion => "value_conversion"
  | .directEncoding => "direct_encoding"
  | .packetWrite => "packet_write"
  | .finish => "finish"
  | .finalize => "finalize"

def DiagnosticCode.debugName : DiagnosticCode → String
  | .unsupportedArrowType => "UnsupportedArrowType"
  | .lossyConversionRequiresPolicy => "LossyConversionRequiresPolicy"
  | .policyApplied => "PolicyApplied"
  | .identifierInvalid => "IdentifierInvalid"
  | .identifierTooLong => "IdentifierTooLong"
  | .decimalOutOfRange => "DecimalOutOfRange"
  | .integerOutOfRange => "IntegerOutOfRange"
  | .timestampOutOfRange => "TimestampOutOfRange"
  | .timezoneUnsupported => "TimezoneUnsupported"
  | .schemaMismatch => "SchemaMismatch"
  | .backendUnavailable => "BackendUnavailable"
  | .profileDependentConversion => "ProfileDependentConversion"
  | .observedDataRequired => "ObservedDataRequired"
  | .valueConversionUnsupported => "ValueConversionUnsupported"
  | .valueTypeMismatch => "ValueTypeMismatch"
  | .nullInNonNullableColumn => "NullInNonNullableColumn"
  | .nonFiniteFloat => "NonFiniteFloat"
  | .valueTooLong => "ValueTooLong"
  | .rowIndexOutOfBounds => "RowIndexOutOfBounds"
  | .directEncodingInvalidPayload => "DirectEncodingInvalidPayload"
  | .directEncodingUnsupportedMapping => "DirectEncodingUnsupportedMapping"
  | .directEncodingUnsupportedBatch => "DirectEncodingUnsupportedBatch"

def appendText (target value : String) : String := (if target.isEmpty then target else target.push ',') ++ value

def diagnosticCodes (diagnostics : DiagnosticSet) : String :=
  diagnostics.foldl (fun codes diagnostic => appendText codes diagnostic.code.debugName) ""

structure ErrorInfo where
  phase : Option WritePhase
  kind : String
  summary : String
  diagnostics : Option DiagnosticSet

def ErrorInfo.diagnosticCodes (info : ErrorInfo) : String :=
  match info.diagnostics with
  | some diagnostics => ArrowTiberius.diagnosticCodes diagnostics
  | none => if info.kind = "BackendUnavailable" then DiagnosticCode.backendUnavailable.debugName else ""

namespace Error

def withoutWritePhase : Error → Error
  | .writePhaseContext _ source => source.withoutWritePhase
  | e => e

def kind : Error → String
  | .writePhaseContext _ source => source.kind
  | .invalidCompatibilityLevel _ => "InvalidCompatibilityLevel"
  | .unsupportedCompatibilityLevel _ _ => "UnsupportedCompatibilityLevel"
  | .invalidIdentifier _ => "InvalidIdentifier"
  | .planning _ => "Planning"
  | .valueConversion _ => "ValueConversion"
  | .directEncoding _ => "DirectEncoding"
  | .backendUnavailable _ _ => "BackendUnavailable"
  | .tiberius _ => "Tiberius"

def safeSummary : Error → String
  | .writePhaseContext _ source => source.safeSummary
  | .invalidCompatibilityLevel _ => "invalid compatibility level"
  | .unsupportedCompatibilityLevel _ _ => "compatibility level is not supported by SQL Server version"
  | .invalidIdentifier _ => "invalid identifier"
  | .planning _ => "planning failed with diagnostics"
  | .valueConversion _ => "value conversion failed with diagnostics"
  | .directEncoding _ => "direct encoding failed with diagnostics"
  | .backendUnavailable _ _ => "write backend unavailable"
  | .tiberius _ => "tiberius operation failed"

def diagnostics : Error → Option DiagnosticSet
  | .writePhaseContext _ source => source.diagnostics
  | .planning diagnostics | .valueConversion diagnostics | .directEncoding diagnostics => some diagnostics
  | _ => none

def safeErrorInfo (e : Error) : ErrorInfo :=
  let inner := e.withoutWritePhase
  ⟨e.writePhase, inner.kind, inner.safeSummary, inner.diagnostics⟩

end Error

section Reports

def Error.redacted : Error → Error
  | .writePhaseContext phase source => .writePhaseContext phase source.redacted
  | .tiberius _ => .tiberius ""
  | e => e

def Error.SameButForWords (e e' : Error) : Prop := e.redacted = e'.redacted

namespace Error

theorem sameButForWords_refl (e : Error) : e.SameButForWords e := rfl

theorem sameButForWords_tiberius (source source' : String) : (tiberius source).SameButForWords (tiberius source') := rfl

theorem SameButForWords.withWritePhase {e e' : Error} (h : e.SameButForWords e') (phase : WritePhase) :
    (e.withWritePhase phase).SameButForWords (e'.withWritePhase phase) :=
  congrArg (writePhaseContext phase) h

theorem writePhase_redacted (e : Error) : e.redacted.writePhase = e.writePhase := by
  cases e <;> rfl

theorem safeErrorInfo_redacted (e : Error) : e.redacted.safeErrorInfo = e.safeErrorInfo := by
  have hinner (e : Error) : e.redacted.withoutWritePhase.kind = e.withoutWritePhase.kind ∧
      e.redacted.withoutWritePhase.safeSummary = e.withoutWritePhase.safeSummary ∧
      e.redacted.withoutWritePhase.diagnostics = e.withoutWritePhase.diagnostics := by
    induction e with
    | writePhaseContext phase source ih => exact ih
    | _ => exact ⟨rfl, rfl, rfl⟩
  obtain ⟨hkind, hsummary, hdiagnostics⟩ := hinner e
  rw [safeErrorInfo, writePhase_redacted, hkind, hsummary, hdiagnostics]
  rfl

theorem SameButForWords.safeErrorInfo_eq {e e' : Error} (h : e.SameButForWords e') :
    e.safeErrorInfo = e'.safeErrorInfo := by
  rw [← safeErrorInfo_redacted e, h, safeErrorInfo_redacted]

end Error

end Reports

end ArrowTiberius
