import ArrowTiberius.Arrow.DataType
import ArrowTiberius.Externals
import ArrowTiberius.Mssql.Ddl

namespace ArrowTiberius

open Checked

structure SchemaMapping where
  arrow : ArrowFieldRef
  mssql : MssqlColumn
  deriving DecidableEq

def mappingDiagnostic (mapping : SchemaMapping) (code : DiagnosticCode) (message : String) : Diagnostic :=
  (Diagnostic.error code message).withField ⟨mapping.arrow.index, mapping.arrow.name⟩

def rowMappingDiagnostic (mapping : SchemaMapping) (rowIndex : ℕ) (code : DiagnosticCode) (message : String) :
    Diagnostic :=
  (mappingDiagnostic mapping code message).withRow rowIndex

def valueConversionError (diagnostic : Diagnostic) : Error := .valueConversion [diagnostic]

def rowError (mapping : SchemaMapping) (rowIndex : ℕ) (code : DiagnosticCode) (message : String) : Error :=
  valueConversionError (rowMappingDiagnostic mapping rowIndex code message)

def unsupportedValueConversion (mapping : SchemaMapping) (rowIndex : ℕ) (message : String) : Error :=
  rowError mapping rowIndex .valueConversionUnsupported message

def directError (code : DiagnosticCode) (message : String) : Error :=
  .directEncoding [Diagnostic.error code message]

def invalidPayload (message : String) : Error := directError .directEncodingInvalidPayload message

def unsupportedBatch (message : String) : Error := directError .directEncodingUnsupportedBatch message

end ArrowTiberius
