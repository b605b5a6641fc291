import ArrowTiberius.Mssql.DdlRoundTrip
import ArrowTiberius.Mssql.FromArrow.Datetime2Rounding
import ArrowTiberius.Schema.TableMapping
import ArrowTiberius.Direct.TemporalValue
import ArrowTiberius.Write.RecordBatch
import ArrowTiberius.Direct.PlanSpec
import ArrowTiberius.Mssql.FromArrow.Failures
import ArrowTiberius.Schema.Soundness
import ArrowTiberius.Direct.Types.Primitive
import ArrowTiberius.Direct.Types.Decimal
import ArrowTiberius.Direct.Types.VariableWidth
import ArrowTiberius.Schema.AdmittedTypes
import ArrowTiberius.Mssql.FromArrow.NanosecondPolicy
import ArrowTiberius.Mssql.FromArrow.DatetimeRounding
import ArrowTiberius.Mssql.FromArrow.RowIndependence
import ArrowTiberius.Direct.Types.TemporalLaw
import ArrowTiberius.Conversion.UnitIndependence
import ArrowTiberius.Mssql.FromArrow.TimezoneGrammar
import ArrowTiberius.Conversion.DecimalValue
import ArrowTiberius.Direct.RowRanges
import ArrowTiberius.Mssql.FromArrow.Validity
import ArrowTiberius.Direct.Types.TemporalMembers
import ArrowTiberius.Direct.Types.FixedSizeBinary
import ArrowTiberius.Direct.Types.DecimalCodec
import ArrowTiberius.Direct.LayoutTiling
import ArrowTiberius.Direct.Semantics
import ArrowTiberius.Direct.Rows.FixedWidthEquivalence
import ArrowTiberius.Conversion.CellTypes
import ArrowTiberius.Tds.CellCodec
import ArrowTiberius.Direct.BatchSemantics
import ArrowTiberius.Direct.Refinement
import ArrowTiberius.Direct.Slicing
import ArrowTiberius.Direct.AppendRows
import ArrowTiberius.Direct.Rows.LaidOutRows
import ArrowTiberius.Direct.Chunking
import ArrowTiberius.Direct.RowDecoder
import ArrowTiberius.Direct.LengthPrefixes
import ArrowTiberius.Direct.AppendClaims
import ArrowTiberius.Direct.Rows.FatedRun
import ArrowTiberius.Direct.Rows.AnyLayout
import ArrowTiberius.Schema.Contract
import ArrowTiberius.Writer.TargetFormats
import ArrowTiberius.Lib.Session
import ArrowTiberius.Write.TokenRow
import ArrowTiberius.Writer.State
import ArrowTiberius.Writer.Batch
import ArrowTiberius.Writer.Sending
import ArrowTiberius.Writer.Accepting
import ArrowTiberius.Writer.Runs
import ArrowTiberius.Direct.MeasureFailures
import ArrowTiberius.Direct.FirstRefusal
import ArrowTiberius.Writer.Phases
import ArrowTiberius.Writer.Load
import ArrowTiberius.Writer.Backends
import ArrowTiberius.Writer.FirstRefusal
import ArrowTiberius.Writer.Regrouping
import ArrowTiberius.Writer.Server
import ArrowTiberius.Writer.CreatedTable
import ArrowTiberius.Writer.DriftedScales
import ArrowTiberius.Lib.Relating
import ArrowTiberius.Lib.Logging
import ArrowTiberius.ErrorInfo
import ArrowTiberius.Observability.Events
import ArrowTiberius.Observability.TracedWriter
import ArrowTiberius.Observability.Redaction
import ArrowTiberius.Observability.CallEvents
import ArrowTiberius.Observability.Accounting
