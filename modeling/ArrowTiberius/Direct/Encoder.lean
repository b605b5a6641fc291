import ArrowTiberius.Direct.Measure
import ArrowTiberius.Direct.Rows.FixedWidth
import ArrowTiberius.Write.RecordBatch

namespace ArrowTiberius.Direct

open Checked

variable [Externals]

namespace BoundDirectBatch

def encodeWithLayout (bound : BoundDirectBatch) (layout : RowLayout) : Result EncodedRowsPayload := do
  let bytes ← allocateRowsPayloadWithTokens layout
  let bytes ← bound.fillColumns layout bytes
  EncodedRowsPayload.new bytes layout.rowTokenOffsets

def encodeRows (bound : BoundDirectBatch) : Result EncodedRowsPayload := do
  let layout ← bound.measureLayout
  bound.encodeWithLayout layout

end BoundDirectBatch

def measureCellLengths (encoder : DirectEncoder) (batch : RecordBatch) : Result (List ℕ) := do
  let bound ← BoundDirectBatch.new encoder batch
  bound.measureCellLengths

def sliceBatch (batch : RecordBatch) (startRow rowCount : ℕ) : Result RecordBatch :=
  if h : startRow + rowCount ≤ batch.numRows then .ok (batch.slice startRow rowCount h) else crash

namespace DirectEncoder

omit [Externals] in
def hasVariableWidthColumn (encoder : DirectEncoder) : Bool :=
  encoder.plan.columns.any fun column =>
    match column.encoding with
    | .variableWidth _ => true
    | _ => false

def measureBatch (encoder : DirectEncoder) (batch : RecordBatch) : Result MeasuredDirectBatch := do
  validateRecordBatchEncodingShape batch encoder.mappings
  if batch.numRows = 0 then pure (MeasuredDirectBatch.empty encoder.plan.columnCount)
  else do
    let cellLengths ← Direct.measureCellLengths encoder batch
    MeasuredDirectBatch.new batch.numRows encoder.plan.columnCount cellLengths

def encodeCheckedBatch (fastPath : FixedWidth.FastPath) (encoder : DirectEncoder) (batch : RecordBatch) :
    Result EncodedRowsPayload := do
  validateRecordBatchEncodingShape batch encoder.mappings
  if encoder.plan.columns = [] ∧ batch.numRows = 0 then EncodedRowsPayload.new [] []
  else do
    let bound ← BoundDirectBatch.new encoder batch
    match ← FixedWidth.tryEncodeFixedWidthRows fastPath bound with
    | some payload => pure payload
    | none => bound.encodeRows

def encodeBatch (fastPath : FixedWidth.FastPath) (encoder : DirectEncoder) (batch : RecordBatch) :
    Result EncodedRowsPayload :=
  encoder.encodeCheckedBatch fastPath batch

def encodeBatchRange (fastPath : FixedWidth.FastPath) (encoder : DirectEncoder) (batch : RecordBatch)
    (startRow rowCount : ℕ) : Result EncodedRowsPayload := do
  let endRow ← okOr (checkedAdd 64 startRow rowCount) (invalidPayload "direct row range end overflowed usize")
  ensure (¬endRow > batch.numRows) (invalidPayload s!"direct row range {startRow}..{
    endRow} is outside batch row count {batch.numRows}")
  let batch ← sliceBatch batch startRow rowCount
  encoder.encodeCheckedBatch fastPath batch

omit [Externals] in
def checkMeasured (encoder : DirectEncoder) (batch : RecordBatch) (measured : MeasuredDirectBatch) : Result Unit := do
  ensure (measured.rowCount = batch.numRows) (invalidPayload s!"measured row count {
    measured.rowCount} does not match runtime batch row count {batch.numRows}")
  ensure (measured.columnCount = encoder.plan.columnCount) (invalidPayload s!"measured column count {
    measured.columnCount} does not match direct plan column count {encoder.plan.columnCount}")

def encodeMeasuredBatchRange (fastPath : FixedWidth.FastPath) (encoder : DirectEncoder) (batch : RecordBatch)
    (measured : MeasuredDirectBatch) (startRow rowCount : ℕ) : Result EncodedRowsPayload := do
  measured.checkRange startRow rowCount
  if rowCount = 0 then EncodedRowsPayload.new [] []
  else do
    encoder.checkMeasured batch measured
    let batch ← sliceBatch batch startRow rowCount
    let bound ← BoundDirectBatch.new encoder batch
    let layout ← measured.rangeLayout startRow rowCount
    match ← FixedWidth.tryEncodeFixedWidthRowsWithLayout fastPath bound layout with
    | some payload => pure payload
    | none => bound.encodeWithLayout layout

structure AppendState where
  rowTokenOffsets : List ℕ
  written : ℕ
  buf : List UInt8

def appendMeasuredCell (bound : BoundDirectBatch) (measured : MeasuredDirectBatch) (rowIndex : ℕ) (s : AppendState)
    (column : BoundDirectColumn × ℕ) : Result AppendState := do
  let measuredLen ← measured.cellLen rowIndex column.2
  let buf ← column.1.appendCell bound.runtimeContext s.buf rowIndex measuredLen
  let written ← FixedWidth.checkedAdd s.written measuredLen
  pure ⟨s.rowTokenOffsets, written, buf⟩

def appendRow (bound : BoundDirectBatch) (measured : MeasuredDirectBatch) (s : AppendState) (rowIndex : ℕ) :
    Result AppendState := do
  let written ← FixedWidth.checkedAdd s.written 1
  forEach bound.columns.zipIdx ⟨s.rowTokenOffsets ++ [s.written], written, s.buf ++ [tdsRowToken]⟩
    (appendMeasuredCell bound measured rowIndex)

/-- What the buffer holds after the rows of a range, and where their tokens are. -/
def encodeMeasuredBatchRangeInto (encoder : DirectEncoder) (batch : RecordBatch) (measured : MeasuredDirectBatch)
    (startRow rowCount : ℕ) (buf : List UInt8) : Result (List ℕ × List UInt8) := do
  measured.checkRange startRow rowCount
  encoder.checkMeasured batch measured
  let bound ← BoundDirectBatch.new encoder batch
  let endRow ← okOr (checkedAdd 64 startRow rowCount) (invalidPayload "direct row range end overflowed usize")
  let s ← forRange (endRow - startRow) ⟨[], 0, buf⟩ fun s i => appendRow bound measured s (startRow + i)
  pure (s.rowTokenOffsets, s.buf)

end DirectEncoder

end ArrowTiberius.Direct
