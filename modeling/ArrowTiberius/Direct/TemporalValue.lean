import Mathlib.Tactic.IntervalCases
import ArrowTiberius.Lib.LittleEndian
import ArrowTiberius.Lib.MachineInt
import ArrowTiberius.Lib.Slice
import ArrowTiberius.Mssql.Cell
import ArrowTiberius.Schema.Mapping
import ArrowTiberius.Tds.Format

namespace ArrowTiberius.Direct

open Checked Tiling

def nullTemporalCellLen : ℕ := 1

def datePayloadLen : ℕ := 3

def datetimePayloadLen : ℕ := 8

def datetimeoffsetOffsetLen : ℕ := 2

def sqlServerDateMaxDays : ℕ := 3652058

def sqlServerDatetimeMinDays : ℤ := -53690

def sqlServerDatetimeMaxDays : ℤ := 2958463

def sqlServerDatetimeFragmentsPerDay : ℕ := 25920000

def sqlServerDatetimeoffsetMaxOffsetMinutes : ℕ := 14 * 60

def secondsPerDay : ℕ := 86400

def timePayloadLen (precision : ℕ) : Result ℕ :=
  if precision ≤ 2 then .ok 3
  else if precision ≤ 4 then .ok 4
  else if precision ≤ 7 then .ok 5
  else fail (invalidPayload s!"time precision {precision} is outside SQL Server range 0..=7")

def validatePrecision (precision : ℕ) : Result Unit := do
  let _ ← timePayloadLen precision

def dateCellLen : ℕ := nullTemporalCellLen + datePayloadLen

def timeCellLen (precision : ℕ) : Result ℕ := do
  let len ← timePayloadLen precision
  pure (nullTemporalCellLen + len)

def datetime2CellLen (precision : ℕ) : Result ℕ := do
  let len ← timePayloadLen precision
  pure (nullTemporalCellLen + len + datePayloadLen)

def datetimeCellLen : ℕ := nullTemporalCellLen + datetimePayloadLen

def datetimeoffsetCellLen (precision : ℕ) : Result ℕ := do
  let len ← timePayloadLen precision
  pure (nullTemporalCellLen + len + datePayloadLen + datetimeoffsetOffsetLen)

def maxTimeIncrements (precision : ℕ) : Result ℕ := do
  validatePrecision precision
  unsignedOp 64 (secondsPerDay * 10 ^ precision)

def validateDate (value : MssqlDate) : Result Unit :=
  ensure (value.days ≤ sqlServerDateMaxDays)
    (invalidPayload s!"date day count {value.days} is outside SQL Server date range")

def validateDatetime (value : MssqlDateTime) : Result Unit := do
  ensure (sqlServerDatetimeMinDays ≤ value.days ∧ value.days ≤ sqlServerDatetimeMaxDays)
    (invalidPayload s!"datetime day count {value.days} is outside SQL Server datetime range")
  ensure (value.secondsFragments < sqlServerDatetimeFragmentsPerDay)
    (invalidPayload s!"datetime fragment count {value.secondsFragments} is outside one day")

def validateTime (value : MssqlTime) : Result Unit := do
  validatePrecision value.scale
  let max ← maxTimeIncrements value.scale
  ensure (value.increments < max) (invalidPayload
    s!"time increment count {value.increments} is outside one day at precision {value.scale}")

def validateDatetimeoffsetOffset (offsetMinutes : ℤ) : Result Unit :=
  ensure (offsetMinutes.natAbs ≤ sqlServerDatetimeoffsetMaxOffsetMinutes) (invalidPayload
    s!"datetimeoffset offset {offsetMinutes} minute(s) is outside SQL Server range -840..=840")

def writeU64LeN (dst : List UInt8) (value : ℕ) : Result (List UInt8) :=
  if dst.length > 8 then
    fail (invalidPayload
      s!"little-endian temporal integer destination has length {dst.length}, expected at most 8")
  else copyFromSlice dst ((LittleEndian.encode 8 value).take dst.length)

def checkCellLen (kind : String) (dst : List UInt8) (expectedLen : ℕ) : Result Unit :=
  ensure (dst.length = expectedLen)
    (invalidPayload s!"{kind} has length {dst.length}, expected {expectedLen}")

def writeNullTemporalCell (dst : List UInt8) : Result (List UInt8) := do
  checkCellLen "null temporal cell" dst nullTemporalCellLen
  setIndex dst 0 0

def writeDateCell (dst : List UInt8) (value : MssqlDate) : Result (List UInt8) := do
  checkCellLen "date cell" dst dateCellLen
  validateDate value
  let dst ← setIndex dst 0 (UInt8.ofNat datePayloadLen)
  modifyRange dst 1 dst.length fun dst => writeU64LeN dst value.days

def writeTimeCell (dst : List UInt8) (value : MssqlTime) : Result (List UInt8) := do
  let expectedLen ← timeCellLen value.scale
  checkCellLen "time cell" dst expectedLen
  validateTime value
  let payloadLen ← timePayloadLen value.scale
  let dst ← setIndex dst 0 (UInt8.ofNat payloadLen)
  modifyRange dst 1 dst.length fun dst => writeU64LeN dst value.increments

def writeDatetime2Cell (dst : List UInt8) (value : MssqlDateTime2) : Result (List UInt8) := do
  let expectedLen ← datetime2CellLen value.time.scale
  checkCellLen "datetime2 cell" dst expectedLen
  validateDate value.date
  validateTime value.time
  let timeLen ← timePayloadLen value.time.scale
  let dst ← setIndex dst 0 (UInt8.ofNat (timeLen + datePayloadLen))
  let dst ← modifyRange dst 1 (1 + timeLen) fun dst => writeU64LeN dst value.time.increments
  modifyRange dst (1 + timeLen) (1 + timeLen + datePayloadLen) fun dst => writeU64LeN dst value.date.days

def writeDatetimePayload (dst : List UInt8) (value : MssqlDateTime) : Result (List UInt8) := do
  checkCellLen "datetime payload" dst datetimePayloadLen
  validateDatetime value
  let dst ← modifyRange dst 0 4 fun dst => copyFromSlice dst (LittleEndian.encodeInt 4 value.days)
  modifyRange dst 4 8 fun dst => copyFromSlice dst (LittleEndian.encode 4 value.secondsFragments)

def writeDatetimeCell (dst : List UInt8) (value : MssqlDateTime) : Result (List UInt8) := do
  checkCellLen "datetime cell" dst datetimeCellLen
  let dst ← setIndex dst 0 (UInt8.ofNat datetimePayloadLen)
  modifyRange dst 1 dst.length fun dst => writeDatetimePayload dst value

def writeDatetimeoffsetCell (dst : List UInt8) (value : MssqlDateTimeOffset) : Result (List UInt8) := do
  let expectedLen ← datetimeoffsetCellLen value.datetime2.time.scale
  checkCellLen "datetimeoffset cell" dst expectedLen
  validateDate value.datetime2.date
  validateTime value.datetime2.time
  validateDatetimeoffsetOffset value.offsetMinutes
  let timeLen ← timePayloadLen value.datetime2.time.scale
  let dst ← setIndex dst 0 (UInt8.ofNat (timeLen + datePayloadLen + datetimeoffsetOffsetLen))
  let dst ← modifyRange dst 1 (1 + timeLen) fun dst => writeU64LeN dst value.datetime2.time.increments
  let dst ← modifyRange dst (1 + timeLen) (1 + timeLen + datePayloadLen) fun dst =>
    writeU64LeN dst value.datetime2.date.days
  let offsetStart := 1 + timeLen + datePayloadLen
  modifyRange dst offsetStart (offsetStart + datetimeoffsetOffsetLen) fun dst =>
    copyFromSlice dst (LittleEndian.encodeInt 2 value.offsetMinutes)

def ValidDate (value : MssqlDate) : Prop := value.days ≤ 3652058

def ValidTime (value : MssqlTime) : Prop := value.scale ≤ 7 ∧ value.increments < 86400 * 10 ^ value.scale

def ValidDateTime (value : MssqlDateTime) : Prop :=
  (-53690 ≤ value.days ∧ value.days ≤ 2958463) ∧ value.secondsFragments < 25920000

def ValidDateTime2 (value : MssqlDateTime2) : Prop := ValidDate value.date ∧ ValidTime value.time

def ValidDateTimeOffset (value : MssqlDateTimeOffset) : Prop :=
  ValidDateTime2 value.datetime2 ∧ value.offsetMinutes.natAbs ≤ 840

@[simp] theorem timePayloadLen_eq_ok {precision n : ℕ} :
    timePayloadLen precision = .ok n ↔ precision ≤ 7 ∧ n = Tds.timeLength precision := by
  unfold timePayloadLen Tds.timeLength
  split_ifs with h2 h4 h7
  · simp [eq_comm, (by omega : precision ≤ 7)]
  · simp [eq_comm, (by omega : precision ≤ 7)]
  · simp [eq_comm, h7]
  · simp [h7]

theorem checkCellLen_of {kind : String} {dst : List UInt8} {n : ℕ} (h : dst.length = n) :
    checkCellLen kind dst n = .ok () := ensure_of h

theorem timePayloadLen_of_le {precision : ℕ} (h : precision ≤ 7) :
    timePayloadLen precision = .ok (Tds.timeLength precision) := timePayloadLen_eq_ok.mpr ⟨h, rfl⟩

theorem timeLength_le (precision : ℕ) : Tds.timeLength precision ≤ 5 := by
  unfold Tds.timeLength
  split_ifs <;> omega

theorem increments_lt {value : MssqlTime} (h : ValidTime value) :
    value.increments < 256 ^ Tds.timeLength value.scale := by
  obtain ⟨hscale, hlt⟩ := h
  have hday : 86400 * 10 ^ value.scale < 256 ^ Tds.timeLength value.scale := by
    interval_cases value.scale <;> decide
  omega

theorem maxTimeIncrements_of_le {precision : ℕ} (h : precision ≤ 7) :
    maxTimeIncrements precision = .ok (86400 * 10 ^ precision) := by
  have hfits : fitsUnsigned 64 (secondsPerDay * 10 ^ precision) := by
    interval_cases precision <;> decide
  rw [maxTimeIncrements, validatePrecision, timePayloadLen_of_le h, ok_bind, pure_eq_ok, ok_bind,
    unsignedOp_of_fits hfits]
  norm_cast

@[simp] theorem validateTime_eq_ok {value : MssqlTime} {u : Unit} : validateTime value = .ok u ↔ ValidTime value := by
  unfold validateTime validatePrecision ValidTime
  by_cases h : value.scale ≤ 7
  · simp [timePayloadLen_of_le h, maxTimeIncrements_of_le h, h]
  · simp [h]

@[simp] theorem validateDate_eq_ok {value : MssqlDate} {u : Unit} : validateDate value = .ok u ↔ ValidDate value :=
  ensure_eq_ok

@[simp] theorem validateDatetime_eq_ok {value : MssqlDateTime} {u : Unit} :
    validateDatetime value = .ok u ↔ ValidDateTime value := by
  simp [validateDatetime, ValidDateTime, sqlServerDatetimeMinDays, sqlServerDatetimeMaxDays,
    sqlServerDatetimeFragmentsPerDay]

theorem writeU64LeN_of_length {dst : List UInt8} {n : ℕ} (hdst : dst.length = n) (hn : n ≤ 8) (value : ℕ) :
    writeU64LeN dst value = .ok (LittleEndian.encode n value) := by
  rw [writeU64LeN, if_neg (by omega), LittleEndian.take_encode (by omega), copyFromSlice_of_length (by simp), hdst]

theorem setIndex_head {dst : List UInt8} {n : ℕ} (h : dst.length = n + 1) (b : UInt8) :
    (setIndex dst 0 b : Result (List UInt8)) = .ok (splice dst 0 [b]) := setIndex_of_lt (by omega) b

theorem modifyRange_write {dst : List UInt8} (done : List UInt8) {lo hi value : ℕ} (width : ℕ)
    (hlo : lo = done.length) (hhi : hi = done.length + width) (hwidth : width ≤ 8)
    (hfit : done.length + width ≤ dst.length) :
    modifyRange (splice dst 0 done) lo hi (fun dst => writeU64LeN dst value) =
      .ok (splice dst 0 (done ++ LittleEndian.encode width value)) :=
  modifyRange_next hlo (by simpa using hhi) (by simpa using hfit) fun _ hw =>
    writeU64LeN_of_length (by simpa using hw) hwidth value

theorem modifyRange_copy {dst : List UInt8} (done : List UInt8) {src : List UInt8} {lo hi : ℕ}
    (hlo : lo = done.length) (hhi : hi = done.length + src.length) (hfit : done.length + src.length ≤ dst.length) :
    modifyRange (splice dst 0 done) lo hi (fun dst => (copyFromSlice dst src : Result (List UInt8))) =
      .ok (splice dst 0 (done ++ src)) :=
  modifyRange_next hlo hhi hfit fun _ hw => copyFromSlice_of_length hw

theorem writeNullTemporalCell_of_length {dst : List UInt8} (h : dst.length = 1) :
    writeNullTemporalCell dst = .ok (Tds.frame .bytePrefixed none) := by
  have hlen : dst.length = nullTemporalCellLen := h
  rw [writeNullTemporalCell, checkCellLen_of hlen, ok_bind, setIndex_head h, splice_all (by simp [h])]
  rfl

theorem writeDateCell_of_length {dst : List UInt8} {value : MssqlDate} (hvalid : ValidDate value)
    (h : dst.length = 4) : writeDateCell dst value = .ok (Tds.frame .bytePrefixed (some (Tds.encodeDate value))) := by
  have hlen : dst.length = dateCellLen := h
  have hsplice : (splice dst 0 [UInt8.ofNat datePayloadLen]).length = 4 := by rw [length_splice (by simp [h]), h]
  rw [writeDateCell, checkCellLen_of hlen, ok_bind, (validateDate_eq_ok (u := ())).mpr hvalid, ok_bind, setIndex_head h, ok_bind,
    modifyRange_write [_] 3 (by simp) (by simp [hsplice]) (by decide) (by simp [h]), splice_all (by simp [h])]
  rfl

theorem writeTimeCell_of_length {dst : List UInt8} {value : MssqlTime} (hvalid : ValidTime value)
    (h : dst.length = 1 + Tds.timeLength value.scale) :
    writeTimeCell dst value = .ok (Tds.frame .bytePrefixed (some (Tds.encodeTime value))) := by
  have hlen : dst.length = nullTemporalCellLen + Tds.timeLength value.scale := h
  have hle := timeLength_le value.scale
  have hsplice : (splice dst 0 [UInt8.ofNat (Tds.timeLength value.scale)]).length = 1 + Tds.timeLength value.scale := by
    rw [length_splice (by simp; omega), h]
  rw [writeTimeCell, timeCellLen, timePayloadLen_of_le hvalid.1, ok_bind, pure_eq_ok, ok_bind, checkCellLen_of hlen,
    ok_bind, (validateTime_eq_ok (u := ())).mpr hvalid, ok_bind, ok_bind, setIndex_of_lt (by omega), ok_bind,
    modifyRange_write [_] (Tds.timeLength value.scale) (by simp) (by simp [hsplice]) (by omega) (by simp; omega),
    splice_all (by simp; omega)]
  simp [Tds.frame, Tds.encodeTime]

theorem writeDatetime2Cell_of_length {dst : List UInt8} {value : MssqlDateTime2} (hvalid : ValidDateTime2 value)
    (h : dst.length = 1 + Tds.timeLength value.time.scale + 3) :
    writeDatetime2Cell dst value = .ok (Tds.frame .bytePrefixed (some (Tds.encodeDateTime2 value))) := by
  obtain ⟨hdate, htime⟩ := hvalid
  have hlen : dst.length = nullTemporalCellLen + Tds.timeLength value.time.scale + datePayloadLen := h
  have hle := timeLength_le value.time.scale
  rw [writeDatetime2Cell, datetime2CellLen, timePayloadLen_of_le htime.1, ok_bind, pure_eq_ok, ok_bind,
    checkCellLen_of hlen, ok_bind, (validateDate_eq_ok (u := ())).mpr hdate, ok_bind,
    (validateTime_eq_ok (u := ())).mpr htime, ok_bind,
    ok_bind, setIndex_of_lt (by omega), ok_bind,
    modifyRange_write [_] (Tds.timeLength value.time.scale) (by simp) (by simp) (by omega) (by simp; omega), ok_bind,
    modifyRange_write (_ ++ _) 3 (by simp; omega) (by simp [datePayloadLen]; omega) (by decide) (by simp; omega),
    splice_all (by simp; omega)]
  simp [Tds.frame, Tds.encodeDateTime2, Tds.encodeTime, Tds.encodeDate, datePayloadLen]

theorem writeDatetimePayload_of_length {dst : List UInt8} {value : MssqlDateTime} (hvalid : ValidDateTime value)
    (h : dst.length = 8) : writeDatetimePayload dst value = .ok (Tds.encodeDateTime value) := by
  have hlen : dst.length = datetimePayloadLen := h
  have hnil : splice dst 0 [] = dst := by simp [splice]
  have hfirst : modifyRange (splice dst 0 []) 0 4 (fun dst => (copyFromSlice dst
      (LittleEndian.encodeInt 4 value.days) : Result (List UInt8))) = _ :=
    modifyRange_copy [] (by simp) (by simp) (by simp [h])
  rw [hnil, List.nil_append] at hfirst
  rw [writeDatetimePayload, checkCellLen_of hlen, ok_bind, (validateDatetime_eq_ok (u := ())).mpr hvalid, ok_bind, hfirst, ok_bind,
    modifyRange_copy _ (by simp) (by simp) (by simp [h]), splice_all (by simp [h])]
  rfl

theorem writeDatetimeCell_of_length {dst : List UInt8} {value : MssqlDateTime} (hvalid : ValidDateTime value)
    (h : dst.length = 9) :
    writeDatetimeCell dst value = .ok (Tds.frame .bytePrefixed (some (Tds.encodeDateTime value))) := by
  have hlen : dst.length = datetimeCellLen := h
  have hsplice : (splice dst 0 [UInt8.ofNat datetimePayloadLen]).length = 9 := by rw [length_splice (by simp [h]), h]
  have hpayload : modifyRange (splice dst 0 [UInt8.ofNat datetimePayloadLen]) 1
      (splice dst 0 [UInt8.ofNat datetimePayloadLen]).length (fun dst => writeDatetimePayload dst value) = _ :=
    modifyRange_next (by simp) (by simp [hsplice]) (by simp [h]) fun window hw =>
      writeDatetimePayload_of_length hvalid (by simpa using hw)
  rw [writeDatetimeCell, checkCellLen_of hlen, ok_bind, setIndex_head h, ok_bind, hpayload, splice_all (by simp [h])]
  simp [Tds.frame, datetimePayloadLen]

theorem writeDatetimeoffsetCell_of_length {dst : List UInt8} {value : MssqlDateTimeOffset}
    (hvalid : ValidDateTimeOffset value) (h : dst.length = 1 + Tds.timeLength value.datetime2.time.scale + 3 + 2) :
    writeDatetimeoffsetCell dst value = .ok (Tds.frame .bytePrefixed (some (Tds.encodeDateTimeOffset value))) := by
  obtain ⟨⟨hdate, htime⟩, hoffset⟩ := hvalid
  have hlen : dst.length =
    nullTemporalCellLen + Tds.timeLength value.datetime2.time.scale + datePayloadLen + datetimeoffsetOffsetLen := h
  have hoffset' : validateDatetimeoffsetOffset value.offsetMinutes = .ok () := ensure_of hoffset
  have hle := timeLength_le value.datetime2.time.scale
  rw [writeDatetimeoffsetCell, datetimeoffsetCellLen, timePayloadLen_of_le htime.1, ok_bind, pure_eq_ok, ok_bind,
    checkCellLen_of hlen, ok_bind, (validateDate_eq_ok (u := ())).mpr hdate, ok_bind,
    (validateTime_eq_ok (u := ())).mpr htime, ok_bind,
    hoffset', ok_bind, ok_bind, setIndex_of_lt (by omega), ok_bind,
    modifyRange_write [_] (Tds.timeLength value.datetime2.time.scale) (by simp) (by simp) (by omega) (by simp; omega),
    ok_bind,
    modifyRange_write (_ ++ _) 3 (by simp; omega) (by simp [datePayloadLen]; omega) (by decide) (by simp; omega), ok_bind,
    modifyRange_copy (_ ++ _) (by simp [datePayloadLen]; omega)
      (by simp [datePayloadLen, datetimeoffsetOffsetLen]; omega) (by simp; omega),
    splice_all (by simp; omega)]
  have hhead : UInt8.ofNat (Tds.timeLength value.datetime2.time.scale) + 3 + 2 =
    UInt8.ofNat (Tds.timeLength value.datetime2.time.scale) + 5 := UInt8.add_assoc _ _ _
  simp [Tds.frame, Tds.encodeDateTimeOffset, Tds.encodeDateTime2, Tds.encodeTime, Tds.encodeDate, datePayloadLen,
    datetimeoffsetOffsetLen, hhead]

section Append

def appendNullTemporalCell (buf : List UInt8) : List UInt8 := buf ++ [0]

def appendDateCell (buf : List UInt8) (value : MssqlDate) : Result (List UInt8) := do
  let bytes ← writeDateCell (List.replicate (nullTemporalCellLen + datePayloadLen) 0) value
  pure (buf ++ bytes)

def appendTimeCell (buf : List UInt8) (value : MssqlTime) : Result (List UInt8) := do
  let len ← timeCellLen value.scale
  let bytes ← writeTimeCell (List.replicate len 0) value
  pure (buf ++ bytes)

def appendDatetime2Cell (buf : List UInt8) (value : MssqlDateTime2) : Result (List UInt8) := do
  let len ← datetime2CellLen value.time.scale
  let bytes ← writeDatetime2Cell (List.replicate len 0) value
  pure (buf ++ bytes)

def appendDatetimeCell (buf : List UInt8) (value : MssqlDateTime) : Result (List UInt8) := do
  let bytes ← writeDatetimeCell (List.replicate (nullTemporalCellLen + datetimePayloadLen) 0) value
  pure (buf ++ bytes)

def appendDatetimeoffsetCell (buf : List UInt8) (value : MssqlDateTimeOffset) : Result (List UInt8) := do
  let len ← datetimeoffsetCellLen value.datetime2.time.scale
  let bytes ← writeDatetimeoffsetCell (List.replicate len 0) value
  pure (buf ++ bytes)

theorem timeCellLen_of_le {precision : ℕ} (h : precision ≤ 7) :
    timeCellLen precision = .ok (1 + Tds.timeLength precision) := by
  rw [timeCellLen, timePayloadLen_of_le h]
  rfl

theorem datetime2CellLen_of_le {precision : ℕ} (h : precision ≤ 7) :
    datetime2CellLen precision = .ok (1 + Tds.timeLength precision + 3) := by
  rw [datetime2CellLen, timePayloadLen_of_le h]
  rfl

theorem datetimeoffsetCellLen_of_le {precision : ℕ} (h : precision ≤ 7) :
    datetimeoffsetCellLen precision = .ok (1 + Tds.timeLength precision + 3 + 2) := by
  rw [datetimeoffsetCellLen, timePayloadLen_of_le h]
  rfl

theorem appendDateCell_of_valid (buf : List UInt8) {value : MssqlDate} (h : ValidDate value) :
    appendDateCell buf value = .ok (buf ++ Tds.frame .bytePrefixed (some (Tds.encodeDate value))) := by
  have hcell : (List.replicate (nullTemporalCellLen + datePayloadLen) (0 : UInt8)).length = 4 := rfl
  rw [appendDateCell, writeDateCell_of_length h hcell, ok_bind]
  rfl

theorem appendTimeCell_of_valid (buf : List UInt8) {value : MssqlTime} (h : ValidTime value) :
    appendTimeCell buf value = .ok (buf ++ Tds.frame .bytePrefixed (some (Tds.encodeTime value))) := by
  rw [appendTimeCell, timeCellLen_of_le h.1, ok_bind, writeTimeCell_of_length h (List.length_replicate ..), ok_bind]
  rfl

theorem appendDatetime2Cell_of_valid (buf : List UInt8) {value : MssqlDateTime2} (h : ValidDateTime2 value) :
    appendDatetime2Cell buf value = .ok (buf ++ Tds.frame .bytePrefixed (some (Tds.encodeDateTime2 value))) := by
  rw [appendDatetime2Cell, datetime2CellLen_of_le h.2.1, ok_bind,
    writeDatetime2Cell_of_length h (List.length_replicate ..), ok_bind]
  rfl

theorem appendDatetimeCell_of_valid (buf : List UInt8) {value : MssqlDateTime} (h : ValidDateTime value) :
    appendDatetimeCell buf value = .ok (buf ++ Tds.frame .bytePrefixed (some (Tds.encodeDateTime value))) := by
  have hcell : (List.replicate (nullTemporalCellLen + datetimePayloadLen) (0 : UInt8)).length = 9 := rfl
  rw [appendDatetimeCell, writeDatetimeCell_of_length h hcell, ok_bind]
  rfl

theorem appendDatetimeoffsetCell_of_valid (buf : List UInt8) {value : MssqlDateTimeOffset}
    (h : ValidDateTimeOffset value) :
    appendDatetimeoffsetCell buf value = .ok (buf ++ Tds.frame .bytePrefixed (some (Tds.encodeDateTimeOffset value))) := by
  rw [appendDatetimeoffsetCell, datetimeoffsetCellLen_of_le h.1.2.1, ok_bind,
    writeDatetimeoffsetCell_of_length h (List.length_replicate ..), ok_bind]
  rfl

end Append

end ArrowTiberius.Direct
