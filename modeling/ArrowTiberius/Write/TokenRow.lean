import ArrowTiberius.Write.RecordBatch

namespace ArrowTiberius

open Checked

/-- A number of the driver. Its constructor panics on more than 37 digits behind the point. -/
structure Numeric where
  value : ℤ
  scale : ℕ
  representable : scale < 38
  deriving DecidableEq, Repr

def Numeric.newWithScale (value : ℤ) (scale : ℕ) : Result Numeric :=
  if h : scale < 38 then .ok ⟨value, scale, h⟩ else crash

/-- The driver's column data. Its dates and times have the fields of those of a cell. -/
inductive ColumnData where
  | bit (value : Option Bool)
  | u8 (value : Option UInt8)
  | i16 (value : Option (SInt 16))
  | i32 (value : Option (SInt 32))
  | i64 (value : Option (SInt 64))
  | numeric (value : Option Numeric)
  | date (value : Option MssqlDate)
  | time (value : Option MssqlTime)
  | dateTime (value : Option MssqlDateTime)
  | dateTime2 (value : Option MssqlDateTime2)
  | dateTimeOffset (value : Option MssqlDateTimeOffset)
  | f32 (value : Option F32)
  | f64 (value : Option F64)
  | string (value : Option String)
  | binary (value : Option (List UInt8))
  deriving DecidableEq

abbrev TokenRow := List ColumnData

def tiberiusNumeric (value : MssqlDecimal) : Result Numeric := Numeric.newWithScale value.unscaled value.scale

def mssqlCellToTiberiusOwned : MssqlCell → Result ColumnData
  | .bit value => .ok (.bit value)
  | .tinyInt value => .ok (.u8 value)
  | .smallInt value => .ok (.i16 value)
  | .int value => .ok (.i32 value)
  | .bigInt value => .ok (.i64 value)
  | .decimal none => .ok (.numeric none)
  | .decimal (some value) => do
    let value ← tiberiusNumeric value
    pure (.numeric (some value))
  | .date value => .ok (.date value)
  | .time value => .ok (.time value)
  | .dateTime value => .ok (.dateTime value)
  | .dateTime2 value => .ok (.dateTime2 value)
  | .dateTimeOffset value => .ok (.dateTimeOffset value)
  | .real value => .ok (.f32 value)
  | .float value => .ok (.f64 value)
  | .nVarChar value => .ok (.string value)
  | .varBinary value => .ok (.binary value)

def tiberiusRowOwned [Externals] (view : RecordBatchView) (rowIndex : ℕ) : Result TokenRow := do
  let cells ← view.mssqlRow rowIndex
  collect cells mssqlCellToTiberiusOwned

def ColumnData.cell : ColumnData → MssqlCell
  | .bit value => .bit value
  | .u8 value => .tinyInt value
  | .i16 value => .smallInt value
  | .i32 value => .int value
  | .i64 value => .bigInt value
  | .numeric value => .decimal (value.map fun value => ⟨value.value, value.scale⟩)
  | .date value => .date value
  | .time value => .time value
  | .dateTime value => .dateTime value
  | .dateTime2 value => .dateTime2 value
  | .dateTimeOffset value => .dateTimeOffset value
  | .f32 value => .real value
  | .f64 value => .float value
  | .string value => .nVarChar value
  | .binary value => .varBinary value

theorem cell_mssqlCellToTiberiusOwned {cell : MssqlCell} {data : ColumnData}
    (h : mssqlCellToTiberiusOwned cell = .ok data) : data.cell = cell := by
  cases cell with
  | decimal value =>
    cases value with
    | none =>
      cases h
      rfl
    | some value =>
      obtain ⟨number, hnumber, hdata⟩ := bind_eq_ok.mp h
      unfold tiberiusNumeric Numeric.newWithScale at hnumber
      split at hnumber
      case isTrue =>
        cases hnumber
        cases hdata
        rfl
      case isFalse => cases hnumber
  | _ =>
    cases h
    rfl

theorem exists_columnData {cell : MssqlCell} (h : ∀ value, cell = .decimal (some value) → value.scale < 38) :
    ∃ data, mssqlCellToTiberiusOwned cell = .ok data := by
  cases cell with
  | decimal value =>
    cases value with
    | none => exact ⟨_, rfl⟩
    | some value =>
      refine ⟨.numeric (some ⟨value.unscaled, value.scale, h value rfl⟩), bind_eq_ok.mpr ⟨_, ?_, rfl⟩⟩
      exact dif_pos (h value rfl)
  | _ => exact ⟨_, rfl⟩

section Scale

variable {mapping : SchemaMapping} {rowIndex : ℕ} {value : MssqlDecimal}

theorem scale_of_decimalWithShape {unscaled : ℤ} {precision scale : ℕ}
    (h : mssqlDecimalWithShape mapping rowIndex unscaled precision scale = .ok value) : value.scale = scale := by
  obtain ⟨_, -, hvalue⟩ := bind_eq_ok.mp h
  cases hvalue
  rfl

variable [Externals]

theorem targetScale_lt {classification : DecimalArrowToMssql}
    (h : DecimalArrowToMssql.classify mapping rowIndex = .ok classification) : classification.targetScale < 38 := by
  obtain ⟨⟨precision, scale⟩, htarget, h⟩ := bind_eq_ok.mp h
  obtain ⟨_, -, h⟩ := bind_eq_ok.mp h
  obtain ⟨_, -, h⟩ := bind_eq_ok.mp h
  cases h
  unfold decimalTarget at htarget
  split at htarget
  case h_1 =>
    simp only [bind_eq_ok, ensure_eq_ok, pure_eq_ok, Except.ok.injEq, Prod.mk.injEq] at htarget
    obtain ⟨_, -, _, hlt, -, rfl⟩ := htarget
    exact Nat.lt_of_not_ge hlt
  case h_2 => cases htarget

theorem scale_lt_of_mssqlDecimalValue {cell : ArrowCell} (h : mssqlDecimalValue mapping rowIndex cell = .ok value) :
    value.scale < 38 := by
  unfold mssqlDecimalValue at h
  split at h
  case isTrue =>
    obtain ⟨scale, hscale, h⟩ := bind_eq_ok.mp h
    have hlt : scale < 38 := by
      unfold decimalScale at hscale
      split at hscale
      case h_1 =>
        simp only [bind_eq_ok, ensure_eq_ok, pure_eq_ok, Except.ok.injEq] at hscale
        obtain ⟨_, -, _, hlt, rfl⟩ := hscale
        exact Nat.lt_of_not_ge hlt
      case h_2 => cases hscale
    obtain ⟨_, -, h⟩ := bind_eq_ok.mp h
    split at h
    case h_1 =>
      obtain ⟨_, -, h⟩ := bind_eq_ok.mp h
      unfold mssqlDecimal at h
      split at h
      case h_1 => exact scale_of_decimalWithShape h ▸ hlt
      case h_2 => cases h
    case h_2 => cases h
  case isFalse =>
    obtain ⟨classification, hclassification, h⟩ := bind_eq_ok.mp h
    have hlt := targetScale_lt hclassification
    split at h
    case h_5 => cases h
    case h_4 =>
      obtain ⟨_, -, h⟩ := bind_eq_ok.mp h
      obtain ⟨_, -, h⟩ := bind_eq_ok.mp h
      exact scale_of_decimalWithShape h ▸ hlt
    all_goals
      obtain ⟨_, -, h⟩ := bind_eq_ok.mp h
      exact scale_of_decimalWithShape h ▸ hlt

theorem nullMssqlCell_ne_decimal : nullMssqlCell mapping rowIndex ≠ .ok (.decimal (some value)) := by
  intro h
  unfold nullMssqlCell nullTimeCell nullDatetimeCell nullDatetime2Cell nullDatetimeoffsetCell at h
  split at h
  case h_6 =>
    split at h
    all_goals cases h
  case h_8 =>
    obtain ⟨classification, -, h⟩ := bind_eq_ok.mp h
    split at h
    all_goals cases h
  case h_11 =>
    obtain ⟨classification, -, h⟩ := bind_eq_ok.mp h
    split at h
    case h_2 => cases h
    case h_1 =>
      obtain ⟨_, -, h⟩ := bind_eq_ok.mp h
      cases h
  case h_9 | h_10 =>
    obtain ⟨_, -, h⟩ := bind_eq_ok.mp h
    obtain ⟨_, -, h⟩ := bind_eq_ok.mp h
    cases h
  all_goals cases h

theorem primitiveMssqlCell_ne_decimal {cell : ArrowCell} :
    primitiveMssqlCell mapping rowIndex cell ≠ .ok (.decimal (some value)) := by
  intro h
  unfold primitiveMssqlCell realCell at h
  split at h
  case h_9 =>
    obtain ⟨_, -, h⟩ := bind_eq_ok.mp h
    cases h
  case h_10 | h_11 | h_12 =>
    split at h
    all_goals cases h
  all_goals cases h

theorem variableWidthCell_ne_decimal {cell : ArrowCell} {length : MssqlTypeLength} :
    nvarCharCell mapping rowIndex length cell ≠ .ok (.decimal (some value)) ∧
      varBinaryCell mapping rowIndex length cell ≠ .ok (.decimal (some value)) := by
  constructor
  all_goals
    intro h
    obtain ⟨classification, -, h⟩ := bind_eq_ok.mp h
    cases classification
    all_goals
      simp only [bind_eq_ok, pure_eq_ok, Except.ok.injEq, reduceCtorEq, and_false, exists_false, fail_ne_ok] at h

theorem binaryCell_ne_decimal {cell : ArrowCell} {length : ℕ} :
    binaryCell mapping rowIndex length cell ≠ .ok (.decimal (some value)) := by
  intro h
  obtain ⟨classification, -, h⟩ := bind_eq_ok.mp h
  cases classification
  simp only [bind_eq_ok, pure_eq_ok, Except.ok.injEq, reduceCtorEq, and_false, exists_false] at h

theorem scale_lt_of_mssqlCellFromArrowCell {context : RuntimeConversionContext} {cell : ArrowCell}
    (h : mssqlCellFromArrowCell context mapping cell rowIndex = .ok (.decimal (some value))) : value.scale < 38 := by
  unfold mssqlCellFromArrowCell at h
  split at h
  case h_1 =>
    obtain ⟨_, -, h⟩ := bind_eq_ok.mp h
    exact absurd h nullMssqlCell_ne_decimal
  case h_2 =>
    split at h
    case h_8 =>
      obtain ⟨_, hvalue, h⟩ := bind_eq_ok.mp h
      cases h
      exact scale_lt_of_mssqlDecimalValue hvalue
    case h_14 => exact absurd h variableWidthCell_ne_decimal.1
    case h_15 => exact absurd h variableWidthCell_ne_decimal.2
    case h_16 => exact absurd h binaryCell_ne_decimal
    case h_9 | h_10 | h_11 | h_12 | h_13 =>
      obtain ⟨_, -, h⟩ := bind_eq_ok.mp h
      cases h
    all_goals exact absurd h primitiveMssqlCell_ne_decimal

end Scale

section Row

variable [Externals] {view : RecordBatchView} {rowIndex : ℕ}

theorem mssqlRow_of_tiberiusRowOwned {row : TokenRow} (h : tiberiusRowOwned view rowIndex = .ok row) :
    view.mssqlRow rowIndex = .ok (row.map ColumnData.cell) := by
  obtain ⟨cells, hcells, hrow⟩ := bind_eq_ok.mp h
  have hsame : row.map ColumnData.cell = cells := by
    have hall := collect_eq_ok_iff.mp hrow
    clear h hrow hcells
    induction hall with
    | nil => rfl
    | cons hcell _ ih => rw [List.map_cons, ih, cell_mssqlCellToTiberiusOwned hcell]
  rw [hsame, hcells]

theorem exists_tiberiusRowOwned {cells : List MssqlCell} (h : view.mssqlRow rowIndex = .ok cells) :
    ∃ row, tiberiusRowOwned view rowIndex = .ok row := by
  obtain ⟨row, hrow⟩ : ∃ row, collect cells mssqlCellToTiberiusOwned = .ok row := by
    apply collect_succeeds_iff.mpr
    intro cell hcell
    apply exists_columnData
    rintro value rfl
    obtain ⟨_, -, hcollect⟩ := bind_eq_ok.mp h
    obtain ⟨hlength, hcells⟩ := collect_eq_ok_iff_getElem?.mp hcollect
    obtain ⟨i, hi⟩ := List.mem_iff_getElem?.mp hcell
    obtain ⟨hlt, -⟩ := List.getElem?_eq_some_iff.mp hi
    obtain ⟨_, -, hconvert⟩ := bind_eq_ok.mp (hcells i _ _ (List.getElem?_eq_getElem (hlength ▸ hlt)) hi)
    exact scale_lt_of_mssqlCellFromArrowCell hconvert
  exact ⟨row, bind_eq_ok.mpr ⟨cells, h, hrow⟩⟩

end Row

end ArrowTiberius
