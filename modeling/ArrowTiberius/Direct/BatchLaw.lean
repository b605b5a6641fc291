import ArrowTiberius.Direct.BindingLaw
import ArrowTiberius.Schema.Soundness

namespace ArrowTiberius.Direct

open Checked Tiling

def BinaryWithinLimit (mappings : List SchemaMapping) : Prop :=
  ∀ mapping ∈ mappings, ∀ length, mapping.mssql.ty = .binary length → length ≤ 8000

instance (mappings : List SchemaMapping) : Decidable (BinaryWithinLimit mappings) :=
  decidable_of_iff (∀ mapping ∈ mappings, ∀ length ∈ (match mapping.mssql.ty with
    | .binary length => some length
    | _ => none), length ≤ 8000) <| by
    refine forall₂_congr fun mapping _ => ⟨fun h length hty => h length (by simp [hty]), fun h length hlength => ?_⟩
    split at hlength
    case h_1 hty =>
      cases hlength
      exact h _ hty
    case h_2 => cases hlength

theorem BinaryWithinLimit.announces {mappings : List SchemaMapping} (h : BinaryWithinLimit mappings)
    {mapping : SchemaMapping} (hmem : mapping ∈ mappings) : AnnouncesLength mapping.mssql.ty :=
  fun length hty => (h mapping hmem length hty).trans (by decide)

variable [Externals]

namespace BoundDirectBatch

def cellBytes (bound : BoundDirectBatch) (rowIndex columnIndex : ℕ) : Option (List UInt8) :=
  bound.columns[columnIndex]?.bind fun column => column.cellBytes bound.runtimeContext rowIndex

def Accepts (bound : BoundDirectBatch) : Prop :=
  ∀ r < bound.rowCount, ∀ c < bound.columns.length, (bound.cellBytes r c).isSome

def bytes (bound : BoundDirectBatch) (rowIndex columnIndex : ℕ) : List UInt8 :=
  (bound.cellBytes rowIndex columnIndex).getD []

def cellLength (bound : BoundDirectBatch) (rowIndex columnIndex : ℕ) : ℕ :=
  (bound.bytes rowIndex columnIndex).length

def Lawful (bound : BoundDirectBatch) : Prop :=
  ∀ column ∈ bound.columns, column.Lawful bound.runtimeContext bound.rowCount

end BoundDirectBatch

section New

variable {encoder : DirectEncoder} {batch : RecordBatch} {bound : BoundDirectBatch}
  {mappings : List SchemaMapping} {context : RuntimeConversionContext}

theorem encoder_column (h : DirectEncoder.newWithContext mappings context = .ok encoder) {i : ℕ}
    {column : DirectColumnPlan} (hcolumn : encoder.plan.columns[i]? = some column) :
    ∃ mapping encoding, mappings[i]? = some mapping ∧ Encodes mapping.arrow.dataType mapping.mssql.ty encoding ∧
      column = DirectColumnPlan.fromMapping mapping encoding := by
  obtain ⟨-, -, hcollect⟩ := newWithContext_eq_ok.mp h
  obtain ⟨hlength, hcolumns⟩ := collect_eq_ok_iff_getElem?.mp hcollect
  obtain ⟨hi, -⟩ := List.getElem?_eq_some_iff.mp hcolumn
  have hmapping : mappings[i]? = some mappings[i] := List.getElem?_eq_getElem (by omega)
  obtain ⟨encoding, hencodes, hplan⟩ := planColumn_eq_ok.mp (hcolumns i _ _ hmapping hcolumn)
  exact ⟨_, encoding, hmapping, hencodes, hplan⟩

theorem length_planColumns (h : DirectEncoder.newWithContext mappings context = .ok encoder) :
    encoder.plan.columns.length = mappings.length :=
  (collect_eq_ok_iff_getElem?.mp (newWithContext_eq_ok.mp h).2.2).1.symm

theorem length_boundColumns {columns : List BoundDirectColumn} (h : bindDirectColumns encoder batch = .ok columns) :
    columns.length = encoder.plan.columns.length := by
  obtain ⟨hlength, -⟩ := collect_eq_ok_iff_getElem?.mp h
  rw [← hlength, List.length_zipIdx]

theorem bound_column (h : DirectEncoder.newWithContext mappings context = .ok encoder)
    {columns : List BoundDirectColumn} (hbind : bindDirectColumns encoder batch = .ok columns) {i : ℕ}
    {b : BoundDirectColumn} (hb : columns[i]? = some b) :
    ∃ mapping encoding array, mappings[i]? = some mapping ∧
      Encodes mapping.arrow.dataType mapping.mssql.ty encoding ∧
      batch.columns[mapping.arrow.index]? = some array ∧
      bindDirectArray encoder array i (DirectColumnPlan.fromMapping mapping encoding) = .ok b := by
  obtain ⟨hlength, hcolumns⟩ := collect_eq_ok_iff_getElem?.mp hbind
  obtain ⟨hi, -⟩ := List.getElem?_eq_some_iff.mp hb
  rw [List.length_zipIdx] at hlength
  have hcolumn : encoder.plan.columns[i]? = some encoder.plan.columns[i] := List.getElem?_eq_getElem (by omega)
  have hpair : encoder.plan.columns.zipIdx[i]? = some (encoder.plan.columns[i], i) := by
    rw [List.getElem?_zipIdx, hcolumn]
    simp
  obtain ⟨mapping, encoding, hmapping, hencodes, hplan⟩ := encoder_column h hcolumn
  obtain ⟨array, harray, hb'⟩ := bind_eq_ok.mp (hcolumns i _ b hpair hb)
  rw [hplan] at harray hb'
  exact ⟨mapping, encoding, array, hmapping, hencodes, okOr_eq_ok.mp harray, hb'⟩

theorem boundBatch_new_eq_ok : BoundDirectBatch.new encoder batch = .ok bound ↔
    bindDirectColumns encoder batch = .ok bound.columns ∧ bound.runtimeContext = encoder.runtimeContext ∧
      bound.rowCount = batch.numRows := by
  simp only [BoundDirectBatch.new, bind_eq_ok, pure_eq_ok, Except.ok.injEq]
  constructor
  · rintro ⟨columns, hcolumns, rfl⟩
    exact ⟨hcolumns, rfl, rfl⟩
  · rintro ⟨hcolumns, hcontext, hrows⟩
    refine ⟨_, hcolumns, ?_⟩
    rw [← hcontext, ← hrows]

theorem lawful_of_new (h : DirectEncoder.newWithContext mappings context = .ok encoder)
    (hlimit : BinaryWithinLimit mappings) (hbound : BoundDirectBatch.new encoder batch = .ok bound) :
    bound.Lawful := by
  obtain ⟨hcolumns, -, hrows⟩ := boundBatch_new_eq_ok.mp hbound
  obtain ⟨hmappings, -⟩ := newWithContext_eq_ok.mp h
  intro b hb
  obtain ⟨i, hi⟩ := List.mem_iff_getElem?.mp hb
  obtain ⟨mapping, encoding, array, hmapping, hencodes, harray, hbind⟩ := bound_column h hcolumns hi
  rw [hrows, ← batch.sized array (List.mem_of_getElem? harray)]
  exact lawful_of_bind hencodes (hlimit.announces (List.mem_of_getElem? hmapping)) (hmappings ▸ hmapping) hbind

end New

namespace BoundDirectBatch

theorem measureCellLengths_of_columns {bound : BoundDirectBatch} {cellLength : ℕ → ℕ → Option ℕ}
    (h : ∀ (k : ℕ) column, bound.columns[k]? = some column → MeasuresColumn bound.rowCount (fun r => cellLength r k)
      (column.measureCellLengths bound.runtimeContext)) {cellLengths : List ℕ} :
    bound.measureCellLengths = .ok cellLengths ↔ bound.rowCount * bound.columns.length < 2 ^ 64 ∧
      (∀ r < bound.rowCount, ∀ c < bound.columns.length, (cellLength r c).isSome) ∧
      cellLengths = table bound.rowCount bound.columns.length fun r c => (cellLength r c).getD 0 := by
  unfold BoundDirectBatch.measureCellLengths
  split
  case isTrue hzero =>
    have hempty : (table bound.rowCount bound.columns.length fun r c => (cellLength r c).getD 0) = [] := by
      rw [hzero]
      rfl
    rw [hempty, hzero, Nat.zero_mul, Except.ok.injEq]
    exact ⟨fun h => ⟨by decide, fun r hr => absurd hr (by omega), h.symm⟩, fun h => h.2.2.symm⟩
  case isFalse hpos =>
    have hloop := @forEach_zipIdx_eq_ok_iff Error _ _ bound.columns
      (fun cellLengths x => x.1.measureCellLengths bound.runtimeContext ⟨x.2, bound.columns.length⟩ cellLengths)
      (fun k => ∀ r < bound.rowCount, (cellLength r k).isSome)
      (fun k => table bound.rowCount bound.columns.length fun r c => if c < k then (cellLength r c).getD 0 else 0) 0
      (by
        intro k column hcolumn s'
        obtain ⟨hk, -⟩ := List.getElem?_eq_some_iff.mp hcolumn
        rw [Nat.zero_add, h k column hcolumn hk]
        refine and_congr_right fun _ => Eq.congr_right (table_congr fun r hr c _ => ?_)
        by_cases hc : c = k
        · rw [if_pos hc, if_pos (by omega), hc]
        · rw [if_neg hc, if_congr (show c < k + 1 ↔ c < k by omega) rfl rfl])
    have hzeros : List.replicate (bound.rowCount * bound.columns.length) 0 =
        table bound.rowCount bound.columns.length fun r c => if c < 0 then (cellLength r c).getD 0 else 0 := by
      refine (List.eq_replicate_iff.mpr ⟨length_table _ _ _, ?_⟩).symm
      intro n hn
      obtain ⟨r, -, c, -, rfl⟩ := mem_table.mp hn
      rfl
    have hlast : (table bound.rowCount bound.columns.length fun r c =>
        if c < 0 + bound.columns.length then (cellLength r c).getD 0 else 0) =
        table bound.rowCount bound.columns.length fun r c => (cellLength r c).getD 0 :=
      table_congr fun r _ c hc => if_pos (by omega)
    simp only [Nat.zero_add] at hloop hlast
    simp only [bind_eq_ok, unsignedOp_eq_ok, fitsUnsigned_64]
    constructor
    · rintro ⟨_, ⟨⟨-, hlt⟩, rfl⟩, hrun⟩
      rw [Int.toNat_natCast, hzeros, hloop, hlast] at hrun
      refine ⟨by exact_mod_cast hlt, ?_, hrun.2⟩
      intro r hr c hc
      exact hrun.1 c hc r hr
    · rintro ⟨hlt, haccepts, rfl⟩
      refine ⟨_, ⟨⟨by positivity, by exact_mod_cast hlt⟩, rfl⟩, ?_⟩
      rw [Int.toNat_natCast, hzeros, hloop, hlast]
      exact ⟨fun c hc r hr => haccepts r hr c hc, rfl⟩

theorem measureLayout_of_columns {bound : BoundDirectBatch} {cellLength : ℕ → ℕ → Option ℕ}
    (h : ∀ (k : ℕ) column, bound.columns[k]? = some column → MeasuresColumn bound.rowCount (fun r => cellLength r k)
      (column.measureCellLengths bound.runtimeContext)) {layout : RowLayout} :
    bound.measureLayout = .ok layout ↔
      (∀ r < bound.rowCount, ∀ c < bound.columns.length, (cellLength r c).isSome) ∧
      rowStart bound.columns.length rowTokenLen (fun r c => (cellLength r c).getD 0) bound.rowCount < 2 ^ 64 ∧
      bound.rowCount * bound.columns.length < 2 ^ 64 ∧
      LaysOut bound.rowCount bound.columns.length (fun r c => (cellLength r c).getD 0) layout := by
  unfold BoundDirectBatch.measureLayout
  split
  case isTrue hzero =>
    rw [hzero, Nat.zero_mul, rowStart_zero]
    have hnew := @buildFixedWidthRowRangeLayout_eq_ok 0 bound.columns.length 0 (fun r c => (cellLength r c).getD 0) []
      (by decide) (fun r hr => absurd hr (by omega)) layout
    rw [rowStart_zero] at hnew
    constructor
    · intro hlayout
      exact ⟨fun r hr => absurd hr (by omega), by decide, by decide, (hnew.mp hlayout).2⟩
    · rintro ⟨-, -, -, hlays⟩
      exact hnew.mpr ⟨by decide, hlays⟩
  case isFalse =>
    simp only [bind_eq_ok, measureCellLengths_of_columns h, buildFixedWidthRowLayout]
    have hbuild (hrows : bound.rowCount < 2 ^ 64) :=
      @buildFixedWidthRowRangeLayout_eq_ok bound.rowCount bound.columns.length 0 (fun r c => (cellLength r c).getD 0)
        (table bound.rowCount bound.columns.length fun r c => (cellLength r c).getD 0) (by omega)
        (fun r hr c hc => by rw [Nat.zero_add, getElem?_table hr hc]) layout
    constructor
    · rintro ⟨_, ⟨hcells, haccepts, rfl⟩, hlayout⟩
      obtain ⟨hfits, hlays⟩ := (hbuild (Nat.zero_add bound.rowCount ▸ range_lt_of_build hlayout)).mp hlayout
      exact ⟨haccepts, hfits, hcells, hlays⟩
    · rintro ⟨haccepts, hfits, hcells, hlays⟩
      have hrows := lt_of_le_of_lt (le_rowStart (by decide) bound.rowCount) hfits
      exact ⟨_, ⟨hcells, haccepts, rfl⟩, (hbuild hrows).mpr ⟨hfits, hlays⟩⟩

end BoundDirectBatch

namespace BoundDirectBatch.Lawful

variable {bound : BoundDirectBatch}

theorem cellBytes_of_getElem? {k : ℕ} {column : BoundDirectColumn} (h : bound.columns[k]? = some column) (r : ℕ) :
    bound.cellBytes r k = column.cellBytes bound.runtimeContext r := by
  rw [BoundDirectBatch.cellBytes, h, Option.bind_some]

theorem cellBytes_of_accepts (haccepts : bound.Accepts) {k : ℕ} {column : BoundDirectColumn}
    (hcolumn : bound.columns[k]? = some column) : ∀ r < bound.rowCount,
      column.cellBytes bound.runtimeContext r = some (bound.bytes r k) ∧
        (bound.bytes r k).length = bound.cellLength r k := by
  intro r hr
  obtain ⟨hk, -⟩ := List.getElem?_eq_some_iff.mp hcolumn
  obtain ⟨bytes, hbytes⟩ := Option.isSome_iff_exists.mp (haccepts r hr k hk)
  refine ⟨?_, rfl⟩
  rw [← cellBytes_of_getElem? hcolumn, BoundDirectBatch.bytes, hbytes, Option.getD_some]

theorem measures (h : bound.Lawful) (k : ℕ) (column : BoundDirectColumn) (hcolumn : bound.columns[k]? = some column) :
    MeasuresColumn bound.rowCount (fun r => (bound.cellBytes r k).map List.length)
      (column.measureCellLengths bound.runtimeContext) := by
  simp only [cellBytes_of_getElem? hcolumn]
  exact (h column (List.mem_of_getElem? hcolumn)).measures

theorem getD_cellLength : (fun r c => ((bound.cellBytes r c).map List.length).getD 0) = bound.cellLength := by
  funext r c
  rw [BoundDirectBatch.cellLength, BoundDirectBatch.bytes]
  cases bound.cellBytes r c <;> rfl

theorem measureCellLengths_eq_ok (h : bound.Lawful) {cellLengths : List ℕ} :
    bound.measureCellLengths = .ok cellLengths ↔ bound.rowCount * bound.columns.length < 2 ^ 64 ∧ bound.Accepts ∧
      cellLengths = table bound.rowCount bound.columns.length bound.cellLength := by
  have hmeasured := @measureCellLengths_of_columns _ bound _ h.measures cellLengths
  simp only [Option.isSome_map] at hmeasured
  rw [hmeasured, getD_cellLength]
  rfl

theorem measureLayout_eq_ok (h : bound.Lawful) {layout : RowLayout} : bound.measureLayout = .ok layout ↔
    bound.Accepts ∧ rowStart bound.columns.length rowTokenLen bound.cellLength bound.rowCount < 2 ^ 64 ∧
      bound.rowCount * bound.columns.length < 2 ^ 64 ∧
      LaysOut bound.rowCount bound.columns.length bound.cellLength layout := by
  have hmeasured := @measureLayout_of_columns _ bound _ h.measures layout
  simp only [Option.isSome_map, getD_cellLength] at hmeasured
  exact hmeasured

theorem fill_grid (h : bound.Lawful) (haccepts : bound.Accepts) {layout : RowLayout}
    (hlayout : LaysOut bound.rowCount bound.columns.length bound.cellLength layout)
    (hcells : bound.rowCount * bound.columns.length < 2 ^ 64) (hfits : layout.payloadLen < 2 ^ 64)
    {order : List (BoundDirectColumn × ℕ)} (horder : ∀ x ∈ order, bound.columns[x.2]? = some x.1)
    {cell : ℕ → ℕ → List UInt8}
    (hlen : ∀ r < bound.rowCount, ∀ c < bound.columns.length, (cell r c).length = bound.cellLength r c) :
    forEach order (grid bound.rowCount bound.columns.length [tdsRowToken] cell) (fun bytes x =>
      x.1.fillColumn bound.runtimeContext ⟨x.2, bound.columns.length⟩ layout bytes) =
      .ok (grid bound.rowCount bound.columns.length [tdsRowToken] fun r c =>
        if c ∈ order.map Prod.snd then bound.bytes r c else cell r c) := by
  induction order generalizing cell with
  | nil => simp
  | cons x order ih =>
    have hx := horder x (by simp)
    obtain ⟨hk, -⟩ := List.getElem?_eq_some_iff.mp hx
    have hnew := cellBytes_of_accepts haccepts hx
    rw [forEach_cons, (h x.1 (List.mem_of_getElem? hx)).fill_grid hk hlayout hcells hfits hlen hnew, ok_bind,
      ih fun y hy => horder y (by simp [hy])]
    · refine congrArg Except.ok (grid_congr fun r _ c _ => ?_)
      by_cases hc : c ∈ order.map Prod.snd
      · simp [hc]
      · by_cases hcx : c = x.2
        · simp [hcx]
        · simp [hc, hcx]
    · intro r hr c hc
      by_cases hcx : c = x.2
      · simp only [hcx, if_true]
        exact (hnew r hr).2
      · simp only [hcx, if_false]
        exact hlen r hr c hc

theorem fillColumns_grid (h : bound.Lawful) (haccepts : bound.Accepts) {layout : RowLayout}
    (hlayout : LaysOut bound.rowCount bound.columns.length bound.cellLength layout)
    (hcells : bound.rowCount * bound.columns.length < 2 ^ 64) (hfits : layout.payloadLen < 2 ^ 64)
    {cell : ℕ → ℕ → List UInt8}
    (hlen : ∀ r < bound.rowCount, ∀ c < bound.columns.length, (cell r c).length = bound.cellLength r c) :
    bound.fillColumns layout (grid bound.rowCount bound.columns.length [tdsRowToken] cell) =
      .ok (grid bound.rowCount bound.columns.length [tdsRowToken] bound.bytes) := by
  have hfill := h.fill_grid haccepts hlayout hcells hfits
    (fun x hx => List.mem_zipIdx_iff_getElem?.mp hx) hlen
  refine hfill.trans (congrArg Except.ok (grid_congr fun r _ c hc => if_pos ?_))
  rw [List.zipIdx_map_snd]
  simp [hc]

end BoundDirectBatch.Lawful

omit [Externals] in
theorem valid_id : validateIdentifier "id" .bracketQuoted = .ok () := rfl

omit [Externals] in
theorem valid_note : validateIdentifier "note" .bracketQuoted = .ok () := rfl

omit [Externals] in
theorem two_rows_addressable : 2 < 2 ^ 64 := by decide

def sampleMappings : List SchemaMapping :=
  [⟨⟨0, "id", false, .int32⟩, ⟨⟨"id", valid_id⟩, .int, false⟩⟩,
    ⟨⟨1, "note", true, .binary⟩, ⟨⟨"note", valid_note⟩, .varBinary (.bounded 4), true⟩⟩]

def sampleBatch : RecordBatch where
  schema := [⟨"id", .int32, false⟩, ⟨"note", .binary, true⟩]
  numRows := 2
  columns := [⟨.int32, ⟨2, fun _ => false, fun _ => ⟨7, by decide⟩⟩⟩,
    ⟨.binary, ⟨2, fun i => i = 1, fun _ => [171, 205]⟩⟩]
  typed := rfl
  sized := by simp [ArrayRef.len]
  addressable := two_rows_addressable

def sampleEncoder : DirectEncoder where
  mappings := sampleMappings
  runtimeContext := ⟨sampleProfile, {}⟩
  plan := ⟨[⟨0, "id", .int, false, .primitive .int32ToInt⟩,
    ⟨1, "note", .varBinary (.bounded 4), true, .variableWidth (.bytesToVarBinary (.bounded 4))⟩]⟩

def sampleBound : BoundDirectBatch where
  columns := [.int32 ⟨0, "id", .int, false, .primitive .int32ToInt⟩ ⟨2, fun _ => false, fun _ => ⟨7, by decide⟩⟩,
    .binary ⟨1, "note", .varBinary (.bounded 4), true, .variableWidth (.bytesToVarBinary (.bounded 4))⟩
      ⟨2, fun i => i = 1, fun _ => [171, 205]⟩]
  runtimeContext := ⟨sampleProfile, {}⟩
  rowCount := 2

omit [Externals] in
theorem valid_digest : validateIdentifier "digest" .bracketQuoted = .ok () := rfl

def digestMapping (length : ℕ) : SchemaMapping :=
  ⟨⟨0, "digest", false, .fixedSizeBinary length⟩, ⟨⟨"digest", valid_digest⟩, .binary length, false⟩⟩

def digestPlan (length : ℕ) : DirectColumnPlan :=
  .fromMapping (digestMapping length) (.fixedSizeBinary (.fixedSizeBinaryToBinary length))

def digestBatch (length : ℕ) : RecordBatch where
  schema := [⟨"digest", .fixedSizeBinary length, false⟩]
  numRows := 1
  columns := [⟨.fixedSizeBinary length, ⟨1, fun _ => false, fun _ => ⟨List.replicate length 0, by simp⟩⟩⟩]
  typed := rfl
  sized := by simp [ArrayRef.len]
  addressable := by decide

def digestEncoder (length : ℕ) : DirectEncoder :=
  ⟨[digestMapping length], ⟨sampleProfile, {}⟩, ⟨[digestPlan length]⟩⟩

def digestColumn (length : ℕ) : BoundDirectColumn :=
  .fixedSizeBinary (digestPlan length) (.fixedSizeBinaryToBinary length)
    ⟨1, fun _ => false, fun _ => List.replicate length 0⟩

theorem digest_measures {length : ℕ} (h : 2 + length < 2 ^ 64) (k : ℕ) (column : BoundDirectColumn)
    (hcolumn : [digestColumn length][k]? = some column) :
    MeasuresColumn 1 (fun _ => some (2 + length)) (column.measureCellLengths ⟨sampleProfile, {}⟩) := by
  obtain ⟨hk, -⟩ := List.getElem?_eq_some_iff.mp hcolumn
  obtain rfl : k = 0 := by simpa using hk
  obtain rfl := Option.some.inj hcolumn
  have hcell : FixedSizeBinary.cellLength ⟨1, fun _ => false, fun _ => List.replicate length 0⟩ (digestPlan length)
      length = fun _ => some (2 + length) := by
    funext r
    rw [FixedSizeBinary.cellLength, if_neg Bool.false_ne_true, if_pos ⟨List.length_replicate, h⟩]
  rw [← hcell]
  intro k columns entry cellLengths hk
  exact FixedSizeBinary.measures_cellLength hk

end ArrowTiberius.Direct
