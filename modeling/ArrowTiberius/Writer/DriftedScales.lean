import Mathlib.Data.Rat.Defs
import Mathlib.Tactic.NormNum
import ArrowTiberius.Writer.CreatedTable

namespace ArrowTiberius.Writer

open Checked Direct Stepping Tds

section Times

def secondsOf (value : MssqlTime) : ℚ := value.increments / 10 ^ value.scale

def timeOfDay : MssqlCell → Option ℚ
  | .time (some value) => some (secondsOf value)
  | .dateTime2 (some value) => some (secondsOf value.time)
  | .dateTimeOffset (some value) => some (secondsOf value.datetime2.time)
  | _ => none

/-- What a column makes of a cell that was written for another one: the cell itself where they have one type, and else a
cell of another time, unless it is null or midnight. -/
structure ReadOff (ty ty' : MssqlType) (cell cell' : MssqlCell) : Prop where
  same : ty' = ty → cell' = cell
  drifted : ty' ≠ ty → (timeOfDay cell' = timeOfDay cell ↔ cell = ty.nullCell ∨ timeOfDay cell = some 0)

variable {ty ty' : MssqlType} {nullable : Bool} {cell : MssqlCell}

theorem secondsOf_rescale {value : MssqlTime} {scale : ℕ} (h : scale ≠ value.scale) :
    secondsOf { value with scale } = secondsOf value ↔ secondsOf value = 0 := by
  have hpow (n : ℕ) : (10 ^ n : ℚ) ≠ 0 := pow_ne_zero n (by norm_num)
  simp only [secondsOf, div_eq_zero_iff, hpow, or_false]
  constructor
  · intro hsame
    rw [div_eq_div_iff (hpow _) (hpow _)] at hsame
    by_contra hnonzero
    have hpowers : 10 ^ value.scale = 10 ^ scale := by exact_mod_cast mul_left_cancel₀ hnonzero hsame
    exact h (Nat.pow_right_injective (by decide) hpowers).symm
  · intro hzero
    rw [hzero, zero_div, zero_div]

theorem readOff_reread (hrescaled : Rescaled ty ty') (h : Holds ty nullable cell) :
    ReadOff ty ty' cell (reread ty' cell) := by
  constructor
  · rintro rfl
    exact reread_of_holds h
  · intro hne
    obtain ⟨-, rfl⟩ | h := h
    · refine iff_of_true ?_ (.inl rfl)
      cases hrescaled with
      | same => exact absurd rfl hne
      | _ => rfl
    · cases hrescaled with
      | same => exact absurd rfl hne
      | @time precision precision' =>
        cases h with
        | @time _ value hvalid hscale =>
          have hdrift : precision'.get ≠ value.scale := by
            intro hget
            rw [hscale] at hget
            obtain ⟨get, hle⟩ := precision
            obtain ⟨get', hle'⟩ := precision'
            obtain rfl : get' = get := hget
            exact hne rfl
          simpa [reread, rescale, timeOfDay, MssqlType.nullCell] using secondsOf_rescale hdrift
      | @dateTime2 precision precision' =>
        cases h with
        | @dateTime2 value =>
          have hdrift : precision' ≠ value.time.scale := fun hget => hne (congrArg MssqlType.dateTime2 hget)
          simpa [reread, rescale, timeOfDay, MssqlType.nullCell] using secondsOf_rescale hdrift
      | @dateTimeOffset precision precision' =>
        cases h with
        | @dateTimeOffset value =>
          have hdrift : precision' ≠ value.datetime2.time.scale := fun hget =>
            hne (congrArg MssqlType.dateTimeOffset hget)
          simpa [reread, rescale, timeOfDay, MssqlType.nullCell] using secondsOf_rescale hdrift

end Times

section Runs

variable [Driver] [Externals] {schema : List Field} {profile : MssqlProfile} {planOptions : PlanOptions}
  {outcome : PlanOutcome PlannedSchema} {client client' : Driver.Client} {table : TableName} {options : WriteOptions}
  {request : Driver.Request} {plannedSchema : PlannedSchema} {writer : BulkWriter}

theorem usesDirectEncoder_of_new (h : BulkWriter.new client table plannedSchema options = .ok writer)
    (hbackend : options.backend ≠ .baselineTokenRow) : usesDirectEncoder writer.state.backend = true := by
  obtain ⟨state, hstate, h⟩ := bind_eq_ok.mp h
  obtain ⟨request, -, h⟩ := bind_eq_ok.mp h
  cases h
  obtain ⟨backend, hresolved, hstate⟩ := bind_eq_ok.mp (mapError_eq_ok.mp hstate)
  obtain ⟨directEncoder, -, hstate⟩ := bind_eq_ok.mp hstate
  cases hstate
  cases hrequested : options.backend with
  | baselineTokenRow => exact absurd hrequested hbackend
  | auto | directRawBulk | directFramedBulk =>
    rw [hrequested] at hresolved
    cases hresolved
    rfl

theorem backend_of_writeBatches (hlimit : BinaryWithinLimit plannedSchema.mappings)
    (h : ∃ load, Loads plannedSchema writer load) (batches : List RecordBatch) :
    (writer.writeBatches batches).2.state.backend = writer.state.backend := by
  have hkept := @run_keeps _ _ _ callStep batches writer
    (fun other => (∃ load, Loads plannedSchema other load) ∧ other.state.backend = writer.state.backend)
    (by
      rintro batch - other ⟨⟨load, hloads⟩, hbackend⟩
      exact ⟨loads_keeps hlimit batch other ⟨load, hloads⟩, (backend_of_call hloads.follows hlimit batch).trans hbackend⟩)
    ⟨h, rfl⟩
  rw [writeBatches_eq_run]
  exact hkept.2

omit [Driver] [Externals] in
theorem readOff_readRow {mappings : List SchemaMapping} {columns : List MssqlColumn}
    (hcolumns : List.Forall₂ LoadsInto mappings columns)
    (htypes : ∀ mapping ∈ mappings, createdType mapping.mssql.ty = mapping.mssql.ty) {row : List MssqlCell}
    (hrow : HoldRow (columnTexts (mssqlColumnsFromMappings mappings)) row) {i : ℕ} {mapping : SchemaMapping}
    {column : MssqlColumn} {cell : MssqlCell} (hmapping : mappings[i]? = some mapping)
    (hcolumn : columns[i]? = some column) (hcell : row[i]? = some cell) :
    ∃ cell', (readRow (fun column => reread column.2.1) (columnTexts columns) row)[i]? = some cell' ∧
      ReadOff mapping.mssql.ty column.ty cell cell' := by
  refine ⟨reread column.ty cell, ?_, ?_⟩
  · rw [readRow, List.getElem?_zipWith, columnTexts, List.getElem?_map, hcolumn, hcell]
    rfl
  · rw [HoldRow, columnTexts, mssqlColumnsFromMappings, List.map_map, List.forall₂_map_left_iff] at hrow
    obtain ⟨hi, rfl⟩ := List.getElem?_eq_some_iff.mp hmapping
    obtain ⟨hi', rfl⟩ := List.getElem?_eq_some_iff.mp hcolumn
    obtain ⟨hi'', rfl⟩ := List.getElem?_eq_some_iff.mp hcell
    have hloads : LoadsInto mappings[i] columns[i] := (List.forall₂_iff_get.mp hcolumns).2 i hi hi'
    have hholds : Holds (createdType mappings[i].mssql.ty) mappings[i].mssql.nullable row[i] :=
      (List.forall₂_iff_get.mp hrow).2 i hi hi''
    rw [htypes _ (List.getElem_mem hi)] at hholds
    exact readOff_reread hloads.ty hholds

/-- A direct writer starts on a table whose times have other scales of the same width. What it hands over are the rows of
the load, and what the table takes of them are those rows but for the times, which are other ones except at midnight. -/
theorem drifted_scales_are_misread {server : Server} (hserver : server.Documented)
    (hplan : planArrowSchemaToMssqlSchema schema profile planOptions = .ok outcome)
    (hencodable : ∀ mapping ∈ outcome.value.mappings, mapping.mssql.ty ≠ .decimal 38 38)
    (hbackend : options.backend ≠ .baselineTokenRow) {columns : List MssqlColumn}
    (hcolumns : List.Forall₂ LoadsInto outcome.value.mappings columns) {created : server.Table}
    (hcreated : server.createTable (createTableSql table columns {}) = some created)
    (hdescribes : Driver.bulkInsertColumns client table.quotedSql = (.ok (server.columns created), client'))
    (hstarts : Driver.bulkInsertWithColumns client' table.quotedSql (server.columns created) = .ok request) :
    ∃ writer, BulkWriter.new client table outcome.value options = .ok writer ∧
      ∀ batches calls final, writer.writeBatches batches = (calls, final) → ∃ load,
        Trace (fun batch load => Load.Writes outcome.value batch load) batches ⟨[], {}⟩ (calls.map Call.result) load ∧
          handedRows final.state.directEncoder final.handed = some load.rows ∧ final.state.stats = load.stats ∧
          ∀ taken, server.takeAll created final.handed = some taken →
            List.Forall₂ (fun row row' => ∀ (i : ℕ) mapping column cell, outcome.value.mappings[i]? = some mapping →
              columns[i]? = some column → row[i]? = some cell →
              ∃ cell', row'[i]? = some cell' ∧ ReadOff mapping.mssql.ty column.ty cell cell') load.rows taken := by
  obtain ⟨encoder, hencoder⟩ := succeeds_iff.mp ((newWithContext_planned ⟨outcome.value.profile,
    outcome.value.planOptions⟩ hplan).mpr hencodable)
  have hlimit := binaryWithinLimit_of_planned hplan
  have hsql := readCreateTable_createTableSql table columns {}
  obtain ⟨writer, hnew⟩ := @new_of_described _ _ _ _ _ _ options _ _ _ _ hencoder hcolumns
    (hserver.describes hsql hcreated) hdescribes hstarts
  refine ⟨writer, hnew, ?_⟩
  intro batches calls final hrun
  obtain ⟨load, htrace, hloads⟩ := trace_of_writeBatches hlimit (loads_of_new hnew) hrun
  refine ⟨load, htrace, hloads.rows, hloads.stats, ?_⟩
  intro taken htaken
  have hdirect : usesDirectEncoder final.state.backend = true := by
    have hsame := backend_of_writeBatches hlimit ⟨_, loads_of_new hnew⟩ batches
    rw [hrun] at hsame
    rw [hsame]
    exact usesDirectEncoder_of_new hnew hbackend
  have hhold := holdRow_of_trace hencoder htrace
  rw [taken_of_direct hserver hcolumns hcreated hloads hdirect htaken, List.forall₂_map_right_iff]
  apply List.forall₂_same.mpr
  intro row hrow i mapping column cell hmapping hcolumn hcell
  exact readOff_readRow hcolumns (createdType_of_encoder hencoder) (hhold row hrow) hmapping hcolumn hcell

end Runs

section Sample

def secondsMappings : List SchemaMapping := [⟨⟨0, "at", false, .time32 .second⟩, ⟨⟨"at", valid_at⟩, .time .zero, false⟩⟩]

def secondsSchema : PlannedSchema := ⟨sampleProfile, {}, secondsMappings⟩

theorem one_le_seven : 1 ≤ 7 := by decide

theorem sixty_fits : fitsSigned 32 60 := by decide

def secondsBatch : RecordBatch where
  schema := [⟨"at", .time32 .second, false⟩]
  numRows := 2
  columns := [⟨.time32 .second, ⟨2, fun _ => false, fun i => if i = 0 then ⟨60, sixty_fits⟩ else ⟨0, zero_fits⟩⟩⟩]
  typed := rfl
  sized := by simp [ArrayRef.len]
  addressable := two_rows_addressable

def secondsBytes : List UInt8 := [0xd1, 3, 60, 0, 0, 0xd1, 3, 0, 0, 0]

def tenthsColumns : List MssqlColumn := [⟨⟨"at", valid_at⟩, .time ⟨1, one_le_seven⟩, false⟩]

def tenthsDefinition : TableDefinition := ⟨none, "events", columnTexts tenthsColumns⟩

theorem createTable_tenths :
    sampleServer.createTable (createTableSql sampleTable tenthsColumns {}) = some tenthsDefinition :=
  (createTable_sampleServer _).trans (readCreateTable_createTableSql sampleTable _ {})

theorem drifted_scales_are_misread_at_tenths : ∃ writer calls final,
    @BulkWriter.new boundlessLoad .silent (sampleServer.columns tenthsDefinition) sampleTable secondsSchema {} =
      .ok writer ∧
    @BulkWriter.writeBatches boundlessLoad .silent writer [secondsBatch] = (calls, final) ∧
    Trace (fun batch load => @Load.Writes .silent secondsSchema batch load) [secondsBatch] ⟨[], {}⟩
      (calls.map (@Call.result boundlessLoad)) ⟨[[.time (some ⟨60, 0⟩)], [.time (some ⟨0, 0⟩)]], ⟨2, 1⟩⟩ ∧
    sampleServer.takeAll tenthsDefinition (@BulkWriter.handed boundlessLoad final) =
      some [[.time (some ⟨60, 1⟩)], [.time (some ⟨0, 1⟩)]] ∧
    ReadOff (.time .zero) (.time ⟨1, one_le_seven⟩) (.time (some ⟨60, 0⟩)) (.time (some ⟨60, 1⟩)) := by
  have hcolumns : List.Forall₂ LoadsInto secondsMappings tenthsColumns :=
    .cons ⟨rfl, rfl, .time ⟨by decide, by decide⟩⟩ .nil
  obtain ⟨writer, hnew, hruns⟩ := @drifted_scales_are_misread boundlessLoad .silent secondsBatch.schema sampleProfile {}
    ⟨secondsSchema, []⟩ (sampleServer.columns tenthsDefinition) (sampleServer.columns tenthsDefinition) sampleTable {} ()
    sampleServer documented_sampleServer rfl (by decide) (by decide) tenthsColumns hcolumns tenthsDefinition
    createTable_tenths rfl rfl
  obtain rfl := Except.ok.inj hnew
  refine ⟨_, _, _, rfl, rfl, ?_⟩
  obtain ⟨⟨rows, stats⟩, htrace, hrows, hstats, hread⟩ := hruns [secondsBatch] _ _ rfl
  obtain rfl : [[.time (some ⟨60, 0⟩)], [.time (some ⟨0, 0⟩)]] = rows := Option.some.inj hrows
  obtain rfl : ⟨2, 1⟩ = stats := hstats
  have htook : sampleServer.takeAll tenthsDefinition [.rawRows secondsBytes [0, 5]] =
      some [[.time (some ⟨60, 1⟩)], [.time (some ⟨0, 1⟩)]] := by decide +kernel
  refine ⟨htrace, htook, ?_⟩
  obtain _ | ⟨hfirst, -⟩ := hread _ htook
  obtain ⟨cell, hcell, hreadOff⟩ := hfirst 0 _ _ _ rfl rfl rfl
  obtain rfl := Option.some.inj hcell
  exact hreadOff

end Sample

end ArrowTiberius.Writer
