import ArrowTiberius.Writer.Backends
import ArrowTiberius.Writer.Server

namespace ArrowTiberius.Writer

open Checked Direct Stepping Tds

section Rescaling

/-- Types that are the same but for the scale of a time of the same width. -/
inductive Rescaled : MssqlType → MssqlType → Prop
  | same (ty : MssqlType) : Rescaled ty ty
  | time {precision precision' : MssqlTimePrecision} (h : SameTimeWidth precision.get precision'.get) :
    Rescaled (.time precision) (.time precision')
  | dateTime2 {precision precision' : ℕ} (h : SameTimeWidth precision precision') :
    Rescaled (.dateTime2 precision) (.dateTime2 precision')
  | dateTimeOffset {precision precision' : ℕ} (h : SameTimeWidth precision precision') :
    Rescaled (.dateTimeOffset precision) (.dateTimeOffset precision')

def rescale (scale : ℕ) : MssqlCell → MssqlCell
  | .time (some value) => .time (some { value with scale })
  | .dateTime2 (some value) => .dateTime2 (some { value with time := { value.time with scale } })
  | .dateTimeOffset (some value) => .dateTimeOffset (some { value with
      datetime2 := { value.datetime2 with time := { value.datetime2.time with scale } } })
  | cell => cell

def reread : MssqlType → MssqlCell → MssqlCell
  | .time precision, cell => rescale precision.get cell
  | .dateTime2 precision, cell | .dateTimeOffset precision, cell => rescale precision cell
  | _, cell => cell

variable {ty ty' : MssqlType} {nullable : Bool} {cell : MssqlCell}

theorem reread_of_holds (h : Holds ty nullable cell) : reread ty cell = cell := by
  obtain ⟨-, rfl⟩ | h := h
  · cases ty <;> rfl
  · cases h with
    | @time _ value _ hscale =>
      rw [reread, ← hscale]
      rfl
    | _ => rfl

theorem decodeCell_reread (hwidth : plainWidth ty' = plainWidth ty)
    (hframing : framingOf ty' nullable = framingOf ty nullable)
    (hcontent : ∀ bytes, decodeContent ty' bytes = (decodeContent ty bytes).map (reread ty'))
    (hnull : ty'.nullCell = reread ty' ty.nullCell) (bytes : List UInt8) :
    decodeCell ty' nullable bytes = (decodeCell ty nullable bytes).map (Prod.map (reread ty') id) := by
  rw [decodeCell, decodeCell, hwidth, hframing]
  rcases unframe (plainWidth ty) (framingOf ty nullable) bytes with _ | ⟨_ | content, rest⟩
  · rfl
  · simp [hnull]
  · simp only [Option.bind_eq_bind, Option.bind_some, Option.elim_some, hcontent]
    cases decodeContent ty content <;> rfl

theorem reread_decodeContent (ty : MssqlType) (bytes : List UInt8) :
    decodeContent ty bytes = (decodeContent ty bytes).map (reread ty) := by
  cases ty with
  | time | dateTime2 | dateTimeOffset => rfl
  | _ => exact (congrFun Option.map_id _).symm

theorem decodeCell_rescaled (h : Rescaled ty ty') (bytes : List UInt8) :
    decodeCell ty' nullable bytes = (decodeCell ty nullable bytes).map (Prod.map (reread ty') id) := by
  cases h with
  | same =>
    exact decodeCell_reread rfl rfl (reread_decodeContent ty) (@reread_of_holds ty true _ (.inl ⟨rfl, rfl⟩)).symm bytes
  | @time precision precision' =>
    exact @decodeCell_reread (.time precision) (.time precision') _ rfl rfl (fun _ => rfl) rfl bytes
  | @dateTime2 precision precision' hwidth =>
    refine @decodeCell_reread (.dateTime2 precision) (.dateTime2 precision') _ rfl rfl ?_ rfl bytes
    intro content
    simp only [decodeContent, decodeDateTime2, timeLength_eq_iff.mpr hwidth]
    rfl
  | @dateTimeOffset precision precision' hwidth =>
    refine @decodeCell_reread (.dateTimeOffset precision) (.dateTimeOffset precision') _ rfl rfl ?_ rfl bytes
    intro content
    simp only [decodeContent, decodeDateTimeOffset, decodeDateTime2, timeLength_eq_iff.mpr hwidth]
    rfl

end Rescaling

section Columns

structure LoadsInto (mapping : SchemaMapping) (column : MssqlColumn) : Prop where
  name : column.name = mapping.mssql.name
  nullable : column.nullable = mapping.mssql.nullable
  ty : Rescaled mapping.mssql.ty column.ty

variable {mapping : SchemaMapping} {mappings : List SchemaMapping} {column : MssqlColumn} {columns : List MssqlColumn}
  {described : List BulkLoadColumn} {encoding : DirectColumnEncoding}

theorem createdType_of_encodes (hencodes : Encodes mapping.arrow.dataType mapping.mssql.ty encoding)
    (hcolumn : LoadsInto mapping column) : createdType column.ty = column.ty := by
  obtain ⟨-, -, hty⟩ := hcolumn
  generalize mapping.arrow.dataType = dataType at hencodes
  generalize mapping.mssql.ty = ty at hencodes hty
  generalize column.ty = ty' at hty
  cases hty with
  | same => cases hencodes <;> rfl
  | time | dateTime2 | dateTimeOffset => rfl

theorem describedType_of_encodes (hencodes : Encodes mapping.arrow.dataType mapping.mssql.ty encoding)
    (hcolumn : LoadsInto mapping column) :
    describedType column.nullable column.ty = columnTypeOf mapping.mssql.nullable mapping.mssql.ty ∨
      describedType column.nullable column.ty = .datetime ∧
        columnTypeOf mapping.mssql.nullable mapping.mssql.ty = .datetimen := by
  obtain ⟨-, hnullable, hty⟩ := hcolumn
  rw [hnullable]
  generalize mapping.mssql.nullable = nullable
  generalize mapping.arrow.dataType = dataType at hencodes
  generalize mapping.mssql.ty = ty at hencodes hty
  generalize column.ty = ty' at hty
  cases hty with
  | same =>
    cases hencodes with
    | timestampDateTime | timestampTzDateTime => cases nullable <;> simp [describedType, columnTypeOf]
    | _ => exact .inl rfl
  | time | dateTime2 | dateTimeOffset => exact .inl rfl

theorem getElem?_columnTexts (hcolumns : List.Forall₂ LoadsInto mappings columns) {i : ℕ}
    (hmapping : mappings[i]? = some mapping) : ∃ column, LoadsInto mapping column ∧
      (columnTexts columns)[i]? = some (column.name.value, column.ty, column.nullable) := by
  obtain ⟨hi, rfl⟩ := List.getElem?_eq_some_iff.mp hmapping
  have hi' : i < columns.length := hcolumns.length_eq ▸ hi
  refine ⟨columns[i], (List.forall₂_iff_get.mp hcolumns).2 i hi hi', ?_⟩
  rw [columnTexts, List.getElem?_map, List.getElem?_eq_getElem hi']
  rfl

theorem length_columnTexts (hcolumns : List.Forall₂ LoadsInto mappings columns) :
    (columnTexts columns).length = mappings.length := by
  rw [columnTexts, List.length_map, hcolumns.length_eq]

theorem validateDescribedColumns (hcolumns : List.Forall₂ LoadsInto mappings columns)
    (hdescribed : Describes (columnTexts columns) described) :
    validateBulkTargetColumns described mappings = .ok () := by
  apply validateBulkTargetColumns_eq_ok.mpr
  refine ⟨hdescribed.1.trans (length_columnTexts hcolumns), ?_⟩
  intro i target mapping htarget hmapping
  obtain ⟨column, hcolumn, htext⟩ := getElem?_columnTexts hcolumns hmapping
  obtain ⟨hordinal, hname, hnullable, -⟩ := hdescribed.2 i _ _ htext htarget
  exact ⟨hordinal, hname.trans (congrArg Identifier.value hcolumn.name), hnullable.trans hcolumn.nullable⟩

variable [Externals] {context : RuntimeConversionContext} {encoder : DirectEncoder}

theorem validateDescribedColumnTypes (hencoder : DirectEncoder.newWithContext mappings context = .ok encoder)
    (hcolumns : List.Forall₂ LoadsInto mappings columns) (hdescribed : Describes (columnTexts columns) described) :
    validateDirectBulkTargetColumnTypes described encoder.plan = .ok () := by
  apply validateDirectBulkTargetColumnTypes_eq_ok.mpr
  refine ⟨hdescribed.1.trans ((length_columnTexts hcolumns).trans (length_planColumns hencoder).symm), ?_⟩
  intro i target plan htarget hplan
  obtain ⟨mapping, encoding, hmapping, hencodes, rfl⟩ := encoder_column hencoder hplan
  obtain ⟨column, hcolumn, htext⟩ := getElem?_columnTexts hcolumns hmapping
  have htarget := hdescribed.2 i _ _ htext htarget
  obtain ⟨hexpected, -⟩ := expected_of_encodes hencodes
  apply validateDirectBulkTargetColumnType_eq_nil.mpr
  refine ⟨_, hexpected, ?_, ?_⟩
  · rw [htarget.columnType]
    exact describedType_of_encodes hencodes hcolumn
  · intro shape hshape
    have hdecimal := htarget.decimal
    obtain ⟨-, -, hty⟩ := hcolumn
    simp only [expectedDirectDecimalPrecisionScale, DirectColumnPlan.fromMapping] at hshape
    dsimp only at hdecimal
    generalize mapping.arrow.dataType = dataType at hencodes
    generalize mapping.mssql.ty = ty at hencodes hty
    generalize column.ty = ty' at hty hdecimal
    cases hencodes with
    | uint64Decimal | decimal =>
      cases hshape
      cases hty
      exact hdecimal _ _ rfl
    | _ => cases hshape

theorem readAs_columnTexts (hencoder : DirectEncoder.newWithContext mappings context = .ok encoder)
    (hcolumns : List.Forall₂ LoadsInto mappings columns) :
    ReadAs (fun column => reread column.2.1) (columnTexts columns) encoder.plan.columns := by
  have hlength := length_columnTexts hcolumns
  have hplan := length_planColumns hencoder
  apply List.forall₂_iff_get.mpr
  refine ⟨by omega, ?_⟩
  intro i hi hi' bytes
  obtain ⟨mapping, encoding, hmapping, hencodes, hcolumn⟩ := encoder_column hencoder (List.getElem?_eq_getElem hi')
  obtain ⟨column, hloads, htext⟩ := getElem?_columnTexts hcolumns hmapping
  rw [List.get_eq_getElem, List.get_eq_getElem, hcolumn, (List.getElem?_eq_some_iff.mp htext).2]
  dsimp only
  rw [createdType_of_encodes hencodes hloads, hloads.nullable]
  exact decodeCell_rescaled hloads.ty bytes

theorem createdType_of_encoder (hencoder : DirectEncoder.newWithContext mappings context = .ok encoder) :
    ∀ mapping ∈ mappings, createdType mapping.mssql.ty = mapping.mssql.ty := by
  intro mapping hmapping
  obtain ⟨encoding, hencodes⟩ := newWithContext_succeeds.mp (succeeds_iff.mpr ⟨encoder, hencoder⟩) mapping hmapping
  exact createdType_of_encodes hencodes ⟨rfl, rfl, .same _⟩

omit [Externals] in
theorem loadsInto_own (mappings : List SchemaMapping) :
    List.Forall₂ LoadsInto mappings (mssqlColumnsFromMappings mappings) :=
  List.forall₂_map_right_iff.mpr (List.forall₂_same.mpr fun mapping _ => ⟨rfl, rfl, .same mapping.mssql.ty⟩)

end Columns

section Rows

variable [Externals] {plannedSchema : PlannedSchema} {encoder : DirectEncoder}

theorem holdRow_of_plannedRows (hencoder : DirectEncoder.newWithContext plannedSchema.mappings
      ⟨plannedSchema.profile, plannedSchema.planOptions⟩ = .ok encoder) {batch : RecordBatch}
    {rows : List (List MssqlCell)} (hshape : validateRecordBatchEncodingShape batch plannedSchema.mappings = .ok ())
    (hrows : plannedRows plannedSchema batch = .ok rows) :
    ∀ row ∈ rows, HoldRow (columnTexts (mssqlColumnsFromMappings plannedSchema.mappings)) row := by
  intro row hrow
  obtain ⟨r, hr⟩ := List.mem_iff_getElem?.mp hrow
  obtain ⟨hlength, hall⟩ := collect_eq_ok_iff_getElem?.mp hrows
  obtain ⟨hr', -⟩ := List.getElem?_eq_some_iff.mp hr
  have hrange : (List.range batch.numRows)[r]? = some r := List.getElem?_range (by simpa [← hlength] using hr')
  obtain ⟨hwidth, hcells⟩ := (mssqlRow_eq_ok hshape (List.mem_range.mp (List.mem_of_getElem? hrange))).mp
    (hall r r row hrange hr)
  rw [HoldRow, columnTexts, mssqlColumnsFromMappings, List.map_map, List.forall₂_map_left_iff]
  apply List.forall₂_iff_get.mpr
  refine ⟨hwidth.symm, ?_⟩
  intro i hi hi'
  have hmapping : plannedSchema.mappings[i]? = some plannedSchema.mappings[i] := List.getElem?_eq_getElem hi
  have htype := createdType_of_encoder hencoder _ (List.getElem_mem hi)
  have hholds := holds_of_batchCell hencoder hshape hmapping ((hcells i).trans (List.getElem?_eq_getElem hi'))
  rw [← htype] at hholds
  exact hholds

theorem holdRow_of_trace (hencoder : DirectEncoder.newWithContext plannedSchema.mappings
      ⟨plannedSchema.profile, plannedSchema.planOptions⟩ = .ok encoder) {batches : List RecordBatch}
    {results : List (Result WriteStats)} {load : Load}
    (htrace : Trace (fun batch load => Load.Writes plannedSchema batch load) batches ⟨[], {}⟩ results load) :
    ∀ row ∈ load.rows, HoldRow (columnTexts (mssqlColumnsFromMappings plannedSchema.mappings)) row := by
  apply htrace.keeps
  · intro batch load result load' hload hwrites
    cases hwrites with
    | accepted hshape hrows =>
      exact List.forall_mem_append.mpr ⟨hload, holdRow_of_plannedRows hencoder hshape hrows⟩
    | rejected => exact hload
    | interrupted hshape hrows hsent =>
      refine List.forall_mem_append.mpr ⟨hload, ?_⟩
      intro row hrow
      exact holdRow_of_plannedRows hencoder hshape hrows row (hsent.subset hrow)
  · intro row hrow
    cases hrow

omit [Externals] in
theorem readRow_of_holdRow {columns : List TableColumn} {row : List MssqlCell} (h : HoldRow columns row)
    (htypes : ∀ column ∈ columns, createdType column.2.1 = column.2.1) :
    readRow (fun column => reread column.2.1) columns row = row := by
  induction h with
  | nil => rfl
  | @cons column cell columns row hfirst _ ih =>
    rw [List.forall_mem_cons] at htypes
    rw [htypes.1] at hfirst
    rw [readRow, List.zipWith_cons_cons, reread_of_holds hfirst]
    exact congrArg (cell :: ·) (ih htypes.2)

end Rows

section Runs

variable [Driver] [Externals] {schema : List Field} {profile : MssqlProfile} {planOptions : PlanOptions}
  {outcome : PlanOutcome PlannedSchema} {client client' : Driver.Client} {table : TableName} {options : WriteOptions}
  {request : Driver.Request}

omit [Driver] in
theorem exists_state {requestedBackend : WriteBackend} {schemaCheck : SchemaCheck} {plannedSchema : PlannedSchema}
    {encoder : DirectEncoder} (hencoder : DirectEncoder.newWithContext plannedSchema.mappings
      ⟨plannedSchema.profile, plannedSchema.planOptions⟩ = .ok encoder) :
    ∃ state, WriterState.new requestedBackend schemaCheck plannedSchema = .ok state := by
  cases requestedBackend with
  | baselineTokenRow => exact ⟨_, rfl⟩
  | auto | directRawBulk | directFramedBulk =>
    refine ⟨_, bind_eq_ok.mpr ⟨_, rfl, bind_eq_ok.mpr ⟨some encoder, ?_, rfl⟩⟩⟩
    exact bind_eq_ok.mpr ⟨encoder, hencoder, rfl⟩

theorem startBulkLoad_eq_ok {state : WriterState} {columns : List BulkLoadColumn}
    (hdescribes : Driver.bulkInsertColumns client table.quotedSql = (.ok columns, client'))
    (hvalid : validateTarget state columns = .ok ())
    (hstarts : Driver.bulkInsertWithColumns client' table.quotedSql columns = .ok request) :
    startBulkLoad state client table = .ok request := by
  rw [startBulkLoad, hdescribes]
  refine bind_eq_ok.mpr ⟨columns, rfl, bind_eq_ok.mpr ⟨(), ?_, ?_⟩⟩
  · rw [hvalid]
    rfl
  · rw [hstarts]
    rfl

theorem new_of_described {columns : List MssqlColumn} {described : List BulkLoadColumn} {encoder : DirectEncoder}
    (hencoder : DirectEncoder.newWithContext outcome.value.mappings ⟨outcome.value.profile,
      outcome.value.planOptions⟩ = .ok encoder)
    (hcolumns : List.Forall₂ LoadsInto outcome.value.mappings columns)
    (hdescribed : Describes (columnTexts columns) described)
    (hdescribes : Driver.bulkInsertColumns client table.quotedSql = (.ok described, client'))
    (hstarts : Driver.bulkInsertWithColumns client' table.quotedSql described = .ok request) :
    ∃ writer, BulkWriter.new client table outcome.value options = .ok writer := by
  obtain ⟨state, hstate⟩ := @exists_state _ options.backend options.schemaCheck _ _ hencoder
  obtain ⟨hfollows, -⟩ := state_of_new hstate
  have hvalid : validateTarget state described = .ok () := by
    rw [validateTarget, hfollows.mappings, validateDescribedColumns hcolumns hdescribed, ok_bind]
    rcases hfollows.encoder with ⟨hbackend, -⟩ | ⟨hbackend, other, hsome, hnew⟩
    · rw [hbackend]
      rfl
    · rw [hfollows.mappings, hfollows.context, hencoder, Except.ok.injEq] at hnew
      subst hnew
      rw [if_pos hbackend, hsome]
      exact validateDescribedColumnTypes hencoder hcolumns hdescribed
  have hstart := startBulkLoad_eq_ok hdescribes hvalid hstarts
  refine ⟨_, bind_eq_ok.mpr ⟨state, by rw [hstate]; rfl, bind_eq_ok.mpr ⟨request, ?_, rfl⟩⟩⟩
  rcases hfollows.encoder with ⟨hbackend, -⟩ | ⟨hbackend, -⟩
  · rw [hbackend]
    exact hstart
  · cases hresolved : state.backend with
    | directFramedBulk | directRawBulk => exact hstart
    | auto | baselineTokenRow =>
      rw [hresolved] at hbackend
      cases hbackend

theorem taken_of_direct {server : Server} (hserver : server.Documented) {columns : List MssqlColumn}
    {created : server.Table} (hcolumns : List.Forall₂ LoadsInto outcome.value.mappings columns)
    (hcreated : server.createTable (createTableSql table columns {}) = some created) {final : BulkWriter} {load : Load}
    (hloads : Loads outcome.value final load) (hdirect : usesDirectEncoder final.state.backend = true)
    {taken : List (List MssqlCell)} (htaken : server.takeAll created final.handed = some taken) :
    taken = load.rows.map (readRow (fun column => reread column.2.1) (columnTexts columns)) := by
  rcases hloads.follows.encoder with ⟨hbackend, -⟩ | ⟨-, encoder, hsome, hencoder⟩
  · rw [hbackend] at hdirect
    cases hdirect
  · have hrows := hloads.rows
    rw [hsome] at hrows
    rw [hloads.follows.mappings] at hencoder
    exact take_rawRows hserver (readCreateTable_createTableSql table columns {}) hcreated
      (readAs_columnTexts hencoder hcolumns) hrows htaken

/-- Where the server makes a table of the generated statement, a writer starts on it, whatever its backend, and what
the table takes of a run is the rows of the accepted batches, with the first rows of those the driver stopped in
between. -/
theorem created_table_holds_the_load {server : Server} (hserver : server.Documented)
    (hplan : planArrowSchemaToMssqlSchema schema profile planOptions = .ok outcome)
    (hencodable : ∀ mapping ∈ outcome.value.mappings, mapping.mssql.ty ≠ .decimal 38 38) {created : server.Table}
    (hcreated : server.createTable (createTableSqlFromMappings table outcome.value.mappings) = some created)
    (hdescribes : Driver.bulkInsertColumns client table.quotedSql = (.ok (server.columns created), client'))
    (hstarts : Driver.bulkInsertWithColumns client' table.quotedSql (server.columns created) = .ok request) :
    ∃ writer, BulkWriter.new client table outcome.value options = .ok writer ∧
      ∀ batches calls final, writer.writeBatches batches = (calls, final) → ∃ load,
        Trace (fun batch load => Load.Writes outcome.value batch load) batches ⟨[], {}⟩ (calls.map Call.result) load ∧
          (∀ taken, server.takeAll created final.handed = some taken → taken = load.rows) ∧
          final.state.stats = load.stats := by
  obtain ⟨encoder, hencoder⟩ := succeeds_iff.mp ((newWithContext_planned ⟨outcome.value.profile,
    outcome.value.planOptions⟩ hplan).mpr hencodable)
  have hcolumns := loadsInto_own outcome.value.mappings
  have hsql := readCreateTable_createTableSql table (mssqlColumnsFromMappings outcome.value.mappings) {}
  obtain ⟨writer, hnew⟩ := @new_of_described _ _ _ _ _ _ options _ _ _ _ hencoder hcolumns
    (hserver.describes hsql hcreated) hdescribes hstarts
  refine ⟨writer, hnew, ?_⟩
  intro batches calls final hrun
  obtain ⟨load, htrace, hloads⟩ := trace_of_writeBatches (binaryWithinLimit_of_planned hplan) (loads_of_new hnew) hrun
  have hhold := holdRow_of_trace hencoder htrace
  refine ⟨load, htrace, ?_, hloads.stats⟩
  intro taken htaken
  rcases hloads.follows.encoder with ⟨-, hnone⟩ | ⟨hdirect, -⟩
  · have hrows := hloads.rows
    rw [hnone] at hrows
    exact take_tokenRows hserver hsql hcreated hrows hhold htaken
  · rw [taken_of_direct hserver hcolumns hcreated hloads hdirect htaken]
    have htypes : ∀ column ∈ columnTexts (mssqlColumnsFromMappings outcome.value.mappings),
        createdType column.2.1 = column.2.1 := by
      rw [columnTexts, mssqlColumnsFromMappings, List.map_map, List.forall_mem_map]
      exact createdType_of_encoder hencoder
    have hsame : ∀ row ∈ load.rows, readRow (fun column => reread column.2.1)
        (columnTexts (mssqlColumnsFromMappings outcome.value.mappings)) row = row := by
      intro row hrow
      exact readRow_of_holdRow (hhold row hrow) htypes
    rw [List.map_congr_left hsame, List.map_id']

end Runs

section Sample

def sampleTypeInfo (nullable : Bool) : MssqlType → TypeInfo
  | .bit => if nullable then .varLenSized .bitn 1 else .fixedLen .bit
  | .tinyInt => if nullable then .varLenSized .intn 1 else .fixedLen .int1
  | .smallInt => if nullable then .varLenSized .intn 2 else .fixedLen .int2
  | .int => if nullable then .varLenSized .intn 4 else .fixedLen .int4
  | .bigInt => if nullable then .varLenSized .intn 8 else .fixedLen .int8
  | .real => if nullable then .varLenSized .floatn 4 else .fixedLen .float4
  | .float _ => if nullable then .varLenSized .floatn 8 else .fixedLen .float8
  | .nVarChar (.bounded length) => .varLenSized .nVarchar (2 * length)
  | .nVarChar .max => .varLenSized .nVarchar 0xffff
  | .varBinary (.bounded length) => .varLenSized .bigVarBin length
  | .varBinary .max => .varLenSized .bigVarBin 0xffff
  | .binary length => .varLenSized .bigBinary length
  | .decimal precision scale =>
    .varLenSizedPrecision .decimaln (1 + decimalLength (10 ^ precision - 1)) precision scale.toNat
  | .date => .varLenSized .daten 3
  | .time precision => .varLenSized .timen precision.get
  | .dateTime => if nullable then .varLenSized .datetimen 8 else .fixedLen .datetime
  | .dateTime2 precision => .varLenSized .datetime2 precision
  | .dateTimeOffset precision => .varLenSized .datetimeOffsetn precision

abbrev sampleServer : Server where
  Table := TableDefinition
  createTable := readCreateTable
  columns definition := definition.columns.zipIdx.map fun ((name, ty, nullable), i) =>
    ⟨i, name, nullable, describedType nullable ty, sampleTypeInfo nullable (createdType ty)⟩
  takeTokenRow _ row := some (row.map ColumnData.cell)
  takeRawRows definition bytes := readRows definition.columns bytes.length bytes

theorem documented_sampleServer : sampleServer.Documented where
  describes := by
    intro sql definition created hsql hcreated
    obtain rfl := Option.some.inj (hsql.symm.trans hcreated)
    refine ⟨by simp, ?_⟩
    rintro i ⟨name, ty, nullable⟩ target hcolumn htarget
    rw [List.getElem?_map, List.getElem?_zipIdx, hcolumn] at htarget
    simp only [Option.map_some, Option.some.injEq] at htarget
    subst htarget
    refine ⟨Nat.zero_add i, rfl, rfl, rfl, ?_⟩
    rintro precision scale rfl
    rfl
  tokenRow := by
    intro sql definition created row cells _ _ _ htaken
    exact (Option.some.inj htaken).symm
  rawRows := by
    intro sql definition created bytes rows taken hsql hcreated hrows htaken
    obtain rfl := Option.some.inj (hsql.symm.trans hcreated)
    exact Option.some.inj (htaken.symm.trans hrows)

def sampleDefinition : TableDefinition := ⟨none, "events", columnTexts (mssqlColumnsFromMappings sampleMappings)⟩

def sampleBytes : List UInt8 := [0xd1, 7, 0, 0, 0, 2, 0, 171, 205, 0xd1, 7, 0, 0, 0, 0xff, 0xff]

theorem createTable_sampleServer (sql : String) : sampleServer.createTable sql = readCreateTable sql := rfl

theorem createTable_sample :
    sampleServer.createTable (createTableSqlFromMappings sampleTable sampleMappings) = some sampleDefinition :=
  (createTable_sampleServer _).trans (readCreateTable_createTableSql sampleTable _ {})

theorem created_table_holds_the_load_at_sample : ∃ writer calls final,
    @BulkWriter.new limitedLoad .silent (sampleServer.columns sampleDefinition, 1) sampleTable samplePlannedSchema {} =
      .ok writer ∧
    @BulkWriter.writeBatches limitedLoad .silent writer [sampleBatch, sampleBatch] = (calls, final) ∧
    Trace (fun batch load => @Load.Writes .silent samplePlannedSchema batch load) [sampleBatch, sampleBatch] ⟨[], {}⟩
      (calls.map (@Call.result limitedLoad)) ⟨sampleRows ++ sampleRows, ⟨2, 1⟩⟩ ∧
    sampleServer.takeAll sampleDefinition (@BulkWriter.handed limitedLoad final) = some (sampleRows ++ sampleRows) := by
  obtain ⟨writer, hnew, hruns⟩ := @created_table_holds_the_load limitedLoad .silent sampleBatch.schema sampleProfile
    samplePlanOptions ⟨samplePlannedSchema, []⟩ (sampleServer.columns sampleDefinition, 1)
    (sampleServer.columns sampleDefinition, 1) sampleTable {} (1 : ℕ) sampleServer documented_sampleServer rfl
    (by decide) sampleDefinition createTable_sample rfl rfl
  obtain rfl := Except.ok.inj hnew
  refine ⟨_, _, _, rfl, rfl, ?_⟩
  obtain ⟨⟨rows, stats⟩, htrace, htaken, hstats⟩ := hruns [sampleBatch, sampleBatch] _ _ rfl
  have htook : sampleServer.takeAll sampleDefinition [.rawRows sampleBytes [0, 9], .rawRows sampleBytes [0, 9]] =
      some (sampleRows ++ sampleRows) := by decide +kernel
  obtain rfl : sampleRows ++ sampleRows = rows := htaken _ htook
  obtain rfl : ⟨2, 1⟩ = stats := hstats
  exact ⟨htrace, htook⟩

end Sample

end ArrowTiberius.Writer
