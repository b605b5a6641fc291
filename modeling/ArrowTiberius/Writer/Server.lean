import ArrowTiberius.Mssql.DdlRoundTrip
import ArrowTiberius.Writer.Load

namespace ArrowTiberius.Writer

open Checked Direct Stepping Tds

abbrev TableColumn := String × MssqlType × Bool

def createdType : MssqlType → MssqlType
  | .float precision => if precision ≤ 24 then .real else .float precision
  | ty => ty

/-- The type token of a column. A plain datetime has one of its own. -/
def describedType (nullable : Bool) : MssqlType → ColumnType
  | .dateTime => if nullable then .datetimen else .datetime
  | ty => columnTypeOf nullable (createdType ty)

structure DescribedAs (position : ℕ) (column : TableColumn) (described : BulkLoadColumn) : Prop where
  ordinal : described.ordinal = position
  name : described.name = column.1
  nullable : described.isNullable = column.2.2
  columnType : described.columnType = describedType column.2.2 column.2.1
  decimal : ∀ precision scale, column.2.1 = .decimal precision scale →
    decimalPrecisionScale described = some (precision, scale.toNat)

def Describes (columns : List TableColumn) (described : List BulkLoadColumn) : Prop :=
  described.length = columns.length ∧ ∀ (i : ℕ) column target, columns[i]? = some column →
    described[i]? = some target → DescribedAs i column target

def readCells : List TableColumn → List UInt8 → Option (List MssqlCell × List UInt8)
  | [], bytes => some ([], bytes)
  | column :: columns, bytes => do
    let (cell, rest) ← decodeCell (createdType column.2.1) column.2.2 bytes
    let (cells, rest) ← readCells columns rest
    some (cell :: cells, rest)

def readRows (columns : List TableColumn) : ℕ → List UInt8 → Option (List (List MssqlCell))
  | _, [] => some []
  | 0, _ :: _ => none
  | fuel + 1, token :: bytes =>
    if token = tdsRowToken then do
      let (row, rest) ← readCells columns bytes
      let rows ← readRows columns fuel rest
      some (row :: rows)
    else none

def HoldRow (columns : List TableColumn) (cells : List MssqlCell) : Prop :=
  List.Forall₂ (fun column cell => Holds (createdType column.2.1) column.2.2 cell) columns cells

/-- A server as the driver shows it: it makes tables and describes them, and it takes what their bulk loads send, or
refuses it. A token row is written by the driver. -/
structure Server where
  Table : Type
  createTable : String → Option Table
  columns : Table → List BulkLoadColumn
  takeTokenRow : Table → TokenRow → Option (List MssqlCell)
  takeRawRows : Table → List UInt8 → Option (List (List MssqlCell))

/-- What is documented of servers. Whether they take a row is left open: they may refuse any. -/
structure Server.Documented (server : Server) : Prop where
  describes : ∀ {sql definition table}, readCreateTable sql = some definition → server.createTable sql = some table →
    Describes definition.columns (server.columns table)
  tokenRow : ∀ {sql definition table row cells}, readCreateTable sql = some definition →
    server.createTable sql = some table → HoldRow definition.columns (row.map ColumnData.cell) →
    server.takeTokenRow table row = some cells → cells = row.map ColumnData.cell
  rawRows : ∀ {sql definition table bytes rows taken}, readCreateTable sql = some definition →
    server.createTable sql = some table → readRows definition.columns bytes.length bytes = some rows →
    server.takeRawRows table bytes = some taken → taken = rows

namespace Server

def take (server : Server) (table : server.Table) : Handed → Option (List (List MssqlCell))
  | .tokenRow row => (server.takeTokenRow table row).map fun cells => [cells]
  | .rawRows bytes _ => server.takeRawRows table bytes

def takeAll (server : Server) (table : server.Table) : List Handed → Option (List (List MssqlCell))
  | [] => some []
  | item :: items => do
    let rows ← server.take table item
    let rest ← server.takeAll table items
    some (rows ++ rest)

end Server

section Reading

variable {columns : List TableColumn} {planned : List DirectColumnPlan} {read : List MssqlCell → List MssqlCell}

def ReadAs (readCell : TableColumn → MssqlCell → MssqlCell) (columns : List TableColumn)
    (planned : List DirectColumnPlan) : Prop :=
  List.Forall₂ (fun column plan => ∀ bytes, decodeCell (createdType column.2.1) column.2.2 bytes =
    (decodeCell plan.targetType plan.nullable bytes).map (Prod.map (readCell column) id)) columns planned

def readRow (readCell : TableColumn → MssqlCell → MssqlCell) (columns : List TableColumn) (row : List MssqlCell) :
    List MssqlCell :=
  List.zipWith readCell columns row

variable {readCell : TableColumn → MssqlCell → MssqlCell}

theorem readCells_eq (h : ReadAs readCell columns planned) (bytes : List UInt8) :
    readCells columns bytes = (decodeCells planned bytes).map (Prod.map (readRow readCell columns) id) := by
  induction h generalizing bytes with
  | nil => rfl
  | @cons column plan columns planned hfirst _ ih =>
    simp only [readCells, decodeCells, hfirst]
    cases decodeCell plan.targetType plan.nullable bytes with
    | none => rfl
    | some found =>
      simp only [Option.map_some, Option.bind_eq_bind, Option.bind_some, Prod.map_fst, Prod.map_snd, id_eq, ih]
      cases decodeCells planned found.2 <;> rfl

theorem readRows_eq (h : ReadAs readCell columns planned) (fuel offset : ℕ) (bytes : List UInt8) :
    readRows columns fuel bytes =
      (decodeRows planned fuel offset bytes).map (·.map (readRow readCell columns ∘ Prod.snd)) := by
  induction fuel generalizing offset bytes with
  | zero => cases bytes <;> rfl
  | succ fuel ih =>
    cases bytes with
    | nil => rfl
    | cons token bytes =>
      rw [readRows, decodeRows, decodeRow]
      by_cases htoken : token = tdsRowToken
      · rw [if_pos htoken, if_pos htoken, readCells_eq h]
        cases decodeCells planned bytes with
        | none => rfl
        | some found =>
          simp only [Option.map_some, Option.bind_eq_bind, Option.bind_some, Prod.map_fst, Prod.map_snd, id_eq,
            ih (offset + ((token :: bytes).length - found.2.length))]
          cases decodeRows planned fuel _ found.2 <;> rfl
      · rw [if_neg htoken, if_neg htoken]
        rfl

end Reading

section Taking

variable {server : Server} {sql : String} {definition : TableDefinition} {table : server.Table}
  {readCell : TableColumn → MssqlCell → MssqlCell}

theorem take_rawRows (hserver : server.Documented) (hsql : readCreateTable sql = some definition)
    (hcreated : server.createTable sql = some table) {encoder : DirectEncoder}
    (hreads : ReadAs readCell definition.columns encoder.plan.columns) {items : List Handed}
    {rows taken : List (List MssqlCell)}
    (hrows : handedRows (some encoder) items = some rows) (htaken : server.takeAll table items = some taken) :
    taken = rows.map (readRow readCell definition.columns) := by
  induction items generalizing rows taken with
  | nil =>
    cases hrows
    cases htaken
    rfl
  | cons item items ih =>
    simp only [handedRows, Option.bind_eq_bind, Option.bind_eq_some_iff, Option.some.injEq] at hrows
    simp only [Server.takeAll, Option.bind_eq_bind, Option.bind_eq_some_iff, Option.some.injEq] at htaken
    obtain ⟨first, hfirst, rest, hrest, rfl⟩ := hrows
    obtain ⟨some, hsome, others, hothers, rfl⟩ := htaken
    have hothers := ih hrest hothers
    have hsame : some = first.map (readRow readCell definition.columns) := by
      cases item with
      | tokenRow row => cases hfirst
      | rawRows bytes rowTokenOffsets =>
        simp only [Handed.rows, Option.bind_eq_bind, Option.bind_eq_some_iff] at hfirst
        obtain ⟨found, hfound, hsame⟩ := hfirst
        split at hsame
        case isTrue =>
          cases hsame
          rw [DirectEncoderPlan.decodePayload] at hfound
          have hread := readRows_eq hreads bytes.length 0 bytes
          rw [hfound, Option.map_some, ← List.map_map] at hread
          exact hserver.rawRows hsql hcreated hread hsome
        case isFalse => cases hsame
    rw [hsame, hothers, List.map_append]

theorem take_tokenRows (hserver : server.Documented) (hsql : readCreateTable sql = some definition)
    (hcreated : server.createTable sql = some table) {items : List Handed} {rows taken : List (List MssqlCell)}
    (hrows : handedRows none items = some rows) (hhold : ∀ row ∈ rows, HoldRow definition.columns row)
    (htaken : server.takeAll table items = some taken) : taken = rows := by
  induction items generalizing rows taken with
  | nil =>
    cases hrows
    cases htaken
    rfl
  | cons item items ih =>
    simp only [handedRows, Option.bind_eq_bind, Option.bind_eq_some_iff, Option.some.injEq] at hrows
    simp only [Server.takeAll, Option.bind_eq_bind, Option.bind_eq_some_iff, Option.some.injEq] at htaken
    obtain ⟨first, hfirst, rest, hrest, rfl⟩ := hrows
    obtain ⟨some, hsome, others, hothers, rfl⟩ := htaken
    have hothers := ih hrest (fun row hrow => hhold row (List.mem_append_right _ hrow)) hothers
    cases item with
    | tokenRow row =>
      cases hfirst
      obtain ⟨cells, hcells, rfl⟩ := Option.map_eq_some_iff.mp hsome
      rw [hserver.tokenRow hsql hcreated (hhold _ (List.mem_append_left _ List.mem_cons_self)) hcells, hothers]
    | rawRows bytes rowTokenOffsets => cases hfirst

end Taking

end ArrowTiberius.Writer
