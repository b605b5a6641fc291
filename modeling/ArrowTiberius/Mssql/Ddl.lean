import ArrowTiberius.Mssql.Identifier
import ArrowTiberius.Mssql.Types

namespace ArrowTiberius

structure MssqlColumn where
  name : Identifier
  ty : MssqlType
  nullable : Bool
  deriving DecidableEq

def MssqlColumn.toSql (column : MssqlColumn) : String :=
  let nullability := if column.nullable then "NULL" else "NOT NULL"
  s!"{column.name.quotedSql} {column.ty.toSql} {nullability}"

structure CreateTableOptions where
  deriving DecidableEq, Repr

def createTableSql (table : TableName) (columns : List MssqlColumn) (_options : CreateTableOptions) : String :=
  let sql := s!"CREATE TABLE {table.quotedSql} ("
  if columns.isEmpty then
    sql ++ "\n);"
  else
    let sql := columns.zipIdx.foldl (fun sql (column, index) =>
      let suffix := if index + 1 = columns.length then "" else ","
      sql ++ "\n    " ++ column.toSql ++ suffix) sql
    sql ++ "\n);"

def sqlStringLiteral (value : String) : String :=
  let escaped := replaceChar value '\'' ['\'', '\'']
  s!"N'{escaped}'"

def tableExistsQuery (table : TableName) : String :=
  let conditions := [s!"t.name = {sqlStringLiteral table.table.value}"]
  let conditions :=
    match table.schema with
    | some schema => conditions ++ [s!"s.name = {sqlStringLiteral schema.value}"]
    | none => conditions
  let condition := " AND ".intercalate conditions
  "SELECT CASE WHEN EXISTS (SELECT 1 FROM sys.tables AS t " ++
    "INNER JOIN sys.schemas AS s ON s.schema_id = t.schema_id " ++
    s!"WHERE {condition}) THEN CAST(1 AS bit) ELSE CAST(0 AS bit) END AS [exists]"

end ArrowTiberius
