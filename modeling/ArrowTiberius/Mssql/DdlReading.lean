import ArrowTiberius.Lib.SqlText
import ArrowTiberius.Mssql.Ddl

namespace ArrowTiberius

open SqlText

/-- What a `CREATE TABLE` statement says, read back from its text. -/
structure TableDefinition where
  schema : Option String
  table : String
  columns : List (String × MssqlType × Bool)
  deriving DecidableEq

def readNat (text : List Char) : Option ℕ :=
  if text ≠ [] ∧ text.all Char.isDigit then some (Nat.ofDigitChars 10 text 0) else none

def readLength (text : List Char) : Option MssqlTypeLength :=
  if text = "max".toList then some .max else (readNat text).map .bounded

def readPlainType (name : List Char) : Option MssqlType :=
  if name = "bit".toList then some .bit
  else if name = "tinyint".toList then some .tinyInt
  else if name = "smallint".toList then some .smallInt
  else if name = "int".toList then some .int
  else if name = "bigint".toList then some .bigInt
  else if name = "real".toList then some .real
  else if name = "date".toList then some .date
  else if name = "datetime".toList then some .dateTime
  else none

def readSizedType (name arg : List Char) : Option MssqlType :=
  if name = "float".toList then (readNat arg).map .float
  else if name = "nvarchar".toList then (readLength arg).map .nVarChar
  else if name = "varbinary".toList then (readLength arg).map .varBinary
  else if name = "binary".toList then (readNat arg).map .binary
  else if name = "time".toList then ((readNat arg).bind MssqlTimePrecision.new?).map .time
  else if name = "datetime2".toList then (readNat arg).map .dateTime2
  else if name = "datetimeoffset".toList then (readNat arg).map .dateTimeOffset
  else none

def readDecimalType (name precision scale : List Char) (negative : Bool) : Option MssqlType := do
  let p ← readNat precision
  let s ← readNat scale
  if name = "decimal".toList then some (.decimal p (if negative then -s else s)) else none

def readType : List Token → Option (MssqlType × List Token)
  | .word name :: .symbol '(' :: .word p :: .symbol ',' :: .symbol '-' :: .word s :: .symbol ')' :: rest =>
    (readDecimalType name p s true).map (·, rest)
  | .word name :: .symbol '(' :: .word p :: .symbol ',' :: .word s :: .symbol ')' :: rest =>
    (readDecimalType name p s false).map (·, rest)
  | .word name :: .symbol '(' :: .word arg :: .symbol ')' :: rest => (readSizedType name arg).map (·, rest)
  | .word name :: rest => (readPlainType name).map (·, rest)
  | _ => none

def readNullability : List Token → Option (Bool × List Token)
  | .word first :: rest =>
    if first = "NULL".toList then some (true, rest)
    else match rest with
      | .word second :: rest =>
        if first = "NOT".toList ∧ second = "NULL".toList then some (false, rest) else none
      | _ => none
  | _ => none

def readColumn : List Token → Option ((String × MssqlType × Bool) × List Token)
  | .quoted .bracket name :: rest => do
    let (ty, rest) ← readType rest
    let (nullable, rest) ← readNullability rest
    some ((String.ofList name, ty, nullable), rest)
  | _ => none

def readColumns : ℕ → List Token → Option (List (String × MssqlType × Bool) × List Token)
  | 0, _ => none
  | n + 1, ts => do
    let (column, rest) ← readColumn ts
    match rest with
    | .symbol ',' :: rest => do
      let (columns, rest) ← readColumns n rest
      some (column :: columns, rest)
    | .symbol ')' :: rest => some ([column], rest)
    | _ => none

def readTableName : List Token → Option ((Option String × String) × List Token)
  | .quoted .bracket schema :: .symbol '.' :: .quoted .bracket table :: rest =>
    some ((some (String.ofList schema), String.ofList table), rest)
  | .quoted .bracket table :: rest => some ((none, String.ofList table), rest)
  | _ => none

def readCreateTableTokens : List Token → Option TableDefinition
  | .word create :: .word table :: rest => do
    guard (create = "CREATE".toList ∧ table = "TABLE".toList)
    let ((schema, table), rest) ← readTableName rest
    match rest with
    | [.symbol '(', .symbol ')', .symbol ';'] => some ⟨schema, table, []⟩
    | .symbol '(' :: rest => do
      let (columns, rest) ← readColumns rest.length rest
      guard (rest = [.symbol ';'])
      some ⟨schema, table, columns⟩
    | _ => none
  | _ => none

def readCreateTable (sql : String) : Option TableDefinition :=
  (tokens sql.toList).bind readCreateTableTokens

def existsHead : String :=
  "SELECT CASE WHEN EXISTS (SELECT 1 FROM sys.tables AS t " ++
    "INNER JOIN sys.schemas AS s ON s.schema_id = t.schema_id " ++ "WHERE "

def existsTail : String := ") THEN CAST(1 AS bit) ELSE CAST(0 AS bit) END AS [exists]"

def readCondition (column : List Char) : List Token → Option (String × List Token)
  | .word source :: .symbol '.' :: .word name :: .symbol '=' :: .quoted (.literal true) text :: rest =>
    if source = column ∧ name = "name".toList then some (String.ofList text, rest) else none
  | _ => none

def readTableExists (sql : String) : Option (Option String × String) := do
  let head ← tokens existsHead.toList
  let tail ← tokens existsTail.toList
  let ts ← tokens sql.toList
  guard (ts.take head.length = head)
  let (table, rest) ← readCondition ['t'] (ts.drop head.length)
  if rest = tail then some (none, table)
  else match rest with
    | .word conj :: rest => do
      guard (conj = "AND".toList)
      let (schema, rest) ← readCondition ['s'] rest
      guard (rest = tail)
      some (some schema, table)
    | _ => none

end ArrowTiberius
