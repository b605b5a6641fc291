import Mathlib.Data.Option.Basic
import ArrowTiberius.Mssql.DdlReading

namespace ArrowTiberius

open SqlText

def wordToken (text : String) : Token := .word text.toList

def digitsToken (n : ℕ) : Token := .word (Nat.toDigits 10 n)

def lengthTokens : MssqlTypeLength → List Token
  | .bounded n => [digitsToken n]
  | .max => [wordToken "max"]

def scaleTokens (scale : ℤ) : List Token :=
  if scale < 0 then [.symbol '-', digitsToken scale.natAbs] else [digitsToken scale.natAbs]

def sizedTokens (name : String) (args : List Token) : List Token :=
  wordToken name :: .symbol '(' :: args ++ [.symbol ')']

def typeTokens : MssqlType → List Token
  | .bit => [wordToken "bit"]
  | .tinyInt => [wordToken "tinyint"]
  | .smallInt => [wordToken "smallint"]
  | .int => [wordToken "int"]
  | .bigInt => [wordToken "bigint"]
  | .real => [wordToken "real"]
  | .float p => sizedTokens "float" [digitsToken p]
  | .nVarChar length => sizedTokens "nvarchar" (lengthTokens length)
  | .varBinary length => sizedTokens "varbinary" (lengthTokens length)
  | .binary n => sizedTokens "binary" [digitsToken n]
  | .decimal p s => sizedTokens "decimal" (digitsToken p :: .symbol ',' :: scaleTokens s)
  | .date => [wordToken "date"]
  | .time p => sizedTokens "time" [digitsToken p.get]
  | .dateTime => [wordToken "datetime"]
  | .dateTime2 p => sizedTokens "datetime2" [digitsToken p]
  | .dateTimeOffset p => sizedTokens "datetimeoffset" [digitsToken p]

def nullabilityTokens (nullable : Bool) : List Token :=
  if nullable then [wordToken "NULL"] else [wordToken "NOT", wordToken "NULL"]

def identifierToken (id : Identifier) : Token := .quoted .bracket id.value.toList

def columnTokens (column : MssqlColumn) : List Token :=
  identifierToken column.name :: typeTokens column.ty ++ nullabilityTokens column.nullable

def columnListTokens : List MssqlColumn → List Token
  | [] => []
  | [column] => columnTokens column
  | column :: columns => columnTokens column ++ .symbol ',' :: columnListTokens columns

def tableNameTokens (name : TableName) : List Token :=
  match name.schema with
  | some schema => [identifierToken schema, .symbol '.', identifierToken name.table]
  | none => [identifierToken name.table]

def createTableTokens (table : TableName) (columns : List MssqlColumn) : List Token :=
  [wordToken "CREATE", wordToken "TABLE"] ++ tableNameTokens table ++ .symbol '(' :: columnListTokens columns ++
    [.symbol ')', .symbol ';']

@[simp] theorem toString_string (s : String) : toString s = s := rfl

theorem toList_replaceChar (kind : Quote) (value : String) :
    (replaceChar value kind.close [kind.close, kind.close]).toList = escape kind value.toList := by
  rw [replaceChar, String.toList_ofList, escape]
  refine List.flatMap_congr fun x _ => ?_
  split
  case isTrue h => rw [h]
  case isFalse => rfl

theorem toList_bracketQuote (value : String) :
    (bracketQuote value).toList = '[' :: (escape .bracket value.toList ++ [']']) := by
  rw [← toList_replaceChar]
  simp [bracketQuote, Quote.close]

theorem toList_sqlStringLiteral (value : String) :
    (sqlStringLiteral value).toList = 'N' :: '\'' :: (escape (.literal true) value.toList ++ ['\'']) := by
  rw [← toList_replaceChar]
  simp [sqlStringLiteral, Quote.close]

theorem run_quotedSql (id : Identifier) {c : Char} (hc : c ≠ ']') (cs : List Char) :
    run .start (id.quotedSql.toList ++ c :: cs) = emit [identifierToken id] (run .start (c :: cs)) := by
  have hopen : step .start '[' = ([], .inside .bracket []) := rfl
  rw [Identifier.quotedSql, toList_bracketQuote, List.cons_append, run_cons, hopen, emit_nil, List.append_assoc]
  exact run_quoted hc cs

theorem run_sqlStringLiteral (value : String) {c : Char} (hc : c ≠ '\'') (cs : List Char) :
    run .start ((sqlStringLiteral value).toList ++ c :: cs) =
      emit [.quoted (.literal true) value.toList] (run .start (c :: cs)) := by
  have hopen : run .start ['N', '\''] = ([], .inside (.literal true) []) := by decide
  have happ := run_append .start ['N', '\''] (escape (.literal true) value.toList ++ '\'' :: c :: cs)
  rw [hopen, emit_nil] at happ
  rw [toList_sqlStringLiteral]
  simp only [List.cons_append, List.append_assoc, List.nil_append] at happ ⊢
  rw [happ]
  exact run_quoted hc cs

theorem isWordChar_of_digit {c : Char} (h : c.isDigit = true) : isWordChar c = true := by
  simp [isWordChar, Char.isAlphanum, h]

theorem run_digits (n : ℕ) {c : Char} (hc : isWordChar c = false) (hq : c ≠ '\'') (cs : List Char) :
    run .start (Nat.toDigits 10 n ++ c :: cs) = emit [digitsToken n] (run .start (c :: cs)) :=
  run_word Nat.toDigits_ne_nil
    (fun _ hd => isWordChar_of_digit (Nat.isDigit_of_mem_toDigits (by decide) (by decide) hd)) hc hq cs

theorem run_keyword {text : String} (hne : text.toList ≠ []) (h : text.toList.all isWordChar = true) {c : Char}
    (hc : isWordChar c = false) (hq : c ≠ '\'') (cs : List Char) :
    run .start (text.toList ++ c :: cs) = emit [wordToken text] (run .start (c :: cs)) :=
  run_word hne (List.all_eq_true.mp h) hc hq cs

theorem run_length (length : MssqlTypeLength) (cs : List Char) :
    run .start (length.render.toList ++ ')' :: cs) = emit (lengthTokens length) (run .start (')' :: cs)) := by
  cases length with
  | bounded n => simpa [MssqlTypeLength.render, lengthTokens] using run_digits n (by decide) (by decide) cs
  | max => exact run_keyword (by decide) (by decide) (by decide) (by decide) cs

theorem toList_toString_int (scale : ℤ) :
    (toString scale).toList = (if scale < 0 then ['-'] else []) ++ Nat.toDigits 10 scale.natAbs := by
  cases scale with
  | ofNat n => simp [Int.repr]
  | negSucc n => simp [Int.repr]

theorem run_scale (scale : ℤ) (cs : List Char) :
    run .start ((toString scale).toList ++ ')' :: cs) = emit (scaleTokens scale) (run .start (')' :: cs)) := by
  have hdigits := run_digits scale.natAbs (c := ')') (by decide) (by decide) cs
  rw [toList_toString_int, scaleTokens]
  split
  case isTrue =>
    obtain ⟨d, ds, hd⟩ := List.exists_cons_of_ne_nil (@Nat.toDigits_ne_nil scale.natAbs 10)
    have hdigit : d.isDigit = true :=
      @Nat.isDigit_of_mem_toDigits 10 scale.natAbs d (by decide) (by decide) (by simp [hd])
    have hne : d ≠ '-' := by
      rintro rfl
      exact absurd hdigit (by decide)
    rw [hd, List.cons_append] at hdigits
    rw [hd, List.singleton_append, List.cons_append, List.cons_append, run_dash hne, hdigits, emit_emit]
    rfl
  case isFalse => exact hdigits

theorem run_sized {head name arg : String} {ts : List Token} (hhead : head.toList = name.toList ++ ['('])
    (hne : name.toList ≠ []) (hname : name.toList.all isWordChar = true)
    (harg : ∀ cs, run .start (arg.toList ++ ')' :: cs) = emit ts (run .start (')' :: cs))) (cs : List Char) :
    run .start ((head ++ arg ++ ")").toList ++ ' ' :: cs) = emit (sizedTokens name ts) (run .start cs) := by
  have htext : (head ++ arg ++ ")").toList ++ ' ' :: cs = name.toList ++ '(' :: (arg.toList ++ ')' :: ' ' :: cs) := by
    simp only [String.toList_append, hhead, List.append_assoc, List.cons_append, List.nil_append]
    rfl
  rw [htext, run_keyword hne hname (by decide) (by decide), run_symbol rfl, harg, run_symbol rfl, run_space]
  simp [sizedTokens]

theorem run_digits_close (n : ℕ) (cs : List Char) :
    run .start ((toString n).toList ++ ')' :: cs) = emit [digitsToken n] (run .start (')' :: cs)) := by
  rw [Nat.toString_eq_ofList_toDigits, String.toList_ofList]
  exact run_digits n (by decide) (by decide) cs

theorem run_decimal_args (p : ℕ) (s : ℤ) (cs : List Char) :
    run .start ((toString p ++ "," ++ toString s).toList ++ ')' :: cs) =
      emit (digitsToken p :: .symbol ',' :: scaleTokens s) (run .start (')' :: cs)) := by
  have hcomma : ",".toList = [','] := rfl
  rw [String.toList_append, String.toList_append, hcomma, Nat.toString_eq_ofList_toDigits, String.toList_ofList,
    List.append_assoc, List.append_assoc, List.singleton_append, run_digits p (by decide) (by decide), run_symbol rfl,
    run_scale]
  simp

theorem group_args (a b c d e : String) : a ++ b ++ c ++ d ++ e = a ++ (b ++ c ++ d) ++ e := by
  simp only [String.append_assoc]

theorem run_type (ty : MssqlType) (cs : List Char) :
    run .start (ty.toSql.toList ++ ' ' :: cs) = emit (typeTokens ty) (run .start cs) := by
  have hplain : ∀ name : String, name.toList ≠ [] → name.toList.all isWordChar = true →
      run .start (name.toList ++ ' ' :: cs) = emit [wordToken name] (run .start cs) := fun name hne hname => by
    rw [run_keyword hne hname (by decide) (by decide), run_space]
  cases ty with
  | float p => exact run_sized (by decide) (by decide) (by decide) (run_digits_close p) cs
  | nVarChar length => exact run_sized (by decide) (by decide) (by decide) (run_length length) cs
  | varBinary length => exact run_sized (by decide) (by decide) (by decide) (run_length length) cs
  | binary n => exact run_sized (by decide) (by decide) (by decide) (run_digits_close n) cs
  | decimal p s =>
    have htext : (MssqlType.decimal p s).toSql = "decimal(" ++ (toString p ++ "," ++ toString s) ++ ")" :=
      group_args _ _ _ _ _
    rw [htext]
    exact run_sized (by decide) (by decide) (by decide) (run_decimal_args p s) cs
  | time p => exact run_sized (by decide) (by decide) (by decide) (run_digits_close p.get) cs
  | dateTime2 p => exact run_sized (by decide) (by decide) (by decide) (run_digits_close p) cs
  | dateTimeOffset p => exact run_sized (by decide) (by decide) (by decide) (run_digits_close p) cs
  | _ => exact hplain _ (by decide) (by decide)

theorem run_column (column : MssqlColumn) {c : Char} (hc : isWordChar c = false) (hq : c ≠ '\'') (cs : List Char) :
    run .start (column.toSql.toList ++ c :: cs) = emit (columnTokens column) (run .start (c :: cs)) := by
  have htext : column.toSql.toList ++ c :: cs = column.name.quotedSql.toList ++ ' ' :: (column.ty.toSql.toList ++
      ' ' :: ((if column.nullable then "NULL" else "NOT NULL").toList ++ c :: cs)) := by
    simp only [MssqlColumn.toSql, toString_string, String.toList_append, List.append_assoc]
    rfl
  have hnull : run .start ((if column.nullable then "NULL" else "NOT NULL").toList ++ c :: cs) =
      emit (nullabilityTokens column.nullable) (run .start (c :: cs)) := by
    cases column.nullable with
    | true => exact run_keyword (by decide) (by decide) hc hq cs
    | false =>
      have hnot : run .start ("NOT".toList ++ ' ' :: ("NULL".toList ++ c :: cs)) = _ :=
        run_keyword (by decide) (by decide) (by decide) (by decide) _
      rw [run_space, run_keyword (by decide) (by decide) hc hq, emit_emit] at hnot
      simpa [nullabilityTokens] using hnot
  rw [htext, run_quotedSql _ (by decide), run_space, run_type, hnull]
  simp [columnTokens]

def columnLines : List MssqlColumn → List Char
  | [] => []
  | [column] => "\n    ".toList ++ column.toSql.toList
  | column :: columns => "\n    ".toList ++ column.toSql.toList ++ ',' :: columnLines columns

theorem foldl_columns (columns : List MssqlColumn) (k n : ℕ) (h : k + columns.length = n) (sql : String) :
    ((columns.zipIdx k).foldl (fun sql (column, index) =>
      sql ++ "\n    " ++ column.toSql ++ (if index + 1 = n then "" else ",")) sql).toList =
      sql.toList ++ columnLines columns := by
  induction columns generalizing k sql with
  | nil => simp [columnLines]
  | cons column columns ih =>
    rw [List.zipIdx_cons, List.foldl_cons, ih (k + 1) (by simp only [List.length_cons] at h; omega)]
    cases columns with
    | nil =>
      have hk : k + 1 = n := h
      simp only [if_pos hk, columnLines, String.append_empty, String.toList_append, List.append_assoc, List.append_nil]
    | cons next columns =>
      have hk : k + 1 ≠ n := by simp only [List.length_cons] at h; omega
      have hcomma : ",".toList = [','] := rfl
      simp only [if_neg hk, columnLines, String.toList_append, List.append_assoc, hcomma, List.singleton_append]

theorem run_columnLines (columns : List MssqlColumn) (cs : List Char) :
    run .start (columnLines columns ++ '\n' :: cs) = emit (columnListTokens columns) (run .start cs) := by
  have hbreak : run .start "\n    ".toList = ([], .start) := by decide
  induction columns with
  | nil => simp [columnLines, columnListTokens, run_newline]
  | cons column columns ih =>
    cases columns with
    | nil =>
      rw [columnLines, List.append_assoc, run_fixed hbreak, run_column _ (by decide) (by decide), run_newline]
      simp [columnListTokens]
    | cons next columns =>
      have hcomma : columnLines (column :: next :: columns) ++ '\n' :: cs = "\n    ".toList ++
          (column.toSql.toList ++ ',' :: (columnLines (next :: columns) ++ '\n' :: cs)) := by
        simp [columnLines]
      rw [hcomma, run_fixed hbreak, run_column _ (by decide) (by decide), run_symbol rfl, ih]
      simp [columnListTokens]

theorem run_tableName (name : TableName) (cs : List Char) :
    run .start (name.quotedSql.toList ++ ' ' :: cs) = emit (tableNameTokens name) (run .start cs) := by
  rcases name with ⟨_ | schema, table⟩
  · exact run_quotedSql table (by decide) cs
  · have htext : (TableName.quotedSql ⟨some schema, table⟩).toList ++ ' ' :: cs =
        schema.quotedSql.toList ++ '.' :: (table.quotedSql.toList ++ ' ' :: cs) := by
      simp [TableName.quotedSql]
    rw [htext, run_quotedSql _ (by decide), run_symbol rfl, run_quotedSql _ (by decide), run_space]
    simp [tableNameTokens]

theorem toList_createTableSql (table : TableName) (columns : List MssqlColumn) (options : CreateTableOptions) :
    (createTableSql table columns options).toList = "CREATE TABLE ".toList ++
      (table.quotedSql.toList ++ ' ' :: '(' :: (columnLines columns ++ '\n' :: [')', ';'])) := by
  unfold createTableSql
  cases columns with
  | nil =>
    simp only [List.isEmpty_nil, if_true, toString_string, String.toList_append, List.append_assoc]
    rfl
  | cons column columns =>
    simp only [List.isEmpty_cons, Bool.false_eq_true, if_false, String.toList_append]
    rw [foldl_columns _ 0 _ (Nat.zero_add _)]
    simp only [toString_string, String.toList_append, List.append_assoc]
    rfl

theorem tokens_createTableSql (table : TableName) (columns : List MssqlColumn) (options : CreateTableOptions) :
    tokens (createTableSql table columns options).toList = some (createTableTokens table columns) := by
  have hhead : run .start "CREATE TABLE ".toList = ([wordToken "CREATE", wordToken "TABLE"], .start) := by decide
  have htail : run .start [')', ';'] = ([.symbol ')', .symbol ';'], .start) := by decide
  rw [tokens, toList_createTableSql, run_fixed hhead, run_tableName, run_symbol rfl, run_columnLines, htail]
  simp [emit, finish, createTableTokens]

@[simp] theorem readNat_toDigits (n : ℕ) : readNat (Nat.toDigits 10 n) = some n := by
  have hdigits : (Nat.toDigits 10 n).all Char.isDigit = true :=
    List.all_eq_true.mpr fun c hc => Nat.isDigit_of_mem_toDigits (by decide) (by decide) hc
  rw [readNat, if_pos ⟨Nat.toDigits_ne_nil, hdigits⟩, Nat.ofDigitChars_ten_toDigits]

theorem readNat_max : readNat "max".toList = none := by decide

theorem toDigits_ne_max (n : ℕ) : Nat.toDigits 10 n ≠ "max".toList := by
  intro h
  have hn := readNat_toDigits n
  rw [h, readNat_max] at hn
  cases hn

theorem readLength_lengthTokens (length : MssqlTypeLength) :
    ∃ text, lengthTokens length = [.word text] ∧ readLength text = some length := by
  cases length with
  | bounded n => exact ⟨_, rfl, by rw [readLength, if_neg (toDigits_ne_max n), readNat_toDigits]; rfl⟩
  | max => exact ⟨_, rfl, by decide⟩

theorem readType_sized {name arg : List Char} {ty : MssqlType} (h : readSizedType name arg = some ty)
    (rest : List Token) :
    readType (.word name :: .symbol '(' :: .word arg :: .symbol ')' :: rest) = some (ty, rest) := by
  have hread : readType (.word name :: .symbol '(' :: .word arg :: .symbol ')' :: rest) =
    (readSizedType name arg).map (·, rest) := rfl
  rw [hread, h]
  rfl

theorem readType_plain {name w : List Char} {ty : MssqlType} (h : readPlainType name = some ty) (ts : List Token) :
    readType (.word name :: .word w :: ts) = some (ty, .word w :: ts) := by
  have hread : readType (.word name :: .word w :: ts) = (readPlainType name).map (·, .word w :: ts) := rfl
  rw [hread, h]
  rfl

theorem readDecimalType_eq (p : ℕ) (s : ℤ) (negative : Bool) (h : (if negative then -(s.natAbs : ℤ) else s.natAbs) = s) :
    readDecimalType "decimal".toList (Nat.toDigits 10 p) (Nat.toDigits 10 s.natAbs) negative = some (.decimal p s) := by
  have hread : readDecimalType "decimal".toList (Nat.toDigits 10 p) (Nat.toDigits 10 s.natAbs) negative =
      (readNat (Nat.toDigits 10 p)).bind fun p => (readNat (Nat.toDigits 10 s.natAbs)).bind fun s =>
        some (.decimal p (if negative then -s else s)) := rfl
  rw [hread, readNat_toDigits, readNat_toDigits, Option.bind_some, Option.bind_some, h]

theorem readType_typeTokens (ty : MssqlType) (w : List Char) (ts : List Token) :
    readType (typeTokens ty ++ .word w :: ts) = some (ty, .word w :: ts) := by
  have hnat : ∀ (name : String) (make : ℕ → MssqlType) (n : ℕ),
      (∀ arg, readSizedType name.toList arg = (readNat arg).map make) →
      readType (sizedTokens name [digitsToken n] ++ .word w :: ts) = some (make n, .word w :: ts) :=
    fun name make n h => readType_sized (by rw [h, readNat_toDigits]; rfl) _
  have hlength : ∀ (name : String) (make : MssqlTypeLength → MssqlType) (length : MssqlTypeLength),
      (∀ arg, readSizedType name.toList arg = (readLength arg).map make) →
      readType (sizedTokens name (lengthTokens length) ++ .word w :: ts) = some (make length, .word w :: ts) := by
    intro name make length h
    obtain ⟨text, htext, hread⟩ := readLength_lengthTokens length
    rw [htext]
    exact readType_sized (by rw [h, hread]; rfl) _
  cases ty with
  | float p => exact hnat "float" .float p fun arg => rfl
  | nVarChar length => exact hlength "nvarchar" .nVarChar length fun arg => rfl
  | varBinary length => exact hlength "varbinary" .varBinary length fun arg => rfl
  | binary n => exact hnat "binary" .binary n fun arg => rfl
  | dateTime2 p => exact hnat "datetime2" .dateTime2 p fun arg => rfl
  | dateTimeOffset p => exact hnat "datetimeoffset" .dateTimeOffset p fun arg => rfl
  | time p =>
    refine readType_sized ?_ _
    have h : readSizedType "time".toList (Nat.toDigits 10 p.get) =
      ((readNat (Nat.toDigits 10 p.get)).bind MssqlTimePrecision.new?).map .time := rfl
    rw [h, readNat_toDigits, Option.bind_some, MssqlTimePrecision.new?, dif_pos p.le_seven]
    rfl
  | decimal p s =>
    rw [typeTokens, scaleTokens]
    split
    case isTrue h =>
      have hs := readDecimalType_eq p s true (by rw [if_pos rfl]; omega)
      exact congrArg (Option.map (·, .word w :: ts)) hs
    case isFalse h =>
      have hs := readDecimalType_eq p s false (by rw [if_neg (by decide)]; omega)
      exact congrArg (Option.map (·, .word w :: ts)) hs
  | _ => exact readType_plain (by decide) ts

theorem readColumn_columnTokens (column : MssqlColumn) (rest : List Token) :
    readColumn (columnTokens column ++ rest) = some ((column.name.value, column.ty, column.nullable), rest) := by
  obtain ⟨name, ty, nullable⟩ := column
  have hnull : readNullability (nullabilityTokens nullable ++ rest) = some (nullable, rest) := by
    cases nullable with
    | true => simp [nullabilityTokens, wordToken, readNullability]
    | false => simp [nullabilityTokens, wordToken, readNullability]
  have hfirst : ∃ w ts, nullabilityTokens nullable ++ rest = .word w :: ts := by
    cases nullable with
    | true => exact ⟨_, _, rfl⟩
    | false => exact ⟨_, _, rfl⟩
  obtain ⟨w, ts, hw⟩ := hfirst
  have hty := readType_typeTokens ty w ts
  rw [← hw] at hty
  simp only [columnTokens, identifierToken, List.cons_append, List.append_assoc, readColumn, hty, hnull,
    Option.bind_eq_bind, Option.bind_some, String.ofList_toList]

def columnTexts (columns : List MssqlColumn) : List (String × MssqlType × Bool) :=
  columns.map fun column => (column.name.value, column.ty, column.nullable)

theorem readColumns_columnListTokens (columns : List MssqlColumn) (hne : columns ≠ []) (n : ℕ)
    (hn : columns.length ≤ n) (rest : List Token) :
    readColumns n (columnListTokens columns ++ .symbol ')' :: rest) = some (columnTexts columns, rest) := by
  induction columns generalizing n with
  | nil => exact absurd rfl hne
  | cons column columns ih =>
    obtain ⟨n, rfl⟩ : ∃ m, n = m + 1 := ⟨n - 1, by simp only [List.length_cons] at hn; omega⟩
    cases columns with
    | nil =>
      simp [columnListTokens, readColumns, readColumn_columnTokens column, columnTexts]
    | cons next columns =>
      have hread := ih (by simp) n (by simp only [List.length_cons] at hn ⊢; omega)
      have htokens : columnListTokens (column :: next :: columns) ++ .symbol ')' :: rest =
          columnTokens column ++ .symbol ',' :: (columnListTokens (next :: columns) ++ .symbol ')' :: rest) := by
        simp [columnListTokens]
      rw [htokens, readColumns, readColumn_columnTokens]
      simp [hread, columnTexts]

theorem length_columnTokens_pos (columns : List MssqlColumn) : columns.length ≤ (columnListTokens columns).length := by
  induction columns with
  | nil => simp
  | cons column columns ih =>
    cases columns with
    | nil => simp [columnListTokens, columnTokens]
    | cons next columns =>
      simp only [columnListTokens, columnTokens, List.length_append, List.length_cons] at ih ⊢
      omega

theorem readTableName_tableNameTokens (name : TableName) (rest : List Token) :
    readTableName (tableNameTokens name ++ .symbol '(' :: rest) =
      some ((name.schema.map Identifier.value, name.table.value), .symbol '(' :: rest) := by
  rcases name with ⟨_ | schema, table⟩
  · simp [tableNameTokens, identifierToken, readTableName]
  · simp [tableNameTokens, identifierToken, readTableName]

theorem readCreateTable_createTableSql (table : TableName) (columns : List MssqlColumn)
    (options : CreateTableOptions) : readCreateTable (createTableSql table columns options) =
      some ⟨table.schema.map Identifier.value, table.table.value, columnTexts columns⟩ := by
  rw [readCreateTable, tokens_createTableSql, Option.bind_some, createTableTokens]
  simp only [List.cons_append, List.nil_append, List.append_assoc, readCreateTableTokens, wordToken,
    readTableName_tableNameTokens]
  cases columns with
  | nil => simp [columnListTokens, columnTexts]
  | cons column columns =>
    have hbound := length_columnTokens_pos (column :: columns)
    have hread := readColumns_columnListTokens (column :: columns) (by simp)
      (columnListTokens (column :: columns) ++ [Token.symbol ')', Token.symbol ';']).length
      (by simp only [List.length_append]; omega) [Token.symbol ';']
    have hfirst : ∃ ts, columnListTokens (column :: columns) = identifierToken column.name :: ts := by
      cases columns with
      | nil => exact ⟨_, rfl⟩
      | cons next columns => exact ⟨_, rfl⟩
    obtain ⟨ts, hts⟩ := hfirst
    simp only [hts, identifierToken, List.cons_append] at hread ⊢
    simp only [Option.bind_eq_bind, Option.bind_some, hread]
    simp

theorem intercalate_pair (sep a b : String) : sep.intercalate [a, b] = a ++ (sep ++ b) := by
  rw [← String.append_assoc]
  rfl

theorem exists_text (a b c d x : String) :
    a ++ b ++ (toString c ++ toString x ++ toString d) = (a ++ b ++ c) ++ (x ++ d) := by
  simp only [toString_string, String.append_assoc]

def existsCondition (table : TableName) : String :=
  "t.name = " ++ sqlStringLiteral table.table.value ++
    match table.schema with
    | some schema => " AND " ++ ("s.name = " ++ sqlStringLiteral schema.value)
    | none => ""

theorem tableExistsQuery_eq (table : TableName) :
    tableExistsQuery table = existsHead ++ (existsCondition table ++ existsTail) := by
  rcases table with ⟨_ | schema, table⟩
  · exact (exists_text _ _ _ _ _).trans
      (congrArg (fun x => existsHead ++ (x ++ existsTail)) String.append_empty.symm)
  · exact (exists_text _ _ _ _ _).trans
      (congrArg (fun x => existsHead ++ (x ++ existsTail)) (intercalate_pair _ _ _))

def literalToken (text : String) : Token := .quoted (.literal true) text.toList

def conditionTokens (source : String) (text : String) : List Token :=
  [wordToken source, .symbol '.', wordToken "name", .symbol '=', literalToken text]

def existsTokens (table : TableName) : List Token :=
  conditionTokens "t" table.table.value ++
    match table.schema with
    | some schema => wordToken "AND" :: conditionTokens "s" schema.value
    | none => []

theorem run_existsCondition (table : TableName) {c : Char} (hc : c ≠ '\'') (cs : List Char) :
    run .start ((existsCondition table).toList ++ c :: cs) = emit (existsTokens table) (run .start (c :: cs)) := by
  have htable : run .start "t.name = ".toList =
    ([wordToken "t", .symbol '.', wordToken "name", .symbol '='], .start) := by decide
  have hand : run .start (" AND ".toList ++ "s.name = ".toList) =
    ([wordToken "AND", wordToken "s", .symbol '.', wordToken "name", .symbol '='], .start) := by decide
  rcases table with ⟨_ | schema, table⟩
  · simp only [existsCondition, String.append_empty, String.toList_append, List.append_assoc]
    rw [run_fixed htable, run_sqlStringLiteral _ hc, emit_emit]
    rfl
  · have hspace : " AND ".toList = ' ' :: "AND ".toList := by decide
    simp only [existsCondition, String.toList_append, List.append_assoc]
    rw [run_fixed htable, hspace, List.cons_append, run_sqlStringLiteral _ (by decide), ← List.cons_append, ← hspace,
      ← List.append_assoc " AND ".toList, run_fixed hand, run_sqlStringLiteral _ hc, emit_emit, emit_emit]
    rfl

theorem run_existsHead : ∃ ts, run .start existsHead.toList = (ts, .start) := by
  have h : (run .start existsHead.toList).2 = .start := by decide +kernel
  generalize run .start existsHead.toList = p at h ⊢
  exact ⟨p.1, Prod.ext rfl h⟩

theorem existsTail_cons : existsTail.toList = ')' :: existsTail.toList.tail := by decide +kernel

theorem run_existsTail :
    ∃ ts, run .start existsTail.toList = (.symbol ')' :: ts, .closing .bracket "exists".toList) :=
  ⟨(run .start existsTail.toList).1.tail, by decide +kernel⟩

theorem tokens_tableExistsQuery (table : TableName) :
    ∃ head tail, tokens existsHead.toList = some head ∧ tokens existsTail.toList = some (.symbol ')' :: tail) ∧
      tokens (tableExistsQuery table).toList = some (head ++ existsTokens table ++ .symbol ')' :: tail) := by
  obtain ⟨head, hhead⟩ := run_existsHead
  obtain ⟨tail, htail⟩ := run_existsTail
  refine ⟨head, tail ++ [.quoted .bracket "exists".toList], ?_, ?_, ?_⟩
  · simp [tokens, hhead, finish]
  · simp only [tokens, htail, finish]
    rfl
  · rw [tokens, tableExistsQuery_eq, String.toList_append, String.toList_append, run_fixed hhead, existsTail_cons,
      run_existsCondition _ (by decide), ← existsTail_cons, htail]
    simp [emit, finish]

theorem readCondition_conditionTokens (source text : String) (rest : List Token) :
    readCondition source.toList (conditionTokens source text ++ rest) = some (text, rest) := by
  simp [readCondition, conditionTokens, wordToken, literalToken]

theorem readTableExists_tableExistsQuery (table : TableName) :
    readTableExists (tableExistsQuery table) = some (table.schema.map Identifier.value, table.table.value) := by
  obtain ⟨head, tail, hhead, htail, hquery⟩ := tokens_tableExistsQuery table
  have ht : ['t'] = "t".toList := rfl
  have hs : ['s'] = "s".toList := rfl
  rcases table with ⟨_ | schema, table⟩
  · simp only [readTableExists, hhead, htail, hquery, Option.bind_eq_bind, Option.bind_some, existsTokens,
      List.append_assoc, List.take_left, List.drop_left, ht, readCondition_conditionTokens]
    simp
  · simp only [readTableExists, hhead, htail, hquery, Option.bind_eq_bind, Option.bind_some, existsTokens,
      List.append_assoc, List.take_left, List.drop_left, ht, hs, readCondition_conditionTokens, List.cons_append,
      wordToken]
    simp

theorem columnTexts_injective : Function.Injective columnTexts := by
  refine List.map_injective_iff.mpr fun a b h => ?_
  obtain ⟨⟨name, hname⟩, ty, nullable⟩ := a
  obtain ⟨⟨name', hname'⟩, ty', nullable'⟩ := b
  simp only [Prod.mk.injEq] at h
  obtain ⟨rfl, rfl, rfl⟩ := h
  rfl

theorem tableName_eq {a b : TableName} (hschema : a.schema.map Identifier.value = b.schema.map Identifier.value)
    (htable : a.table.value = b.table.value) : a = b := by
  obtain ⟨schema, table⟩ := a
  obtain ⟨schema', table'⟩ := b
  have hinj : Function.Injective Identifier.value := by
    rintro ⟨v, hv⟩ ⟨w, hw⟩ h
    cases h
    rfl
  exact TableName.mk.injEq .. ▸ ⟨Option.map_injective hinj hschema, hinj htable⟩

/-- Reading the generated statements back recovers the names, types and nullability they were made
from; in particular the statement text determines them. -/
theorem sql_text_lossless (table : TableName) (columns : List MssqlColumn) (options : CreateTableOptions) :
    tokens (createTableSql table columns options).toList = some (createTableTokens table columns) ∧
    readCreateTable (createTableSql table columns options) =
      some ⟨table.schema.map Identifier.value, table.table.value, columnTexts columns⟩ ∧
    readTableExists (tableExistsQuery table) = some (table.schema.map Identifier.value, table.table.value) ∧
    ∀ table' columns' options', createTableSql table columns options = createTableSql table' columns' options' →
      table = table' ∧ columns = columns' := by
  refine ⟨tokens_createTableSql table columns options, readCreateTable_createTableSql table columns options,
    readTableExists_tableExistsQuery table, fun table' columns' options' h => ?_⟩
  have hread := readCreateTable_createTableSql table columns options
  rw [h, readCreateTable_createTableSql, Option.some.injEq, TableDefinition.mk.injEq] at hread
  obtain ⟨hschema, htable, hcolumns⟩ := hread
  exact ⟨(tableName_eq hschema htable).symm, (columnTexts_injective hcolumns).symm⟩

end ArrowTiberius
