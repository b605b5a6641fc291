import ArrowTiberius.Diagnostic

namespace ArrowTiberius

open Checked

def maxIdentifierChars : ℕ := 128

def isControl (c : Char) : Bool := c.toNat < 0x20 || (0x7f ≤ c.toNat && c.toNat ≤ 0x9f)

def replaceChar (value : String) (c : Char) (by' : List Char) : String :=
  String.ofList (value.toList.flatMap fun x => if x = c then by' else [x])

inductive IdentifierPolicy where
  | bracketQuoted
  deriving DecidableEq, Repr

def validateIdentifier (value : String) : IdentifierPolicy → Result Unit
  | .bracketQuoted => do
    ensure (¬value.isEmpty) (.invalidIdentifier "identifier cannot be empty")
    ensure (¬value.toList.any isControl) (.invalidIdentifier "identifier cannot contain control characters")
    let len := value.toList.length
    ensure (¬len > maxIdentifierChars)
      (.invalidIdentifier s!"identifier is {len} characters; maximum is {maxIdentifierChars}")

structure Identifier where
  value : String
  valid : validateIdentifier value .bracketQuoted = .ok ()
  deriving DecidableEq

namespace Identifier

def withPolicy (value : String) (policy : IdentifierPolicy) : Result Identifier :=
  match policy, h : validateIdentifier value policy with
  | .bracketQuoted, .ok () => .ok ⟨value, h⟩
  | _, .error e => .error e

def new (value : String) : Result Identifier := withPolicy value .bracketQuoted

theorem safe_new (value : String) : Safe (new value) := by
  have hvalidate : Safe (validateIdentifier value .bracketQuoted) :=
    safe_bind (safe_ensure _ _) fun _ _ => safe_bind (safe_ensure _ _) fun _ _ => safe_ensure _ _
  unfold new withPolicy
  split
  case h_1 => exact safe_ok _
  case h_2 e h =>
    rintro ⟨⟩
    exact hvalidate h

end Identifier

def bracketQuote (value : String) : String :=
  let escaped := replaceChar value ']' [']', ']']
  s!"[{escaped}]"

def Identifier.quotedSql (id : Identifier) : String := bracketQuote id.value

structure TableName where
  schema : Option Identifier
  table : Identifier
  deriving DecidableEq

namespace TableName

def new (schema table : String) : Result TableName := do
  let schema ← Identifier.new schema
  let table ← Identifier.new table
  pure ⟨some schema, table⟩

def unqualified (table : String) : Result TableName := do
  let table ← Identifier.new table
  pure ⟨none, table⟩

def quotedSql (name : TableName) : String :=
  match name.schema with
  | some schema => s!"{schema.quotedSql}.{name.table.quotedSql}"
  | none => name.table.quotedSql

end TableName

end ArrowTiberius
