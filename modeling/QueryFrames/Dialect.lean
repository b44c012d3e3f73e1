import QueryFrames.Text.LowerCase
import QueryFrames.Text.Quotes

/-!
SQL dialects and how each of them names things. A dialect quotes identifiers in its own way, and some fold the
case of a bare name before they look it up; the name of a common table expression is written so that a bare
reference to it finds it.
-/

namespace QueryFrames

/-- The dialects statements can be written in. -/
inductive Dialect where
  | bigQuery
  | duckDb
  | postgres
  | snowflake
  | tSql
deriving DecidableEq, Repr, Inhabited

/-- A dialect name, in lower case, that no dialect answers to. -/
structure UnsupportedDialect where
  name : String
deriving DecidableEq, Repr

/-- The text shown for an unsupported dialect. -/
def UnsupportedDialect.message (error : UnsupportedDialect) : String :=
  "unsupported dialect: " ++ error.name

namespace Dialect

/-- All dialects. -/
def all : List Dialect := [bigQuery, duckDb, postgres, snowflake, tSql]

/-- The name a dialect has in settings and on the command line. -/
def name : Dialect → String
  | bigQuery => "bigquery"
  | duckDb => "duckdb"
  | postgres => "postgres"
  | snowflake => "snowflake"
  | tSql => "tsql"

/-- The name a dialect has when a value holding it is inspected. -/
def inspect : Dialect → String
  | bigQuery => "BigQuery"
  | duckDb => "DuckDb"
  | postgres => "Postgres"
  | snowflake => "Snowflake"
  | tSql => "TSql"

/-- The dialect of exactly that name. -/
def ofName? (text : String) : Option Dialect :=
  all.find? (·.name = text)

/-- The dialect a person means by a name, in any case and with the usual short forms. -/
def parse (text : String) : Except UnsupportedDialect Dialect :=
  match Text.lowerCase text with
  | "bigquery" | "bq" => .ok bigQuery
  | "duckdb" | "duck" => .ok duckDb
  | "postgres" | "postgresql" | "pg" => .ok postgres
  | "snowflake" => .ok snowflake
  | "tsql" | "mssql" | "sqlserver" => .ok tSql
  | other => .error ⟨other⟩

/-- The quotes around an identifier. -/
def quotes : Dialect → Quotes
  | bigQuery => .grave
  | duckDb | postgres | snowflake => .double
  | tSql => .bracket

/-- Whether a bare identifier has its case folded before it is looked up. -/
def foldsCase : Dialect → Bool
  | postgres | snowflake => true
  | bigQuery | duckDb | tSql => false

/-- A quoted identifier. -/
def quoteIdentifier (dialect : Dialect) (identifier : String) : String :=
  dialect.quotes.quote identifier

/-- The name of a common table expression as it stands in a `WITH` clause. -/
def cteName (dialect : Dialect) (name : String) : String :=
  if dialect.foldsCase then name else dialect.quoteIdentifier name

/-- The parts of a dotted path, after every quote of the dialect is taken out of it. -/
def pathParts (dialect : Dialect) (path : String) : List String :=
  ((dialect.quotes.strip path).toList.splitOn '.').map String.ofList

/-- One part of a path; an asterisk on its own stays bare. -/
def quotePart (dialect : Dialect) (part : String) : String :=
  if part = "*" then part else dialect.quoteIdentifier part

/-- A dotted path with each part quoted; a path that is quoted already comes out the same. -/
def quotePath (dialect : Dialect) (path : String) : String :=
  String.intercalate "." ((dialect.pathParts path).map dialect.quotePart)

theorem ofName?_name (dialect : Dialect) : ofName? dialect.name = some dialect := by
  cases dialect <;> decide

end Dialect

end QueryFrames
