import RecordFilter.Text.Basic
import RecordFilter.Unicode.Fold

/-!
# RecordFilter.Sql.Dialect

The two kinds of SQL that are written, and how their smallest pieces look.
-/

namespace RecordFilter
namespace Sql

inductive Dialect where
  | postgres
  | sqlite
deriving DecidableEq, Repr, Inhabited

/-! ## Quoting -/

def replaceChar (c : Char) (replacement : List Char) (text : String) : String :=
  String.ofList (text.toList.flatMap fun d => if d = c then replacement else [d])

def quoteIdent (ident : String) : String := "\"" ++ replaceChar '"' ['"', '"'] ident ++ "\""

def quoteLiteral (text : String) : String := "'" ++ replaceChar '\'' ['\'', '\''] text ++ "'"

/-- In a pattern that is matched with `ESCAPE '\'` the result stands for exactly the given text. -/
def escapeLike (text : String) : String :=
  String.ofList (text.toList.flatMap fun c => if c = '\\' ∨ c = '%' ∨ c = '_' then ['\\', c] else [c])

/-! ## Pieces -/

def foldText (expression : String) : String := "unaccent(lower(" ++ expression ++ "))"

def limitOffset (limit offset : Nat) : String :=
  "LIMIT " ++ toString limit ++ " OFFSET " ++ toString offset

namespace Dialect

def name : Dialect → String
  | .postgres => "postgres"
  | .sqlite => "sqlite"

/-- Parameters are numbered from one; only one of the dialects shows the number. -/
def placeholder (dialect : Dialect) (index : Nat) : String :=
  match dialect with
  | .postgres => "$" ++ toString index
  | .sqlite => "?"

def castToString (dialect : Dialect) (expression : String) : String :=
  match dialect with
  | .postgres => expression ++ "::TEXT"
  | .sqlite => "CAST(" ++ expression ++ " AS TEXT)"

/-- The texts that name a place inside a document: one for each key, or one path for all of them. -/
def jsonPathParams (dialect : Dialect) (keys : List String) : List String :=
  match dialect with
  | .postgres => keys
  | .sqlite =>
    [keys.foldl (fun path key => path ++ ".\"" ++ replaceChar '"' ['\\', '"'] key ++ "\"") "$"]

def jsonExtractText (dialect : Dialect) (column : String) (params : List String) : String :=
  let arguments := column ++ ", " ++ Text.joined ", " params
  match dialect with
  | .postgres => "jsonb_extract_path_text(" ++ arguments ++ ")"
  | .sqlite => "CAST(json_extract(" ++ arguments ++ ") AS TEXT)"

def direction (descending : Bool) : String := if descending then "DESC" else "ASC"

/-- Where a dialect has no words for the place of missing values, they get a key of their own. -/
def orderBy (dialect : Dialect) (expression : String) (descending nullsLast : Bool) : String :=
  match dialect with
  | .postgres =>
    expression ++ " " ++ direction descending ++ if nullsLast then " NULLS LAST" else " NULLS FIRST"
  | .sqlite =>
    "CASE WHEN " ++ expression ++ " IS NULL THEN " ++ (if nullsLast then "1 ELSE 0" else "0 ELSE 1") ++
      " END, " ++ expression ++ " " ++ direction descending

/-! ## Names -/

def names : List (String × Dialect) :=
  [("sqlite", .sqlite), ("postgres", .postgres), ("postgresql", .postgres)]

def invalidMessage (name : String) : String :=
  "Invalid SQL dialect '" ++ name ++ "'. Valid options: postgres, sqlite"

def ofName? (name : String) : Option Dialect :=
  names.lookup (String.ofList (Unicode.lowercase name.toList))

end Dialect
end Sql
end RecordFilter
