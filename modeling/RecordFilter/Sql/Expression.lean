import RecordFilter.Sql.Dialect

/-!
# RecordFilter.Sql.Expression

Conditions of SQL as trees, and how they are written. A tree holds no values, only the numbers of the
parameters that stand for them.
-/

namespace RecordFilter
namespace Sql

/-- A column of the table itself, or of a table that is joined under an alias. -/
structure Column where
  alias? : Option String
  name : String
deriving DecidableEq, Repr

inductive Term where
  | column (column : Column)
  | parameter (index : Nat)
  | literal (text : String)
  | cast (term : Term)
  | fold (term : Term)
  | jsonText (column : Column) (keys : List Term)
deriving Repr

inductive Comparison where
  | eq
  | ne
  | ge
  | gt
  | le
  | lt
deriving DecidableEq, Repr

/-- Nothing at all is a conjunction that holds and a disjunction that does not. -/
inductive Condition where
  | all (children : List Condition)
  | any (children : List Condition)
  | compare (left : Term) (comparison : Comparison) (right : Term)
  | like (left pattern : Term)
  | between (term low high : Term)
deriving Repr

/-! ## Writing -/

def Column.write (column : Column) : String :=
  match column.alias? with
  | none => quoteIdent column.name
  | some table => quoteIdent table ++ "." ++ quoteIdent column.name

mutual

def Term.write (dialect : Dialect) : Term → String
  | .column source => source.write
  | .parameter index => dialect.placeholder index
  | .literal text => quoteLiteral text
  | .cast term => dialect.castToString (Term.write dialect term)
  | .fold term => foldText (Term.write dialect term)
  | .jsonText source keys => dialect.jsonExtractText source.write (Term.writeAll dialect keys)

def Term.writeAll (dialect : Dialect) : List Term → List String
  | [] => []
  | term :: rest => Term.write dialect term :: Term.writeAll dialect rest

end

def Comparison.write : Comparison → String
  | .eq => "="
  | .ne => "<>"
  | .ge => ">="
  | .gt => ">"
  | .le => "<="
  | .lt => "<"

mutual

def Condition.write (dialect : Dialect) : Condition → String
  | .all [] => "1=1"
  | .all (child :: rest) =>
    "(" ++ Condition.write dialect child ++ Condition.writeRest dialect " AND " rest ++ ")"
  | .any [] => "1=0"
  | .any (child :: rest) =>
    "(" ++ Condition.write dialect child ++ Condition.writeRest dialect " OR " rest ++ ")"
  | .compare left comparison right =>
    left.write dialect ++ " " ++ comparison.write ++ " " ++ right.write dialect
  | .like left pattern => left.write dialect ++ " LIKE " ++ pattern.write dialect ++ " ESCAPE '\\'"
  | .between term low high =>
    term.write dialect ++ " BETWEEN " ++ low.write dialect ++ " AND " ++ high.write dialect

def Condition.writeRest (dialect : Dialect) (separator : String) : List Condition → String
  | [] => ""
  | child :: rest =>
    separator ++ Condition.write dialect child ++ Condition.writeRest dialect separator rest

end

end Sql
end RecordFilter
