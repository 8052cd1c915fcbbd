import RecordFilter.Filter.Document
import RecordFilter.Sql.Binding

/-!
# RecordFilter.Sql.Statement

A compiled query as a `SELECT` with parameters. The tables behind the aliases are joined by whoever
runs the statement.
-/

namespace RecordFilter
namespace Sql

structure Statement where
  dialect : Dialect
  whereClause : String
  orderBy : Option String
  joins : List String
  text : String
  params : List Value

def orderText (dialect : Dialect) (order : OrderClause) (b : Binding) : String × Binding :=
  let (term, b) := bindOrder dialect order b
  (dialect.orderBy (term.write dialect) order.direction.isDescending true, b)

def statementText (table whereClause : String) (orderBy : Option String)
    (page : Option (Nat × Nat)) : String :=
  "SELECT * FROM " ++ quoteIdent table ++ " WHERE " ++ whereClause ++
    (match orderBy with
      | some order => " ORDER BY " ++ order
      | none => "") ++
    match page with
    | some (limit, offset) => " " ++ limitOffset limit offset
    | none => ""

/-- `page` is a limit and an offset. -/
def render (dialect : Dialect) (table : String) (query : CompiledQuery)
    (page : Option (Nat × Nat)) : Statement :=
  let (condition, b) := bindPredicate dialect query.predicate Binding.empty
  let whereClause := condition.write dialect
  let (orderBy, b) :=
    match query.order with
    | none => (none, b)
    | some order =>
      let (text, b) := orderText dialect order b
      (some text, b)
  { dialect
    whereClause
    orderBy
    joins := b.joins
    text := statementText table whereClause orderBy page
    params := b.params }

/-! ## As a JSON document -/

def joinsMember : List String → Json.Members
  | [] => []
  | joins => [("joins", .texts joins)]

def Statement.toJson (statement : Statement) : Json :=
  .object
    ([("dialect", .string statement.dialect.name), ("where_clause", .string statement.whereClause)] ++
      Json.optional "order_by" (statement.orderBy.map .string) ++
      joinsMember statement.joins ++
      [("statement", .string statement.text),
        ("params", .array (statement.params.map Value.toJson))])

end Sql
end RecordFilter
