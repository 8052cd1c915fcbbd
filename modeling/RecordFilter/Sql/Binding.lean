import RecordFilter.Filter.Compile
import RecordFilter.Sql.Expression

/-!
# RecordFilter.Sql.Binding

From predicates to conditions of SQL. On the way the values are bound to parameters in the order in
which they are met, and the aliases of the relations are collected.
-/

namespace RecordFilter
namespace Sql

structure Binding where
  params : List Value
  joins : List String

namespace Binding

def empty : Binding := ⟨[], []⟩

/-- The parameter that stands for the value. -/
def bind (b : Binding) (value : Value) : Term × Binding :=
  (.parameter (b.params.length + 1), { b with params := b.params ++ [value] })

def bindTexts (b : Binding) : List String → List Term × Binding
  | [] => ([], b)
  | text :: rest =>
    let (term, b) := b.bind (.text text)
    let (terms, b) := b.bindTexts rest
    (term :: terms, b)

def join (b : Binding) (table : String) : Binding :=
  if b.joins.contains table then b else { b with joins := b.joins ++ [table] }

end Binding

/-! ## Columns -/

/-- Relations are joined under their path. -/
def aliasOf (relations : List String) : String := Text.joined "__" relations

def columnOf (path : FieldPath) : Column :=
  ⟨if path.relations.isEmpty then none else some (aliasOf path.relations), path.name⟩

def bindColumn (path : FieldPath) (b : Binding) : Column × Binding :=
  let column := columnOf path
  (column, match column.alias? with
    | some table => b.join table
    | none => b)

/-- A place inside a document; its keys are parameters. -/
def bindJson (dialect : Dialect) (path : JsonPath) (b : Binding) : Term × Binding :=
  let (column, b) := bindColumn path.column b
  let (keys, b) := b.bindTexts (dialect.jsonPathParams path.keys)
  (.jsonText column keys, b)

/-- The same with the keys written out, for expressions that are written more than once. -/
def inlineJson (dialect : Dialect) (path : JsonPath) (b : Binding) : Term × Binding :=
  let (column, b) := bindColumn path.column b
  (.jsonText column ((dialect.jsonPathParams path.keys).map .literal), b)

def bindOperand (dialect : Dialect) (operand : Operand) (b : Binding) : Term × Binding :=
  match operand with
  | .field path =>
    let (column, b) := bindColumn path b
    (.column column, b)
  | .json path => bindJson dialect path b

/-- The folded text; what is not text is made text first. -/
def bindFolded (dialect : Dialect) (operand : Operand) (b : Binding) : Term × Binding :=
  match operand with
  | .field path =>
    let (column, b) := bindColumn path b
    (.fold (if path.type = .text then .column column else .cast (.column column)), b)
  | .json path =>
    let (term, b) := bindJson dialect path b
    (.fold term, b)

/-! ## Conditions -/

def bindComparison (left : Term) (comparison : Comparison) (value : Value) (b : Binding) :
    Condition × Binding :=
  let (right, b) := b.bind value
  (.compare left comparison right, b)

def bindBound (left : Term) (inclusive exclusive : Comparison) (bound : Option Bound)
    (b : Binding) : List Condition × Binding :=
  match bound with
  | none => ([], b)
  | some bound =>
    let (condition, b) :=
      bindComparison left (if bound.inclusive then inclusive else exclusive) bound.value b
    ([condition], b)

def bindRange (left : Term) (min max : Option Bound) (b : Binding) : Condition × Binding :=
  match min, max with
  | some ⟨low, true⟩, some ⟨high, true⟩ =>
    let (low, b) := b.bind low
    let (high, b) := b.bind high
    (.between left low high, b)
  | _, _ =>
    let (low, b) := bindBound left .ge .gt min b
    let (high, b) := bindBound left .le .lt max b
    match low ++ high with
    | [condition] => (condition, b)
    | conditions => (.all conditions, b)

def likePattern (needle : String) : String := "%" ++ escapeLike needle ++ "%"

mutual

def bindPredicate (dialect : Dialect) : Predicate → Binding → Condition × Binding
  | .always, b => (.all [], b)
  | .all children, b =>
    let (conditions, b) := bindPredicates dialect children b
    (.all conditions, b)
  | .any children, b =>
    let (conditions, b) := bindPredicates dialect children b
    (.any conditions, b)
  | .equals operand value, b =>
    let (left, b) := bindOperand dialect operand b
    bindComparison left .eq value b
  | .notEquals operand value, b =>
    let (left, b) := bindOperand dialect operand b
    bindComparison left .ne value b
  | .contains operand needle, b =>
    let (left, b) := bindFolded dialect operand b
    let (pattern, b) := b.bind (.text (likePattern needle))
    (.like left pattern, b)
  | .foldedEquals operand value, b =>
    let (left, b) := bindFolded dialect operand b
    bindComparison left .eq (.text value) b
  | .range operand min max, b =>
    let (left, b) := bindOperand dialect operand b
    bindRange left min max b

def bindPredicates (dialect : Dialect) : List Predicate → Binding → List Condition × Binding
  | [], b => ([], b)
  | child :: rest, b =>
    let (condition, b) := bindPredicate dialect child b
    let (conditions, b) := bindPredicates dialect rest b
    (condition :: conditions, b)

end

/-! ## Order -/

def bindOrder (dialect : Dialect) (order : OrderClause) (b : Binding) : Term × Binding :=
  match order.operand with
  | .field path =>
    let (column, b) := bindColumn path b
    (.column column, b)
  | .json path => inlineJson dialect path b

end Sql
end RecordFilter
