import RecordFilter.Filter.Compile
import RecordFilter.Store.Evaluation

/-!
# RecordFilter.Store.Query

Rows that meet a query, in order, one page of them.
-/

namespace RecordFilter

/-- Pages are counted from zero. -/
structure PageRequest where
  page : Nat
  size : Nat
deriving DecidableEq, Repr

def PageRequest.offset (request : PageRequest) : Nat := request.page * request.size

/-- The rows of one page, and how many rows there are on all pages. -/
structure RecordPage where
  rows : List Json
  total : Nat

/-! ## Order -/

namespace SortKey

/-- What is not a number has no place among the numbers and counts as missing. -/
def of (operand : Operand) (row : Json) : Option Value :=
  (operand.value? row).filter fun value => !value.isNan

/-- The order of two values of one operand. Negative zero comes before zero. -/
def compareValues : Value → Value → Ordering
  | .single a, .single b => compare (a.totalKey?.getD 0) (b.totalKey?.getD 0)
  | .double a, .double b => compare (a.totalKey?.getD 0) (b.totalKey?.getD 0)
  | a, b => (a.compare? b).getD .eq

/-- Missing values come last in both directions. -/
def compareTo (direction : SortDirection) : Option Value → Option Value → Ordering
  | some a, some b =>
    match direction with
    | .ascending => compareValues a b
    | .descending => (compareValues a b).swap
  | some _, none => .lt
  | none, some _ => .gt
  | none, none => .eq

def le (direction : SortDirection) (a b : Option Value × Json) : Bool :=
  compareTo direction a.1 b.1 != .gt

end SortKey

/-- Rows with equal keys keep their order. -/
def sortRows (order : OrderClause) (rows : List Json) : List Json :=
  let keyed := rows.map fun row => (SortKey.of order.operand row, row)
  (keyed.mergeSort (SortKey.le order.direction)).map (·.2)

/-! ## Store -/

structure Store where
  rows : List Json

namespace Store

def selected (store : Store) (query : CompiledQuery) : List Json :=
  store.rows.filter fun row => query.predicate.holds row

def ordered (store : Store) (query : CompiledQuery) : List Json :=
  match query.order with
  | none => store.selected query
  | some order => sortRows order (store.selected query)

def query (store : Store) (query : CompiledQuery) (page : PageRequest) : RecordPage :=
  let rows := store.ordered query
  ⟨(rows.drop page.offset).take page.size, rows.length⟩

end Store
end RecordFilter
