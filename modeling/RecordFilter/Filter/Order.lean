import RecordFilter.Schema.Record
import RecordFilter.Text.Basic

/-!
# RecordFilter.Filter.Order

The order in which records are wanted.
-/

namespace RecordFilter

inductive SortDirection where
  | ascending
  | descending
deriving DecidableEq, Repr

namespace SortDirection

/-- Descending only if it is asked for, in any case of letters. -/
def read : Option String → SortDirection
  | some token => if Text.isWord "desc" (Text.trim token.toList) then .descending else .ascending
  | none => .ascending

def isDescending : SortDirection → Bool
  | .descending => true
  | .ascending => false

def name : SortDirection → String
  | .ascending => "asc"
  | .descending => "desc"

end SortDirection

structure OrderClause where
  operand : Operand
  direction : SortDirection
deriving DecidableEq, Repr

namespace OrderClause

def display (order : OrderClause) : String :=
  order.operand.key ++ if order.direction.isDescending then " DESC" else " ASC"

/-- Without a field, or with a blank one, there is no order. -/
def build (schema : Schema) (field direction : Option String) :
    Except FilterError (Option OrderClause) :=
  match field.map fun name => Text.trim name.toList with
  | none => .ok none
  | some [] => .ok none
  | some name =>
    (schema.resolve (String.ofList name)).map fun operand =>
      some ⟨operand, SortDirection.read direction⟩

end OrderClause
end RecordFilter
