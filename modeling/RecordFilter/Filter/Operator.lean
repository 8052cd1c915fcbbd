import RecordFilter.Text.Basic
import RecordFilter.Value.Reading

/-!
# RecordFilter.Filter.Operator

Comparison operators, and the tokens `operator:literal` in which they come.
-/

namespace RecordFilter

inductive Operator where
  | eq
  | ne
  | gt
  | gte
  | lt
  | lte
deriving DecidableEq, Repr

namespace Operator

def name : Operator → String
  | .eq => "eq"
  | .ne => "ne"
  | .gt => "gt"
  | .gte => "gte"
  | .lt => "lt"
  | .lte => "lte"

def all : List Operator := [.eq, .ne, .gt, .gte, .lt, .lte]

/-- The operator of that name, in any case of letters. -/
def ofName? (name : List Char) : Option Operator :=
  all.find? fun operator => Text.isWord operator.name name

end Operator

structure OperatorToken where
  operator : Operator
  literal : String
deriving DecidableEq, Repr

/-- What stands before the first separator is the operator. Without a separator, and for an unknown
name, it is `eq`. -/
def OperatorToken.read (raw : String) : OperatorToken :=
  match Text.splitFirst? operatorSeparator raw.toList with
  | some (name, literal) => ⟨(Operator.ofName? name).getD .eq, String.ofList literal⟩
  | none => ⟨.eq, raw⟩

end RecordFilter
