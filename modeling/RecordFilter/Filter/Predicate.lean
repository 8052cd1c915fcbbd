import RecordFilter.Schema.Operand
import RecordFilter.Value.Value

/-!
# RecordFilter.Filter.Predicate

Conditions on a record. They are built with `conjunction` and `disjunction`, which keep them flat: no
`all` directly inside an `all`, no `any` directly inside an `any`, and `always` nowhere inside.
-/

namespace RecordFilter

structure Bound where
  value : Value
  inclusive : Bool
deriving DecidableEq

/-- `contains` and `foldedEquals` look at folded text; their own text is folded already. -/
inductive Predicate where
  | always
  | all (children : List Predicate)
  | any (children : List Predicate)
  | equals (operand : Operand) (value : Value)
  | notEquals (operand : Operand) (value : Value)
  | contains (operand : Operand) (needle : String)
  | foldedEquals (operand : Operand) (value : String)
  | range (operand : Operand) (min max : Option Bound)

namespace Predicate

def isAlways : Predicate → Bool
  | .always => true
  | _ => false

/-! ## Combination -/

/-- What a child adds to a conjunction. -/
def conjuncts : Predicate → List Predicate
  | .always => []
  | .all children => children
  | child => [child]

def conjunction (children : List Predicate) : Predicate :=
  match children.flatMap conjuncts with
  | [] => .always
  | [child] => child
  | flat => .all flat

/-- What a child adds to a disjunction. -/
def disjuncts : Predicate → List Predicate
  | .any children => children
  | child => [child]

/-- Nothing at all is a disjunction that never holds. -/
def disjunction (children : List Predicate) : Predicate :=
  if children.any isAlways then .always
  else
    match children.flatMap disjuncts with
    | [child] => child
    | flat => .any flat

/-! ## Text -/

def showBounds (key : String) (min max : Option Bound) : List String :=
  (match min with
    | some bound =>
      [key ++ (if bound.inclusive then " >= " else " > ") ++ Text.quoted bound.value.display]
    | none => []) ++
  match max with
  | some bound =>
    [key ++ (if bound.inclusive then " <= " else " < ") ++ Text.quoted bound.value.display]
  | none => []

mutual

def display : Predicate → String
  | .always => "TRUE"
  | .all [] => "TRUE"
  | .all (child :: rest) => "(" ++ display child ++ displayRest " AND " rest ++ ")"
  | .any [] => "FALSE"
  | .any (child :: rest) => "(" ++ display child ++ displayRest " OR " rest ++ ")"
  | .equals operand value => operand.key ++ " = " ++ Text.quoted value.display
  | .notEquals operand value => operand.key ++ " <> " ++ Text.quoted value.display
  | .contains operand needle => "fold(" ++ operand.key ++ ") ~ " ++ Text.quoted needle
  | .foldedEquals operand value => "fold(" ++ operand.key ++ ") = " ++ Text.quoted value
  | .range operand min max => Text.joined " AND " (showBounds operand.key min max)

def displayRest (separator : String) : List Predicate → String
  | [] => ""
  | child :: rest => separator ++ display child ++ displayRest separator rest

end

end Predicate
end RecordFilter
