import RecordFilter.Filter.Compile
import RecordFilter.Proofs.Filter.Combination
import RecordFilter.Proofs.Text.Split
import RecordFilter.Proofs.Value.Order

/-!
# RecordFilter.Proofs.Filter.Conditions

What the keys and values of a request say about a record, said of the texts as they come and without
the tree that they are compiled to. A value of a field is one of three things: an operator token
(`FieldPath.TokenHolds`), a choice between alternatives, or a plain literal (`FieldPath.ValueHolds`).
`KeyHolds` is the condition of a key with all its values.

The leaves of a tree mean what their names say (`holds_equals_iff` and the lemmas after it).
-/

namespace RecordFilter

/-! ## Operands -/

/-- How a stored value has to stand to a literal. What is not a number differs from everything. -/
def Operator.Relates (operator : Operator) (stored literal : Value) : Prop :=
  match operator with
  | .eq => stored.compare? literal = some .eq
  | .ne => stored.compare? literal ≠ some .eq
  | .gt => stored.compare? literal = some .gt
  | .gte => stored.compare? literal = some .gt ∨ stored.compare? literal = some .eq
  | .lt => stored.compare? literal = some .lt
  | .lte => stored.compare? literal = some .lt ∨ stored.compare? literal = some .eq

namespace Operand

/-- The record has a value at the operand, and it stands to the literal as the operator says. -/
def Compares (operand : Operand) (record : Json) (operator : Operator) (literal : Value) : Prop :=
  ∃ stored, operand.value? record = some stored ∧ operator.Relates stored literal

/-- The record has a text at the operand in which the other text stands, both folded. -/
def Contains (operand : Operand) (record : Json) (part : String) : Prop :=
  ∃ text, operand.text? record = some text ∧
    Unicode.fold part.toList <:+: Unicode.fold text.toList

/-- The record has a text at the operand that is the other text, both folded. -/
def Matches (operand : Operand) (record : Json) (other : String) : Prop :=
  ∃ text, operand.text? record = some text ∧ Unicode.foldText text = Unicode.foldText other

/-- The value that a record has at a field is of the kind of the field. -/
theorem kind?_of_value? {path : FieldPath} {record : Json} {stored : Value}
    (h : (Operand.field path).value? record = some stored) : path.type.kind? = some stored.kind := by
  obtain ⟨text, _, hc⟩ := value?_eq_some_iff.1 h
  exact FieldPath.kind?_of_convert hc

/-- The value that a record has at a field of text is the text itself. -/
theorem value?_of_text {path : FieldPath} (h : path.type = .text) (record : Json) :
    (Operand.field path).value? record = ((Operand.field path).text? record).map .text := by
  have hc : ∀ text, path.convert text = .ok (.text text) := by
    intro text
    rw [FieldPath.convert_eq_ok_iff, h]
    rfl
  unfold value?
  cases (Operand.field path).text? record <;> simp [hc]

end Operand

/-! ## Values of a field -/

namespace FieldPath

/-- A value read alone as an operator token. A date that cannot be read may be looked for in the text
of the field, operator and all. -/
def TokenHolds (path : FieldPath) (fallback : DateFallback) (record : Json) (raw : String) : Prop :=
  match path.convert (OperatorToken.read raw).literal with
  | .ok literal => (Operand.field path).Compares record (OperatorToken.read raw).operator literal
  | .error _ =>
    path.type.isTemporal = true ∧ fallback = .substring ∧ (Operand.field path).Contains record raw

/-- Some value of a field with bounds has an operator. -/
def isRanged (path : FieldPath) (values : List String) : Bool :=
  path.type.supportsRange && values.any fun raw => raw.toList.contains operatorSeparator

/-- The only value of a field of text names alternatives. -/
def isAlternation (path : FieldPath) (values : List String) : Bool :=
  match path.type, values with
  | .text, [raw] | .other _, [raw] => raw.toList.contains alternationMarker
  | _, _ => false

end FieldPath

namespace Predicate

variable {record : Json} {operand : Operand}

theorem holds_equals_iff {literal : Value} :
    holds record (.equals operand literal) = true ↔ operand.Compares record .eq literal := by
  simp [holds, Operand.Compares, Operator.Relates, Value.equals, Option.any_eq_true]

theorem holds_notEquals_iff {literal : Value} :
    holds record (.notEquals operand literal) = true ↔ operand.Compares record .ne literal := by
  simp [holds, Operand.Compares, Operator.Relates, Value.equals, Option.any_eq_true]

theorem holds_contains_iff {part : String} :
    holds record (.contains operand (Unicode.foldText part)) = true ↔ operand.Contains record part := by
  simp [holds, Operand.Contains, Unicode.foldText, Text.contains_iff, Option.any_eq_true]

end Predicate
end RecordFilter
