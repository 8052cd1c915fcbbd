import RecordFilter.Proofs.Sql.Grammar
import RecordFilter.Proofs.Sql.Pattern
import RecordFilter.Store.Evaluation

/-!
# RecordFilter.Proofs.Sql.Evaluation

What an expression of SQL comes to at a row, in the logic with three truth values: what is compared with
a missing value is neither true nor false. A row is what the database says of its columns, and how it
changes texts (`Row`). `Row.Shows` ties a row to a record.
-/

namespace RecordFilter
namespace Sql

/-! ## Truth values -/

/-- `none` is neither true nor false. -/
abbrev Truth : Type := Option Bool

namespace Truth

def and : Truth → Truth → Truth
  | some false, _ => some false
  | _, some false => some false
  | some true, some true => some true
  | _, _ => none

def or : Truth → Truth → Truth
  | some true, _ => some true
  | _, some true => some true
  | some false, some false => some false
  | _, _ => none

/-- Only a boolean is true or false. -/
def ofValue? : Option Value → Truth
  | some (.boolean b) => some b
  | _ => none

def toValue? (t : Truth) : Option Value := t.map .boolean

theorem ofValue?_toValue? (t : Truth) : ofValue? t.toValue? = t := by cases t <;> rfl

theorem and_eq_true_iff {s t : Truth} : s.and t = some true ↔ s = some true ∧ t = some true := by
  rcases s with _ | _ | _ <;> rcases t with _ | _ | _ <;> simp [and]

theorem or_eq_true_iff {s t : Truth} : s.or t = some true ↔ s = some true ∨ t = some true := by
  rcases s with _ | _ | _ <;> rcases t with _ | _ | _ <;> simp [or]

end Truth

/-! ## Rows -/

/-- The columns of a row: the value of each, its text, and the text at a place inside a document. -/
structure Row where
  value? : Column → Option Value
  text? : Column → Option String
  inside? : Column → List String → Option String
  lower : String → String
  unaccent : String → String

def textOf? : Option Value → Option String
  | some (.text text) => some text
  | _ => none

def Comparison.holds (comparison : Comparison) (a b : Value) : Bool :=
  match comparison with
  | .eq => a.equals b
  | .ne => !a.equals b
  | .gt => a.compare? b == some .gt
  | .ge => a.compare? b == some .gt || a.equals b
  | .lt => a.compare? b == some .lt
  | .le => a.compare? b == some .lt || a.equals b

def Comparison.truth (comparison : Comparison) : Option Value → Option Value → Truth
  | some a, some b => some (comparison.holds a b)
  | _, _ => none

namespace Like

def truth (escape? : Option Char) (text? pattern? : Option String) : Truth :=
  match text?, pattern? with
  | some text, some pattern => holds? escape? pattern.toList text.toList
  | _, _ => none

def truthEscaped (text? pattern? escape? : Option String) : Truth :=
  match escape?.map String.toList with
  | some [c] => truth (some c) text? pattern?
  | _ => none

end Like

namespace Row

/-- The functions that are written. The document that a place is looked up in is a column. -/
def apply (row : Row) (name : String) (arguments : List Expr) (values : List (Option Value)) :
    Option Value :=
  match name, arguments, values with
  | "lower", _, [value] => ((textOf? value).map row.lower).map .text
  | "unaccent", _, [value] => ((textOf? value).map row.unaccent).map .text
  | "jsonb_extract_path_text", .column column :: _, _ :: keys
  | "json_extract", .column column :: _, _ :: keys =>
    ((keys.mapM textOf?).bind (row.inside? column)).map .text
  | _, _, _ => none

/-- The text of a column is its own, which need not be how its value is shown. -/
def castText (row : Row) (inner : Expr) (value : Option Value) : Option Value :=
  match inner with
  | .column column => (row.text? column).map .text
  | _ => value.map fun v => .text v.display

end Row

/-! ## Expressions -/

namespace Expr

mutual

/-- Parameters are counted from one. -/
def eval (row : Row) (params : List Value) : Expr → Option Value
  | .column source => row.value? source
  | .parameter 0 => none
  | .parameter (index + 1) => params[index]?
  | .string text => some (.text text)
  | .number value => some (.integer .bits64 value)
  | .call name arguments => row.apply name arguments (evalAll row params arguments)
  | .cast inner => row.castText inner (eval row params inner)
  | .compare left comparison right =>
    (comparison.truth (eval row params left) (eval row params right)).toValue?
  | .like left pattern =>
    (Like.truth none (textOf? (eval row params left)) (textOf? (eval row params pattern))).toValue?
  | .likeEscape left pattern escape =>
    (Like.truthEscaped (textOf? (eval row params left)) (textOf? (eval row params pattern))
      (textOf? (eval row params escape))).toValue?
  | .between inner low high =>
    (Truth.and (Comparison.ge.truth (eval row params inner) (eval row params low))
      (Comparison.le.truth (eval row params inner) (eval row params high))).toValue?
  | .and left right =>
    ((Truth.ofValue? (eval row params left)).and (Truth.ofValue? (eval row params right))).toValue?
  | .or left right =>
    ((Truth.ofValue? (eval row params left)).or (Truth.ofValue? (eval row params right))).toValue?

def evalAll (row : Row) (params : List Value) : List Expr → List (Option Value)
  | [] => []
  | e :: rest => eval row params e :: evalAll row params rest

end

mutual

/-- The parameters from left to right. -/
def parameters : Expr → List Nat
  | .column _ | .string _ | .number _ => []
  | .parameter index => [index]
  | .call _ arguments => parametersOf arguments
  | .cast inner => parameters inner
  | .compare left _ right => parameters left ++ parameters right
  | .like left pattern => parameters left ++ parameters pattern
  | .likeEscape left pattern escape => parameters left ++ (parameters pattern ++ parameters escape)
  | .between inner low high => parameters inner ++ (parameters low ++ parameters high)
  | .and left right => parameters left ++ parameters right
  | .or left right => parameters left ++ parameters right

def parametersOf : List Expr → List Nat
  | [] => []
  | e :: rest => parameters e ++ parametersOf rest

end

def IsTrue (row : Row) (params : List Value) (e : Expr) : Prop :=
  Truth.ofValue? (e.eval row params) = some true

variable {row : Row} {params : List Value}

theorem parametersOf_eq (es : List Expr) : parametersOf es = es.flatMap parameters := by
  induction es with
  | nil => rfl
  | cons e es ih => rw [parametersOf, ih]; rfl

theorem parameters_foldl_and (e : Expr) (es : List Expr) :
    (es.foldl and e).parameters = (e :: es).flatMap parameters := by
  induction es generalizing e with
  | nil => simp
  | cons x es ih => rw [List.foldl_cons, ih]; simp [parameters]

theorem parameters_foldl_or (e : Expr) (es : List Expr) :
    (es.foldl or e).parameters = (e :: es).flatMap parameters := by
  induction es generalizing e with
  | nil => simp
  | cons x es ih => rw [List.foldl_cons, ih]; simp [parameters]

theorem isTrue_compare_iff {left right : Expr} {comparison : Comparison} :
    (compare left comparison right).IsTrue row params ↔ ∃ a b, left.eval row params = some a ∧
      right.eval row params = some b ∧ comparison.holds a b = true := by
  rw [IsTrue, eval, Truth.ofValue?_toValue?]
  cases left.eval row params <;> cases right.eval row params <;> simp [Comparison.truth]

theorem isTrue_between_iff {inner low high : Expr} :
    (between inner low high).IsTrue row params ↔ (compare inner .ge low).IsTrue row params ∧
      (compare inner .le high).IsTrue row params := by
  simp only [IsTrue, eval, Truth.ofValue?_toValue?, Truth.and_eq_true_iff]

theorem isTrue_and_iff {left right : Expr} :
    (and left right).IsTrue row params ↔ left.IsTrue row params ∧ right.IsTrue row params := by
  simp only [IsTrue, eval, Truth.ofValue?_toValue?, Truth.and_eq_true_iff]

theorem isTrue_or_iff {left right : Expr} :
    (or left right).IsTrue row params ↔ left.IsTrue row params ∨ right.IsTrue row params := by
  simp only [IsTrue, eval, Truth.ofValue?_toValue?, Truth.or_eq_true_iff]

theorem isTrue_foldl_and_iff {e : Expr} {es : List Expr} :
    (es.foldl and e).IsTrue row params ↔ ∀ x ∈ e :: es, x.IsTrue row params := by
  induction es generalizing e with
  | nil => simp
  | cons x es ih => rw [List.foldl_cons, ih]; simp [isTrue_and_iff, and_assoc]

theorem isTrue_foldl_or_iff {e : Expr} {es : List Expr} :
    (es.foldl or e).IsTrue row params ↔ ∃ x ∈ e :: es, x.IsTrue row params := by
  induction es generalizing e with
  | nil => simp
  | cons x es ih => rw [List.foldl_cons, ih]; simp [isTrue_or_iff, or_assoc]

/-- A text holds a needle if and only if it is like the pattern that is made of the needle. -/
theorem isTrue_likeEscape_iff {left pattern : Expr} {text? : Option String} {needle : String}
    (hl : left.eval row params = text?.map .text)
    (hp : pattern.eval row params = some (.text (likePattern needle))) :
    (likeEscape left pattern (.string "\\")).IsTrue row params ↔
      ∃ text, text? = some text ∧ Text.contains needle.toList text.toList = true := by
  rw [IsTrue, eval, Truth.ofValue?_toValue?, hl, hp]
  cases text? with
  | none => simp [Like.truthEscaped, Like.truth, textOf?, eval]
  | some text => simp [Like.truthEscaped, Like.truth, textOf?, eval, Like.holds?_likePattern]

end Expr

/-! ## Records -/

/-- The row says of what the operand looks at what the record says. -/
def Row.Shows (row : Row) (dialect : Dialect) (record : Json) : Operand → Prop
  | .field path =>
    row.value? (columnOf path) = (Operand.field path).value? record ∧
      row.text? (columnOf path) = (Operand.field path).text? record
  | .json path =>
    row.inside? (columnOf path.column) (dialect.jsonPathParams path.keys) =
      (Operand.json path).text? record

/-- Lower case and without accents a text is as it is when it is folded. -/
def Row.Folds (row : Row) : Prop := ∀ text, row.unaccent (row.lower text) = Unicode.foldText text

/-- A row of a database that folds in the two steps in which texts are folded here. -/
def Row.folding (value? : Column → Option Value) (text? : Column → Option String)
    (inside? : Column → List String → Option String) : Row where
  value?
  text?
  inside?
  lower text := String.ofList (Unicode.lowercase text.toList)
  unaccent text :=
    String.ofList ((Unicode.decompose text.toList).filter fun c => !Unicode.isDiacritic c)

theorem Row.folds_folding (value? : Column → Option Value) (text? : Column → Option String)
    (inside? : Column → List String → Option String) : (Row.folding value? text? inside?).Folds := by
  intro text
  simp [Row.folding, Unicode.foldText, Unicode.fold]

end Sql
end RecordFilter
