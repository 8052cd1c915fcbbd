import RecordFilter.Proofs.Filter.Combination
import RecordFilter.Proofs.Sql.Clauses

/-!
# RecordFilter.Proofs.Sql.Quoting

Text between quotes cannot get out of them. A whole statement is cut into tokens in one way
(`render_written`), and of these the quoted ones are the names that the query speaks of and the keys that
its order is written with, one token for each mention, in the order of the query (`Predicate.quoted`,
`OrderClause.quoted`). What stands in a name or in a key makes no further token.

* `quotedIn_bindPredicate`, `quotedIn_orderTokens`: the quoted tokens of conditions and of orders.
* `quoted_is_one_token`: the same of what is quoted alone and of whole statements.
-/

namespace RecordFilter

open Sql (Token Dialect aliasOf)

/-! ## What is quoted -/

/-- The alias of the relations, if there are any on the way, and the column. -/
def FieldPath.quoted (path : FieldPath) : List Token :=
  if path.relations.isEmpty then [.ident path.name] else [.ident (aliasOf path.relations), .ident path.name]

/-- The keys inside a document are parameters. -/
def Operand.quoted : Operand → List Token
  | .field path => path.quoted
  | .json path => path.column.quoted

/-- How often the operand of a range is written. -/
def Predicate.boundMentions (min max : Option Bound) : Nat :=
  match min, max with
  | some ⟨_, true⟩, some ⟨_, true⟩ => 1
  | _, _ => min.toList.length + max.toList.length

mutual

/-- A pattern is written with its escape character. -/
def Predicate.quoted : Predicate → List Token
  | .always => []
  | .all children => Predicate.quotedOf children
  | .any children => Predicate.quotedOf children
  | .equals operand _ => operand.quoted
  | .notEquals operand _ => operand.quoted
  | .contains operand _ => operand.quoted ++ [.string "\\"]
  | .foldedEquals operand _ => operand.quoted
  | .range operand min max => (List.replicate (Predicate.boundMentions min max) operand.quoted).flatten

def Predicate.quotedOf : List Predicate → List Token
  | [] => []
  | child :: rest => Predicate.quoted child ++ Predicate.quotedOf rest

end

/-- In an order the keys inside a document are written out. -/
def Operand.spelled (dialect : Dialect) : Operand → List Token
  | .field path => path.quoted
  | .json path => path.column.quoted ++ (dialect.jsonPathParams path.keys).map .string

/-- One of the dialects writes the operand of an order twice. -/
def OrderClause.quoted (dialect : Dialect) (order : OrderClause) : List Token :=
  match dialect with
  | .postgres => order.operand.spelled .postgres
  | .sqlite => order.operand.spelled .sqlite ++ order.operand.spelled .sqlite

/-- The table, what is looked for, and in what order. -/
def CompiledQuery.quoted (dialect : Dialect) (table : String) (query : CompiledQuery) : List Token :=
  .ident table :: (query.predicate.quoted ++ (query.order.toList.flatMap (OrderClause.quoted dialect)))

namespace Sql

def Token.isQuoted : Token → Bool
  | .ident _ | .string _ => true
  | _ => false

def quotedIn (tokens : List Token) : List Token := tokens.filter Token.isQuoted

variable {dialect : Dialect}

/-! ## Terms -/

@[simp]
theorem quotedIn_nil : quotedIn [] = [] := rfl

@[simp]
theorem quotedIn_cons (token : Token) (ts : List Token) :
    quotedIn (token :: ts) = if token.isQuoted then token :: quotedIn ts else quotedIn ts :=
  List.filter_cons ..

@[simp]
theorem quotedIn_append (ts us : List Token) : quotedIn (ts ++ us) = quotedIn ts ++ quotedIn us :=
  List.filter_append ..

theorem quotedIn_flatMap {α : Type} (f : α → List Token) (l : List α) :
    quotedIn (l.flatMap f) = l.flatMap fun x => quotedIn (f x) := List.filter_flatMap

/-- A parameter is not quoted, whether its number is shown or not. -/
theorem quotedIn_shown (tokens : List Token) : quotedIn (tokens.map dialect.shown) = quotedIn tokens := by
  have hshown : Token.isQuoted ∘ dialect.shown = Token.isQuoted := by
    funext token
    cases token with
    | parameter index? => cases index? <;> cases dialect <;> rfl
    | _ => rfl
  have hsame : ∀ token : Token, token.isQuoted = true → dialect.shown token = token := by
    intro token ht
    cases token with
    | parameter index? => cases ht
    | _ => rfl
  rw [quotedIn, List.filter_map, hshown]
  refine List.map_congr_left (fun token ht => ?_) |>.trans (List.map_id' _)
  exact hsame token (List.mem_filter.1 ht).2

theorem quotedIn_castTokens (tokens : List Token) :
    quotedIn (dialect.castTokens tokens) = quotedIn tokens := by
  cases dialect <;> simp [Dialect.castTokens, Token.isQuoted]

theorem quotedIn_jsonTokens (tokens : List Token) :
    quotedIn (dialect.jsonTokens tokens) = quotedIn tokens := by
  cases dialect <;> simp [Dialect.jsonTokens, Dialect.castTokens, Token.isQuoted]

theorem quotedIn_column (path : FieldPath) : quotedIn (columnOf path).tokens = path.quoted := by
  unfold columnOf FieldPath.quoted
  cases path.relations.isEmpty <;> rfl

theorem quotedIn_jsonText (source : Column) (keys : List Term) :
    quotedIn ((Term.jsonText source keys).tokens dialect) =
      quotedIn source.tokens ++ keys.flatMap fun key => quotedIn (key.tokens dialect) := by
  rw [Term.tokens, quotedIn_jsonTokens, quotedIn_append]
  cases keys with
  | nil => rfl
  | cons key keys =>
    rw [if_neg (by simp), Term.tokensOf_eq, quotedIn_flatMap]
    rfl

theorem quotedIn_fold (term : Term) :
    quotedIn ((Term.fold term).tokens dialect) = quotedIn (term.tokens dialect) := by
  simp [Term.tokens, Token.isQuoted]

theorem quotedIn_bindTexts (texts : List String) (b : Binding) :
    ((b.bindTexts texts).1.flatMap fun key => quotedIn (key.tokens dialect)) = [] := by
  induction texts generalizing b with
  | nil => rfl
  | cons text texts ih => exact ih _

theorem quotedIn_literals (texts : List String) :
    ((texts.map Term.literal).flatMap fun key => quotedIn (key.tokens dialect)) = texts.map .string := by
  induction texts with
  | nil => rfl
  | cons text texts ih => exact congrArg (.string text :: ·) ih

theorem quotedIn_bindJson (path : JsonPath) (b : Binding) :
    quotedIn ((bindJson dialect path b).1.tokens dialect) = path.column.quoted := by
  change quotedIn ((Term.jsonText (columnOf path.column) _).tokens dialect) = _
  rw [quotedIn_jsonText, quotedIn_bindTexts, quotedIn_column, List.append_nil]

theorem quotedIn_bindOperand (operand : Operand) (b : Binding) :
    quotedIn ((bindOperand dialect operand b).1.tokens dialect) = operand.quoted := by
  cases operand with
  | field path => exact quotedIn_column path
  | json path => exact quotedIn_bindJson path b

theorem quotedIn_bindFolded (operand : Operand) (b : Binding) :
    quotedIn ((bindFolded dialect operand b).1.tokens dialect) = operand.quoted := by
  cases operand with
  | field path =>
    change quotedIn ((Term.fold (if path.type = .text then .column (columnOf path)
      else .cast (.column (columnOf path)))).tokens dialect) = path.quoted
    rw [quotedIn_fold]
    split
    · exact quotedIn_column path
    · rw [Term.tokens, quotedIn_castTokens]
      exact quotedIn_column path
  | json path =>
    change quotedIn ((Term.fold (bindJson dialect path b).1).tokens dialect) = path.column.quoted
    rw [quotedIn_fold, quotedIn_bindJson]

/-! ## Conditions -/

theorem quotedIn_parens {separator : Token} (hs : separator.isQuoted = false) (child : Condition)
    (rest : List Condition) :
    quotedIn (.opening :: (child.tokens dialect ++ Condition.tokensOf dialect separator rest ++
      [.closing])) = (child :: rest).flatMap fun c => quotedIn (c.tokens dialect) := by
  have hopening : Token.opening.isQuoted = false := rfl
  have hclosing : Token.closing.isQuoted = false := rfl
  simp [Condition.tokensOf_eq, quotedIn_flatMap, hs, hopening, hclosing]

theorem quotedIn_all (conditions : List Condition) :
    quotedIn ((Condition.all conditions).tokens dialect) =
      conditions.flatMap fun c => quotedIn (c.tokens dialect) := by
  cases conditions with
  | nil => rfl
  | cons child rest => exact quotedIn_parens rfl child rest

theorem quotedIn_any (conditions : List Condition) :
    quotedIn ((Condition.any conditions).tokens dialect) =
      conditions.flatMap fun c => quotedIn (c.tokens dialect) := by
  cases conditions with
  | nil => rfl
  | cons child rest => exact quotedIn_parens rfl child rest

theorem quotedIn_compare (left : Term) (comparison : Comparison) (right : Term) :
    quotedIn ((Condition.compare left comparison right).tokens dialect) =
      quotedIn (left.tokens dialect) ++ quotedIn (right.tokens dialect) :=
  quotedIn_append ..

theorem quotedIn_bindComparison (left : Term) (comparison : Comparison) (value : Value) (b : Binding) :
    quotedIn ((bindComparison left comparison value b).1.tokens dialect) =
      quotedIn (left.tokens dialect) :=
  (quotedIn_compare ..).trans (List.append_nil _)

/-! ## Ranges -/

section

variable {α : Type} {f : Condition → List α} {own : List α} {left : Term}

theorem collected_bindBound
    (compare : ∀ comparison index, f (.compare left comparison (.parameter index)) = own)
    (inclusive exclusive : Comparison) (bound : Option Bound) (b : Binding) :
    (bindBound left inclusive exclusive bound b).1.flatMap f =
      (List.replicate bound.toList.length own).flatten := by
  cases bound with
  | none => rfl
  | some bound => exact congrArg (· ++ []) (compare _ _)

theorem collected_boundConditions (all : ∀ conditions, f (.all conditions) = conditions.flatMap f)
    (conditions : List Condition) : f (boundConditions conditions) = conditions.flatMap f := by
  unfold boundConditions
  split
  · exact (List.append_nil _).symm
  · exact all conditions

/-- What is collected of a range is what is collected of the operand, as often as it is written. -/
theorem collected_bindRange
    (compare : ∀ comparison index, f (.compare left comparison (.parameter index)) = own)
    (all : ∀ conditions, f (.all conditions) = conditions.flatMap f)
    (between : ∀ low high, f (.between left (.parameter low) (.parameter high)) = own)
    (min max : Option Bound) (b : Binding) :
    f (bindRange left min max b).1 =
      (List.replicate (Predicate.boundMentions min max) own).flatten := by
  have hbounds : f (boundConditions ((bindBound left .ge .gt min b).1 ++
      (bindBound left .le .lt max (bindBound left .ge .gt min b).2).1)) =
        (List.replicate (min.toList.length + max.toList.length) own).flatten := by
    rw [collected_boundConditions all, List.flatMap_append, collected_bindBound compare,
      collected_bindBound compare, ← List.flatten_append, List.replicate_append_replicate]
  cases min with
  | none => cases max <;> exact hbounds
  | some low =>
    obtain ⟨low, lowClosed⟩ := low
    cases max with
    | none => cases lowClosed <;> exact hbounds
    | some high =>
      obtain ⟨high, highClosed⟩ := high
      -- Only two closed bounds are written as one condition.
      cases lowClosed with
      | false => exact hbounds
      | true =>
        cases highClosed with
        | false => exact hbounds
        | true => exact (between _ _).trans (List.append_nil own).symm

end

theorem quotedIn_bindRange (left : Term) (min max : Option Bound) (b : Binding) :
    quotedIn ((bindRange left min max b).1.tokens dialect) =
      (List.replicate (Predicate.boundMentions min max) (quotedIn (left.tokens dialect))).flatten := by
  refine collected_bindRange (f := fun c => quotedIn (c.tokens dialect)) (fun _ _ => ?_) quotedIn_all
    (fun _ _ => ?_) min max b
  · exact (quotedIn_compare ..).trans (List.append_nil _)
  · exact (quotedIn_append ..).trans (List.append_nil _)

theorem quotedIn_bindPredicates {children : List Predicate}
    (h : ∀ child ∈ children, ∀ b, quotedIn ((bindPredicate dialect child b).1.tokens dialect) = child.quoted)
    (b : Binding) :
    ((bindPredicates dialect children b).1.flatMap fun c => quotedIn (c.tokens dialect)) =
      Predicate.quotedOf children := by
  induction children generalizing b with
  | nil => rfl
  | cons child rest ih =>
    rw [List.forall_mem_cons] at h
    change quotedIn _ ++ (bindPredicates dialect rest _).1.flatMap _ = _
    rw [h.1 b, ih h.2]
    rfl

/-- The quoted tokens of a condition are what the query speaks of, whatever was bound before. -/
theorem quotedIn_bindPredicate (p : Predicate) (b : Binding) :
    quotedIn ((bindPredicate dialect p b).1.tokens dialect) = p.quoted := by
  induction p using Predicate.induction generalizing b with
  | always => rfl
  | all children ih => exact (quotedIn_all _).trans (quotedIn_bindPredicates ih b)
  | any children ih => exact (quotedIn_any _).trans (quotedIn_bindPredicates ih b)
  | leaf p hleaf =>
    cases p with
    | always | all | any => cases hleaf
    | equals operand value | notEquals operand value =>
      exact (quotedIn_bindComparison ..).trans (quotedIn_bindOperand operand b)
    | foldedEquals operand text =>
      exact (quotedIn_bindComparison ..).trans (quotedIn_bindFolded operand b)
    | contains operand needle =>
      exact (quotedIn_append ..).trans (congrArg (· ++ [.string "\\"]) (quotedIn_bindFolded operand b))
    | range operand min max =>
      refine (quotedIn_bindRange (bindOperand dialect operand b).1 min max _).trans ?_
      rw [quotedIn_bindOperand]
      rfl

/-! ## Orders -/

theorem quotedIn_bindOrder (order : OrderClause) (b : Binding) :
    quotedIn ((bindOrder dialect order b).1.tokens dialect) = order.operand.spelled dialect := by
  obtain ⟨operand, direction⟩ := order
  cases operand with
  | field path => exact quotedIn_column path
  | json path =>
    change quotedIn ((Term.jsonText (columnOf path.column) _).tokens dialect) = _
    rw [quotedIn_jsonText, quotedIn_literals, quotedIn_column]
    rfl

theorem quotedIn_orderTokens (order : OrderClause) (b : Binding) :
    quotedIn (dialect.orderTokens ((bindOrder dialect order b).1.tokens dialect)
      order.direction.isDescending) = order.quoted dialect := by
  have hterm : quotedIn ((bindOrder dialect order b).1.tokens dialect) = _ := quotedIn_bindOrder order b
  cases dialect with
  | postgres => simp [Dialect.orderTokens, Dialect.directionToken, Token.isQuoted, OrderClause.quoted, hterm]
  | sqlite => simp [Dialect.orderTokens, Dialect.directionToken, Token.isQuoted, OrderClause.quoted, hterm]

/-! ## Statements -/

theorem quotedIn_statementTokens (table : String) (query : CompiledQuery) (page : Option (Nat × Nat)) :
    quotedIn (statementTokens dialect table query page) = query.quoted dialect table := by
  have hpage : quotedIn (pageTokens page) = [] := by
    cases page <;> rfl
  have horder : ∀ b, quotedIn (orderByTokens dialect query.order b) =
      query.order.toList.flatMap (OrderClause.quoted dialect) := by
    intro b
    cases query.order with
    | none => rfl
    | some order => exact (quotedIn_orderTokens order b).trans (List.append_nil _).symm
  have hcondition : quotedIn ((bindPredicate dialect query.predicate Binding.empty).1.tokens dialect) =
      query.predicate.quoted := quotedIn_bindPredicate query.predicate Binding.empty
  change .ident table :: quotedIn (_ ++ _ ++ _) = _
  rw [quotedIn_append, quotedIn_append, hcondition, horder, hpage, List.append_nil]
  rfl

/-- A text between quotes is read as the one token that stands for it, up to what follows. So is all that
a statement has between quotes: it is cut into tokens in one way, and those of them that are quoted are
the table, the columns with the aliases of their relations, the escape characters of the patterns and the
keys of the order, in the order of the query and one token each. -/
theorem quoted_is_one_token :
    (∀ (text : String) (rest : List Char), rest.head? ≠ some '\'' →
        readToken? ((quoteLiteral text).toList ++ rest) = some (.string text, rest)) ∧
      (∀ (name : String) (rest : List Char), rest.head? ≠ some '"' →
        readToken? ((quoteIdent name).toList ++ rest) = some (.ident name, rest)) ∧
      ∀ (dialect : Dialect) (table : String) (query : CompiledQuery) (page : Option (Nat × Nat)),
        ∃ tokens, Lexes (render dialect table query page).text.toList tokens ∧
          (∀ other, Lexes (render dialect table query page).text.toList other → other = tokens) ∧
          tokens.filter Token.isQuoted = query.quoted dialect table := by
  refine ⟨fun text _ => readToken?_quoteLiteral text, fun name _ => readToken?_quoteIdent name,
    fun dialect table query page => ?_⟩
  have hwritten : Written dialect _ _ := render_written table query page
  have hlexes := hwritten ends_nil Lexes.nil
  rw [List.append_nil, List.append_nil] at hlexes
  refine ⟨_, hlexes, fun other hother => hother.deterministic hlexes, ?_⟩
  exact (quotedIn_shown _).trans (quotedIn_statementTokens table query page)

/-- A quote in the name of the table, one in a key of the order, and one at the end of a text. -/
theorem quoted_is_one_token_agua :
    " ASC".toList.head? ≠ some '\'' ∧
      readToken? ((quoteLiteral "d'agua'").toList ++ " ASC".toList) =
        some (.string "d'agua'", " ASC".toList) ∧
      " WHERE".toList.head? ≠ some '"' ∧
      readToken? ((quoteIdent "\"t\"").toList ++ " WHERE".toList) =
        some (.ident "\"t\"", " WHERE".toList) ∧
      ∃ tokens, Lexes (render .sqlite "pro\"dutos" ⟨.contains (.field ⟨["fornecedor", "nome"], .text⟩) "x",
          some ⟨.json ⟨⟨["dto"], .json⟩, ["d'agua"]⟩, .ascending⟩, []⟩ none).text.toList tokens ∧
        tokens.filter Token.isQuoted =
          [.ident "pro\"dutos", .ident "fornecedor", .ident "nome", .string "\\",
            .ident "dto", .string "$.\"d'agua\"", .ident "dto", .string "$.\"d'agua\""] := by
  obtain ⟨hliteral, hident, hstatement⟩ := quoted_is_one_token
  have hasc : " ASC".toList.head? ≠ some '\'' := by decide
  have hwhere : " WHERE".toList.head? ≠ some '"' := by decide
  obtain ⟨tokens, hlexes, -, hquoted⟩ := hstatement .sqlite "pro\"dutos"
    ⟨.contains (.field ⟨["fornecedor", "nome"], .text⟩) "x",
      some ⟨.json ⟨⟨["dto"], .json⟩, ["d'agua"]⟩, .ascending⟩, []⟩ none
  exact ⟨hasc, hliteral _ _ hasc, hwhere, hident _ _ hwhere, tokens, hlexes, hquoted⟩

end Sql
end RecordFilter
