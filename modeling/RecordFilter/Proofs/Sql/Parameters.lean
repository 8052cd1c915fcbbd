import RecordFilter.Proofs.Filter.Conditions
import RecordFilter.Proofs.Sql.Evaluation
import RecordFilter.Proofs.Sql.Writing

/-!
# RecordFilter.Proofs.Sql.Parameters

Parameters stand in the text in the order in which they are bound. What is bound is added behind what was
bound before (`Binding.Adds`), and the tokens show the numbers of what was added. So the dialect that does
not show numbers loses nothing: counting from the left gives them back (`numberFrom_shown`).

* `bindOperand_isBound`, `bindFolded_isBound`: the term for an operand comes to its value or its folded
  text.
-/

namespace RecordFilter
namespace Sql

/-! ## Numbers -/

/-- The parameters among the tokens from left to right, with their numbers. -/
def indexesIn (tokens : List Token) : List (Option Nat) :=
  tokens.filterMap fun token =>
    match token with
    | .parameter index? => some index?
    | _ => none

theorem indexesIn_append (ts us : List Token) : indexesIn (ts ++ us) = indexesIn ts ++ indexesIn us :=
  List.filterMap_append

theorem indexesIn_flatMap {α : Type} (f : α → List Token) (l : List α) :
    indexesIn (l.flatMap f) = l.flatMap fun x => indexesIn (f x) := by
  induction l with
  | nil => rfl
  | cons x l ih => rw [List.flatMap_cons, indexesIn_append, ih, List.flatMap_cons]

theorem Dialect.shown_postgres (token : Token) : Dialect.postgres.shown token = token := by
  cases token with
  | parameter index? => cases index? <;> rfl
  | _ => rfl

theorem map_shown_postgres (ts : List Token) : ts.map Dialect.postgres.shown = ts := by
  rw [List.map_congr_left fun token _ => Dialect.shown_postgres token, List.map_id']

theorem numberFrom_of_numbered {ts : List Token} (h : none ∉ indexesIn ts) (next : Nat) :
    numberFrom next ts = ts := by
  induction ts with
  | nil => rfl
  | cons token ts ih =>
    have hrest : none ∉ indexesIn ts := by
      intro hm
      refine h ?_
      change none ∈ indexesIn ([token] ++ ts)
      rw [indexesIn_append]
      exact List.mem_append_right _ hm
    cases token with
    | parameter index? =>
      cases index? with
      | none => exact absurd List.mem_cons_self h
      | some index => rw [numberFrom, ih hrest]; nofun
    | _ => exact congrArg (_ :: ·) (ih hrest)

/-- Counted from the left, parameters get the numbers back that were not shown. -/
theorem numberFrom_shown (dialect : Dialect) {ts : List Token} {next count : Nat}
    (h : indexesIn ts = (List.range' next count).map some) :
    numberFrom next (ts.map dialect.shown) = ts := by
  cases dialect with
  | postgres =>
    rw [map_shown_postgres]
    exact numberFrom_of_numbered (by simp [h]) next
  | sqlite =>
    induction ts generalizing next count with
    | nil => rfl
    | cons token ts ih =>
      cases token with
      | parameter index? =>
        cases count with
        | zero => cases h
        | succ count =>
          obtain ⟨rfl, hrest⟩ := List.cons.inj h
          exact congrArg (_ :: ·) (ih hrest)
      | _ => exact congrArg (_ :: ·) (ih h)

theorem indexesIn_column (column : Column) : indexesIn column.tokens = [] := by
  obtain ⟨alias?, name⟩ := column
  cases alias? <;> rfl

theorem indexesIn_castTokens (dialect : Dialect) (tokens : List Token) :
    indexesIn (dialect.castTokens tokens) = indexesIn tokens := by
  cases dialect <;> simp [Dialect.castTokens, indexesIn]

theorem indexesIn_jsonTokens (dialect : Dialect) (tokens : List Token) :
    indexesIn (dialect.jsonTokens tokens) = indexesIn tokens := by
  cases dialect <;> simp [Dialect.jsonTokens, Dialect.castTokens, indexesIn]

section

variable {dialect : Dialect}

/-- The commas before the keys are no parameters. -/
theorem indexesIn_jsonText (source : Column) (keys : List Term) :
    indexesIn ((Term.jsonText source keys).tokens dialect) = indexesIn (Term.tokensOf dialect keys) := by
  rw [Term.tokens, indexesIn_jsonTokens, indexesIn_append, indexesIn_column, List.nil_append]
  cases keys <;> rfl

theorem indexesIn_fold (term : Term) :
    indexesIn ((Term.fold term).tokens dialect) = indexesIn (term.tokens dialect) := by
  simp [Term.tokens, indexesIn]

theorem indexesIn_parens {separator : Token} (hs : indexesIn [separator] = []) (child : Condition)
    (rest : List Condition) :
    indexesIn (.opening :: (child.tokens dialect ++ Condition.tokensOf dialect separator rest ++
      [.closing])) = (child :: rest).flatMap fun c => indexesIn (c.tokens dialect) := by
  have hlink : ∀ c : Condition,
      indexesIn (separator :: c.tokens dialect) = indexesIn (c.tokens dialect) := by
    intro c
    rw [← List.singleton_append, indexesIn_append, hs, List.nil_append]
  change indexesIn (_ ++ _) = _
  rw [indexesIn_append, indexesIn_append, Condition.tokensOf_eq, indexesIn_flatMap, List.flatMap_cons]
  simp only [hlink]
  exact List.append_nil _

theorem indexesIn_all (conditions : List Condition) :
    indexesIn ((Condition.all conditions).tokens dialect) =
      conditions.flatMap fun c => indexesIn (c.tokens dialect) := by
  cases conditions with
  | nil => rfl
  | cons child rest => exact indexesIn_parens rfl child rest

theorem indexesIn_any (conditions : List Condition) :
    indexesIn ((Condition.any conditions).tokens dialect) =
      conditions.flatMap fun c => indexesIn (c.tokens dialect) := by
  cases conditions with
  | nil => rfl
  | cons child rest => exact indexesIn_parens rfl child rest

theorem indexesIn_compare (left : Term) (comparison : Comparison) (right : Term) :
    indexesIn ((Condition.compare left comparison right).tokens dialect) =
      indexesIn (left.tokens dialect) ++ indexesIn (right.tokens dialect) :=
  indexesIn_append _ _

theorem indexesIn_like (left pattern : Term) :
    indexesIn ((Condition.like left pattern).tokens dialect) =
      indexesIn (left.tokens dialect) ++ indexesIn (pattern.tokens dialect) := by
  rw [Condition.tokens, indexesIn_append]
  change _ ++ indexesIn (pattern.tokens dialect ++ _) = _
  rw [indexesIn_append (pattern.tokens dialect)]
  exact congrArg _ (List.append_nil _)

theorem indexesIn_between (term low high : Term) :
    indexesIn ((Condition.between term low high).tokens dialect) =
      indexesIn (term.tokens dialect) ++ (indexesIn (low.tokens dialect) ++
        indexesIn (high.tokens dialect)) := by
  rw [Condition.tokens, indexesIn_append]
  exact congrArg _ (indexesIn_append _ _)

end

/-! ## Parameters of expressions -/

theorem map_some_flatMap_parameters {α : Type} {expr : α → Expr} {tokens : α → List Token} {l : List α}
    (h : ∀ x ∈ l, (expr x).parameters.map some = indexesIn (tokens x)) :
    ((l.map expr).flatMap Expr.parameters).map some = l.flatMap fun x => indexesIn (tokens x) := by
  rw [List.flatMap_map, List.map_flatMap, List.flatMap_def, List.flatMap_def, List.map_congr_left h]

theorem Dialect.parameters_jsonExpr (dialect : Dialect) (column : Column) (keys : List Expr) :
    (dialect.jsonExpr (.column column :: keys)).parameters = keys.flatMap Expr.parameters := by
  rw [← Expr.parametersOf_eq]
  cases dialect <;> rfl

theorem Term.parameters_expr (dialect : Dialect) (term : Term) :
    (term.expr dialect).parameters.map some = indexesIn (term.tokens dialect) := by
  induction term using Term.induction with
  | column source => exact (indexesIn_column source).symm
  | parameter index => rfl
  | literal text => rfl
  | cast term ih =>
    rw [Term.tokens, indexesIn_castTokens, ← ih]
    rfl
  | fold term ih =>
    rw [indexesIn_fold, ← ih]
    simp [Term.expr, Expr.parameters, Expr.parametersOf]
  | jsonText source keys ih =>
    rw [indexesIn_jsonText, Term.tokensOf_eq, indexesIn_flatMap, Term.expr, Dialect.parameters_jsonExpr,
      Term.exprs_eq]
    exact map_some_flatMap_parameters ih

theorem Condition.parameters_expr (dialect : Dialect) (condition : Condition) :
    (condition.expr dialect).parameters.map some = indexesIn (condition.tokens dialect) := by
  induction condition using Condition.induction with
  | all children ih =>
    rw [indexesIn_all, ← map_some_flatMap_parameters ih]
    cases children with
    | nil => rfl
    | cons child rest =>
      rw [Condition.expr, Expr.parameters_foldl_and, Condition.exprs_eq, ← List.map_cons]
  | any children ih =>
    rw [indexesIn_any, ← map_some_flatMap_parameters ih]
    cases children with
    | nil => rfl
    | cons child rest =>
      rw [Condition.expr, Expr.parameters_foldl_or, Condition.exprs_eq, ← List.map_cons]
  | compare left comparison right =>
    rw [indexesIn_compare, ← Term.parameters_expr, ← Term.parameters_expr, ← List.map_append]
    rfl
  | like left pattern =>
    rw [indexesIn_like, ← Term.parameters_expr, ← Term.parameters_expr, ← List.map_append]
    simp [Condition.expr, Expr.parameters]
  | between term low high =>
    rw [indexesIn_between, ← Term.parameters_expr, ← Term.parameters_expr, ← Term.parameters_expr,
      ← List.map_append, ← List.map_append]
    rfl

/-! ## What is added -/

namespace Binding

/-- Behind the parameters that were there, further ones were bound, and these are their numbers. -/
def Adds (b b' : Binding) (indexes : List (Option Nat)) : Prop :=
  ∃ added, b'.params = b.params ++ added ∧
    indexes = (List.range' (b.params.length + 1) added.length).map some

namespace Adds

variable {b b' b'' : Binding} {indexes indexes' : List (Option Nat)}

theorem of_eq (h : b'.params = b.params) : Adds b b' [] := ⟨[], by simp [h], rfl⟩

theorem trans (h : Adds b b' indexes) (h' : Adds b' b'' indexes') : Adds b b'' (indexes ++ indexes') := by
  obtain ⟨added, hp, rfl⟩ := h
  obtain ⟨added', hp', rfl⟩ := h'
  refine ⟨added ++ added', by rw [hp', hp, List.append_assoc], ?_⟩
  rw [← List.map_append, hp, List.length_append, List.length_append, Nat.add_right_comm,
    List.range'_append_1]

theorem keeps (h : Adds b b' indexes) : b.params <+: b'.params := by
  obtain ⟨added, hp, _⟩ := h
  exact ⟨added, hp.symm⟩

theorem bind (b : Binding) (value : Value) : Adds b (b.bind value).2 [some (b.params.length + 1)] :=
  ⟨[value], rfl, rfl⟩

end Adds

theorem eval_bind {b : Binding} {value : Value} {row : Row} {params : List Value}
    (h : (b.bind value).2.params <+: params) :
    (Expr.parameter (b.params.length + 1)).eval row params = some value := by
  obtain ⟨rest, rfl⟩ := h
  simp [Binding.bind, Expr.eval]

theorem bindTexts_spec (dialect : Dialect) (texts : List String) (b : Binding) :
    Term.AreProper (b.bindTexts texts).1 ∧
      Adds b (b.bindTexts texts).2 (indexesIn (Term.tokensOf dialect (b.bindTexts texts).1)) ∧
      ∀ {row : Row} {params : List Value}, (b.bindTexts texts).2.params <+: params →
        Expr.evalAll row params (Term.exprs dialect (b.bindTexts texts).1) =
          texts.map fun text => some (.text text) := by
  induction texts generalizing b with
  | nil => exact ⟨trivial, .of_eq rfl, fun _ => rfl⟩
  | cons text texts ih =>
    obtain ⟨hproper, hadds, heval⟩ := ih (b.bind (.text text)).2
    refine ⟨⟨trivial, hproper⟩, (Adds.bind b (.text text)).trans hadds, fun {row params} h => ?_⟩
    change (Expr.parameter (b.params.length + 1)).eval row params :: Expr.evalAll row params _ = _
    rw [eval_bind (hadds.keeps.trans h)]
    exact congrArg (some (.text text) :: ·) (heval h)

end Binding

/-! ## Operands -/

/-- A place inside a document has a key. -/
def HasKeys : Operand → Prop
  | .field _ => True
  | .json path => path.keys ≠ []

theorem hasKeys_field (path : FieldPath) : HasKeys (.field path) := trivial

/-- The term stands for something of the operand, and all that was bound are its parameters. -/
structure Term.IsBound (dialect : Dialect) (operand : Operand) (value? : Json → Option Value)
    (b b' : Binding) (term : Term) : Prop where
  proper : term.IsProper
  adds : b.Adds b' (indexesIn (term.tokens dialect))
  eval : ∀ {record : Json} {row : Row} {params : List Value}, row.Folds →
    row.Shows dialect record operand → b'.params <+: params →
    (term.expr dialect).eval row params = value? record

theorem bindColumn_params (path : FieldPath) (b : Binding) : (bindColumn path b).2.params = b.params := by
  unfold bindColumn
  dsimp only
  split
  · unfold Binding.join
    split <;> rfl
  · rfl

theorem jsonPathParams_ne_nil {dialect : Dialect} {keys : List String} (h : keys ≠ []) :
    dialect.jsonPathParams keys ≠ [] := by
  cases dialect with
  | postgres => exact h
  | sqlite => exact List.cons_ne_nil _ _

variable {dialect : Dialect}

theorem mapM_textOf? (texts : List String) :
    (texts.map fun text => some (Value.text text)).mapM textOf? = some texts := by
  induction texts with
  | nil => rfl
  | cons text texts ih => simp [List.mapM_cons, ih, textOf?]

theorem eval_jsonExpr {row : Row} {params : List Value} {column : Column} {keys : List Expr}
    {texts : List String}
    (h : Expr.evalAll row params keys = texts.map fun text => some (.text text)) :
    (dialect.jsonExpr (.column column :: keys)).eval row params =
      (row.inside? column texts).map .text := by
  have hinside : ((Expr.evalAll row params keys).mapM textOf?).bind (row.inside? column) =
      row.inside? column texts := by
    rw [h, mapM_textOf?]
    rfl
  cases dialect with
  | postgres => simp only [Dialect.jsonExpr, Expr.eval, Expr.evalAll, Row.apply, hinside]
  | sqlite =>
    simp only [Dialect.jsonExpr, Expr.eval, Expr.evalAll, Row.apply, hinside, Row.castText]
    cases row.inside? column texts <;> rfl

theorem eval_fold {row : Row} {params : List Value} {term : Term} {text? : Option String}
    (hf : row.Folds) (h : (term.expr dialect).eval row params = text?.map .text) :
    ((Term.fold term).expr dialect).eval row params =
      text?.map fun text => .text (Unicode.foldText text) := by
  cases text? <;> simp [Term.expr, Expr.eval, Expr.evalAll, Row.apply, h, textOf?, hf _]

theorem bindTexts_ne_nil {b : Binding} {texts : List String} (h : texts ≠ []) :
    (b.bindTexts texts).1 ≠ [] := by
  cases texts with
  | nil => exact absurd rfl h
  | cons text texts => exact List.cons_ne_nil _ _

theorem bindColumn_adds (path : FieldPath) (b : Binding) :
    b.Adds (bindColumn path b).2 (indexesIn (columnOf path).tokens) := by
  rw [indexesIn_column]
  exact .of_eq (bindColumn_params path b)

theorem bindJson_adds (path : JsonPath) (b : Binding) :
    b.Adds (bindJson dialect path b).2 (indexesIn ((bindJson dialect path b).1.tokens dialect)) := by
  obtain ⟨-, hadds, -⟩ := Binding.bindTexts_spec dialect (dialect.jsonPathParams path.keys)
    (bindColumn path.column b).2
  have hcolumn : b.Adds (bindColumn path.column b).2 [] := .of_eq (bindColumn_params path.column b)
  change b.Adds _ (indexesIn ((Term.jsonText (columnOf path.column) _).tokens dialect))
  rw [indexesIn_jsonText]
  exact hcolumn.trans hadds

theorem bindOperand_adds (operand : Operand) (b : Binding) :
    b.Adds (bindOperand dialect operand b).2
      (indexesIn ((bindOperand dialect operand b).1.tokens dialect)) := by
  cases operand with
  | field path => exact bindColumn_adds path b
  | json path => exact bindJson_adds path b

theorem bindFolded_adds (operand : Operand) (b : Binding) :
    b.Adds (bindFolded dialect operand b).2
      (indexesIn ((bindFolded dialect operand b).1.tokens dialect)) := by
  cases operand with
  | field path =>
    change b.Adds (bindColumn path b).2 (indexesIn ((Term.fold (if path.type = .text
      then .column (columnOf path) else .cast (.column (columnOf path)))).tokens dialect))
    rw [indexesIn_fold]
    split
    · exact bindColumn_adds path b
    · rw [Term.tokens, indexesIn_castTokens]
      exact bindColumn_adds path b
  | json path =>
    change b.Adds _ (indexesIn ((Term.fold (bindJson dialect path b).1).tokens dialect))
    rw [indexesIn_fold]
    exact bindJson_adds path b

theorem bindJson_isBound {path : JsonPath} (hk : path.keys ≠ []) (b : Binding) :
    (bindJson dialect path b).1.IsBound dialect (.json path) (Operand.json path).value? b
      (bindJson dialect path b).2 := by
  obtain ⟨hproper, -, heval⟩ := Binding.bindTexts_spec dialect (dialect.jsonPathParams path.keys)
    (bindColumn path.column b).2
  refine ⟨⟨bindTexts_ne_nil (jsonPathParams_ne_nil hk), hproper⟩, bindJson_adds path b,
    fun _ hs hparams => ?_⟩
  have hexpr : (bindJson dialect path b).1.expr dialect =
      dialect.jsonExpr (.column (columnOf path.column) :: Term.exprs dialect
        ((bindColumn path.column b).2.bindTexts (dialect.jsonPathParams path.keys)).1) := rfl
  rw [hexpr, eval_jsonExpr (heval hparams), hs]
  rfl

theorem bindOperand_isBound {operand : Operand} (hk : HasKeys operand) (b : Binding) :
    (bindOperand dialect operand b).1.IsBound dialect operand operand.value? b
      (bindOperand dialect operand b).2 := by
  cases operand with
  | field path => exact ⟨trivial, bindOperand_adds (.field path) b, fun _ hs _ => hs.1⟩
  | json path => exact bindJson_isBound hk b

theorem bindFolded_isBound {operand : Operand} (hk : HasKeys operand) (b : Binding) :
    (bindFolded dialect operand b).1.IsBound dialect operand
      (fun record => (operand.text? record).map fun text => .text (Unicode.foldText text)) b
      (bindFolded dialect operand b).2 := by
  have hadds : b.Adds (bindFolded dialect operand b).2 _ := bindFolded_adds operand b
  cases operand with
  | field path =>
    have hterm : (bindFolded dialect (.field path) b).1 =
        .fold (if path.type = .text then .column (columnOf path) else .cast (.column (columnOf path))) :=
      rfl
    rw [hterm] at hadds ⊢
    by_cases ht : path.type = .text
    · rw [if_pos ht] at hadds ⊢
      refine ⟨trivial, hadds, fun hf hs _ => eval_fold hf ?_⟩
      rw [Term.expr, Expr.eval, hs.1, Operand.value?_of_text ht]
    · rw [if_neg ht] at hadds ⊢
      refine ⟨trivial, hadds, fun hf hs _ => eval_fold hf ?_⟩
      rw [Term.expr, Expr.eval, Term.expr, Row.castText, hs.2]
  | json path =>
    have hjson : (bindJson dialect path b).1.IsBound dialect _ _ b _ := bindJson_isBound hk b
    exact ⟨hjson.proper, hadds, fun hf hs hparams => eval_fold hf (hjson.eval hf hs hparams)⟩

end Sql
end RecordFilter
