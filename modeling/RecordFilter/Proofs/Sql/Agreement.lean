import RecordFilter.Proofs.Filter.NormalForm
import RecordFilter.Proofs.Schema.Resolution
import RecordFilter.Proofs.Sql.Parameters
import RecordFilter.Sql.Statement

/-!
# RecordFilter.Proofs.Sql.Agreement

The condition that is written for a database holds of a row if and only if the compiled condition holds of
the record that the row shows (`whereClause_agrees`). Along the tree the binding is threaded through, so
what is shown of a condition says which parameters it has and holds for all parameters that begin with
those that were bound (`Condition.IsBound`).
-/

namespace RecordFilter
namespace Sql

variable {dialect : Dialect}

/-- The row says what the record says of everything that the condition looks at. -/
def Row.ShowsAll (row : Row) (dialect : Dialect) (record : Json) (p : Predicate) : Prop :=
  ∀ leaf ∈ p.leaves, ∀ operand, leaf.operand? = some operand → row.Shows dialect record operand

/-- The condition says what the predicate says, and all that was bound are its parameters. -/
structure Condition.IsBound (dialect : Dialect) (p : Predicate) (b b' : Binding)
    (condition : Condition) : Prop where
  proper : condition.IsProper
  adds : b.Adds b' (indexesIn (condition.tokens dialect))
  agrees : ∀ {record : Json} {row : Row} {params : List Value}, row.Folds →
    row.ShowsAll dialect record p → b'.params <+: params →
    ((condition.expr dialect).IsTrue row params ↔ p.holds record = true)

/-! ## Leaves -/

theorem Row.ShowsAll.shows {row : Row} {record : Json} {leaf : Predicate} {operand : Operand}
    (h : row.ShowsAll dialect record leaf) (hleaf : leaf.isLeaf = true)
    (ho : leaf.operand? = some operand) : row.Shows dialect record operand :=
  h leaf (by simp [Predicate.leaves_of_isLeaf hleaf]) operand ho

theorem bindComparison_isBound {leaf : Predicate} {operand : Operand} {value? : Json → Option Value}
    {left : Term} {b b' : Binding} (hl : left.IsBound dialect operand value? b b')
    (comparison : Comparison) (value : Value) (hleaf : leaf.isLeaf = true)
    (ho : leaf.operand? = some operand)
    (hholds : ∀ record, leaf.holds record =
      (value? record).any fun stored => comparison.holds stored value) :
    (bindComparison left comparison value b').1.IsBound dialect leaf b
      (bindComparison left comparison value b').2 := by
  have hbind := Binding.Adds.bind b' value
  refine ⟨⟨hl.proper, trivial⟩, ?_, fun {record row params} hf hs hparams => ?_⟩
  · have hindexes : indexesIn ((bindComparison left comparison value b').1.tokens dialect) =
        indexesIn (left.tokens dialect) ++ [some (b'.params.length + 1)] :=
      indexesIn_append _ _
    rw [hindexes]
    exact hl.adds.trans hbind
  · have hleft := hl.eval hf (hs.shows hleaf ho) (hbind.keeps.trans hparams)
    have hright : (Expr.parameter (b'.params.length + 1)).eval row params = some value :=
      Binding.eval_bind hparams
    change (Expr.compare _ _ (.parameter _)).IsTrue row params ↔ _
    rw [Expr.isTrue_compare_iff, hholds, hleft, hright, Option.any_eq_true]
    simp

/-- The pattern of a needle is bound behind the folded text. -/
theorem like_isBound {operand : Operand} {left : Term} {b b' : Binding} (needle : String)
    (hl : left.IsBound dialect operand
      (fun record => (operand.text? record).map fun text => .text (Unicode.foldText text)) b b') :
    (Condition.like left (.parameter (b'.params.length + 1))).IsBound dialect (.contains operand needle)
      b (b'.bind (.text (likePattern needle))).2 := by
  have hbind := Binding.Adds.bind b' (.text (likePattern needle))
  refine ⟨⟨hl.proper, trivial⟩, ?_, fun {record row params} hf hs hparams => ?_⟩
  · rw [indexesIn_like]
    exact hl.adds.trans hbind
  · have hleft : (left.expr dialect).eval row params =
        ((operand.text? record).map Unicode.foldText).map .text := by
      rw [hl.eval hf (hs.shows rfl rfl) (hbind.keeps.trans hparams), Option.map_map]
      rfl
    refine (Expr.isTrue_likeEscape_iff hleft (Binding.eval_bind hparams)).trans ?_
    rw [Predicate.holds]
    cases operand.text? record <;> simp [Unicode.foldText]

theorem equals_text (a b : String) : (Value.text a).equals (.text b) = (a == b) := by
  rw [Bool.eq_iff_iff, beq_iff_eq, ← Text.compareText_eq_iff]
  simp [Value.equals, Value.compare?]

/-! ## Ranges -/

theorem isAbove_eq (v : Value) (bound : Bound) :
    Bound.isAbove v bound = (if bound.inclusive then Comparison.ge else .gt).holds v bound.value := by
  unfold Bound.isAbove
  cases bound.inclusive <;> rcases hc : v.compare? bound.value with _ | _ | _ | _ <;>
    simp [Comparison.holds, Value.equals, hc]

theorem isBelow_eq (v : Value) (bound : Bound) :
    Bound.isBelow v bound = (if bound.inclusive then Comparison.le else .lt).holds v bound.value := by
  unfold Bound.isBelow
  cases bound.inclusive <;> rcases hc : v.compare? bound.value with _ | _ | _ | _ <;>
    simp [Comparison.holds, Value.equals, hc]

/-- Two bounds are written in one of two ways. -/
def boundsCondition (left : Term) (low high : Bound) (i j : Nat) : Condition :=
  if low.inclusive && high.inclusive then .between left (.parameter i) (.parameter j)
  else
    .all [.compare left (if low.inclusive then .ge else .gt) (.parameter i),
      .compare left (if high.inclusive then .le else .lt) (.parameter j)]

theorem bindRange_bounds (left : Term) (low high : Bound) (b : Binding) :
    bindRange left (some low) (some high) b =
      (boundsCondition left low high (b.params.length + 1) ((b.bind low.value).2.params.length + 1),
        ((b.bind low.value).2.bind high.value).2) := by
  obtain ⟨low, lowInclusive⟩ := low
  obtain ⟨high, highInclusive⟩ := high
  cases lowInclusive <;> cases highInclusive <;> rfl

theorem bindPredicate_range (path : FieldPath) (low high : Bound) (b : Binding) :
    bindPredicate dialect (.range (.field path) (some low) (some high)) b =
      let b' := (bindColumn path b).2
      (boundsCondition (.column (columnOf path)) low high (b'.params.length + 1)
        ((b'.bind low.value).2.params.length + 1), ((b'.bind low.value).2.bind high.value).2) :=
  bindRange_bounds (.column (columnOf path)) low high (bindColumn path b).2

theorem isTrue_boundsCondition_iff {row : Row} {params : List Value} {left : Term} {low high : Bound}
    {i j : Nat} :
    ((boundsCondition left low high i j).expr dialect).IsTrue row params ↔
      (Expr.compare (left.expr dialect) (if low.inclusive then .ge else .gt)
        (.parameter i)).IsTrue row params ∧
      (Expr.compare (left.expr dialect) (if high.inclusive then .le else .lt)
        (.parameter j)).IsTrue row params := by
  unfold boundsCondition
  split
  · rename_i h
    rw [Bool.and_eq_true] at h
    rw [if_pos h.1, if_pos h.2]
    exact Expr.isTrue_between_iff
  · exact Expr.isTrue_and_iff

theorem indexesIn_boundsCondition (column : Column) (low high : Bound) (i j : Nat) :
    indexesIn ((boundsCondition (.column column) low high i j).tokens dialect) = [some i, some j] := by
  unfold boundsCondition
  split
  · rw [indexesIn_between, Term.tokens, indexesIn_column]
    rfl
  · rw [indexesIn_all]
    simp only [List.flatMap_cons, List.flatMap_nil, indexesIn_compare, Term.tokens, indexesIn_column]
    rfl

theorem isProper_boundsCondition (column : Column) (low high : Bound) (i j : Nat) :
    (boundsCondition (.column column) low high i j).IsProper := by
  unfold boundsCondition
  split
  · exact ⟨trivial, trivial, trivial⟩
  · exact ⟨⟨trivial, trivial⟩, ⟨trivial, trivial⟩, trivial⟩

theorem bothBounds_isBound {path : FieldPath} (low high : Bound) (b : Binding) :
    (bindPredicate dialect (.range (.field path) (some low) (some high)) b).1.IsBound dialect
      (.range (.field path) (some low) (some high)) b
      (bindPredicate dialect (.range (.field path) (some low) (some high)) b).2 := by
  rw [bindPredicate_range]
  have hcolumn : b.Adds (bindColumn path b).2 [] := .of_eq (bindColumn_params path b)
  generalize (bindColumn path b).2 = b' at hcolumn
  have hlow := Binding.Adds.bind b' low.value
  have hhigh := Binding.Adds.bind (b'.bind low.value).2 high.value
  refine ⟨isProper_boundsCondition _ _ _ _ _, ?_, fun {record row params} hf hs hparams => ?_⟩
  · rw [indexesIn_boundsCondition]
    exact hcolumn.trans (hlow.trans hhigh)
  · have hleft : (Expr.column (columnOf path)).eval row params = (Operand.field path).value? record :=
      (hs.shows rfl rfl).1
    have hfirst : (Expr.parameter _).eval row params = _ := Binding.eval_bind (hhigh.keeps.trans hparams)
    have hsecond : (Expr.parameter _).eval row params = _ := Binding.eval_bind hparams
    rw [isTrue_boundsCondition_iff, Expr.isTrue_compare_iff, Expr.isTrue_compare_iff, Term.expr, hleft,
      hfirst, hsecond, Predicate.holds]
    cases (Operand.field path).value? record <;> simp [Predicate.within, isAbove_eq, isBelow_eq]

theorem bindRange_isBound {path : FieldPath} {min max : Option Bound}
    (h : min.isSome = true ∨ max.isSome = true) (b : Binding) :
    (bindPredicate dialect (.range (.field path) min max) b).1.IsBound dialect
      (.range (.field path) min max) b (bindPredicate dialect (.range (.field path) min max) b).2 := by
  have hl : (bindOperand dialect (.field path) b).1.IsBound dialect _ _ b _ :=
    bindOperand_isBound (hasKeys_field path) b
  cases min with
  | none =>
    cases max with
    | none => simp at h
    | some high =>
      refine bindComparison_isBound hl (if high.inclusive then .le else .lt) high.value rfl rfl
        fun record => ?_
      simp [Predicate.holds, Predicate.within, isBelow_eq]
  | some low =>
    cases max with
    | none =>
      have hbind : bindPredicate dialect (.range (.field path) (some low) none) b =
          bindComparison (.column (columnOf path)) (if low.inclusive then .ge else .gt) low.value
            (bindColumn path b).2 := by
        obtain ⟨low, inclusive⟩ := low
        cases inclusive <;> rfl
      rw [hbind]
      refine bindComparison_isBound hl (if low.inclusive then .ge else .gt) low.value rfl rfl
        fun record => ?_
      simp [Predicate.holds, Predicate.within, isAbove_eq]
    | some high => exact bothBounds_isBound low high b

/-! ## Trees -/

theorem bindLeaf_isBound {leaf : Predicate} (ht : leaf.IsTyped)
    (hk : ∀ operand, leaf.operand? = some operand → HasKeys operand) (b : Binding) :
    (bindPredicate dialect leaf b).1.IsBound dialect leaf b (bindPredicate dialect leaf b).2 := by
  cases ht with
  | equals _ _ _ =>
    exact bindComparison_isBound (bindOperand_isBound (hasKeys_field _) b) .eq _ rfl rfl fun _ => rfl
  | notEquals _ _ =>
    exact bindComparison_isBound (bindOperand_isBound (hasKeys_field _) b) .ne _ rfl rfl fun _ => rfl
  | range _ hbounded _ => exact bindRange_isBound hbounded b
  | containsField _ => exact like_isBound _ (bindFolded_isBound (hasKeys_field _) b)
  | containsJson => exact like_isBound _ (bindFolded_isBound (hk _ rfl) b)
  | foldedEquals _ =>
    refine bindComparison_isBound (bindFolded_isBound (hasKeys_field _) b) .eq _ rfl rfl fun record => ?_
    simp [Predicate.holds, Option.any_map, Comparison.holds, equals_text]

/-- The conditions say what the predicates say, and all that was bound are their parameters. -/
structure AreBound (dialect : Dialect) (children : List Predicate) (b b' : Binding)
    (conditions : List Condition) : Prop where
  proper : ∀ condition ∈ conditions, condition.IsProper
  adds : b.Adds b' (conditions.flatMap fun condition => indexesIn (condition.tokens dialect))
  all : ∀ {record : Json} {row : Row} {params : List Value}, row.Folds →
    (∀ child ∈ children, row.ShowsAll dialect record child) → b'.params <+: params →
    ((∀ condition ∈ conditions, (condition.expr dialect).IsTrue row params) ↔
      ∀ child ∈ children, child.holds record = true)
  any : ∀ {record : Json} {row : Row} {params : List Value}, row.Folds →
    (∀ child ∈ children, row.ShowsAll dialect record child) → b'.params <+: params →
    ((∃ condition ∈ conditions, (condition.expr dialect).IsTrue row params) ↔
      ∃ child ∈ children, child.holds record = true)

theorem bindPredicates_areBound {children : List Predicate}
    (h : ∀ child ∈ children, ∀ b, (bindPredicate dialect child b).1.IsBound dialect child b
      (bindPredicate dialect child b).2) (b : Binding) :
    AreBound dialect children b (bindPredicates dialect children b).2
      (bindPredicates dialect children b).1 := by
  induction children generalizing b with
  | nil => exact ⟨by simp [bindPredicates], .of_eq rfl, by simp [bindPredicates], by simp [bindPredicates]⟩
  | cons child rest ih =>
    have hfirst := h child List.mem_cons_self b
    have hrest := ih (fun c hc => h c (List.mem_cons_of_mem child hc)) (bindPredicate dialect child b).2
    refine ⟨?_, hfirst.adds.trans hrest.adds, fun {record row params} hf hs hparams => ?_,
      fun {record row params} hf hs hparams => ?_⟩
    · intro condition hm
      obtain rfl | hm := List.mem_cons.1 hm
      · exact hfirst.proper
      · exact hrest.proper condition hm
    · rw [List.forall_mem_cons] at hs
      have hcons : (bindPredicates dialect (child :: rest) b).1 = (bindPredicate dialect child b).1 ::
          (bindPredicates dialect rest (bindPredicate dialect child b).2).1 := rfl
      rw [hcons, List.forall_mem_cons, List.forall_mem_cons, hrest.all hf hs.2 hparams,
        hfirst.agrees hf hs.1 (hrest.adds.keeps.trans hparams)]
    · rw [List.forall_mem_cons] at hs
      have hcons : (bindPredicates dialect (child :: rest) b).1 = (bindPredicate dialect child b).1 ::
          (bindPredicates dialect rest (bindPredicate dialect child b).2).1 := rfl
      simp only [hcons, List.mem_cons, exists_eq_or_imp]
      rw [hrest.any hf hs.2 hparams, hfirst.agrees hf hs.1 (hrest.adds.keeps.trans hparams)]

theorem isTrue_numbers_iff {row : Row} {params : List Value} {m n : Nat} :
    (Expr.compare (.number m) .eq (.number n)).IsTrue row params ↔ m = n := by
  rw [Expr.isTrue_compare_iff, ← Int.ofNat_inj]
  simp [Expr.eval, Comparison.holds, Value.equals, Value.compare?]

theorem isTrue_all_iff {row : Row} {params : List Value} {conditions : List Condition} :
    ((Condition.all conditions).expr dialect).IsTrue row params ↔
      ∀ condition ∈ conditions, (condition.expr dialect).IsTrue row params := by
  cases conditions with
  | nil =>
    rw [Condition.expr, isTrue_numbers_iff]
    simp
  | cons condition rest =>
    rw [Condition.expr, Expr.isTrue_foldl_and_iff, Condition.exprs_eq, ← List.map_cons,
      List.forall_mem_map]

theorem isTrue_any_iff {row : Row} {params : List Value} {conditions : List Condition} :
    ((Condition.any conditions).expr dialect).IsTrue row params ↔
      ∃ condition ∈ conditions, (condition.expr dialect).IsTrue row params := by
  cases conditions with
  | nil =>
    rw [Condition.expr, isTrue_numbers_iff]
    simp
  | cons condition rest =>
    rw [Condition.expr, Expr.isTrue_foldl_or_iff, Condition.exprs_eq, ← List.map_cons]
    constructor
    · rintro ⟨e, he, htrue⟩
      obtain ⟨c, hc, rfl⟩ := List.mem_map.1 he
      exact ⟨c, hc, htrue⟩
    · rintro ⟨c, hc, htrue⟩
      exact ⟨_, List.mem_map_of_mem hc, htrue⟩

/-- Every condition with typed leaves is written as what it says. -/
theorem bindPredicate_isBound {p : Predicate}
    (h : ∀ leaf ∈ p.leaves, leaf.IsTyped ∧ ∀ operand, leaf.operand? = some operand → HasKeys operand)
    (b : Binding) :
    (bindPredicate dialect p b).1.IsBound dialect p b (bindPredicate dialect p b).2 := by
  induction p using Predicate.induction generalizing b with
  | always =>
    refine ⟨trivial, .of_eq rfl, fun _ _ _ => ?_⟩
    rw [show (bindPredicate dialect .always b).1 = .all [] from rfl, isTrue_all_iff]
    simp [Predicate.holds]
  | leaf p hleaf =>
    have hp := h p (by simp [Predicate.leaves_of_isLeaf hleaf])
    exact bindLeaf_isBound hp.1 hp.2 b
  | all children ih =>
    have hchildren : AreBound dialect children b _ _ := bindPredicates_areBound
      (fun child hc => ih child hc fun leaf hl => h leaf (Predicate.mem_leaves_all.2 ⟨child, hc, hl⟩)) b
    refine ⟨Condition.areProper_iff.2 hchildren.proper, ?_, fun hf hs hparams => ?_⟩
    · have hadds := hchildren.adds
      rw [← indexesIn_all] at hadds
      exact hadds
    · refine isTrue_all_iff.trans ?_
      have hshows := fun child hc leaf hl => hs leaf (Predicate.mem_leaves_all.2 ⟨child, hc, hl⟩)
      rw [hchildren.all hf hshows hparams, Predicate.holds, Predicate.holdsAll_eq, List.all_eq_true]
  | any children ih =>
    have hchildren : AreBound dialect children b _ _ := bindPredicates_areBound
      (fun child hc => ih child hc fun leaf hl => h leaf (Predicate.mem_leaves_any.2 ⟨child, hc, hl⟩)) b
    refine ⟨Condition.areProper_iff.2 hchildren.proper, ?_, fun hf hs hparams => ?_⟩
    · have hadds := hchildren.adds
      rw [← indexesIn_any] at hadds
      exact hadds
    · refine isTrue_any_iff.trans ?_
      have hshows := fun child hc leaf hl => hs leaf (Predicate.mem_leaves_any.2 ⟨child, hc, hl⟩)
      rw [hchildren.any hf hshows hparams, Predicate.holds, Predicate.holdsAny_eq, List.any_eq_true]

/-! ## Statements -/

theorem bindOrder_params (order : OrderClause) (b : Binding) :
    (bindOrder dialect order b).2.params = b.params := by
  unfold bindOrder
  split
  · exact bindColumn_params _ b
  · exact bindColumn_params _ b

theorem render_params (table : String) (query : CompiledQuery) (page : Option (Nat × Nat)) :
    (render dialect table query page).params =
      (bindPredicate dialect query.predicate Binding.empty).2.params := by
  unfold render
  cases query.order with
  | none => rfl
  | some order => exact bindOrder_params order _

/-- The written condition stands for its expression, in which every parameter stands once and in order. -/
theorem denotes_of_isBound {p : Predicate} {b' : Binding} {condition : Condition}
    (h : condition.IsBound dialect p Binding.empty b') :
    Denotes (condition.write dialect) (condition.expr dialect) ∧
      (condition.expr dialect).parameters = List.range' 1 b'.params.length := by
  obtain ⟨added, hparams, hindexes⟩ := h.adds
  obtain rfl : b'.params = added := hparams
  have hnumbers : indexesIn (condition.tokens dialect) =
      (List.range' 1 b'.params.length).map some := hindexes
  constructor
  · refine ⟨(condition.tokens dialect).map dialect.shown, ?_, ?_⟩
    · have hwritten : Written dialect _ _ := condition.written
      have hlexes := hwritten ends_nil Lexes.nil
      rwa [List.append_nil, List.append_nil] at hlexes
    · rw [numberFrom_shown dialect hnumbers]
      exact (condition.reads dialect h.proper).reads
  · have hexpr := condition.parameters_expr dialect
    rw [hnumbers] at hexpr
    exact (List.map_inj_right fun _ _ => Option.some.inj).1 hexpr

/-- For every database that shows of a record what the condition looks at, and folds texts as they are
folded here, the text is read as exactly one expression, in which every parameter stands once, and the
expression is true if and only if the record meets the compiled condition. -/
theorem whereClause_agrees {schema : Schema} {options : CompileOptions} {request : Request}
    {query : CompiledQuery} (h : compile schema options request = .ok query) (dialect : Dialect)
    (table : String) (page : Option (Nat × Nat)) :
    ∃ e, (Denotes (render dialect table query page).whereClause e ∧
        ∀ other, Denotes (render dialect table query page).whereClause other → other = e) ∧
      e.parameters = List.range' 1 (render dialect table query page).params.length ∧
      ∀ (record : Json) (row : Row), row.Folds → row.ShowsAll dialect record query.predicate →
        (e.IsTrue row (render dialect table query page).params ↔ query.predicate.holds record = true) := by
  have hleaves : ∀ leaf ∈ query.predicate.leaves,
      leaf.IsTyped ∧ ∀ operand, leaf.operand? = some operand → HasKeys operand := by
    intro leaf hl
    obtain ⟨ht, _, _, _, _, operand, hr, ho⟩ := leaves_of_compile h leaf hl
    refine ⟨ht, fun other hother => ?_⟩
    obtain rfl : operand = other := Option.some.inj (ho.symm.trans hother)
    cases operand with
    | field path => trivial
    | json path => exact Schema.keys_ne_nil_of_resolve hr
  have hbound : (bindPredicate dialect query.predicate Binding.empty).1.IsBound dialect _ _ _ :=
    bindPredicate_isBound hleaves _
  obtain ⟨hdenotes, hparameters⟩ := denotes_of_isBound hbound
  have htext : (render dialect table query page).whereClause =
      (bindPredicate dialect query.predicate Binding.empty).1.write dialect := rfl
  rw [htext, render_params]
  exact ⟨_, ⟨hdenotes, fun other hother => hother.unique hdenotes⟩, hparameters,
    fun record row hf hs => hbound.agrees hf hs (List.prefix_refl _)⟩

/-- What a database says of a product, as far as its stock, its name and its document go. -/
def cafeRow : Row := .folding
  (fun column => if column.name = "estoque" then some (.integer .bits32 120)
    else some (.text "Café Torrado Especial"))
  (fun column => if column.name = "estoque" then some "120" else some "Café Torrado Especial")
  (fun _ _ => some "Sul de Minas")

set_option maxRecDepth 2000 in
/-- Stock in a range, a text inside a document, and a text in the name. -/
theorem whereClause_agrees_cafe :
    ∃ query e, compile Catalog.produtosSchema .standard
        ⟨[⟨"estoque", ["gte:100", "lt:200"]⟩, ⟨"nome!cor", ["cafe"]⟩, ⟨"dto.origem", ["Minas"]⟩]⟩ =
          .ok query ∧
      Denotes (render .sqlite Catalog.produtos query none).whereClause e ∧
      e.parameters = [1, 2, 3, 4, 5] ∧
      e.IsTrue cafeRow (render .sqlite Catalog.produtos query none).params := by
  have h : compile Catalog.produtosSchema .standard
      ⟨[⟨"estoque", ["gte:100", "lt:200"]⟩, ⟨"nome!cor", ["cafe"]⟩, ⟨"dto.origem", ["Minas"]⟩]⟩ =
      .ok ⟨.all [.range (.field ⟨["estoque"], .integer .bits32⟩) (some ⟨.integer .bits32 100, true⟩)
          (some ⟨.integer .bits32 200, false⟩),
        .contains (.json ⟨⟨["dto"], .json⟩, ["origem"]⟩) "minas",
        .contains (.field ⟨["nome"], .text⟩) "cafe"], none,
        [⟨"nome!cor", "cor", "UNKNOWN_FILTER_FIELD",
          "Unknown filter field 'cor': 'cor' is not declared on 'produtos'"⟩]⟩ := rfl
  obtain ⟨e, ⟨hdenotes, _⟩, hparameters, hagrees⟩ := whereClause_agrees h .sqlite Catalog.produtos none
  have hfolds : cafeRow.Folds := Row.folds_folding _ _ _
  refine ⟨_, e, h, hdenotes, hparameters, (hagrees Catalog.cafe cafeRow hfolds ?_).2 rfl⟩
  intro leaf hl operand ho
  have hleaves : leaf ∈ [.range (.field ⟨["estoque"], .integer .bits32⟩) _ _,
    .contains (.json ⟨⟨["dto"], .json⟩, ["origem"]⟩) _, .contains (.field ⟨["nome"], .text⟩) _] := hl
  simp only [List.mem_cons, List.not_mem_nil, or_false] at hleaves
  obtain rfl | rfl | rfl := hleaves <;> cases ho
  · exact ⟨rfl, rfl⟩
  · rfl
  · exact ⟨rfl, rfl⟩

end Sql
end RecordFilter
