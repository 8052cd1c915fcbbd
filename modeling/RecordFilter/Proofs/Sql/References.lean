import RecordFilter.Proofs.Filter.NormalForm
import RecordFilter.Proofs.Schema.Columns
import RecordFilter.Proofs.Sql.Quoting

/-!
# RecordFilter.Proofs.Sql.References

The columns that a statement refers to. A reference is a name, or two names with a dot between them
(`columnsIn`). No phrase begins with a dot or goes on behind one, so the references of a text are those of
its phrases (`Refers`).

* `columnsIn_boundTokens`, `columnsIn_orderedTokens`: the condition and the order refer to the columns of
  their operands, from left to right and once for each time that an operand is written.
-/

namespace RecordFilter

open Sql (Dialect)

/-! ## What is mentioned -/

namespace Predicate

/-- The columns that a condition on one operand writes. -/
def ownMentions : Predicate → List FieldPath
  | .range operand min max => List.replicate (boundMentions min max) operand.column
  | leaf => leaf.operand?.toList.map Operand.column

/-- The columns that a condition writes, from left to right. -/
def mentions (p : Predicate) : List FieldPath := p.leaves.flatMap ownMentions

theorem mentions_of_isLeaf {p : Predicate} (h : p.isLeaf = true) : p.mentions = p.ownMentions := by
  rw [mentions, leaves_of_isLeaf h, List.flatMap_singleton]

theorem mentions_all (children : List Predicate) :
    (all children).mentions = children.flatMap mentions := by
  rw [mentions, leaves, leavesOf_eq, List.flatMap_assoc]
  rfl

theorem mentions_any (children : List Predicate) :
    (any children).mentions = children.flatMap mentions := by
  rw [mentions, leaves, leavesOf_eq, List.flatMap_assoc]
  rfl

end Predicate

/-- One of the dialects writes the operand of an order twice. -/
def OrderClause.mentions (dialect : Dialect) (order : OrderClause) : List FieldPath :=
  match dialect with
  | .postgres => [order.operand.column]
  | .sqlite => [order.operand.column, order.operand.column]

namespace CompiledQuery

def orderMentions (dialect : Dialect) (query : CompiledQuery) : List FieldPath :=
  query.order.toList.flatMap (OrderClause.mentions dialect)

/-- The columns that a query writes, in the condition and then in the order. -/
def mentions (dialect : Dialect) (query : CompiledQuery) : List FieldPath :=
  query.predicate.mentions ++ query.orderMentions dialect

end CompiledQuery

namespace Sql

variable {dialect : Dialect}

/-! ## References in a text -/

def columnsIn : List Token → List Column
  | .ident table :: .dot :: .ident name :: rest => ⟨some table, name⟩ :: columnsIn rest
  | .ident name :: rest => ⟨none, name⟩ :: columnsIn rest
  | _ :: rest => columnsIn rest
  | [] => []

/-- The columns that the tokens refer to, whatever follows them. -/
structure Refers (tokens : List Token) (columns : List Column) : Prop where
  starts : tokens.head? ≠ some .dot
  reads : ∀ rest, rest.head? ≠ some .dot → columnsIn (tokens ++ rest) = columns ++ columnsIn rest

/-- Anything but a name or the dot between two names. -/
def Token.isApart : Token → Bool
  | .ident _ | .dot => false
  | _ => true

namespace Refers

variable {token : Token} {ts us : List Token} {columns others : List Column}

theorem columnsIn_eq (h : Refers ts columns) : columnsIn ts = columns := by
  have hall := h.reads [] (by simp)
  rwa [List.append_nil, columnsIn, List.append_nil] at hall

theorem nil : Refers [] [] := ⟨by simp, fun _ _ => rfl⟩

theorem append (h : Refers ts columns) (h' : Refers us others) :
    Refers (ts ++ us) (columns ++ others) := by
  have hstarts : ∀ rest : List Token, rest.head? ≠ some .dot → (us ++ rest).head? ≠ some .dot := by
    intro rest hrest
    cases us with
    | nil => exact hrest
    | cons token us => exact h'.starts
  refine ⟨?_, fun rest hrest => ?_⟩
  · cases ts with
    | nil => exact h'.starts
    | cons token ts => exact h.starts
  · rw [List.append_assoc, h.reads _ (hstarts rest hrest), h'.reads rest hrest, List.append_assoc]

theorem cons (ht : token.isApart = true) (h : Refers ts columns) : Refers (token :: ts) columns := by
  refine ⟨?_, fun rest hrest => ?_⟩
  · rintro hdot
    obtain rfl := Option.some.inj hdot
    cases ht
  · refine Eq.trans ?_ (h.reads rest hrest)
    cases token <;> first | rfl | cases ht

theorem apart (ht : ts.all Token.isApart = true) : Refers ts [] := by
  induction ts with
  | nil => exact nil
  | cons token ts ih =>
    rw [List.all_cons, Bool.and_eq_true] at ht
    exact cons ht.1 (ih ht.2)

theorem before (h : Refers ts columns) (hu : us.all Token.isApart = true) :
    Refers (ts ++ us) columns := by
  have hboth := h.append (apart hu)
  rwa [List.append_nil] at hboth

theorem flatMap {α : Type} {f : α → List Token} {g : α → List Column} {l : List α}
    (h : ∀ x ∈ l, Refers (f x) (g x)) : Refers (l.flatMap f) (l.flatMap g) := by
  induction l with
  | nil => exact nil
  | cons x l ih =>
    rw [List.forall_mem_cons] at h
    exact h.1.append (ih h.2)

end Refers

theorem Column.refers (column : Column) : Refers column.tokens [column] := by
  obtain ⟨alias?, name⟩ := column
  cases alias? with
  | none =>
    refine ⟨by simp [tokens], fun rest hrest => ?_⟩
    cases rest with
    | nil => rfl
    | cons token rest => cases token <;> first | rfl | exact absurd rfl hrest
  | some table => exact ⟨by simp [tokens], fun _ _ => rfl⟩

theorem eq_of_shown_eq {token other : Token} (ho : ∀ index?, other ≠ .parameter index?)
    (h : dialect.shown token = other) : token = other := by
  cases token with
  | parameter index? =>
    cases index? <;> cases dialect <;> exact absurd h.symm (ho _)
  | _ => exact h

/-- A parameter is no reference, whether its number is shown or not. -/
theorem columnsIn_shown (tokens : List Token) : columnsIn (tokens.map dialect.shown) = columnsIn tokens := by
  induction tokens using columnsIn.induct with
  | case1 table name rest ih => exact congrArg (_ :: ·) ih
  | case2 name rest hnot ih =>
    have hnot' : ∀ other after, rest.map dialect.shown = .dot :: .ident other :: after → False := by
      intro other after heq
      obtain ⟨first, _, rfl, hfirst, hbehind⟩ := List.map_eq_cons_iff.1 heq
      obtain ⟨second, _, rfl, hsecond, -⟩ := List.map_eq_cons_iff.1 hbehind
      obtain rfl := eq_of_shown_eq (by simp) hfirst
      obtain rfl := eq_of_shown_eq (by simp) hsecond
      exact hnot _ _ rfl
    change columnsIn (.ident name :: rest.map dialect.shown) = _
    rw [columnsIn.eq_2 _ _ hnot', columnsIn.eq_2 _ _ hnot, ih]
  | case3 token rest _ hnot ih =>
    cases token with
    | ident name => exact absurd rfl (hnot name)
    | parameter index? => cases index? <;> cases dialect <;> exact ih
    | _ => exact ih
  | case4 => rfl

/-! ## References of terms and conditions -/

mutual

def Term.columns : Term → List Column
  | .column source => [source]
  | .parameter _ | .literal _ => []
  | .cast term => Term.columns term
  | .fold term => Term.columns term
  | .jsonText source keys => source :: Term.columnsOf keys

def Term.columnsOf : List Term → List Column
  | [] => []
  | term :: rest => Term.columns term ++ Term.columnsOf rest

end

mutual

def Condition.columns : Condition → List Column
  | .all children => Condition.columnsOf children
  | .any children => Condition.columnsOf children
  | .compare left _ right => left.columns ++ right.columns
  | .like left pattern => left.columns ++ pattern.columns
  | .between term low high => term.columns ++ (low.columns ++ high.columns)

def Condition.columnsOf : List Condition → List Column
  | [] => []
  | condition :: rest => Condition.columns condition ++ Condition.columnsOf rest

end

theorem Term.columnsOf_eq (terms : List Term) : Term.columnsOf terms = terms.flatMap Term.columns := by
  induction terms with
  | nil => rfl
  | cons term terms ih => rw [Term.columnsOf, ih]; rfl

theorem Condition.columnsOf_eq (conditions : List Condition) :
    Condition.columnsOf conditions = conditions.flatMap Condition.columns := by
  induction conditions with
  | nil => rfl
  | cons condition conditions ih => rw [Condition.columnsOf, ih]; rfl

theorem Dialect.castTokens_refers {ts : List Token} {columns : List Column} (h : Refers ts columns) :
    Refers (dialect.castTokens ts) columns := by
  cases dialect with
  | postgres => exact h.before rfl
  | sqlite => exact .cons rfl (.cons rfl (h.before rfl))

theorem Dialect.jsonTokens_refers {ts : List Token} {columns : List Column} (h : Refers ts columns) :
    Refers (dialect.jsonTokens ts) columns := by
  cases dialect with
  | postgres => exact .cons rfl (.cons rfl (h.before rfl))
  | sqlite =>
    have hcall : Refers (.word "json_extract" :: .opening :: (ts ++ [.closing])) columns :=
      .cons rfl (.cons rfl (h.before rfl))
    have hcast : Refers (Dialect.castTokens .sqlite _) columns := castTokens_refers hcall
    exact hcast

theorem Term.refers (term : Term) : Refers (term.tokens dialect) term.columns := by
  induction term using Term.induction with
  | column source => exact source.refers
  | parameter index => exact .apart rfl
  | literal text => exact .apart rfl
  | cast term ih => exact Dialect.castTokens_refers ih
  | fold term ih =>
    have hlower : Refers (.word "lower" :: .opening :: (term.tokens dialect ++ [.closing])) term.columns :=
      .cons rfl (.cons rfl (ih.before rfl))
    exact .cons rfl (.cons rfl (hlower.before rfl))
  | jsonText source keys ih =>
    have hkeys : Refers (if keys.isEmpty then [.comma] else Term.tokensOf dialect keys)
        (Term.columnsOf keys) := by
      rw [Term.tokensOf_eq, Term.columnsOf_eq]
      cases keys with
      | nil => exact .apart rfl
      | cons key keys => exact .flatMap fun key hk => .cons rfl (ih key hk)
    exact Dialect.jsonTokens_refers (source.refers.append hkeys)

theorem Condition.parens_refers {separator : Token} (hs : separator.isApart = true) {child : Condition}
    {rest : List Condition} (h : ∀ c ∈ child :: rest, Refers (c.tokens dialect) c.columns) :
    Refers (.opening :: (child.tokens dialect ++ Condition.tokensOf dialect separator rest ++ [.closing]))
      (Condition.columnsOf (child :: rest)) := by
  rw [List.forall_mem_cons] at h
  rw [Condition.tokensOf_eq, Condition.columnsOf_eq, List.flatMap_cons]
  have hrest : Refers (rest.flatMap fun c => separator :: c.tokens dialect)
      (rest.flatMap Condition.columns) := .flatMap fun c hc => .cons hs (h.2 c hc)
  exact .cons rfl ((h.1.append hrest).before rfl)

theorem Condition.refers (condition : Condition) :
    Refers (condition.tokens dialect) condition.columns := by
  induction condition using Condition.induction with
  | all children ih =>
    cases children with
    | nil => exact .apart rfl
    | cons child rest => exact Condition.parens_refers rfl ih
  | any children ih =>
    cases children with
    | nil => exact .apart rfl
    | cons child rest => exact Condition.parens_refers rfl ih
  | compare left comparison right => exact left.refers.append (.cons rfl right.refers)
  | like left pattern => exact left.refers.append (.cons rfl (pattern.refers.before rfl))
  | between term low high =>
    exact term.refers.append (.cons rfl (low.refers.append (.cons rfl high.refers)))

theorem orderTokens_refers {ts : List Token} {columns : List Column} (h : Refers ts columns)
    (descending : Bool) : Refers (dialect.orderTokens ts descending)
      (match dialect with
        | .postgres => columns
        | .sqlite => columns ++ columns) := by
  have hdirection : [Dialect.directionToken descending].all Token.isApart = true := by
    cases descending <;> rfl
  cases dialect with
  | postgres => exact (h.before hdirection).before rfl
  | sqlite =>
    have hfirst : Refers ([.word "case", .word "when"] ++ ts) columns := .cons rfl (.cons rfl h)
    have hsecond : Refers ([.word "end", .comma] ++ ts) columns := .cons rfl (.cons rfl h)
    exact ((hfirst.before rfl).append hsecond).before hdirection

/-! ## References of operands -/

theorem columnsOf_bindTexts (texts : List String) (b : Binding) :
    Term.columnsOf (b.bindTexts texts).1 = [] := by
  induction texts generalizing b with
  | nil => rfl
  | cons text texts ih => exact ih (b.bind (.text text)).2

theorem columnsOf_literals (texts : List String) : Term.columnsOf (texts.map .literal) = [] := by
  induction texts with
  | nil => rfl
  | cons text texts ih => exact ih

theorem columns_bindJson (path : JsonPath) (b : Binding) :
    (bindJson dialect path b).1.columns = [columnOf path.column] :=
  congrArg (columnOf path.column :: ·) (columnsOf_bindTexts ..)

theorem columns_bindOperand (operand : Operand) (b : Binding) :
    (bindOperand dialect operand b).1.columns = [columnOf operand.column] := by
  cases operand with
  | field path => rfl
  | json path => exact columns_bindJson path b

theorem columns_bindFolded (operand : Operand) (b : Binding) :
    (bindFolded dialect operand b).1.columns = [columnOf operand.column] := by
  cases operand with
  | field path =>
    change (Term.fold (if path.type = .text then .column (columnOf path)
      else .cast (.column (columnOf path)))).columns = _
    split <;> rfl
  | json path => exact columns_bindJson path b

theorem columns_bindOrder (order : OrderClause) (b : Binding) :
    (bindOrder dialect order b).1.columns = [columnOf order.operand.column] := by
  obtain ⟨operand, direction⟩ := order
  cases operand with
  | field path => rfl
  | json path => exact congrArg (columnOf path.column :: ·) (columnsOf_literals _)

/-! ## References of predicates -/

theorem columns_bindComparison (left : Term) (comparison : Comparison) (value : Value) (b : Binding) :
    (bindComparison left comparison value b).1.columns = left.columns := List.append_nil _

theorem columns_bindRange (left : Term) (min max : Option Bound) (b : Binding) :
    (bindRange left min max b).1.columns =
      (List.replicate (Predicate.boundMentions min max) left.columns).flatten :=
  collected_bindRange (f := Condition.columns) (fun _ _ => List.append_nil _) Condition.columnsOf_eq
    (fun _ _ => List.append_nil _) min max b

theorem columns_bindLeaf {leaf : Predicate} (hleaf : leaf.isLeaf = true) (b : Binding) :
    (bindPredicate dialect leaf b).1.columns = leaf.ownMentions.map columnOf := by
  cases leaf with
  | always | all | any => cases hleaf
  | equals operand value | notEquals operand value =>
    exact (columns_bindComparison ..).trans (columns_bindOperand operand b)
  | foldedEquals operand text =>
    exact (columns_bindComparison ..).trans (columns_bindFolded operand b)
  | contains operand needle =>
    exact (List.append_nil _).trans (columns_bindFolded operand b)
  | range operand min max =>
    refine (columns_bindRange (bindOperand dialect operand b).1 min max _).trans ?_
    rw [columns_bindOperand, List.flatten_replicate_singleton, Predicate.ownMentions,
      List.map_replicate]

theorem columnsOf_bindPredicates {children : List Predicate}
    (h : ∀ child ∈ children, ∀ b, (bindPredicate dialect child b).1.columns = child.mentions.map columnOf)
    (b : Binding) :
    Condition.columnsOf (bindPredicates dialect children b).1 =
      (children.flatMap Predicate.mentions).map columnOf := by
  induction children generalizing b with
  | nil => rfl
  | cons child rest ih =>
    rw [List.forall_mem_cons] at h
    rw [List.flatMap_cons, List.map_append, ← h.1 b, ← ih h.2 (bindPredicate dialect child b).2]
    rfl

theorem columns_bindPredicate (p : Predicate) (b : Binding) :
    (bindPredicate dialect p b).1.columns = p.mentions.map columnOf := by
  induction p using Predicate.induction generalizing b with
  | always => rfl
  | leaf p hleaf =>
    rw [columns_bindLeaf hleaf, Predicate.mentions_of_isLeaf hleaf]
  | all children ih =>
    rw [Predicate.mentions_all]
    exact columnsOf_bindPredicates ih b
  | any children ih =>
    rw [Predicate.mentions_any]
    exact columnsOf_bindPredicates ih b

/-! ## Statements -/

theorem columnsIn_boundTokens (query : CompiledQuery) :
    columnsIn ((boundTokens dialect query).map dialect.shown) = query.predicate.mentions.map columnOf := by
  rw [columnsIn_shown, boundTokens, (Condition.refers _).columnsIn_eq, columns_bindPredicate]

theorem columnsIn_orderedTokens (query : CompiledQuery) :
    columnsIn ((orderedTokens dialect query).map dialect.shown) = (query.orderMentions dialect).map columnOf := by
  obtain ⟨predicate, order?, skipped⟩ := query
  rw [columnsIn_shown]
  cases order? with
  | none => rfl
  | some order =>
    have hterm : Refers ((bindOrder dialect order _).1.tokens dialect) _ :=
      (bindOrder dialect order (bindPredicate dialect predicate Binding.empty).2).1.refers
    rw [columns_bindOrder] at hterm
    refine (orderTokens_refers hterm order.direction.isDescending).columnsIn_eq.trans ?_
    cases dialect <;> rfl

end Sql
end RecordFilter
