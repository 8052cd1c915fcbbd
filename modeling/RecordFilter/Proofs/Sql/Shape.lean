import RecordFilter.Catalog.Catalog
import RecordFilter.Sql.Statement

/-!
# RecordFilter.Proofs.Sql.Shape

What a request compares with does not get into the text of the statement. Two conditions have the same
shape (`Predicate.SameShape`) if they differ at most in the values, the needles and the keys inside
documents. Steps that write one shape write the same (`WriteAlike`), whatever they bind:

* `writeAlike_bindPredicate`: conditions of one shape are written alike.
* `render_of_sameShape`: so are the statements around them, and they have equally many parameters.
-/

namespace RecordFilter

/-! ## Shapes -/

/-- The same column, and equally many keys inside its document. -/
inductive Operand.SameShape : Operand → Operand → Prop where
  | field (path : FieldPath) : SameShape (.field path) (.field path)
  | json (column : FieldPath) {keys keys' : List String} (count : keys.length = keys'.length) :
      SameShape (.json ⟨column, keys⟩) (.json ⟨column, keys'⟩)

/-- Two sides of a range that are missing, or closed, or open together. -/
inductive Bound.SameSide : Option Bound → Option Bound → Prop where
  | missing : SameSide none none
  | bound (inclusive : Bool) (value value' : Value) :
      SameSide (some ⟨value, inclusive⟩) (some ⟨value', inclusive⟩)

/-- The same conditions on the same operands; what they compare with may differ. -/
inductive Predicate.SameShape : Predicate → Predicate → Prop where
  | always : SameShape .always .always
  | all {children children' : List Predicate} (count : children.length = children'.length)
      (each : ∀ pair ∈ children.zip children', SameShape pair.1 pair.2) :
      SameShape (.all children) (.all children')
  | any {children children' : List Predicate} (count : children.length = children'.length)
      (each : ∀ pair ∈ children.zip children', SameShape pair.1 pair.2) :
      SameShape (.any children) (.any children')
  | equals {operand operand' : Operand} (same : operand.SameShape operand') (value value' : Value) :
      SameShape (.equals operand value) (.equals operand' value')
  | notEquals {operand operand' : Operand} (same : operand.SameShape operand') (value value' : Value) :
      SameShape (.notEquals operand value) (.notEquals operand' value')
  | contains {operand operand' : Operand} (same : operand.SameShape operand') (needle needle' : String) :
      SameShape (.contains operand needle) (.contains operand' needle')
  | foldedEquals {operand operand' : Operand} (same : operand.SameShape operand') (text text' : String) :
      SameShape (.foldedEquals operand text) (.foldedEquals operand' text')
  | range {operand operand' : Operand} {min min' max max' : Option Bound}
      (same : operand.SameShape operand') (low : Bound.SameSide min min')
      (high : Bound.SameSide max max') : SameShape (.range operand min max) (.range operand' min' max')

namespace Sql

/-! ## Writing alike -/

/-- The values that are bound may differ; their number and the aliases may not. -/
structure Binding.Alike (b b' : Binding) : Prop where
  joins : b.joins = b'.joins
  count : b.params.length = b'.params.length

/-- From alike bindings the two steps come to the same result, and to alike bindings again. -/
def WriteAlike {α : Type} (f g : Binding → α × Binding) : Prop :=
  ∀ b b' : Binding, b.Alike b' → (f b).1 = (g b').1 ∧ (f b).2.Alike (g b').2

namespace WriteAlike

variable {α β : Type} {f g : Binding → α × Binding}

theorem pure (x : α) : WriteAlike (fun b => (x, b)) (fun b => (x, b)) := fun _ _ h => ⟨rfl, h⟩

theorem andThen {k l : α → Binding → β × Binding} (h : WriteAlike f g)
    (hrest : ∀ x, WriteAlike (k x) (l x)) :
    WriteAlike (fun b => k (f b).1 (f b).2) (fun b => l (g b).1 (g b).2) := by
  intro b b' hb
  obtain ⟨hx, hb⟩ := h b b' hb
  have hnext := hrest (f b).1 (f b).2 (g b').2 hb
  show (k (f b).1 (f b).2).1 = (l (g b').1 (g b').2).1 ∧
    (k (f b).1 (f b).2).2.Alike (l (g b').1 (g b').2).2
  rw [← hx]
  exact hnext

theorem map (h : WriteAlike f g) (k : α → β) :
    WriteAlike (fun b => (k (f b).1, (f b).2)) (fun b => (k (g b).1, (g b).2)) :=
  h.andThen fun x => pure (k x)

end WriteAlike

/-! ## Terms -/

theorem writeAlike_bind (value value' : Value) : WriteAlike (·.bind value) (·.bind value') := by
  intro b b' h
  refine ⟨?_, h.joins, ?_⟩
  · simp only [Binding.bind, h.count]
  · simp only [Binding.bind, List.length_append, List.length_singleton, h.count]

theorem writeAlike_bindTexts {texts texts' : List String} (h : texts.length = texts'.length) :
    WriteAlike (·.bindTexts texts) (·.bindTexts texts') := by
  induction texts generalizing texts' with
  | nil =>
    obtain rfl := List.length_eq_zero_iff.1 h.symm
    exact .pure []
  | cons text texts ih =>
    obtain ⟨text', texts', rfl⟩ := List.exists_cons_of_length_eq_add_one h.symm
    have hrest := ih (Nat.succ.inj h)
    exact (writeAlike_bind (.text text) (.text text')).andThen fun term => hrest.map (term :: ·)

theorem writeAlike_bindColumn (path : FieldPath) :
    WriteAlike (bindColumn path) (bindColumn path) := by
  intro b b' h
  refine ⟨rfl, ?_⟩
  simp only [bindColumn]
  split
  · simp only [Binding.join, ← h.joins]
    split
    · exact h
    · exact ⟨rfl, h.count⟩
  · exact h

theorem length_jsonPathParams {keys keys' : List String} (dialect : Dialect)
    (h : keys.length = keys'.length) :
    (dialect.jsonPathParams keys).length = (dialect.jsonPathParams keys').length := by
  cases dialect with
  | postgres => exact h
  | sqlite => rfl

theorem writeAlike_bindJson {keys keys' : List String} (dialect : Dialect) (column : FieldPath)
    (h : keys.length = keys'.length) :
    WriteAlike (bindJson dialect ⟨column, keys⟩) (bindJson dialect ⟨column, keys'⟩) :=
  (writeAlike_bindColumn column).andThen fun source =>
    (writeAlike_bindTexts (length_jsonPathParams dialect h)).map (Term.jsonText source)

variable {operand operand' : Operand}

theorem writeAlike_bindOperand (dialect : Dialect) (h : operand.SameShape operand') :
    WriteAlike (bindOperand dialect operand) (bindOperand dialect operand') := by
  cases h with
  | field path => exact (writeAlike_bindColumn path).map Term.column
  | json column count => exact writeAlike_bindJson dialect column count

theorem writeAlike_bindFolded (dialect : Dialect) (h : operand.SameShape operand') :
    WriteAlike (bindFolded dialect operand) (bindFolded dialect operand') := by
  cases h with
  | field path =>
    exact (writeAlike_bindColumn path).map fun column =>
      Term.fold (if path.type = .text then .column column else .cast (.column column))
  | json column count => exact (writeAlike_bindJson dialect column count).map Term.fold

/-! ## Conditions -/

theorem writeAlike_bindComparison (left : Term) (comparison : Comparison) (value value' : Value) :
    WriteAlike (bindComparison left comparison value) (bindComparison left comparison value') :=
  (writeAlike_bind value value').map (Condition.compare left comparison)

theorem writeAlike_bindBound {side side' : Option Bound} (left : Term)
    (inclusive exclusive : Comparison) (h : Bound.SameSide side side') :
    WriteAlike (bindBound left inclusive exclusive side) (bindBound left inclusive exclusive side') := by
  cases h with
  | missing => exact .pure []
  | bound closed value value' =>
    exact (writeAlike_bindComparison left (if closed then inclusive else exclusive) value value').map
      fun condition => [condition]

/-- One condition stands alone, several are joined. -/
def boundConditions (conditions : List Condition) : Condition :=
  match conditions with
  | [condition] => condition
  | conditions => .all conditions

theorem writeAlike_bindBounds {min min' max max' : Option Bound} (left : Term)
    (hlow : Bound.SameSide min min') (hhigh : Bound.SameSide max max') :
    WriteAlike
      (fun b =>
        let low := bindBound left .ge .gt min b
        let high := bindBound left .le .lt max low.2
        (boundConditions (low.1 ++ high.1), high.2))
      (fun b =>
        let low := bindBound left .ge .gt min' b
        let high := bindBound left .le .lt max' low.2
        (boundConditions (low.1 ++ high.1), high.2)) :=
  (writeAlike_bindBound left .ge .gt hlow).andThen fun low =>
    (writeAlike_bindBound left .le .lt hhigh).map fun high => boundConditions (low ++ high)

theorem writeAlike_bindRange {min min' max max' : Option Bound} (left : Term)
    (hlow : Bound.SameSide min min') (hhigh : Bound.SameSide max max') :
    WriteAlike (bindRange left min max) (bindRange left min' max') := by
  have hbounds := writeAlike_bindBounds left hlow hhigh
  cases hlow with
  | missing => cases hhigh <;> exact hbounds
  | bound lowClosed low low' =>
    cases hhigh with
    | missing => cases lowClosed <;> exact hbounds
    | bound highClosed high high' =>
      -- Only two closed bounds are written as one condition.
      cases lowClosed with
      | false => exact hbounds
      | true =>
        cases highClosed with
        | false => exact hbounds
        | true =>
          exact (writeAlike_bind low low').andThen fun first =>
            (writeAlike_bind high high').map fun second => Condition.between left first second

theorem writeAlike_bindPredicates {dialect : Dialect} {children children' : List Predicate}
    (count : children.length = children'.length)
    (each : ∀ pair ∈ children.zip children',
      WriteAlike (bindPredicate dialect pair.1) (bindPredicate dialect pair.2)) :
    WriteAlike (bindPredicates dialect children) (bindPredicates dialect children') := by
  induction children generalizing children' with
  | nil =>
    obtain rfl := List.length_eq_zero_iff.1 count.symm
    exact .pure []
  | cons child children ih =>
    obtain ⟨child', children', rfl⟩ := List.exists_cons_of_length_eq_add_one count.symm
    rw [List.zip_cons_cons, List.forall_mem_cons] at each
    have hrest := ih (Nat.succ.inj count) each.2
    exact each.1.andThen fun condition => hrest.map (condition :: ·)

theorem writeAlike_bindPredicate (dialect : Dialect) {p p' : Predicate} (h : p.SameShape p') :
    WriteAlike (bindPredicate dialect p) (bindPredicate dialect p') := by
  induction h with
  | always => exact .pure (Condition.all [])
  | all count _ ih => exact (writeAlike_bindPredicates count ih).map Condition.all
  | any count _ ih => exact (writeAlike_bindPredicates count ih).map Condition.any
  | equals same value value' =>
    exact (writeAlike_bindOperand dialect same).andThen fun left =>
      writeAlike_bindComparison left .eq value value'
  | notEquals same value value' =>
    exact (writeAlike_bindOperand dialect same).andThen fun left =>
      writeAlike_bindComparison left .ne value value'
  | contains same needle needle' =>
    exact (writeAlike_bindFolded dialect same).andThen fun left =>
      (writeAlike_bind (.text (likePattern needle)) (.text (likePattern needle'))).map (Condition.like left)
  | foldedEquals same text text' =>
    exact (writeAlike_bindFolded dialect same).andThen fun left =>
      writeAlike_bindComparison left .eq (.text text) (.text text')
  | range same low high =>
    exact (writeAlike_bindOperand dialect same).andThen fun left => writeAlike_bindRange left low high

/-! ## Statements -/

/-- The operand of an order is written out, keys and all, and nothing is bound for it. -/
theorem writeAlike_orderText (dialect : Dialect) (order : OrderClause) :
    WriteAlike (orderText dialect order) (orderText dialect order) := by
  have hterm : WriteAlike (bindOrder dialect order) (bindOrder dialect order) := by
    obtain ⟨operand, direction⟩ := order
    cases operand with
    | field path => exact (writeAlike_bindColumn path).map Term.column
    | json path =>
      exact (writeAlike_bindColumn path.column).map fun column =>
        Term.jsonText column ((dialect.jsonPathParams path.keys).map .literal)
  exact hterm.map fun term =>
    dialect.orderBy (term.write dialect) order.direction.isDescending true

/-- The order of a query, if it has one. -/
def bindOrderBy (dialect : Dialect) (order? : Option OrderClause) (b : Binding) :
    Option String × Binding :=
  match order? with
  | none => (none, b)
  | some order =>
    let (text, b) := orderText dialect order b
    (some text, b)

theorem writeAlike_bindOrderBy (dialect : Dialect) (order? : Option OrderClause) :
    WriteAlike (bindOrderBy dialect order?) (bindOrderBy dialect order?) := by
  cases order? with
  | none => exact .pure none
  | some order => exact (writeAlike_orderText dialect order).map some

theorem render_eq (dialect : Dialect) (table : String) (query : CompiledQuery)
    (page : Option (Nat × Nat)) :
    render dialect table query page =
      let condition := bindPredicate dialect query.predicate Binding.empty
      let order := bindOrderBy dialect query.order condition.2
      { dialect
        whereClause := condition.1.write dialect
        orderBy := order.1
        joins := order.2.joins
        text := statementText table (condition.1.write dialect) order.1 page
        params := order.2.params } := rfl

/-- Where, in what order and with which joins rows are looked for is written alike for two queries whose
conditions have the same shape and whose orders are the same; only the parameters differ. -/
theorem render_of_sameShape {query query' : CompiledQuery}
    (hshape : query.predicate.SameShape query'.predicate) (horder : query.order = query'.order)
    (dialect : Dialect) (table : String) (page : Option (Nat × Nat)) :
    (render dialect table query page).whereClause = (render dialect table query' page).whereClause ∧
      (render dialect table query page).orderBy = (render dialect table query' page).orderBy ∧
      (render dialect table query page).joins = (render dialect table query' page).joins ∧
      (render dialect table query page).text = (render dialect table query' page).text ∧
      (render dialect table query page).params.length =
        (render dialect table query' page).params.length := by
  have hstart : Binding.empty.Alike Binding.empty := ⟨rfl, rfl⟩
  obtain ⟨hcondition, hbound⟩ := writeAlike_bindPredicate dialect hshape _ _ hstart
  obtain ⟨hby, hend⟩ := writeAlike_bindOrderBy dialect query.order _ _ hbound
  rw [render_eq, render_eq, ← horder]
  refine ⟨?_, hby, hend.joins, ?_, hend.count⟩
  · simp only [hcondition]
  · simp only [hcondition, hby]

/-- A quote in a needle and a parenthesis in a key change nothing but the parameters. -/
theorem render_of_sameShape_quotes :
    let words : CompiledQuery :=
      ⟨.all [.range (.field ⟨["estoque"], .integer .bits32⟩) (some ⟨.integer .bits32 100, true⟩) none,
        .contains (.json ⟨⟨["dto"], .json⟩, ["origem"]⟩) "minas",
        .equals (.field ⟨["fornecedor", "cidade"], .other "uf"⟩) (.raw "MG")],
        some ⟨.json ⟨⟨["dto"], .json⟩, ["origem"]⟩, .descending⟩, []⟩
    let quotes : CompiledQuery :=
      ⟨.all [.range (.field ⟨["estoque"], .integer .bits32⟩) (some ⟨.integer .bits32 7, true⟩) none,
        .contains (.json ⟨⟨["dto"], .json⟩, ["x\"') OR (1=1"]⟩) "' OR ''='",
        .equals (.field ⟨["fornecedor", "cidade"], .other "uf"⟩) (.raw "'; DROP TABLE produtos --")],
        some ⟨.json ⟨⟨["dto"], .json⟩, ["origem"]⟩, .descending⟩, []⟩
    (render .sqlite Catalog.produtos quotes (some (20, 40))).text =
        (render .sqlite Catalog.produtos words (some (20, 40))).text ∧
      (render .sqlite Catalog.produtos quotes (some (20, 40))).params.length = 4 := by
  intro words quotes
  have hshape : quotes.predicate.SameShape words.predicate := by
    refine .all rfl fun pair hm => ?_
    simp only [List.zip_cons_cons, List.zip_nil_right, List.mem_cons, List.not_mem_nil,
      or_false] at hm
    rcases hm with rfl | rfl | rfl
    · exact .range (.field _) (.bound true _ _) .missing
    · refine .contains (.json _ ?_) _ _
      rfl
    · exact .equals (.field _) _ _
  obtain ⟨-, -, -, htext, hcount⟩ :=
    render_of_sameShape hshape rfl .sqlite Catalog.produtos (some (20, 40))
  exact ⟨htext, hcount.trans rfl⟩

end Sql
end RecordFilter
