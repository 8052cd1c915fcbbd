import RecordFilter.Proofs.Sql.Agreement
import RecordFilter.Proofs.Sql.References
import RecordFilter.Proofs.Text.Order

/-!
# RecordFilter.Proofs.Sql.Joins

The aliases that are reported on the way. Each step that writes columns adds their aliases to the joins if
they are not there yet (`Binding.Joins`), so the joins are the aliases of the whole statement in the order
in which they first appear (`joins_eq_aliases`). A range without bounds reports an alias that it does not
write, but no request compiles to one.
-/

namespace RecordFilter
namespace Sql

variable {dialect : Dialect}

/-! ## First appearances -/

/-- The aliases that qualify the columns. -/
def aliasesOf (columns : List Column) : List String := columns.filterMap Column.alias?

namespace Binding

/-- If the joins were the aliases so far, in the order of their first appearance, then they are these and
those of the columns. -/
def Joins (b b' : Binding) (columns : List Column) : Prop :=
  ∀ before : List String, b.joins = before.eraseDups →
    b'.joins = (before ++ aliasesOf columns).eraseDups

variable {b b' b'' : Binding} {columns others : List Column}

theorem joins_nil (h : b'.joins = b.joins) : b.Joins b' [] := by
  intro before hbefore
  rw [h, hbefore]
  exact congrArg List.eraseDups (List.append_nil before).symm

theorem Joins.trans (h : b.Joins b' columns) (h' : b'.Joins b'' others) :
    b.Joins b'' (columns ++ others) := by
  intro before hbefore
  rw [aliasesOf, List.filterMap_append, ← List.append_assoc]
  exact h' _ (h before hbefore)

/-- It does not count how often a column is written. -/
theorem Joins.again (h : b.Joins b' columns) (hsame : others ⊆ columns) :
    b.Joins b' (columns ++ others) := by
  intro before hbefore
  have hsub : aliasesOf others ⊆ before ++ aliasesOf columns :=
    fun _ hm => List.mem_append_right _ (List.filterMap_subset _ hsame hm)
  rw [h before hbefore, aliasesOf, aliasesOf, List.filterMap_append, ← List.append_assoc]
  exact (eraseDups_append_of_subset hsub).symm

theorem Joins.replicate {column : Column} (h : b.Joins b' [column]) {count : Nat} (hc : 0 < count) :
    b.Joins b' (List.replicate count column) := by
  obtain ⟨rest, rfl⟩ := Nat.exists_eq_add_of_lt hc
  rw [Nat.zero_add, List.replicate_succ]
  exact h.again fun other hm => List.mem_singleton.2 (List.eq_of_mem_replicate hm)

theorem join_joins (b : Binding) (table name : String) : b.Joins (b.join table) [⟨some table, name⟩] := by
  intro before hbefore
  change (b.join table).joins = (before ++ [table]).eraseDups
  have hmem : b.joins.contains table = true ↔ table ∈ before := by
    rw [hbefore, List.contains_iff_mem, List.mem_eraseDups]
  unfold join
  split
  · next hin =>
    rw [hbefore]
    exact (eraseDups_append_of_subset (List.forall_mem_singleton.2 (hmem.1 hin))).symm
  · next hout =>
    rw [eraseDups_concat_of_notMem (mt hmem.2 hout), ← hbefore]

end Binding

/-! ## Aliases of operands -/

theorem bindColumn_joins (path : FieldPath) (b : Binding) :
    b.Joins (bindColumn path b).2 [columnOf path] := by
  unfold bindColumn columnOf
  split
  · exact Binding.joins_nil rfl
  · exact b.join_joins _ _

theorem bindTexts_joins (texts : List String) (b : Binding) : (b.bindTexts texts).2.joins = b.joins := by
  induction texts generalizing b with
  | nil => rfl
  | cons text texts ih => exact ih (b.bind (.text text)).2

theorem bindJson_joins (path : JsonPath) (b : Binding) :
    b.Joins (bindJson dialect path b).2 [columnOf path.column] :=
  (bindColumn_joins path.column b).trans (Binding.joins_nil (bindTexts_joins ..))

theorem bindOperand_joins (operand : Operand) (b : Binding) :
    b.Joins (bindOperand dialect operand b).2 [columnOf operand.column] := by
  cases operand with
  | field path => exact bindColumn_joins path b
  | json path => exact bindJson_joins path b

theorem bindFolded_joins (operand : Operand) (b : Binding) :
    b.Joins (bindFolded dialect operand b).2 [columnOf operand.column] := by
  cases operand with
  | field path => exact bindColumn_joins path b
  | json path => exact bindJson_joins path b

theorem bindOrder_joins (order : OrderClause) (b : Binding) :
    b.Joins (bindOrder dialect order b).2 [columnOf order.operand.column] := by
  obtain ⟨operand, direction⟩ := order
  cases operand with
  | field path => exact bindColumn_joins path b
  | json path => exact bindColumn_joins path.column b

/-! ## Aliases of predicates -/

theorem bindRange_joins (left : Term) (min max : Option Bound) (b : Binding) :
    (bindRange left min max b).2.joins = b.joins := by
  cases min with
  | none => cases max <;> rfl
  | some low =>
    cases max with
    | none =>
      obtain ⟨low, closed⟩ := low
      cases closed <;> rfl
    | some high =>
      rw [bindRange_bounds]
      rfl

/-- Only a range without bounds has a column that is joined but not written. -/
theorem bindLeaf_joins {leaf : Predicate} (hleaf : leaf.isLeaf = true) (hw : leaf.ownMentions ≠ [])
    (b : Binding) :
    b.Joins (bindPredicate dialect leaf b).2 (leaf.ownMentions.map columnOf) := by
  cases leaf with
  | always | all | any => cases hleaf
  | equals operand _ | notEquals operand _ => exact bindOperand_joins operand b
  | contains operand _ | foldedEquals operand _ => exact bindFolded_joins operand b
  | range operand min max =>
    have hcount : 0 < Predicate.boundMentions min max := by
      rw [Nat.pos_iff_ne_zero]
      intro hzero
      rw [Predicate.ownMentions, hzero] at hw
      exact hw rfl
    have honce : b.Joins (bindPredicate dialect (.range operand min max) b).2
        [columnOf operand.column] :=
      (bindOperand_joins operand b).trans (Binding.joins_nil (bindRange_joins ..))
    rw [Predicate.ownMentions, List.map_replicate]
    exact honce.replicate hcount

theorem bindPredicates_joins {children : List Predicate}
    (h : ∀ child ∈ children, (∀ leaf ∈ child.leaves, leaf.ownMentions ≠ []) → ∀ b : Binding,
      b.Joins (bindPredicate dialect child b).2 (child.mentions.map columnOf))
    (hw : ∀ leaf ∈ children.flatMap Predicate.leaves, leaf.ownMentions ≠ []) (b : Binding) :
    b.Joins (bindPredicates dialect children b).2
      ((children.flatMap Predicate.mentions).map columnOf) := by
  induction children generalizing b with
  | nil => exact Binding.joins_nil rfl
  | cons child rest ih =>
    rw [List.forall_mem_cons] at h
    rw [List.flatMap_cons, List.forall_mem_append] at hw
    rw [List.flatMap_cons, List.map_append]
    exact (h.1 hw.1 b).trans (ih h.2 hw.2 _)

theorem bindPredicate_joins (p : Predicate) (hw : ∀ leaf ∈ p.leaves, leaf.ownMentions ≠ [])
    (b : Binding) : b.Joins (bindPredicate dialect p b).2 (p.mentions.map columnOf) := by
  induction p using Predicate.induction generalizing b with
  | always => exact Binding.joins_nil rfl
  | leaf p hleaf =>
    rw [Predicate.leaves_of_isLeaf hleaf, List.forall_mem_singleton] at hw
    rw [Predicate.mentions_of_isLeaf hleaf]
    exact bindLeaf_joins hleaf hw b
  | all children ih =>
    rw [Predicate.leaves, Predicate.leavesOf_eq] at hw
    rw [Predicate.mentions_all]
    exact bindPredicates_joins ih hw b
  | any children ih =>
    rw [Predicate.leaves, Predicate.leavesOf_eq] at hw
    rw [Predicate.mentions_any]
    exact bindPredicates_joins ih hw b

theorem bindOrderBy_joins (order? : Option OrderClause) (b : Binding) :
    b.Joins (bindOrderBy dialect order? b).2
      ((order?.toList.flatMap (OrderClause.mentions dialect)).map columnOf) := by
  cases order? with
  | none => exact Binding.joins_nil rfl
  | some order =>
    have honce : b.Joins (bindOrderBy dialect (some order) b).2 [columnOf order.operand.column] :=
      bindOrder_joins order b
    cases dialect with
    | postgres => exact honce
    | sqlite => exact honce.again (List.Subset.refl _)

end Sql

/-- A compiled range has a bound. -/
theorem Predicate.IsTyped.ownMentions_ne_nil {leaf : Predicate} (h : leaf.IsTyped) :
    leaf.ownMentions ≠ [] := by
  cases h with
  | @range path min max _ bounded _ =>
    rcases min with _ | ⟨low, _ | _⟩ <;> rcases max with _ | ⟨high, _ | _⟩ <;>
      first | exact List.cons_ne_nil _ _ | simp at bounded
  | _ => exact List.cons_ne_nil _ _

namespace Sql

variable {schema : Schema} {options : CompileOptions} {request : Request} {query : CompiledQuery}

theorem joins_of_compile (h : compile schema options request = .ok query) (dialect : Dialect)
    (table : String) (page : Option (Nat × Nat)) :
    (render dialect table query page).joins =
      (aliasesOf ((query.mentions dialect).map columnOf)).eraseDups := by
  have hcondition : Binding.empty.Joins _ _ := @bindPredicate_joins dialect query.predicate
    (fun leaf hl => (leaves_of_compile h leaf hl).1.ownMentions_ne_nil) Binding.empty
  have horder : Binding.Joins _ _ _ := @bindOrderBy_joins dialect query.order
    (bindPredicate dialect query.predicate Binding.empty).2
  rw [CompiledQuery.mentions, List.map_append]
  exact hcondition.trans horder [] rfl

/-- The reported joins are the aliases that qualify a column of the condition or of the order, each once
and in the order in which they first appear. -/
theorem joins_eq_aliases (h : compile schema options request = .ok query) (dialect : Dialect)
    (table : String) (page : Option (Nat × Nat)) :
    ∃ condition order,
      IsCutInto (render dialect table query page).whereClause condition ∧
      IsCutInto ((render dialect table query page).orderBy.getD "") order ∧
      (render dialect table query page).joins.Nodup ∧
      (render dialect table query page).joins =
        (aliasesOf (columnsIn condition) ++ aliasesOf (columnsIn order)).eraseDups := by
  refine ⟨_, _, whereClause_isCutInto table query page, orderBy_isCutInto table query page, ?_, ?_⟩
  · rw [joins_of_compile h]
    exact nodup_eraseDups _
  · rw [joins_of_compile h, columnsIn_boundTokens, columnsIn_orderedTokens, CompiledQuery.mentions,
      List.map_append, aliasesOf, List.filterMap_append]
    rfl

/-- Orders of products. -/
def pedidosSchema : Schema := (Schema.empty "pedidos").relation "produto" Catalog.produtosSchema

/-- The city of the supplier, something in the document of the product, and the order by its name. -/
def pedidosQuery : CompiledQuery :=
  ⟨.all [.contains (.field ⟨["produto", "fornecedor", "cidade"], .text⟩) "sao",
    .contains (.json ⟨⟨["produto", "dto"], .json⟩, ["origem"]⟩) "minas"],
    some ⟨.field ⟨["produto", "nome"], .text⟩, .ascending⟩, []⟩

set_option maxRecDepth 2000 in
theorem compile_pedidos :
    compile pedidosSchema .standard ⟨[⟨"produto.fornecedor.cidade", ["sao"]⟩,
      ⟨"produto.dto.origem", ["minas"]⟩, ⟨"sortBy", ["produto.nome"]⟩]⟩ = .ok pedidosQuery := rfl

set_option maxRecDepth 2000 in
theorem joins_eq_aliases_pedidos :
    ∃ condition order,
      IsCutInto (render .sqlite "pedidos" pedidosQuery none).whereClause condition ∧
      IsCutInto ((render .sqlite "pedidos" pedidosQuery none).orderBy.getD "") order ∧
      (aliasesOf (columnsIn condition) ++ aliasesOf (columnsIn order)).eraseDups =
        ["produto__fornecedor", "produto"] := by
  obtain ⟨condition, order, hcondition, horder, -, hjoins⟩ :=
    joins_eq_aliases compile_pedidos .sqlite "pedidos" none
  exact ⟨condition, order, hcondition, horder, hjoins.symm⟩

end Sql
end RecordFilter
