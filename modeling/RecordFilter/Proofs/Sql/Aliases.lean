import Mathlib.Data.List.Infix
import RecordFilter.Proofs.Sql.Joins
import RecordFilter.Proofs.Text.Split

/-!
# RecordFilter.Proofs.Sql.Aliases

Which relations share an alias. An alias is the names of the relations with two underscores between them,
and nothing is done about underscores in the names. Where they cannot be taken for a separator, or for half
of one (`AreSeparable`), the alias says which relations were followed (`aliasOf_inj`).
-/

namespace RecordFilter
namespace Sql

/-- No name holds a separator, and none that ends with an underscore can stand next to one that begins with
one. -/
def AreSeparable (names : List String) : Prop :=
  (∀ name ∈ names, ¬ ['_', '_'] <:+: name.toList) ∧
    ((∀ name ∈ names, name.toList.getLast? ≠ some '_') ∨ ∀ name ∈ names, name.toList.head? ≠ some '_')

instance (names : List String) : Decidable (AreSeparable names) :=
  inferInstanceAs (Decidable (_ ∧ _))

theorem AreSeparable.of_subset {names others : List String} (h : AreSeparable names)
    (hsub : others ⊆ names) : AreSeparable others :=
  ⟨fun name hm => h.1 name (hsub hm),
    h.2.imp (fun hall name hm => hall name (hsub hm)) (fun hall name hm => hall name (hsub hm))⟩

/-! ## Reading an alias -/

/-- What follows the first name in an alias. -/
def behindFirst : List String → List Char
  | [] => []
  | rest => '_' :: '_' :: (aliasOf rest).toList

theorem aliasOf_cons (name : String) (rest : List String) :
    (aliasOf (name :: rest)).toList = name.toList ++ behindFirst rest := by
  cases rest with
  | nil => simp [aliasOf, behindFirst, Text.joined_singleton]
  | cons next rest =>
    rw [aliasOf, Text.joined_cons _ _ (List.cons_ne_nil next rest)]
    simp [behindFirst, aliasOf]

theorem ne_nil_of_behindFirst {rest : List String} {c : Char} {chars : List Char}
    (h : behindFirst rest = c :: chars) :
    rest ≠ [] ∧ c = '_' ∧ chars = '_' :: (aliasOf rest).toList := by
  cases rest with
  | nil => cases h
  | cons next rest =>
    obtain ⟨rfl, rfl⟩ := List.cons.inj h
    exact ⟨List.cons_ne_nil _ _, rfl, rfl⟩

/-- If one alias is another with one underscore in front, then a name begins with an underscore: empty names
in front put the underscore from one side to the other. -/
theorem exists_head_eq (names others : List String)
    (h : (aliasOf names).toList = '_' :: (aliasOf others).toList) :
    ∃ name ∈ names ++ others, name.toList.head? = some '_' := by
  cases names with
  | nil => cases h
  | cons first rest =>
    rw [aliasOf_cons] at h
    cases hf : first.toList with
    | cons c chars =>
      rw [hf] at h
      obtain ⟨rfl, -⟩ := List.cons.inj h
      exact ⟨first, by simp, by rw [hf]; rfl⟩
    | nil =>
      rw [hf] at h
      obtain ⟨-, -, hrest⟩ := ne_nil_of_behindFirst h
      obtain ⟨name, hm, hname⟩ := exists_head_eq others rest hrest
      refine ⟨name, ?_, hname⟩
      simp only [List.mem_append, List.mem_cons] at hm ⊢
      tauto
termination_by names.length + others.length

/-- Where one of two names in front of the same alias ends, the other one ends too. -/
theorem eq_nil_of_separable {first other : String} {rest rest' : List String} {more : List Char}
    (hs : AreSeparable (first :: rest ++ other :: rest')) (hother : other.toList = first.toList ++ more)
    (h : behindFirst rest = more ++ behindFirst rest') : more = [] := by
  match more with
  | [] => rfl
  | [c] =>
    -- Half a separator is left over, for a name that begins with the other half.
    exfalso
    obtain ⟨-, rfl, hrest⟩ := ne_nil_of_behindFirst h
    obtain ⟨-, -, hrest'⟩ := ne_nil_of_behindFirst hrest
    obtain ⟨name, hm, hname⟩ := exists_head_eq rest rest' hrest'
    obtain hends | hbegins := hs.2
    · exact hends other (by simp) (by simp [hother])
    · refine hbegins name ?_ hname
      simp only [List.mem_append, List.mem_cons] at hm ⊢
      tauto
  | c :: d :: more =>
    exfalso
    obtain ⟨-, rfl, hrest⟩ := ne_nil_of_behindFirst h
    obtain ⟨rfl, -⟩ := List.cons.inj hrest
    exact hs.1 other (by simp) ⟨first.toList, more, by simp [hother]⟩

/-- An alias of separable names says which they are. -/
theorem aliasOf_inj {names others : List String} (hs : AreSeparable (names ++ others)) (hn : names ≠ [])
    (ho : others ≠ []) (h : aliasOf names = aliasOf others) : names = others := by
  induction names generalizing others with
  | nil => exact absurd rfl hn
  | cons first rest ih =>
    obtain ⟨other, rest', rfl⟩ := List.exists_cons_of_ne_nil ho
    have hread := congrArg String.toList h
    rw [aliasOf_cons, aliasOf_cons] at hread
    have hfirst : first.toList = other.toList ∧ behindFirst rest = behindFirst rest' := by
      obtain ⟨more, hother, hbehind⟩ | ⟨more, hother, hbehind⟩ := List.append_eq_append_iff.1 hread
      · obtain rfl := eq_nil_of_separable hs hother hbehind
        rw [hother, List.append_nil]
        exact ⟨rfl, hbehind⟩
      · have hswap : AreSeparable (other :: rest' ++ first :: rest) :=
          hs.of_subset fun name hm => by
            rw [List.mem_append] at hm ⊢
            exact hm.symm
        obtain rfl := eq_nil_of_separable hswap hother hbehind
        rw [hother, List.append_nil]
        exact ⟨rfl, hbehind.symm⟩
    obtain ⟨hsame, hbehind⟩ := hfirst
    obtain rfl := String.toList_inj.1 hsame
    cases rest with
    | nil =>
      cases rest' with
      | nil => rfl
      | cons => cases hbehind
    | cons second rest =>
      obtain ⟨hne, -, hrest⟩ := ne_nil_of_behindFirst hbehind.symm
      have hlast := String.toList_inj.1 (List.cons.inj hrest).2
      rw [ih ?_ (List.cons_ne_nil _ _) hne hlast]
      exact hs.of_subset fun name hm => by
        simp only [List.mem_append, List.mem_cons] at hm ⊢
        tauto

/-! ## Statements -/

theorem aliasesOf_columnOf (paths : List FieldPath) :
    aliasesOf (paths.map columnOf) = ((paths.map FieldPath.relations).filter (· ≠ [])).map aliasOf := by
  induction paths with
  | nil => rfl
  | cons path paths ih =>
    rw [aliasesOf] at ih ⊢
    by_cases hr : path.relations = [] <;> simp [columnOf, hr, ih]

theorem relations_eq_of_alias?_eq {path path' : FieldPath}
    (hs : AreSeparable (path.relations ++ path'.relations))
    (h : (columnOf path).alias? = (columnOf path').alias?) : path.relations = path'.relations := by
  unfold columnOf at h
  by_cases hr : path.relations = [] <;> by_cases hr' : path'.relations = [] <;> simp [hr, hr'] at h
  · rw [hr, hr']
  · exact aliasOf_inj hs hr hr' h

/-- Relations share an alias only by underscores in their names: two operands behind different relations
have different aliases, and a statement reports one for each of the relations that it goes through. -/
theorem alias?_ne_of_areSeparable :
    (∀ operand operand' : Operand,
        AreSeparable (operand.column.relations ++ operand'.column.relations) →
        operand.column.relations ≠ operand'.column.relations →
        (columnOf operand.column).alias? ≠ (columnOf operand'.column).alias?) ∧
      ∀ {schema : Schema} {options : CompileOptions} {request : Request} {query : CompiledQuery},
        compile schema options request = .ok query → ∀ dialect table page,
        AreSeparable ((query.mentions dialect).flatMap FieldPath.relations) →
        (render dialect table query page).joins =
          (((query.mentions dialect).map FieldPath.relations).filter (· ≠ [])).eraseDups.map aliasOf := by
  constructor
  · intro operand operand' hs hne heq
    exact hne (relations_eq_of_alias?_eq hs heq)
  · intro schema options request query h dialect table page hs
    rw [joins_of_compile h, aliasesOf_columnOf]
    refine eraseDups_map fun names hm others ho heq => ?_
    simp only [List.mem_filter, List.mem_map, decide_eq_true_eq] at hm ho
    obtain ⟨⟨path, hp, rfl⟩, hne⟩ := hm
    obtain ⟨⟨other, ho, rfl⟩, hne'⟩ := ho
    refine aliasOf_inj (hs.of_subset fun name hname => ?_) hne hne' heq
    rw [List.mem_flatMap]
    obtain hname | hname := List.mem_append.1 hname
    · exact ⟨path, hp, hname⟩
    · exact ⟨other, ho, hname⟩

theorem alias?_ne_of_areSeparable_pedidos :
    (columnOf ⟨["produto", "fornecedor", "cidade"], .text⟩).alias? ≠
        (columnOf ⟨["produto", "nome"], .text⟩).alias? ∧
      (render .sqlite "pedidos" pedidosQuery none).joins =
        [["produto", "fornecedor"], ["produto"]].map aliasOf := by
  obtain ⟨hoperands, hjoins⟩ := alias?_ne_of_areSeparable
  constructor
  · exact hoperands (.field ⟨["produto", "fornecedor", "cidade"], .text⟩) (.field ⟨["produto", "nome"], .text⟩)
      (by decide) (by decide)
  · exact hjoins compile_pedidos .sqlite "pedidos" none (by decide)

/-- Two keys of a record type lead through different relations with one alias. -/
def ShareAlias (schema : Schema) (key key' : String) : Prop :=
  schema.IsDeclared ∧ ∃ operand operand', schema.resolve key = .ok operand ∧
    schema.resolve key' = .ok operand' ∧ operand.column.relations ≠ operand'.column.relations ∧
    (columnOf operand.column).alias? = (columnOf operand'.column).alias?

def moedasSchema : Schema := (Schema.empty "moedas").scalar "nome" .text

def paisesSchema : Schema := (Schema.empty "paises").scalar "nome" .text

/-- Products that lead to a country directly and through the supplier. -/
def importadosSchema : Schema :=
  ((Schema.empty "produtos").relation "fornecedor__pais" paisesSchema).relation "fornecedor"
    ((Schema.empty "fornecedores").relation "pais" paisesSchema)

/-- Prices that lead to two countries, and each of these to a currency. -/
def precosSchema : Schema :=
  ((Schema.empty "precos").relation "pais_" (paisesSchema.relation "moeda" moedasSchema)).relation "pais"
    (paisesSchema.relation "_moeda" moedasSchema)

theorem isDeclared_named (record : String) : ((Schema.empty record).scalar "nome" .text).IsDeclared :=
  .scalar _ _ (.empty record)

/-- A whole separator in a name, and half of one in each of two. Both countries are called by one alias in
the statement. -/
theorem shareAlias_underscores :
    ShareAlias importadosSchema "fornecedor__pais.nome" "fornecedor.pais.nome" ∧
      ShareAlias precosSchema "pais_.moeda.nome" "pais._moeda.nome" ∧
      ∃ query,
        compile importadosSchema .standard ⟨[⟨"fornecedor__pais.nome", ["brasil"]⟩,
          ⟨"fornecedor.pais.nome", ["portugal"]⟩]⟩ = .ok query ∧
        query.mentions .postgres =
          [⟨["fornecedor__pais", "nome"], .text⟩, ⟨["fornecedor", "pais", "nome"], .text⟩] ∧
        (render .postgres "produtos" query none).joins = ["fornecedor__pais"] := by
  have hpaises := isDeclared_named "paises"
  have hmoedas := isDeclared_named "moedas"
  refine ⟨⟨?_, _, _, rfl, rfl, by decide, rfl⟩, ⟨?_, _, _, rfl, rfl, by decide, rfl⟩, _, rfl, rfl, rfl⟩
  · exact .relation _ (.relation _ (.empty _) hpaises) (.relation _ (.empty _) hpaises)
  · exact .relation _ (.relation _ (.empty _) (.relation _ hpaises hmoedas))
      (.relation _ hpaises hmoedas)

end Sql
end RecordFilter
