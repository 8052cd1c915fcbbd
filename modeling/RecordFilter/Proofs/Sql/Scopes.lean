import Mathlib.Data.List.Forall2
import Mathlib.Data.List.Nodup
import RecordFilter.Proofs.Filter.Compilation
import RecordFilter.Proofs.Sql.Aliases

/-!
# RecordFilter.Proofs.Sql.Scopes

What the columns of a statement refer to once the tables behind the reported aliases are joined. A name
without an alias can be a column of any table in scope, and one with an alias a column of the tables of that
name (`candidates`).

* `exists_areJoined`, `IsJoinedAs.relations_eq`: for each reported alias there is a table behind relations
  that it is the alias of, and these are the relations that were written if no underscores stand in the way.
* `candidates_columnOf_iff`: just when a column refers to the field of its operand and to nothing else.
-/

namespace RecordFilter

open Sql (Dialect)

variable {schema : Schema} {options : CompileOptions} {request : Request} {query : CompiledQuery}
  {dialect : Dialect} {path : FieldPath}

/-! ## Columns of compiled queries -/

theorem Predicate.eq_of_mem_ownMentions {leaf : Predicate} {operand : Operand}
    (ho : leaf.operand? = some operand) (hm : path ∈ leaf.ownMentions) : path = operand.column := by
  cases leaf with
  | always | all | any => cases ho
  | range =>
    cases ho
    exact List.eq_of_mem_replicate hm
  | _ =>
    cases ho
    exact List.mem_singleton.1 hm

theorem OrderClause.eq_of_mem_mentions {order : OrderClause} (hm : path ∈ order.mentions dialect) :
    path = order.operand.column := by
  cases dialect with
  | postgres => exact List.mem_singleton.1 hm
  | sqlite => simpa [mentions] using hm

theorem OrderClause.resolve_of_build {field direction : Option String} {order : OrderClause}
    (h : OrderClause.build schema field direction = .ok (some order)) :
    ∃ key, schema.resolve key = .ok order.operand := by
  rw [build] at h
  split at h
  · cases h
  · cases h
  · next name _ =>
    obtain ⟨operand, hr, horder⟩ := map_eq_ok_iff.1 h
    cases horder
    exact ⟨_, hr⟩

/-- Whatever a compiled query writes is a column that a key was resolved to. -/
theorem isColumnOf_of_mem_mentions (hd : schema.IsDeclared)
    (h : compile schema options request = .ok query) (hm : path ∈ query.mentions dialect) :
    path.IsColumnOf schema := by
  rw [CompiledQuery.mentions, List.mem_append] at hm
  obtain hm | hm := hm
  · obtain ⟨leaf, hl, hm⟩ := List.mem_flatMap.1 hm
    obtain ⟨-, _, _, _, _, operand, hr, ho⟩ := leaves_of_compile h leaf hl
    rw [Predicate.eq_of_mem_ownMentions ho hm]
    exact Schema.isColumnOf_of_resolve hd hr
  · obtain ⟨order, ho, hown⟩ := List.mem_flatMap.1 hm
    obtain ⟨_, order?, _, hbuild, rfl⟩ := compile_eq_ok_iff.1 h
    rw [Option.mem_toList] at ho
    obtain rfl : order? = some order := ho
    obtain ⟨key, hr⟩ := OrderClause.resolve_of_build hbuild
    rw [OrderClause.eq_of_mem_mentions hown]
    exact Schema.isColumnOf_of_resolve hd hr

namespace Sql

/-! ## Tables in scope -/

/-- A table under a name. The relations lead to it from the table of the statement. -/
structure Source where
  name : String
  relations : List String
  columns : List String

/-- The table can be meant by the column. -/
def Source.answers (source : Source) (column : Column) : Bool :=
  source.columns.contains column.name && column.alias?.all (· = source.name)

/-- The fields that a column can refer to, each with the relations that lead to it. -/
def candidates (scope : List Source) (column : Column) : List (List String) :=
  (scope.filter (Source.answers · column)).map fun source => source.relations ++ [column.name]

/-- The table of the statement. -/
def baseSource (schema : Schema) (table : String) : Source := ⟨table, [], schema.fields.columns⟩

/-- A table that is joined under the alias: one that is behind relations with this alias. -/
structure IsJoinedAs (schema : Schema) (table : String) (source : Source) : Prop where
  name_eq : source.name = table
  related : source.relations ≠ []
  alias_eq : aliasOf source.relations = table
  behind : ∃ last, schema.behind? source.relations = some last ∧ source.columns = last.fields.columns

/-- One table for each of the reported aliases. -/
def AreJoined (schema : Schema) (joins : List String) (joined : List Source) : Prop :=
  List.Forall₂ (IsJoinedAs schema) joins joined

variable {joins : List String} {joined : List Source} {source : Source} {table : String}

theorem AreJoined.map_name (h : AreJoined schema joins joined) : joined.map Source.name = joins := by
  induction h with
  | nil => rfl
  | cons hfirst _ ih => rw [List.map_cons, hfirst.name_eq, ih]

theorem AreJoined.isJoinedAs (h : AreJoined schema joins joined) (hs : source ∈ joined) :
    IsJoinedAs schema source.name source := by
  induction h with
  | nil => cases hs
  | cons hfirst _ ih =>
    obtain rfl | hs := List.mem_cons.1 hs
    · rw [hfirst.name_eq]
      exact hfirst
    · exact ih hs

/-- Where underscores cannot be mistaken, the joined table is the one that the relations lead to. -/
theorem IsJoinedAs.relations_eq (h : IsJoinedAs schema (aliasOf path.relations) source)
    (hr : path.relations ≠ []) (hs : AreSeparable (source.relations ++ path.relations)) :
    source.relations = path.relations :=
  aliasOf_inj hs h.related hr h.alias_eq

/-- Every reported alias is that of relations that lead to a table. -/
theorem exists_isJoinedAs (hd : schema.IsDeclared) (h : compile schema options request = .ok query)
    {page : Option (Nat × Nat)} {name : String} (hm : name ∈ (render dialect table query page).joins) :
    ∃ source, IsJoinedAs schema name source := by
  rw [joins_of_compile h, List.mem_eraseDups, aliasesOf_columnOf] at hm
  obtain ⟨relations, hrelations, halias⟩ := List.mem_map.1 hm
  rw [List.mem_filter, decide_eq_true_eq] at hrelations
  obtain ⟨path, hpath, rfl⟩ := List.mem_map.1 hrelations.1
  obtain ⟨-, last, through, -⟩ := isColumnOf_of_mem_mentions hd h hpath
  exact ⟨⟨name, path.relations, last.fields.columns⟩, rfl, hrelations.2, halias, last, through, rfl⟩

theorem exists_areJoined (hd : schema.IsDeclared) (h : compile schema options request = .ok query)
    (dialect : Dialect) (table : String) (page : Option (Nat × Nat)) :
    ∃ joined, AreJoined schema (render dialect table query page).joins joined := by
  have hall : ∀ name ∈ (render dialect table query page).joins, ∃ source, IsJoinedAs schema name source :=
    fun name hm => exists_isJoinedAs hd h hm
  generalize (render dialect table query page).joins = joins at hall
  induction joins with
  | nil => exact ⟨[], .nil⟩
  | cons name joins ih =>
    rw [List.forall_mem_cons] at hall
    obtain ⟨source, hsource⟩ := hall.1
    obtain ⟨joined, hjoined⟩ := ih hall.2
    exact ⟨source :: joined, .cons hsource hjoined⟩

/-! ## References -/

theorem answers_columnOf_base (hr : path.relations = []) :
    source.answers (columnOf path) = true ↔ path.name ∈ source.columns := by
  simp [Source.answers, columnOf, hr]

theorem answers_columnOf_related (hr : path.relations ≠ []) :
    source.answers (columnOf path) = true ↔
      path.name ∈ source.columns ∧ aliasOf path.relations = source.name := by
  simp [Source.answers, columnOf, hr]

theorem candidates_cons (source : Source) (scope : List Source) (column : Column) :
    candidates (source :: scope) column =
      (if source.answers column = true then [source.relations ++ [column.name]] else []) ++
        candidates scope column := by
  unfold candidates
  rw [List.filter_cons]
  split <;> rfl

theorem candidates_eq_nil_iff {scope : List Source} {column : Column} :
    candidates scope column = [] ↔ ∀ source ∈ scope, ¬ source.answers column = true := by
  rw [candidates, List.map_eq_nil_iff, List.filter_eq_nil_iff]

/-- An alias is the name of one joined table only. -/
theorem candidates_joined (hn : (joined.map Source.name).Nodup) (hs : source ∈ joined)
    (hr : path.relations ≠ []) (hname : aliasOf path.relations = source.name) :
    candidates joined (columnOf path) = candidates [source] (columnOf path) := by
  induction joined with
  | nil => cases hs
  | cons first rest ih =>
    rw [List.map_cons, List.nodup_cons] at hn
    rw [candidates_cons]
    obtain rfl | hs := List.mem_cons.1 hs
    · have hrest : candidates rest (columnOf path) = [] := by
        rw [candidates_eq_nil_iff]
        intro other ho hanswers
        rw [answers_columnOf_related hr, hname] at hanswers
        exact hn.1 (hanswers.2 ▸ List.mem_map_of_mem ho)
      rw [hrest, candidates_cons]
      rfl
    · have hfirst : ¬ first.answers (columnOf path) = true := by
        intro hanswers
        rw [answers_columnOf_related hr, hname] at hanswers
        exact hn.1 (hanswers.2 ▸ List.mem_map_of_mem hs)
      rw [if_neg hfirst, ih hn.2 hs, List.nil_append]

/-- A column of the table itself is written without an alias. -/
theorem candidates_base_iff (hc : path.IsColumnOf schema) (hr : path.relations = []) :
    candidates (baseSource schema table :: joined) (columnOf path) = [path.segments] ↔
      ∀ source ∈ joined, path.name ∉ source.columns := by
  obtain ⟨hsegments, last, through, hcolumn⟩ := hc
  rw [hr] at hsegments through
  cases through
  have hbase : (baseSource schema table).answers (columnOf path) = true :=
    (answers_columnOf_base hr).2 hcolumn
  rw [candidates_cons, if_pos hbase, hsegments]
  change [path.name] :: candidates joined (columnOf path) = [[path.name]] ↔ _
  rw [List.cons.injEq, candidates_eq_nil_iff]
  simp only [answers_columnOf_base hr, true_and]

theorem candidates_related_iff (hc : path.IsColumnOf schema) (hr : path.relations ≠ [])
    (hj : AreJoined schema joins joined) (hn : joins.Nodup) (hm : aliasOf path.relations ∈ joins) :
    candidates (baseSource schema table :: joined) (columnOf path) = [path.segments] ↔
      (∀ source ∈ joined, source.name = aliasOf path.relations → source.relations = path.relations) ∧
        ¬ (path.name ∈ schema.fields.columns ∧ aliasOf path.relations = table) := by
  obtain ⟨hsegments, last, through, hcolumn⟩ := hc
  rw [← hj.map_name] at hn hm
  obtain ⟨source, hs, hname⟩ := List.mem_map.1 hm
  have honly : (∀ other ∈ joined, other.name = aliasOf path.relations →
      other.relations = path.relations) ↔ source.relations = path.relations := by
    refine ⟨fun hall => hall source hs hname, fun hsame other ho hother => ?_⟩
    rw [List.inj_on_of_nodup_map hn ho hs (hother.trans hname.symm), hsame]
  have hown : (baseSource schema table).answers (columnOf path) = true ↔
      path.name ∈ schema.fields.columns ∧ aliasOf path.relations = table :=
    answers_columnOf_related hr
  rw [← hown, honly, candidates_cons, candidates_joined hn hs hr hname.symm, hsegments]
  by_cases hbase : (baseSource schema table).answers (columnOf path) = true
  · rw [if_pos hbase]
    refine iff_of_false (fun heq => ?_) fun hboth => hboth.2 hbase
    have hfirst : [path.name] = path.relations ++ [path.name] := (List.cons.inj heq).1
    rw [List.self_eq_append_left] at hfirst
    exact hr hfirst
  · rw [if_neg hbase, List.nil_append, and_iff_left hbase, candidates_cons]
    obtain ⟨-, -, -, inside, hinside, hcolumns⟩ := hj.isJoinedAs hs
    constructor
    · intro heq
      split at heq
      · exact List.append_cancel_right (List.cons.inj heq).1
      · cases heq
    · intro hsame
      rw [hsame, through] at hinside
      cases hinside
      rw [← hcolumns] at hcolumn
      rw [if_pos ((answers_columnOf_related hr).2 ⟨hcolumn, hname.symm⟩), hsame]
      rfl

/-- Once the tables are joined, the columns of the condition and of the order are those of the operands, and
such a column refers to the field of its operand and to nothing else just in these cases: without relations,
if no joined table has a column of the name; with relations, if they lead to the table that is joined under
their alias, and the statement is not about a table of the same name with a column of the same name. -/
theorem candidates_columnOf_iff (hd : schema.IsDeclared)
    (h : compile schema options request = .ok query) (dialect : Dialect) (table : String)
    (page : Option (Nat × Nat)) (hj : AreJoined schema (render dialect table query page).joins joined) :
    ∃ condition order,
      IsCutInto (render dialect table query page).whereClause condition ∧
      IsCutInto ((render dialect table query page).orderBy.getD "") order ∧
      columnsIn condition ++ columnsIn order = (query.mentions dialect).map columnOf ∧
      ∀ path ∈ query.mentions dialect,
        (path.relations = [] →
          (candidates (baseSource schema table :: joined) (columnOf path) = [path.segments] ↔
            ∀ source ∈ joined, path.name ∉ source.columns)) ∧
        (path.relations ≠ [] →
          (candidates (baseSource schema table :: joined) (columnOf path) = [path.segments] ↔
            (∀ source ∈ joined, source.name = aliasOf path.relations →
              source.relations = path.relations) ∧
            ¬ (path.name ∈ schema.fields.columns ∧ aliasOf path.relations = table))) := by
  refine ⟨_, _, whereClause_isCutInto table query page, orderBy_isCutInto table query page, ?_,
    fun path hm => ?_⟩
  · rw [columnsIn_boundTokens, columnsIn_orderedTokens, CompiledQuery.mentions, List.map_append]
  · have hc := isColumnOf_of_mem_mentions hd h hm
    refine ⟨candidates_base_iff hc, fun hr => ?_⟩
    rw [joins_of_compile h] at hj
    refine candidates_related_iff hc hr hj (nodup_eraseDups _) ?_
    rw [List.mem_eraseDups, aliasesOf_columnOf]
    exact List.mem_map_of_mem (List.mem_filter.2 ⟨List.mem_map_of_mem hm, decide_eq_true hr⟩)

/-- The suppliers behind the products. -/
def suppliers : Source := ⟨"fornecedor", ["fornecedor"], Catalog.fornecedoresSchema.fields.columns⟩

theorem areJoined_suppliers : AreJoined Catalog.produtosSchema ["fornecedor"] [suppliers] :=
  .cons ⟨rfl, by decide, rfl, Catalog.fornecedoresSchema, rfl, rfl⟩ .nil

set_option maxRecDepth 2000 in
/-- Only products have a stock. -/
theorem candidates_columnOf_estoque :
    ∃ query,
      compile Catalog.produtosSchema .standard
        ⟨[⟨"estoque", ["gte:10"]⟩, ⟨"fornecedor.cidade", ["sao"]⟩]⟩ = .ok query ∧
      (render .postgres Catalog.produtos query none).joins = ["fornecedor"] ∧
      candidates [baseSource Catalog.produtosSchema Catalog.produtos, suppliers] ⟨none, "estoque"⟩ =
        [["estoque"]] ∧
      candidates [baseSource Catalog.produtosSchema Catalog.produtos, suppliers]
        ⟨some "fornecedor", "cidade"⟩ = [["fornecedor", "cidade"]] := by
  have h : compile Catalog.produtosSchema .standard
      ⟨[⟨"estoque", ["gte:10"]⟩, ⟨"fornecedor.cidade", ["sao"]⟩]⟩ =
      .ok ⟨.all [.range (.field ⟨["estoque"], .integer .bits32⟩) (some ⟨.integer .bits32 10, true⟩) none,
        .contains (.field ⟨["fornecedor", "cidade"], .text⟩) "sao"], none, []⟩ := rfl
  obtain ⟨-, -, -, -, -, hall⟩ := candidates_columnOf_iff Schema.isDeclared_produtos h .postgres
    Catalog.produtos none areJoined_suppliers
  refine ⟨_, h, rfl, ?_, ?_⟩
  · exact ((hall ⟨["estoque"], .integer .bits32⟩ (by decide)).1 rfl).2 (by decide)
  · exact ((hall ⟨["fornecedor", "cidade"], .text⟩ (by decide)).2 (by decide)).2 (by decide)

/-- In a statement about the table a column is written that can refer to these fields. -/
def IsTakenFor (schema : Schema) (request : Request) (joined : List Source) (path : FieldPath)
    (fields : List (List String)) : Prop :=
  ∃ query condition, compile schema .standard request = .ok query ∧
    AreJoined schema (render .postgres schema.name query none).joins joined ∧
    IsCutInto (render .postgres schema.name query none).whereClause condition ∧
    columnOf path ∈ columnsIn condition ∧
    candidates (baseSource schema schema.name :: joined) (columnOf path) = fields

theorem isTakenFor_of_mentions {fields : List (List String)}
    (h : compile schema .standard request = .ok query)
    (hj : AreJoined schema (render .postgres schema.name query none).joins joined)
    (hm : path ∈ query.predicate.mentions)
    (hf : candidates (baseSource schema schema.name :: joined) (columnOf path) = fields) :
    IsTakenFor schema request joined path fields := by
  refine ⟨query, _, h, hj, whereClause_isCutInto schema.name query none, ?_, hf⟩
  rw [columnsIn_boundTokens]
  exact List.mem_map_of_mem hm

/-- The country that a product leads to directly. -/
def countries : Source := ⟨"fornecedor__pais", ["fornecedor__pais"], ["nome"]⟩

/-- Categories below other ones. -/
def categoriasSchema : Schema :=
  ((Schema.empty "categoria").scalar "nome" .text).relation "categoria"
    ((Schema.empty "categoria").scalar "nome" .text)

/-- The category above. -/
def parents : Source := ⟨"categoria", ["categoria"], ["nome"]⟩

set_option maxRecDepth 2000 in
/-- A name that suppliers have too, a country that shares its alias with another one, and a relation to the
table itself under its own name. -/
theorem isTakenFor_others :
    IsTakenFor Catalog.produtosSchema ⟨[⟨"nome", ["cafe"]⟩, ⟨"fornecedor.cidade", ["sao"]⟩]⟩ [suppliers]
        ⟨["nome"], .text⟩ [["nome"], ["fornecedor", "nome"]] ∧
      IsTakenFor importadosSchema ⟨[⟨"fornecedor__pais.nome", ["brasil"]⟩,
        ⟨"fornecedor.pais.nome", ["portugal"]⟩]⟩ [countries]
        ⟨["fornecedor", "pais", "nome"], .text⟩ [["fornecedor__pais", "nome"]] ∧
      IsTakenFor categoriasSchema ⟨[⟨"categoria.nome", ["cafe"]⟩]⟩ [parents]
        ⟨["categoria", "nome"], .text⟩ [["nome"], ["categoria", "nome"]] := by
  refine ⟨?_, ?_, ?_⟩
  · have h : compile Catalog.produtosSchema .standard
        ⟨[⟨"nome", ["cafe"]⟩, ⟨"fornecedor.cidade", ["sao"]⟩]⟩ =
        .ok ⟨.all [.contains (.field ⟨["nome"], .text⟩) "cafe",
          .contains (.field ⟨["fornecedor", "cidade"], .text⟩) "sao"], none, []⟩ := rfl
    exact isTakenFor_of_mentions h areJoined_suppliers (by decide) (by decide)
  · have h : compile importadosSchema .standard ⟨[⟨"fornecedor__pais.nome", ["brasil"]⟩,
        ⟨"fornecedor.pais.nome", ["portugal"]⟩]⟩ =
        .ok ⟨.all [.contains (.field ⟨["fornecedor__pais", "nome"], .text⟩) "brasil",
          .contains (.field ⟨["fornecedor", "pais", "nome"], .text⟩) "portugal"], none, []⟩ := rfl
    have hj : AreJoined importadosSchema ["fornecedor__pais"] [countries] :=
      .cons ⟨rfl, by decide, rfl, paisesSchema, rfl, rfl⟩ .nil
    exact isTakenFor_of_mentions h hj (by decide) (by decide)
  · have h : compile categoriasSchema .standard ⟨[⟨"categoria.nome", ["cafe"]⟩]⟩ =
        .ok ⟨.contains (.field ⟨["categoria", "nome"], .text⟩) "cafe", none, []⟩ := rfl
    have hj : AreJoined categoriasSchema ["categoria"] [parents] :=
      .cons ⟨rfl, by decide, rfl, (Schema.empty "categoria").scalar "nome" .text, rfl, rfl⟩ .nil
    exact isTakenFor_of_mentions h hj (by decide) (by decide)

end Sql
end RecordFilter
