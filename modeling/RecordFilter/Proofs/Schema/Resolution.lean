import RecordFilter.Catalog.Catalog
import RecordFilter.Proofs.Schema.Table

/-!
# RecordFilter.Proofs.Schema.Resolution

What a key resolves to. `Resolves` says it by the segments of the key and the relations that they follow,
and knows neither the table nor the order of the steps of the walk.

* `resolve_of_resolves`, `exists_resolves`: the table and the walk together come to what `Resolves` says,
  and it says something of every key.
* `resolve_key`: the key of an operand leads back to the operand.
* `keys_ne_nil_of_resolve`: a place inside a JSON field always has a key. Where only empty pieces are left
  of a key, it leads to the field itself.
-/

namespace RecordFilter
namespace Schema

/-- A walk that arrives has followed a relation, or has come to a JSON field. -/
theorem walkFrom_cases {key record segment : String} {fields : Fields} {walked rest : List String}
    {operand : Operand} (h : walkFrom key record fields walked (segment :: rest) = .ok operand) :
    (∃ target inside, fields.find? segment = some (.relation target inside) ∧
      walkFrom key target inside (segment :: walked) rest = .ok operand) ∨
    fields.find? segment = some (.scalar .json) ∧
      ∃ keys, operand = if keys = [] then .field ⟨(segment :: walked).reverse, .json⟩
        else .json ⟨⟨(segment :: walked).reverse, .json⟩, keys⟩ := by
  rw [walkFrom] at h
  split at h
  · cases h
  · next found =>
    split at h
    · cases h
    · exact .inl ⟨_, _, found, h⟩
    · cases h
      exact .inr ⟨found, _, if_congr List.isEmpty_iff rfl rfl⟩
    · cases h

theorem keys_ne_nil_of_walkFrom {key record : String} {fields : Fields} {walked segments : List String}
    {path : JsonPath} (h : walkFrom key record fields walked segments = .ok (.json path)) :
    path.keys ≠ [] := by
  induction segments generalizing record fields walked with
  | nil => cases h
  | cons segment rest ih =>
    obtain ⟨_, _, _, hrest⟩ | ⟨_, keys, hkeys⟩ := walkFrom_cases h
    · exact ih hrest
    · split at hkeys
      · cases hkeys
      · rename_i hne
        cases hkeys
        exact hne

theorem keys_ne_nil_of_resolve {schema : Schema} {key : String} {path : JsonPath}
    (h : schema.resolve key = .ok (.json path)) : path.keys ≠ [] := by
  rw [resolve] at h
  split at h
  · cases h
  · exact keys_ne_nil_of_walkFrom h

/-! ## What the segments say -/

/-- The record type that the names lead to, each of which is a relation. -/
def behind? (schema : Schema) : List String → Option Schema
  | [] => some schema
  | name :: rest =>
    match schema.fields.find? name with
    | some (.relation record target) => behind? ⟨record, target⟩ rest
    | _ => none

/-- What a key with these segments comes to. Relations are followed as far as they go, to the record type
`last`, and `name` is the next segment. -/
inductive Resolves (schema : Schema) (key : String) :
    List String → Except FilterError Operand → Prop where
  | field {relations : List String} {name : String} {last : Schema} {type : FieldType}
      (through : schema.behind? relations = some last)
      (found : last.fields.find? name = some (.scalar type)) :
      Resolves schema key (relations ++ [name]) (.ok (.field ⟨relations ++ [name], type⟩))
  | inside {relations rest : List String} {name : String} {last : Schema}
      (through : schema.behind? relations = some last)
      (found : last.fields.find? name = some (.scalar .json)) (more : ∃ segment ∈ rest, segment ≠ "") :
      Resolves schema key (relations ++ name :: rest)
        (.ok (.json ⟨⟨relations ++ [name], .json⟩, rest.filter (· ≠ "")⟩))
  | column {relations rest : List String} {name : String} {last : Schema}
      (through : schema.behind? relations = some last)
      (found : last.fields.find? name = some (.scalar .json)) (more : rest ≠ [])
      (blank : ∀ segment ∈ rest, segment = "") :
      Resolves schema key (relations ++ name :: rest) (.ok (.field ⟨relations ++ [name], .json⟩))
  | undeclared {relations rest : List String} {name : String} {last : Schema}
      (through : schema.behind? relations = some last) (missing : last.fields.find? name = none) :
      Resolves schema key (relations ++ name :: rest) (.error (.unresolvedField key name last.name))
  | below {relations rest : List String} {name next : String} {last : Schema} {type : FieldType}
      (through : schema.behind? relations = some last)
      (found : last.fields.find? name = some (.scalar type)) (notJson : type ≠ .json) :
      Resolves schema key (relations ++ name :: next :: rest)
        (.error (.unresolvedField key next last.name))
  | terminal {relations : List String} {name record : String} {last : Schema} {target : Fields}
      (through : schema.behind? relations = some last)
      (found : last.fields.find? name = some (.relation record target)) :
      Resolves schema key (relations ++ [name]) (.error (.unresolvedField key name last.name))

/-! ## Along relations -/

variable {schema last : Schema} {key name : String} {relations rest walked : List String}

theorem type?_append (h : schema.behind? relations = some last) :
    schema.fields.type? (relations ++ rest) = last.fields.type? rest := by
  induction relations generalizing schema with
  | nil =>
    cases h
    rfl
  | cons name relations ih =>
    rw [behind?] at h
    split at h
    · rename_i found
      rw [List.cons_append, Fields.type?, found]
      exact ih h
    · cases h

theorem walkFrom_append (h : schema.behind? relations = some last) :
    walkFrom key schema.name schema.fields walked (relations ++ name :: rest) =
      walkFrom key last.name last.fields (relations.reverse ++ walked) (name :: rest) := by
  induction relations generalizing schema walked with
  | nil =>
    cases h
    rfl
  | cons relation relations ih =>
    rw [behind?] at h
    split at h
    · rename_i record target found
      have hstep : walkFrom key schema.name schema.fields walked
          (relation :: relations ++ name :: rest) =
          walkFrom key record target (relation :: walked) (relations ++ name :: rest) := by
        rw [List.cons_append, walkFrom, found]
        cases relations <;> rfl
      rw [hstep, ih h, List.reverse_cons, List.append_assoc]
      rfl
    · cases h

/-- Resolution goes on from the record type behind the relations. -/
theorem resolve_of_behind (hd : schema.fields.IsDistinct) (hp : schema.fields.ArePlain)
    (hs : Text.pieces pathSeparator key = relations ++ name :: rest)
    (h : schema.behind? relations = some last) :
    schema.resolve key =
      match last.fields.type? (name :: rest) with
      | some type => .ok (.field ⟨relations ++ name :: rest, type⟩)
      | none => walkFrom key last.name last.fields relations.reverse (name :: rest) := by
  have hwalk : schema.walk key =
      walkFrom key last.name last.fields relations.reverse (name :: rest) := by
    rw [walk, hs, walkFrom_append h, List.append_nil]
  rw [resolve, path?_eq hd hp, hs, type?_append h, hwalk]
  cases last.fields.type? (name :: rest) <;> rfl

/-! ## The cases -/

/-- Empty pieces do not count inside a document. -/
theorem ofSegments_eq (column : FieldPath) (segments : List String) :
    JsonPath.ofSegments column segments = ⟨column, segments.filter (· ≠ "")⟩ := by
  have hsame : (segments.filter fun segment => !segment.isEmpty) = segments.filter (· ≠ "") := by
    apply List.filter_congr
    intro segment _
    rw [Bool.eq_iff_iff]
    simp
  rw [JsonPath.ofSegments, hsame]

/-- Below a JSON field. -/
theorem walkFrom_json (found : last.fields.find? name = some (.scalar .json)) (hne : rest ≠ []) :
    walkFrom key last.name last.fields relations.reverse (name :: rest) =
      .ok (if (rest.filter (· ≠ "")).isEmpty then .field ⟨relations ++ [name], .json⟩
        else .json ⟨⟨relations ++ [name], .json⟩, rest.filter (· ≠ "")⟩) := by
  cases rest with
  | nil => exact absurd rfl hne
  | cons next rest => simp only [walkFrom, found, ofSegments_eq, List.reverse_cons, List.reverse_reverse]

theorem resolve_of_json (hd : schema.fields.IsDistinct) (hp : schema.fields.ArePlain)
    (hs : Text.pieces pathSeparator key = relations ++ name :: rest)
    (through : schema.behind? relations = some last)
    (found : last.fields.find? name = some (.scalar .json)) (hne : rest ≠ []) :
    schema.resolve key =
      .ok (if (rest.filter (· ≠ "")).isEmpty then .field ⟨relations ++ [name], .json⟩
        else .json ⟨⟨relations ++ [name], .json⟩, rest.filter (· ≠ "")⟩) := by
  have htype : last.fields.type? (name :: rest) = none := by
    simp [Fields.type?, found, hne]
  rw [resolve_of_behind hd hp hs through, htype, ← walkFrom_json found hne]

theorem resolve_of_resolves (hd : schema.fields.IsDistinct) (hp : schema.fields.ArePlain)
    {result : Except FilterError Operand}
    (h : schema.Resolves key (Text.pieces pathSeparator key) result) : schema.resolve key = result := by
  generalize hs : Text.pieces pathSeparator key = segments at h
  cases h with
  | field through found =>
    rw [resolve_of_behind hd hp hs through]
    simp [Fields.type?, found]
  | @inside relations rest name last through found more =>
    obtain ⟨segment, hm, hsegment⟩ := more
    have hkept : segment ∈ rest.filter (· ≠ "") := List.mem_filter.2 ⟨hm, decide_eq_true hsegment⟩
    have hsome := List.ne_nil_of_mem hkept
    rw [resolve_of_json hd hp hs through found (List.ne_nil_of_mem hm), if_neg]
    rwa [List.isEmpty_iff]
  | column through found more blank =>
    rw [resolve_of_json hd hp hs through found more, if_pos]
    simpa using blank
  | undeclared through missing =>
    rw [resolve_of_behind hd hp hs through]
    simp [Fields.type?, walkFrom, missing]
  | below through found notJson =>
    rw [resolve_of_behind hd hp hs through]
    simp [Fields.type?, walkFrom, found]
  | terminal through found =>
    rw [resolve_of_behind hd hp hs through]
    simp [Fields.type?, walkFrom, found]

/-- Following relations comes to an end: at the last segment, or at one that is no relation. -/
theorem exists_behind (schema : Schema) {segments : List String} (hne : segments ≠ []) :
    ∃ relations name rest last, segments = relations ++ name :: rest ∧
      schema.behind? relations = some last ∧
      (rest = [] ∨ ∀ record target, last.fields.find? name ≠ some (.relation record target)) := by
  induction segments generalizing schema with
  | nil => exact absurd rfl hne
  | cons segment segments ih =>
    cases hf : schema.fields.find? segment with
    | none => exact ⟨[], segment, segments, schema, rfl, rfl, .inr (by simp [hf])⟩
    | some field =>
      cases field with
      | scalar type => exact ⟨[], segment, segments, schema, rfl, rfl, .inr (by simp [hf])⟩
      | relation record target =>
        by_cases hs : segments = []
        · exact ⟨[], segment, segments, schema, rfl, rfl, .inl hs⟩
        · obtain ⟨relations, name, rest, last, hsegments, through, hstop⟩ := ih ⟨record, target⟩ hs
          refine ⟨segment :: relations, name, rest, last, by rw [hsegments]; rfl, ?_, hstop⟩
          rw [behind?, hf]
          exact through

theorem exists_resolves (schema : Schema) (key : String) {segments : List String}
    (hne : segments ≠ []) : ∃ result, schema.Resolves key segments result := by
  obtain ⟨relations, name, rest, last, rfl, through, hstop⟩ := exists_behind schema hne
  cases hf : last.fields.find? name with
  | none => exact ⟨_, .undeclared through hf⟩
  | some field =>
    cases field with
    | relation record target =>
      rcases hstop with rfl | hstop
      · exact ⟨_, .terminal through hf⟩
      · exact absurd hf (hstop record target)
    | scalar type =>
      cases rest with
      | nil => exact ⟨_, .field through hf⟩
      | cons next rest =>
        by_cases hj : type = .json
        · subst hj
          by_cases hm : ∃ segment ∈ next :: rest, segment ≠ ""
          · exact ⟨_, .inside through hf hm⟩
          · have hblank : ∀ segment ∈ next :: rest, segment = "" := by
              intro segment hs
              by_cases h : segment = ""
              · exact h
              · exact absurd ⟨segment, hs, h⟩ hm
            exact ⟨_, .column through hf (List.cons_ne_nil next rest) hblank⟩
        · exact ⟨_, .below through hf hj⟩

/-! ## Back from operands -/

theorem foldl_joined (keys : List String) {segments : List String} (hne : segments ≠ []) :
    keys.foldl (fun key next => key ++ "." ++ next) (Text.joined "." segments) =
      Text.joined "." (segments ++ keys) := by
  induction keys generalizing segments with
  | nil => simp
  | cons key keys ih =>
    rw [List.foldl_cons, ← Text.joined_concat "." key hne, ih (by simp), List.append_assoc]
    rfl

/-- The pieces of the key of a place inside a JSON field are the column and the keys. -/
theorem pieces_key (rest : List String)
    (hplain : ∀ segment ∈ relations ++ name :: rest, pathSeparator ∉ segment.toList)
    (keys : List String) (hkeys : ∀ segment ∈ keys, segment ∈ rest) (type : FieldType) :
    Text.pieces pathSeparator (JsonPath.key ⟨⟨relations ++ [name], type⟩, keys⟩) =
      relations ++ name :: keys := by
  have hsegments : relations ++ [name] ++ keys = relations ++ name :: keys := by simp
  have hkey : JsonPath.key ⟨⟨relations ++ [name], type⟩, keys⟩ =
      Text.joined "." (relations ++ name :: keys) := by
    rw [JsonPath.key, FieldPath.key, foldl_joined keys (by simp), hsegments]
  rw [hkey]
  refine Text.pieces_joined rfl (by simp) ?_
  intro segment hm
  apply hplain
  simp only [List.mem_append, List.mem_cons] at hm ⊢
  rcases hm with hm | rfl | hm
  · exact .inl hm
  · exact .inr (.inl rfl)
  · exact .inr (.inr (hkeys segment hm))

/-- The key of an operand leads back to the operand. -/
theorem resolve_key (hd : schema.fields.IsDistinct) (hp : schema.fields.ArePlain) {operand : Operand}
    (h : schema.Resolves key (Text.pieces pathSeparator key) (.ok operand)) :
    schema.resolve operand.key = .ok operand := by
  have hpieces : ∀ segment ∈ Text.pieces pathSeparator key, pathSeparator ∉ segment.toList :=
    fun segment hm => Text.notMem_of_mem_pieces hm
  generalize hs : Text.pieces pathSeparator key = segments at h hpieces
  apply resolve_of_resolves hd hp
  cases h with
  | @field relations name last type through found =>
    have hkey : Text.pieces pathSeparator (Operand.field ⟨relations ++ [name], type⟩).key =
        relations ++ [name] := pieces_key [] hpieces [] (by simp) type
    rw [hkey]
    exact .field through found
  | @inside relations rest name last through found more =>
    obtain ⟨segment, hm, hsegment⟩ := more
    have hkept : segment ∈ rest.filter (· ≠ "") := List.mem_filter.2 ⟨hm, decide_eq_true hsegment⟩
    have htwice : (rest.filter (· ≠ "")).filter (· ≠ "") = rest.filter (· ≠ "") := by
      simp [List.filter_filter]
    have hinside : schema.Resolves
        (Operand.json ⟨⟨relations ++ [name], .json⟩, rest.filter (· ≠ "")⟩).key
        (relations ++ name :: rest.filter (· ≠ ""))
        (.ok (.json ⟨⟨relations ++ [name], .json⟩, (rest.filter (· ≠ "")).filter (· ≠ "")⟩)) :=
      .inside through found ⟨segment, hkept, hsegment⟩
    have hkey : Text.pieces pathSeparator
        (Operand.json ⟨⟨relations ++ [name], .json⟩, rest.filter (· ≠ "")⟩).key =
          relations ++ name :: rest.filter (· ≠ "") :=
      pieces_key rest hpieces _ (fun segment hm => (List.mem_filter.1 hm).1) .json
    rw [htwice] at hinside
    rw [hkey]
    exact hinside
  | @column relations rest name last through found more blank =>
    have hkey : Text.pieces pathSeparator (Operand.field ⟨relations ++ [name], .json⟩).key =
        relations ++ [name] := pieces_key rest hpieces [] (by simp) .json
    rw [hkey]
    exact .field through found

/-! ## All keys -/

theorem resolves_of_resolve (hd : schema.fields.IsDistinct) (hp : schema.fields.ArePlain)
    {result : Except FilterError Operand} (h : schema.resolve key = result) :
    schema.Resolves key (Text.pieces pathSeparator key) result := by
  obtain ⟨result', hr⟩ := exists_resolves schema key (Text.pieces_ne_nil pathSeparator key)
  rw [← h, resolve_of_resolves hd hp hr]
  exact hr

theorem type?_of_resolves {segments : List String} {type : FieldType}
    (h : schema.Resolves key segments (.ok (.field ⟨segments, type⟩))) :
    schema.fields.type? segments = some type := by
  generalize hr : (Except.ok (.field ⟨segments, type⟩) : Except FilterError Operand) = result at h
  cases h with
  | @field relations name last other through found =>
    cases hr
    rw [type?_append through]
    simp [Fields.type?, found]
  | column through found more blank =>
    -- The column has fewer segments than the key.
    simp only [Except.ok.injEq, Operand.field.injEq, FieldPath.mk.injEq, List.append_cancel_left_eq,
      List.cons.injEq, true_and] at hr
    exact absurd hr.1 more
  | inside | undeclared | below | terminal => cases hr

/-- A key of the listing is one all of whose segments together lead to a field. -/
theorem mem_declaredFields_iff_resolve (hd : schema.fields.IsDistinct) (hp : schema.fields.ArePlain)
    (key : String) (type : FieldType) :
    (key, type) ∈ schema.declaredFields ↔
      schema.resolve key = .ok (.field ⟨Text.pieces pathSeparator key, type⟩) := by
  rw [mem_declaredFields_iff]
  constructor
  · rintro ⟨path, hpath, rfl⟩
    have hsegments := path?_eq hd hp key
    rw [hpath] at hsegments
    obtain ⟨type, -, rfl⟩ := Option.map_eq_some_iff.1 hsegments.symm
    rw [resolve, hpath]
  · intro h
    refine ⟨⟨Text.pieces pathSeparator key, type⟩, ?_, rfl⟩
    rw [path?_eq hd hp, type?_of_resolves (resolves_of_resolve hd hp h)]
    rfl

/-- A declared record type, in whose names there is no separator, resolves every key by its segments.
The key of an operand leads back to the operand, and the listing has, in ascending order, every key once
all of whose segments together lead to a field. -/
theorem resolve_iff_resolves (hdeclared : schema.IsDeclared) (hplain : schema.fields.ArePlain) :
    (∀ key result, schema.resolve key = result ↔
        schema.Resolves key (Text.pieces pathSeparator key) result) ∧
      (∀ key operand, schema.resolve key = .ok operand → schema.resolve operand.key = .ok operand) ∧
      (schema.declaredFields.Pairwise fun a b => Text.compareText a.1 b.1 = .lt) ∧
      ∀ key type, (key, type) ∈ schema.declaredFields ↔
        schema.resolve key = .ok (.field ⟨Text.pieces pathSeparator key, type⟩) := by
  have hd := hdeclared.isDistinct
  refine ⟨fun key result => ⟨resolves_of_resolve hd hplain, resolve_of_resolves hd hplain⟩, ?_,
    pairwise_declaredFields schema, mem_declaredFields_iff_resolve hd hplain⟩
  intro key operand h
  exact resolve_key hd hplain (resolves_of_resolve hd hplain h)

theorem isDeclared_foldl (scalars : List (String × FieldType)) {schema : Schema}
    (h : schema.IsDeclared) :
    (scalars.foldl (fun schema (name, type) => schema.scalar name type) schema).IsDeclared := by
  induction scalars generalizing schema with
  | nil => exact h
  | cons entry scalars ih => exact ih (.scalar entry.1 entry.2 h)

theorem isDeclared_produtos : Catalog.produtosSchema.IsDeclared := by
  have hscalars := isDeclared_foldl Catalog.produtosScalars (.empty Catalog.produtos)
  refine .relation "fornecedor" hscalars ?_
  exact .scalar "cidade" .text (.scalar "nome" .text (.scalar "id" _ (.empty Catalog.fornecedores)))

/-- The city of the supplier, a place inside a document with an empty piece on the way, and a field that
suppliers do not have. -/
theorem resolve_iff_resolves_produtos :
    Catalog.produtosSchema.resolve "fornecedor.cidade" =
        .ok (.field ⟨["fornecedor", "cidade"], .text⟩) ∧
      Catalog.produtosSchema.resolve "dto..origem" =
        .ok (.json ⟨⟨["dto"], .json⟩, ["origem"]⟩) ∧
      Catalog.produtosSchema.resolve "dto.origem" =
        .ok (.json ⟨⟨["dto"], .json⟩, ["origem"]⟩) ∧
      Catalog.produtosSchema.resolve "fornecedor.pais.nome" =
        .error (.unresolvedField "fornecedor.pais.nome" "pais" "fornecedores") := by
  have hplain : Catalog.produtosSchema.fields.ArePlain := by
    unfold Fields.ArePlain
    decide
  obtain ⟨hresolve, hback, -⟩ := resolve_iff_resolves isDeclared_produtos hplain
  have hinside : Catalog.produtosSchema.resolve "dto..origem" =
      .ok (.json ⟨⟨["dto"], .json⟩, ["origem"]⟩) :=
    (hresolve _ _).2 (@Resolves.inside Catalog.produtosSchema _ [] ["", "origem"] "dto" _ rfl rfl
      ⟨"origem", by decide, by decide⟩)
  refine ⟨?_, hinside, hback _ _ hinside, ?_⟩
  · exact (hresolve _ _).2 (@Resolves.field Catalog.produtosSchema _ ["fornecedor"] "cidade"
      Catalog.fornecedoresSchema .text rfl rfl)
  · exact (hresolve _ _).2 (@Resolves.undeclared Catalog.produtosSchema _ ["fornecedor"] ["nome"] "pais"
      Catalog.fornecedoresSchema rfl rfl)

end Schema
end RecordFilter
