import RecordFilter.Catalog.Catalog
import RecordFilter.Proofs.Filter.Compilation
import RecordFilter.Proofs.Filter.Merging
import RecordFilter.Proofs.Filter.Routing

/-!
# RecordFilter.Proofs.Filter.NormalForm

The shape of a compiled condition. It is in normal form, and every leaf is typed (`IsTyped`): it looks at
a field of a type that it is made for, and the values that it compares with are literals of that field. So
a stored value is never compared with a value of another kind (`IsTyped.sameKind`).

* `Compile.isConditionOn_of_key`: the leaves of the condition of one key.
* `isNormal_and_isTyped_of_compile`: the whole condition, by `compile_induction`.
-/

namespace RecordFilter

/-- The value is what some literal of the field is converted to. -/
def FieldPath.IsLiteral (path : FieldPath) (v : Value) : Prop := ∃ raw, path.convert raw = .ok v

namespace Predicate

/-! ## Leaves -/

/-- What a leaf looks at. -/
def operand? : Predicate → Option Operand
  | .always | .all _ | .any _ => none
  | .equals operand _ => some operand
  | .notEquals operand _ => some operand
  | .contains operand _ => some operand
  | .foldedEquals operand _ => some operand
  | .range operand _ _ => some operand

/-- The values that the stored value is compared with. -/
def literals : Predicate → List Value
  | .equals _ value => [value]
  | .notEquals _ value => [value]
  | .range _ min max => (min.toList ++ max.toList).map (·.value)
  | _ => []

inductive IsTyped : Predicate → Prop where
  | equals {path : FieldPath} {value : Value} (notText : path.type ≠ .text) (notJson : path.type ≠ .json)
      (literal : path.IsLiteral value) : IsTyped (.equals (.field path) value)
  | notEquals {path : FieldPath} {value : Value} (ranged : path.type.supportsRange = true)
      (literal : path.IsLiteral value) : IsTyped (.notEquals (.field path) value)
  | range {path : FieldPath} {min max : Option Bound} (ranged : path.type.supportsRange = true)
      (bounded : min.isSome = true ∨ max.isSome = true)
      (literals : ∀ bound ∈ min.toList ++ max.toList, path.IsLiteral bound.value) :
      IsTyped (.range (.field path) min max)
  | containsField {path : FieldPath} {needle : String}
      (texts : path.type = .text ∨ path.type.isTemporal = true) : IsTyped (.contains (.field path) needle)
  | containsJson {path : JsonPath} {needle : String} : IsTyped (.contains (.json path) needle)
  | foldedEquals {path : FieldPath} {text : String}
      (texts : path.type = .text ∨ ∃ name, path.type = .other name) :
      IsTyped (.foldedEquals (.field path) text)

theorem leaves_of_isLeaf {p : Predicate} (h : p.isLeaf = true) : p.leaves = [p] := by
  cases p with
  | always => cases h
  | all _ => cases h
  | any _ => cases h
  | _ => rfl

theorem IsTyped.isLeaf {p : Predicate} (h : p.IsTyped) : p.isLeaf = true := by
  cases h <;> rfl

theorem notJson_of_supportsRange {type : FieldType} (h : type.supportsRange = true) : type ≠ .json := by
  rintro rfl; cases h

theorem notText_of_supportsRange {type : FieldType} (h : type.supportsRange = true) : type ≠ .text := by
  rintro rfl; cases h

/-- No leaf looks at a whole JSON field. -/
theorem IsTyped.notJson {leaf : Predicate} (h : leaf.IsTyped) {path : FieldPath}
    (ho : leaf.operand? = some (.field path)) : path.type ≠ .json := by
  cases h with
  | equals _ notJson _ => cases ho; exact notJson
  | notEquals ranged _ => cases ho; exact notJson_of_supportsRange ranged
  | range ranged _ _ => cases ho; exact notJson_of_supportsRange ranged
  | containsField texts =>
    cases ho
    rintro hj
    rw [hj] at texts
    obtain h | h := texts <;> cases h
  | containsJson => cases ho
  | foldedEquals texts =>
    cases ho
    rintro hj
    rw [hj] at texts
    obtain h | ⟨_, h⟩ := texts <;> cases h

theorem IsTyped.literal {leaf : Predicate} (h : leaf.IsTyped) {v : Value} (hv : v ∈ leaf.literals) :
    ∃ path, leaf.operand? = some (.field path) ∧ path.IsLiteral v := by
  cases h with
  | @equals path value _ _ literal => exact ⟨path, rfl, List.mem_singleton.1 hv ▸ literal⟩
  | @notEquals path value _ literal => exact ⟨path, rfl, List.mem_singleton.1 hv ▸ literal⟩
  | @range path min max _ _ literals =>
    obtain ⟨bound, hb, rfl⟩ := List.mem_map.1 hv
    exact ⟨path, rfl, literals bound hb⟩
  | containsField _ => cases hv
  | containsJson => cases hv
  | foldedEquals _ => cases hv

/-- What is stored at the operand of a typed leaf is of the kind of the values of the leaf. -/
theorem IsTyped.sameKind {leaf : Predicate} (h : leaf.IsTyped) {operand : Operand}
    (ho : leaf.operand? = some operand) {record : Json} {stored v : Value}
    (hs : operand.value? record = some stored) (hv : v ∈ leaf.literals) : stored.kind = v.kind := by
  obtain ⟨path, hp, raw, hraw⟩ := h.literal hv
  obtain rfl := Option.some.inj (ho.symm.trans hp)
  exact Option.some.inj ((Operand.kind?_of_value? hs).symm.trans (FieldPath.kind?_of_convert hraw))

/-! ## Combinations of leaves -/

/-- A list of typed leaves on one operand, and its combinations. -/
def AreLeavesOf (operand : Operand) (leaves : List Predicate) : Prop :=
  ∀ leaf ∈ leaves, leaf.IsTyped ∧ leaf.operand? = some operand

/-- A normal condition all of whose leaves are typed and look at one operand. -/
def IsConditionOn (operand : Operand) (p : Predicate) : Prop :=
  p.IsNormal ∧ AreLeavesOf operand p.leaves

theorem isConditionOn_leaf {operand : Operand} {leaf : Predicate} (h : leaf.IsTyped)
    (ho : leaf.operand? = some operand) : IsConditionOn operand leaf := by
  refine ⟨isNormal_leaf h.isLeaf, fun q hq => ?_⟩
  rw [leaves_of_isLeaf h.isLeaf] at hq
  obtain rfl := List.mem_singleton.1 hq
  exact ⟨h, ho⟩

theorem isConditionOn_conjunction {operand : Operand} {children : List Predicate}
    (h : AreLeavesOf operand children) : IsConditionOn operand (conjunction children) := by
  have hall : ∀ child ∈ children, IsConditionOn operand child :=
    fun child hc => isConditionOn_leaf (h child hc).1 (h child hc).2
  refine ⟨isNormal_conjunction fun child hc => (hall child hc).1, fun leaf hl => ?_⟩
  rw [leaves_conjunction] at hl
  obtain ⟨child, hc, hl⟩ := List.mem_flatMap.1 hl
  exact (hall child hc).2 leaf hl

theorem isConditionOn_disjunction {operand : Operand} {children : List Predicate}
    (h : AreLeavesOf operand children) : IsConditionOn operand (disjunction children) := by
  have hall : ∀ child ∈ children, IsConditionOn operand child :=
    fun child hc => isConditionOn_leaf (h child hc).1 (h child hc).2
  refine ⟨isNormal_disjunction fun child hc => (hall child hc).1, fun leaf hl => ?_⟩
  obtain ⟨child, hc, hl⟩ := mem_leaves_disjunction hl
  exact (hall child hc).2 leaf hl

end Predicate

open Predicate

/-! ## Ranges -/

namespace RangeMerging

variable {path : FieldPath} {fallback : DateFallback} {raw : String}

theorem isTyped_of_read {p : Predicate} (hs : path.type.supportsRange = true)
    (h : read path fallback raw = .ok (.condition p)) :
    p.IsTyped ∧ p.operand? = some (.field path) := by
  cases contributes_of_read h with
  | equals _ hc =>
    exact ⟨.equals (notText_of_supportsRange hs) (notJson_of_supportsRange hs) ⟨_, hc⟩, rfl⟩
  | notEquals _ hc => exact ⟨.notEquals hs ⟨_, hc⟩, rfl⟩
  | contains _ temporal _ => exact ⟨.containsField (.inr temporal), rfl⟩

theorem isLiteral_of_read {operator : Operator} {literal : Value}
    (h : read path fallback raw = .ok (.bound operator literal)) : path.IsLiteral literal := by
  obtain ⟨p, he, _⟩ | ⟨value, he, _, hc⟩ := cases_of_read h
  · cases he
  · cases he
    exact ⟨_, hc⟩

end RangeMerging

theorem isConditionOn_of_mergeRange {path : FieldPath} {fallback : DateFallback} {values : List String}
    {p : Predicate} (hs : path.type.supportsRange = true)
    (h : mergeRange path fallback values = .ok p) : IsConditionOn (.field path) p := by
  rw [mergeRange] at h
  obtain ⟨parts, hm, rfl⟩ := map_eq_ok_iff.1 h
  have hmem := mem_of_mapM_eq_ok hm
  have hbounds : (RangeMerging.bounds parts).All path.IsLiteral := by
    refine RangeMerging.all_bounds fun operator literal hpart => ?_
    obtain ⟨raw, _, hread⟩ := (hmem _).1 hpart
    exact RangeMerging.isLiteral_of_read hread
  refine isConditionOn_conjunction fun leaf hl => ?_
  obtain hl | hl := List.mem_append.1 hl
  · obtain ⟨raw, _, hread⟩ := (hmem _).1 (RangeMerging.mem_conditions.1 hl)
    exact RangeMerging.isTyped_of_read hs hread
  · split at hl
    · rename_i hset
      obtain rfl := List.mem_singleton.1 hl
      refine ⟨.range hs (Bool.or_eq_true_iff.1 hset) fun bound hb => ?_, rfl⟩
      rw [List.mem_append, Option.mem_toList, Option.mem_toList] at hb
      exact hb.elim (hbounds.1 bound) (hbounds.2 bound)
    · cases hl

/-! ## Keys -/

namespace Compile

variable {schema : Schema} {options : CompileOptions} {values : List String} {p : Predicate}

theorem isConditionOn_json (path : JsonPath) (values : List String) :
    IsConditionOn (.json path) (json options path values) := by
  have hleaves : AreLeavesOf (.json path)
      (values.map fun value => .contains (.json path) (Unicode.foldText value)) := by
    intro leaf hl
    obtain ⟨value, _, rfl⟩ := List.mem_map.1 hl
    exact ⟨.containsJson, rfl⟩
  rw [json]
  cases options.jsonValues with
  | and => exact isConditionOn_conjunction hleaves
  | or => exact isConditionOn_disjunction hleaves

theorem isTyped_typedCondition {path : FieldPath} {raw : String} {v : Value}
    (h : path.convert raw = .ok v) :
    (typedCondition (.field path) v).IsTyped ∧
      (typedCondition (.field path) v).operand? = some (.field path) := by
  have hj : path.type ≠ .json := by
    intro hj
    rw [FieldPath.convert_eq_ok_iff, hj] at h
    cases h
  by_cases ht : path.type = .text
  · rw [typedCondition_of_text ht h]
    exact ⟨.containsField (.inl ht), rfl⟩
  · rw [typedCondition_of_not_text ht h]
    exact ⟨.equals ht hj ⟨raw, h⟩, rfl⟩

theorem isConditionOn_typed {path : FieldPath} {vs : List Value}
    (hm : values.mapM path.convert = .ok vs) : IsConditionOn (.field path) (typed path vs) := by
  cases ha : path.isAlternation values with
  | true =>
    obtain ⟨htype, raw, rfl⟩ := singleton_of_isAlternation ha
    rw [typed_of_isAlternation ha hm]
    refine isConditionOn_disjunction fun leaf hl => ?_
    obtain ⟨text, _, rfl⟩ := List.mem_map.1 hl
    exact ⟨.foldedEquals htype, rfl⟩
  | false =>
    rw [typed_of_not_isAlternation ha hm]
    refine isConditionOn_disjunction fun leaf hl => ?_
    obtain ⟨v, hv, rfl⟩ := List.mem_map.1 hl
    obtain ⟨raw, _, hraw⟩ := (mem_of_mapM_eq_ok hm v).1 hv
    exact isTyped_typedCondition hraw

theorem isConditionOn_field {path : FieldPath} (h : field options path values = .ok p) :
    IsConditionOn (.field path) p := by
  obtain ⟨hr, hmerge⟩ | ⟨-, vs, hm, rfl⟩ := field_cases h
  · exact isConditionOn_of_mergeRange (Bool.and_eq_true_iff.1 hr).1 hmerge
  · exact isConditionOn_typed hm

/-- The condition of a key is one on what the key resolves to. -/
theorem isConditionOn_of_key {name : String} (h : key schema options name values = .ok p) :
    ∃ operand, schema.resolve name = .ok operand ∧ IsConditionOn operand p := by
  rw [key] at h
  split at h
  · cases h
  · rename_i path hr
    cases h
    exact ⟨.json path, hr, isConditionOn_json path values⟩
  · rename_i path hr
    exact ⟨.field path, hr, isConditionOn_field h⟩

end Compile

/-! ## Requests -/

variable {schema : Schema} {options : CompileOptions} {request : Request} {query : CompiledQuery}

theorem isNormal_of_compile (h : compile schema options request = .ok query) :
    query.predicate.IsNormal := by
  refine compile_induction (fun _ => isNormal_conjunction) (fun _ => isNormal_disjunction) ?_ h
  intro entry _ name _ p hp
  obtain ⟨operand, _, hc⟩ := Compile.isConditionOn_of_key hp
  exact hc.1

/-- Every leaf is typed and looks at what a name of the request resolves to. -/
theorem leaves_of_compile (h : compile schema options request = .ok query) :
    ∀ leaf ∈ query.predicate.leaves, leaf.IsTyped ∧
      ∃ entry ∈ request.conditions, ∃ name ∈ entry.names, ∃ operand,
        schema.resolve name = .ok operand ∧ leaf.operand? = some operand := by
  refine compile_induction (Q := fun p => ∀ leaf ∈ p.leaves, leaf.IsTyped ∧
    ∃ entry ∈ request.conditions, ∃ name ∈ entry.names, ∃ operand,
      schema.resolve name = .ok operand ∧ leaf.operand? = some operand) ?_ ?_ ?_ h
  · intro children hall leaf hl
    rw [leaves_conjunction] at hl
    obtain ⟨child, hc, hl⟩ := List.mem_flatMap.1 hl
    exact hall child hc leaf hl
  · intro children hall leaf hl
    obtain ⟨child, hc, hl⟩ := mem_leaves_disjunction hl
    exact hall child hc leaf hl
  · intro entry he name hn p hp leaf hl
    obtain ⟨operand, hr, hc⟩ := Compile.isConditionOn_of_key hp
    exact ⟨(hc.2 leaf hl).1, entry, he, name, hn, operand, hr, (hc.2 leaf hl).2⟩

/-- A compiled condition is in normal form, its leaves are typed, none looks at a whole JSON field, and
none compares a stored value with a value of another kind. -/
theorem isNormal_and_isTyped_of_compile (h : compile schema options request = .ok query) :
    query.predicate.IsNormal ∧ ∀ leaf ∈ query.predicate.leaves, leaf.IsTyped ∧
      (∀ path, leaf.operand? = some (.field path) → path.type ≠ .json) ∧
      ∀ operand, leaf.operand? = some operand → ∀ record stored, operand.value? record = some stored →
        ∀ v ∈ leaf.literals, stored.kind = v.kind := by
  refine ⟨isNormal_of_compile h, fun leaf hl => ?_⟩
  have ht := (leaves_of_compile h leaf hl).1
  exact ⟨ht, fun path ho => ht.notJson ho, fun operand ho record stored hs v hv => ht.sameKind ho hs hv⟩

set_option maxRecDepth 2000 in
/-- An inequality, a range, and a group with two alternatives whose second branch names no field. -/
theorem isNormal_and_isTyped_of_compile_produtos :
    ∃ query, compile Catalog.produtosSchema .standard
        ⟨[⟨"estoque", ["gte:10", "lt:20", "ne:12"]⟩, ⟨"nome!cor", ["São!b"]⟩]⟩ = .ok query ∧
      query.predicate.leaves.length = 4 ∧ query.predicate.IsNormal ∧
      ∀ leaf ∈ query.predicate.leaves, leaf.IsTyped := by
  have h : compile Catalog.produtosSchema .standard
      ⟨[⟨"estoque", ["gte:10", "lt:20", "ne:12"]⟩, ⟨"nome!cor", ["São!b"]⟩]⟩ =
      .ok ⟨.all [.notEquals (.field ⟨["estoque"], .integer .bits32⟩) (.integer .bits32 12),
        .range (.field ⟨["estoque"], .integer .bits32⟩) (some ⟨.integer .bits32 10, true⟩)
          (some ⟨.integer .bits32 20, false⟩),
        .any [.foldedEquals (.field ⟨["nome"], .text⟩) "sao",
          .foldedEquals (.field ⟨["nome"], .text⟩) "b"]], none,
        [⟨"nome!cor", "cor", "UNKNOWN_FILTER_FIELD",
          "Unknown filter field 'cor': 'cor' is not declared on 'produtos'"⟩]⟩ := rfl
  obtain ⟨hnormal, hleaves⟩ := isNormal_and_isTyped_of_compile h
  exact ⟨_, h, rfl, hnormal, fun leaf hl => (hleaves leaf hl).1⟩

end RecordFilter
