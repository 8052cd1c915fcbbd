import RecordFilter.Catalog.Catalog
import RecordFilter.Sql.Dialect
import RecordFilter.Store.Evaluation

/-!
# RecordFilter.Proofs.Sql.DocumentPath

One of the dialects names a place inside a document by a single text: `$` and, for each key, a point and a
label between quotes, in which a backslash makes the next character stand for itself. Here such texts are
read (`DocumentPath.steps?`) and followed (`DocumentPath.select?`).

* `steps?_jsonPathParams_iff`: the keys are read back if and only if no backslash stands in them. Only
  quotes are escaped in a label, so a backslash of a key is taken for an escape.
* `select?_jsonPathParams_iff`: what the path selects is what the keys reach in memory, and it selects
  something wherever no key leads into an array. In memory the digits of a key are a position there; a label
  never is.
-/

namespace RecordFilter
namespace Sql

/-- Into an object by name, or into an array by position. -/
inductive PathStep where
  | member (name : String)
  | element (index : Nat)
deriving DecidableEq, Repr

/-- A name selects nothing in an array, whatever its digits, and a position nothing in an object. -/
def PathStep.select? : PathStep → Json → Option Json
  | .member name, .object members => members.lookup name
  | .element index, .array items => items[index]?
  | _, _ => none

namespace DocumentPath

/-! ## Reading -/

/-- Between two steps, inside a label, or inside a position, with what was read of it. -/
inductive State where
  | between
  | label (name : List Char)
  | position (index : Nat)

def read? : State → List Char → Option (List PathStep)
  | .between, [] => some []
  | .between, '.' :: '"' :: rest => read? (.label []) rest
  | .between, '[' :: c :: rest =>
    if Number.isDigit c then read? (.position (Number.digitValue c)) rest else none
  | .label name, '"' :: rest => (read? .between rest).map (.member (String.ofList name) :: ·)
  | .label name, '\\' :: c :: rest => read? (.label (name ++ [c])) rest
  | .label name, c :: rest => read? (.label (name ++ [c])) rest
  | .position index, ']' :: rest => (read? .between rest).map (.element index :: ·)
  | .position index, c :: rest =>
    if Number.isDigit c then read? (.position (index * 10 + Number.digitValue c)) rest else none
  | _, _ => none

def steps? (path : String) : Option (List PathStep) :=
  match path.toList with
  | '$' :: rest => read? .between rest
  | _ => none

/-! ## Writing -/

def escapeQuotes (key : List Char) : List Char :=
  key.flatMap fun c => if c = '"' then ['\\', '"'] else [c]

def labelText (key : String) : List Char := '.' :: '"' :: (escapeQuotes key.toList ++ ['"'])

def pathText (keys : List String) : List Char := '$' :: keys.flatMap labelText

theorem jsonPathParams_sqlite (keys : List String) :
    Dialect.sqlite.jsonPathParams keys = [String.ofList (pathText keys)] := by
  have hfold : ∀ start : String,
      (keys.foldl (fun path key => path ++ ".\"" ++ replaceChar '"' ['\\', '"'] key ++ "\"")
        start).toList = start.toList ++ keys.flatMap labelText := by
    intro start
    induction keys generalizing start with
    | nil => simp
    | cons key keys ih =>
      rw [List.foldl_cons, ih]
      simp [replaceChar, labelText, escapeQuotes]
  refine congrArg (fun path => [path]) (String.toList_inj.1 ?_)
  rw [hfold]
  simp [pathText]

/-! ## Keys without a backslash -/

theorem read?_label_of_ne {c : Char} (hq : c ≠ '"') (hb : c ≠ '\\') (name rest : List Char) :
    read? (.label name) (c :: rest) = read? (.label (name ++ [c])) rest := by
  rw [read?]
  · exact fun h => hq h
  · exact fun _ _ h _ => hb h

theorem read?_escapeQuotes {key : List Char} (h : '\\' ∉ key) (name rest : List Char) :
    read? (.label name) (escapeQuotes key ++ '"' :: rest) =
      (read? .between rest).map (.member (String.ofList (name ++ key)) :: ·) := by
  induction key generalizing name with
  | nil => simp [escapeQuotes, read?]
  | cons c key ih =>
    obtain ⟨hc, hkey⟩ := not_or.1 (mt List.mem_cons.2 h)
    rw [escapeQuotes, List.flatMap_cons, List.append_assoc, ← escapeQuotes]
    split
    · rename_i hq
      rw [List.cons_append, List.cons_append, List.nil_append, read?, ih hkey, hq]
      simp
    · rename_i hq
      rw [List.singleton_append, read?_label_of_ne hq (Ne.symm hc), ih hkey]
      simp

theorem read?_labels {keys : List String} (h : ∀ key ∈ keys, '\\' ∉ key.toList) :
    read? .between (keys.flatMap labelText) = some (keys.map .member) := by
  induction keys with
  | nil => rfl
  | cons key keys ih =>
    rw [List.forall_mem_cons] at h
    rw [List.flatMap_cons, labelText, List.cons_append, List.cons_append, List.append_assoc,
      List.singleton_append, read?, read?_escapeQuotes h.1, ih h.2]
    simp

/-! ## Keys with a backslash

An escape is two characters for one, so a text is at least as long as the names that are read from it with
their quotes and backslashes counted twice. A written path has room for the quotes only.
-/

def nameWeight (name : List Char) : Nat := name.length + name.count '"' + name.count '\\'

theorem nameWeight_append (name after : List Char) :
    nameWeight (name ++ after) = nameWeight name + nameWeight after := by
  simp only [nameWeight, List.length_append, List.count_append]
  omega

theorem nameWeight_singleton_le (c : Char) : nameWeight [c] ≤ 2 := by
  by_cases hq : c = '"'
  · subst hq; decide
  · by_cases hb : c = '\\'
    · subst hb; decide
    · simp [nameWeight, hq, hb]

theorem nameWeight_singleton {c : Char} (hq : c ≠ '"') (hb : c ≠ '\\') : nameWeight [c] = 1 := by
  simp [nameWeight, hq, hb]

def weight : List PathStep → Nat
  | [] => 0
  | .member name :: steps => 3 + nameWeight name.toList + weight steps
  | .element _ :: steps => weight steps

/-- What the characters already read of a step have to pay for. -/
def State.weight : State → Nat
  | .label name => 2 + nameWeight name
  | _ => 0

theorem weight_le_of_read? {state : State} {text : List Char} {steps : List PathStep}
    (h : read? state text = some steps) :
    weight steps ≤ state.weight + text.length := by
  fun_induction read? state text generalizing steps with
  | case1 => cases h; simp [weight]
  | case2 rest ih =>
    have hrest := ih h
    simp only [State.weight, nameWeight, List.length_cons, List.length_nil, List.count_nil] at hrest ⊢
    omega
  | case3 c rest _ ih =>
    have hrest := ih h
    simp only [State.weight, List.length_cons] at hrest ⊢
    omega
  | case4 => cases h
  | case5 name rest ih =>
    obtain ⟨after, hafter, rfl⟩ := Option.map_eq_some_iff.1 h
    have hrest := ih hafter
    simp only [State.weight, weight, String.toList_ofList, List.length_cons] at hrest ⊢
    omega
  | case6 name c rest ih =>
    have hrest := ih h
    have hc := nameWeight_singleton_le c
    simp only [State.weight, nameWeight_append, List.length_cons] at hrest ⊢
    omega
  | case7 name c rest hq hesc ih =>
    have hb : c ≠ '\\' := by
      rintro rfl
      cases rest with
      | nil => simp [read?] at h
      | cons c rest => exact hesc c rest rfl rfl
    have hrest := ih h
    have hc := nameWeight_singleton hq hb
    simp only [State.weight, nameWeight_append, List.length_cons] at hrest ⊢
    omega
  | case8 index rest ih =>
    obtain ⟨after, hafter, rfl⟩ := Option.map_eq_some_iff.1 h
    have hrest := ih hafter
    simp only [State.weight, weight, List.length_cons] at hrest ⊢
    omega
  | case9 index c rest _ _ ih =>
    have hrest := ih h
    simp only [State.weight, List.length_cons] at hrest ⊢
    omega
  | case10 => cases h
  | case11 => cases h

theorem length_escapeQuotes (key : List Char) :
    (escapeQuotes key).length = key.length + key.count '"' := by
  induction key with
  | nil => rfl
  | cons c key ih =>
    rw [escapeQuotes, List.flatMap_cons, List.length_append, ← escapeQuotes, ih, List.count_cons]
    by_cases h : c = '"' <;> simp [h] <;> omega

theorem weight_labels (keys : List String) :
    weight (keys.map .member) =
      (keys.flatMap labelText).length + (keys.flatMap String.toList).count '\\' := by
  induction keys with
  | nil => rfl
  | cons key keys ih =>
    simp only [List.map_cons, weight, ih, nameWeight, List.flatMap_cons, List.length_append,
      List.count_append, labelText, List.length_cons, List.length_nil, length_escapeQuotes]
    omega

theorem not_mem_of_read?_labels {keys : List String}
    (h : read? .between (keys.flatMap labelText) = some (keys.map .member)) :
    ∀ key ∈ keys, '\\' ∉ key.toList := by
  have hweight := weight_le_of_read? h
  rw [weight_labels] at hweight
  have hcount : (keys.flatMap String.toList).count '\\' = 0 := by
    simp only [State.weight] at hweight
    omega
  exact fun key hkey hmem => List.count_eq_zero.1 hcount (List.mem_flatMap.2 ⟨key, hkey, hmem⟩)

theorem steps?_ofList_pathText (keys : List String) :
    steps? (String.ofList (pathText keys)) = read? .between (keys.flatMap labelText) := by
  simp [steps?, pathText]

theorem steps?_jsonPathParams_iff (keys : List String) :
    ∃ path, Dialect.sqlite.jsonPathParams keys = [path] ∧
      (steps? path = some (keys.map .member) ↔ ∀ key ∈ keys, '\\' ∉ key.toList) := by
  refine ⟨String.ofList (pathText keys), jsonPathParams_sqlite keys, ?_⟩
  rw [steps?_ofList_pathText]
  exact ⟨not_mem_of_read?_labels, read?_labels⟩

/-- The backslash at the end of a key takes the quote behind it into the label, which then does not end. -/
theorem steps?_jsonPathParams_backslash :
    Catalog.produtosSchema.resolve "dto.a\\" = .ok (.json ⟨⟨["dto"], .json⟩, ["a\\"]⟩) ∧
    Dialect.sqlite.jsonPathParams ["a\\"] = ["$.\"a\\\""] ∧
    steps? "$.\"a\\\"" = none := by
  refine ⟨?_, ?_, ?_⟩
  · rfl
  · decide
  · decide

/-! ## Following -/

def select? (document : Json) : List PathStep → Option Json
  | [] => some document
  | step :: steps => (step.select? document).bind fun inside => select? inside steps

/-- One of the keys leads into an array. -/
def EntersArray (document : Json) (keys : List String) : Prop :=
  ∃ before key after items,
    keys = before ++ key :: after ∧ document.descend? before = some (.array items)

theorem select?_append (document : Json) (before after : List PathStep) :
    select? document (before ++ after) =
      (select? document before).bind fun inside => select? inside after := by
  induction before generalizing document with
  | nil => rfl
  | cons step before ih =>
    rw [List.cons_append, select?, select?, Option.bind_assoc]
    exact congrArg _ (funext ih)

theorem child?_of_select?_member {document node : Json} {key : String}
    (h : (PathStep.member key).select? document = some node) : document.child? key = some node := by
  cases document with
  | object members => exact h
  | _ => cases h

theorem descend?_of_select?_members {document node : Json} {keys : List String}
    (h : select? document (keys.map .member) = some node) : document.descend? keys = some node := by
  induction keys generalizing document with
  | nil => exact h
  | cons key keys ih =>
    obtain ⟨inside, hkey, hkeys⟩ := Option.bind_eq_some_iff.1 h
    rw [Json.descend?, child?_of_select?_member hkey]
    exact ih hkeys

theorem select?_members_of_entersArray {document : Json} {keys : List String}
    (h : EntersArray document keys) : select? document (keys.map .member) = none := by
  obtain ⟨before, key, after, items, rfl, hbefore⟩ := h
  rw [List.map_append, select?_append]
  cases hnode : select? document (before.map .member) with
  | none => rfl
  | some node =>
    rw [descend?_of_select?_members hnode, Option.some.injEq] at hbefore
    rw [hbefore]
    rfl

theorem EntersArray.cons {document inside : Json} {key : String} {keys : List String}
    (h : EntersArray inside keys) (hkey : document.child? key = some inside) :
    EntersArray document (key :: keys) := by
  obtain ⟨before, other, after, items, rfl, hbefore⟩ := h
  refine ⟨key :: before, other, after, items, rfl, ?_⟩
  rw [Json.descend?, hkey]
  exact hbefore

theorem select?_members_of_not_entersArray {document : Json} {keys : List String}
    (h : ¬ EntersArray document keys) :
    select? document (keys.map .member) = document.descend? keys := by
  induction keys generalizing document with
  | nil => rfl
  | cons key keys ih =>
    rw [List.map_cons, select?, Json.descend?]
    cases document with
    | object members =>
      -- in an object both take the same member
      refine Option.bind_congr fun inside hinside => ih fun hin => h (hin.cons ?_)
      exact hinside
    | array items => exact absurd ⟨[], key, keys, items, rfl, rfl⟩ h
    | _ => rfl

theorem select?_jsonPathParams_iff {keys : List String} (h : ∀ key ∈ keys, '\\' ∉ key.toList)
    (column : FieldPath) (document : Json) :
    ∃ path steps, Dialect.sqlite.jsonPathParams keys = [path] ∧ steps? path = some steps ∧
      (∀ node, select? document steps = some node →
        document.descend? keys = some node ∧
        (JsonPath.mk column keys).extractText? document = node.scalarText?) ∧
      ((∃ node, select? document steps = some node ∧ node ≠ .null) ↔
        ((JsonPath.mk column keys).extractText? document).isSome ∧ ¬ EntersArray document keys) := by
  refine ⟨String.ofList (pathText keys), keys.map .member, jsonPathParams_sqlite keys, ?_, ?_, ?_⟩
  · rw [steps?_ofList_pathText, read?_labels h]
  · intro node hnode
    have hdescend := descend?_of_select?_members hnode
    exact ⟨hdescend, by rw [JsonPath.extractText?, hdescend, Option.bind_some]⟩
  · by_cases harray : EntersArray document keys
    · simp [select?_members_of_entersArray harray, harray]
    · rw [select?_members_of_not_entersArray harray]
      simp only [harray, not_false_eq_true, and_true, JsonPath.extractText?]
      cases document.descend? keys with
      | none => simp
      | some node => simp [Option.isSome_iff_ne_none, Json.scalarText?_eq_none_iff]

def sample : Json := Catalog.dto "Sul de Minas" "Poços de Caldas" "MG" ["organico", "gourmet"]

theorem select?_jsonPathParams_uf :
    (∀ key ∈ ["endereco", "uf"], '\\' ∉ key.toList) ∧
      ∃ path steps,
        Dialect.sqlite.jsonPathParams ["endereco", "uf"] = [path] ∧ steps? path = some steps ∧
        (∃ node, select? sample steps = some node ∧ node ≠ .null) ∧
        (JsonPath.mk ⟨["dto"], .json⟩ ["endereco", "uf"]).extractText? sample = some "MG" := by
  have hkeys : ∀ key ∈ ["endereco", "uf"], '\\' ∉ key.toList := by decide
  have harray : ¬ EntersArray sample ["endereco", "uf"] :=
    fun h => nomatch select?_members_of_entersArray h
  obtain ⟨path, steps, hpath, hsteps, -, hnode⟩ :=
    select?_jsonPathParams_iff hkeys ⟨["dto"], .json⟩ sample
  exact ⟨hkeys, path, steps, hpath, hsteps, hnode.2 ⟨rfl, harray⟩, rfl⟩

/-- The second tag is read in memory, and only a position selects it. -/
theorem select?_jsonPathParams_tags :
    (JsonPath.mk ⟨["dto"], .json⟩ ["tags", "1"]).extractText? sample = some "gourmet" ∧
      Dialect.sqlite.jsonPathParams ["tags", "1"] = ["$.\"tags\".\"1\""] ∧
      steps? "$.\"tags\".\"1\"" = some [.member "tags", .member "1"] ∧
      select? sample [.member "tags", .member "1"] = none ∧
      steps? "$.\"tags\"[1]" = some [.member "tags", .element 1] ∧
      select? sample [.member "tags", .element 1] = some (.string "gourmet") := by
  refine ⟨rfl, ?_, ?_, rfl, ?_, rfl⟩
  · decide
  · decide
  · decide

end DocumentPath
end Sql
end RecordFilter
