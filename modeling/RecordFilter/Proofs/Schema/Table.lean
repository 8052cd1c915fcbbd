import RecordFilter.Proofs.Text.Order
import RecordFilter.Proofs.Text.Split
import RecordFilter.Schema.Record

/-!
# RecordFilter.Proofs.Schema.Table

The table of all fields that can be reached. A record type that is declared field by field has no name
twice (`Schema.IsDeclared.isDistinct`), and if no name has a separator in it, then the table says of a key
what following its segments says (`path?_eq`). So the listing has every field once
(`mem_declaredFields_iff`), in ascending order (`pairwise_declaredFields`).
-/

namespace RecordFilter

/-! ## Field by field -/

namespace Fields

/-- A further field in front, whatever stands behind its name. -/
def cons (name : String) : Field → Fields → Fields
  | .scalar type, rest => .scalar name type rest
  | .relation record target, rest => .relation name record target rest

@[elab_as_elim]
theorem induction {motive : Fields → Prop} (nil : motive .nil)
    (cons : ∀ name field rest, motive rest → motive (.cons name field rest)) : ∀ fields, motive fields
  | .nil => nil
  | .scalar name type rest => cons name (.scalar type) rest (induction nil cons rest)
  | .relation name record target rest =>
    cons name (.relation record target) rest (induction nil cons rest)

/-- No two fields of a record type have the same name, here and behind the relations. -/
def IsDistinct : Fields → Prop
  | .nil => True
  | .scalar name _ rest => rest.find? name = none ∧ rest.IsDistinct
  | .relation name _ target rest => rest.find? name = none ∧ target.IsDistinct ∧ rest.IsDistinct

/-- The names of all fields, here and behind the relations. -/
def names : Fields → List String
  | .nil => []
  | .scalar name _ rest => name :: rest.names
  | .relation name _ target rest => name :: (target.names ++ rest.names)

/-- No name has a separator in it. -/
def ArePlain (fields : Fields) : Prop := ∀ name ∈ fields.names, pathSeparator ∉ name.toList

/-- The type of the field that the segments lead to, through relations, if they lead to one. -/
def type? (fields : Fields) : List String → Option FieldType
  | [] => none
  | name :: rest =>
    match fields.find? name with
    | some (.scalar type) => if rest.isEmpty then some type else none
    | some (.relation _ target) => target.type? rest
    | none => none

end Fields

namespace Field

def IsDistinct : Field → Prop
  | .scalar _ => True
  | .relation _ target => target.IsDistinct

def names : Field → List String
  | .scalar _ => []
  | .relation _ target => target.names

def type? : Field → List String → Option FieldType
  | .scalar type, rest => if rest.isEmpty then some type else none
  | .relation _ target, rest => target.type? rest

/-- What the table has of the field. -/
def paths (name : String) : Field → List (String × FieldPath)
  | .scalar type => [(name, ⟨[name], type⟩)]
  | .relation _ target => target.paths.map fun (key, path) =>
      (name ++ "." ++ key, { path with segments := name :: path.segments })

end Field

namespace Fields

variable {fields rest : Fields} {name other : String} {field : Field}

theorem find?_cons (name : String) (field : Field) (rest : Fields) (other : String) :
    (cons name field rest).find? other = if name = other then some field else rest.find? other := by
  cases field <;> rfl

theorem isDistinct_cons_iff :
    (cons name field rest).IsDistinct ↔
      rest.find? name = none ∧ field.IsDistinct ∧ rest.IsDistinct := by
  cases field with
  | scalar type => simp [cons, IsDistinct, Field.IsDistinct]
  | relation record target => rfl

theorem names_cons (name : String) (field : Field) (rest : Fields) :
    (cons name field rest).names = name :: (field.names ++ rest.names) := by
  cases field <;> rfl

theorem remove_cons (name : String) (field : Field) (rest : Fields) (removed : String) :
    (cons name field rest).remove removed =
      if name = removed then rest.remove removed else cons name field (rest.remove removed) := by
  cases field <;> rfl

theorem append_cons (first : String) (inner : Field) (rest : Fields) (name : String) (field : Field) :
    (cons first inner rest).append name field = cons first inner (rest.append name field) := by
  cases inner <;> rfl

theorem append_nil (name : String) (field : Field) : Fields.nil.append name field = cons name field .nil := by
  cases field <;> rfl

theorem paths_cons (name : String) (field : Field) (rest : Fields) :
    (cons name field rest).paths = field.paths name ++ rest.paths := by
  cases field <;> rfl

theorem type?_cons (fields : Fields) (name : String) (segments : List String) :
    fields.type? (name :: segments) = (fields.find? name).bind (·.type? segments) := by
  rw [type?]
  cases fields.find? name with
  | none => rfl
  | some field => cases field <;> rfl

/-! ## Names -/

theorem mem_names_of_find? (h : fields.find? name = some field) :
    name ∈ fields.names ∧ ∀ other ∈ field.names, other ∈ fields.names := by
  induction fields using Fields.induction with
  | nil => simp [find?] at h
  | cons first inner rest ih =>
    rw [find?_cons] at h
    rw [names_cons]
    split at h
    · rename_i heq
      cases h
      refine ⟨by simp [heq], fun other hm => ?_⟩
      simp [hm]
    · obtain ⟨hname, hall⟩ := ih h
      refine ⟨by simp [hname], fun other hm => ?_⟩
      simp [hall other hm]

theorem ArePlain.notMem (h : fields.ArePlain) (hf : fields.find? name = some field) :
    pathSeparator ∉ name.toList := h name (mem_names_of_find? hf).1

theorem ArePlain.behind {record : String} {target : Fields} (h : fields.ArePlain)
    (hf : fields.find? name = some (.relation record target)) : target.ArePlain := by
  intro other hm
  exact h other ((mem_names_of_find? hf).2 other hm)

/-! ## Declaration -/

theorem find?_remove (fields : Fields) (name other : String) :
    (fields.remove name).find? other = if name = other then none else fields.find? other := by
  induction fields using Fields.induction with
  | nil => simp [remove, find?]
  | cons first inner rest ih =>
    rw [remove_cons]
    by_cases hf : first = name
    · rw [if_pos hf, ih, find?_cons, hf]
      split <;> rfl
    · rw [if_neg hf, find?_cons, find?_cons, ih]
      by_cases ho : first = other
      · rw [if_pos ho, if_pos ho, if_neg fun heq => hf (ho.trans heq.symm)]
      · rw [if_neg ho, if_neg ho]

theorem find?_append (fields : Fields) (name : String) (field : Field) (other : String) :
    (fields.append name field).find? other =
      (fields.find? other).or (if name = other then some field else none) := by
  induction fields using Fields.induction with
  | nil => rw [append_nil, find?_cons]; rfl
  | cons first inner rest ih =>
    rw [append_cons, find?_cons, find?_cons, ih]
    split <;> rfl

theorem isDistinct_remove (h : fields.IsDistinct) : (fields.remove name).IsDistinct := by
  induction fields using Fields.induction with
  | nil => trivial
  | cons first inner rest ih =>
    rw [isDistinct_cons_iff] at h
    rw [remove_cons]
    split
    · exact ih h.2.2
    · have hfirst : (rest.remove name).find? first = none := by simp [find?_remove, h.1]
      exact isDistinct_cons_iff.2 ⟨hfirst, h.2.1, ih h.2.2⟩

theorem isDistinct_append (h : fields.IsDistinct) (hn : fields.find? name = none)
    (hf : field.IsDistinct) : (fields.append name field).IsDistinct := by
  induction fields using Fields.induction with
  | nil =>
    rw [append_nil]
    exact isDistinct_cons_iff.2 ⟨rfl, hf, trivial⟩
  | cons first inner rest ih =>
    rw [isDistinct_cons_iff] at h
    rw [find?_cons] at hn
    split at hn
    · cases hn
    · rename_i hne
      have hfirst : (rest.append name field).find? first = none := by
        rw [find?_append, h.1, if_neg (Ne.symm hne)]
        rfl
      rw [append_cons]
      exact isDistinct_cons_iff.2 ⟨hfirst, h.2.1, ih h.2.2 hn⟩

theorem isDistinct_declare (h : fields.IsDistinct) (hf : field.IsDistinct) :
    (fields.declare name field).IsDistinct := by
  have hgone : (fields.remove name).find? name = none := by simp [find?_remove]
  exact isDistinct_append (isDistinct_remove h) hgone hf

end Fields

/-- The record types that are declared field by field, those behind their relations as well. -/
inductive Schema.IsDeclared : Schema → Prop where
  | empty (name : String) : IsDeclared (.empty name)
  | scalar {schema : Schema} (name : String) (type : FieldType) (h : IsDeclared schema) :
      IsDeclared (schema.scalar name type)
  | relation {schema target : Schema} (name : String) (h : IsDeclared schema)
      (ht : IsDeclared target) : IsDeclared (schema.relation name target)

theorem Schema.IsDeclared.isDistinct {schema : Schema} (h : schema.IsDeclared) :
    schema.fields.IsDistinct := by
  induction h with
  | empty name => trivial
  | scalar name type _ ih => exact Fields.isDistinct_declare ih trivial
  | relation name _ _ ih iht => exact Fields.isDistinct_declare ih iht

/-! ## Table -/

namespace Fields

variable {fields rest target : Fields} {name key : String} {field : Field} {path : FieldPath}
  {type : FieldType} {segments : List String}

theorem ne_nil_of_type? (h : fields.type? segments = some type) : segments ≠ [] := by
  rintro rfl
  cases h

/-- Segments that lead to a field are names. -/
theorem notMem_of_type? (hp : fields.ArePlain) (h : fields.type? segments = some type) :
    ∀ segment ∈ segments, pathSeparator ∉ segment.toList := by
  induction segments generalizing fields with
  | nil => cases h
  | cons name segments ih =>
    rw [type?] at h
    split at h
    · rename_i found
      split at h
      · rename_i hempty
        rw [List.isEmpty_iff.1 hempty]
        simpa using hp.notMem found
      · cases h
    · rename_i found
      exact List.forall_mem_cons.2 ⟨hp.notMem found, ih (hp.behind found) h⟩
    · cases h

theorem mem_paths_scalar :
    (key, path) ∈ (Field.scalar type).paths name ↔
      key = path.key ∧ ∃ more, path.segments = name :: more ∧
        (Field.scalar type).type? more = some path.type := by
  obtain ⟨segments, pathType⟩ := path
  simp only [Field.paths, Field.type?, List.mem_singleton, Prod.mk.injEq, FieldPath.mk.injEq]
  constructor
  · rintro ⟨rfl, rfl, rfl⟩
    exact ⟨(Text.joined_singleton "." key).symm, [], rfl, rfl⟩
  · rintro ⟨rfl, more, rfl, htype⟩
    split at htype
    · rename_i hempty
      cases htype
      obtain rfl := List.isEmpty_iff.1 hempty
      exact ⟨Text.joined_singleton "." name, rfl, rfl⟩
    · cases htype

/-- The fields behind a relation are in the table under the name of the relation. -/
theorem mem_paths_relation {record : String}
    (ih : ∀ key path, (key, path) ∈ target.paths ↔
      key = path.key ∧ target.type? path.segments = some path.type) :
    (key, path) ∈ (Field.relation record target).paths name ↔
      key = path.key ∧ ∃ more, path.segments = name :: more ∧
        (Field.relation record target).type? more = some path.type := by
  rw [Field.paths, List.mem_map]
  constructor
  · rintro ⟨⟨inner, inside⟩, hm, heq⟩
    obtain ⟨rfl, htype⟩ := (ih inner inside).1 hm
    simp only [Prod.mk.injEq] at heq
    obtain ⟨rfl, rfl⟩ := heq
    have hkey := Text.joined_cons "." name (ne_nil_of_type? htype)
    exact ⟨hkey.symm, inside.segments, rfl, htype⟩
  · rintro ⟨rfl, more, hsegments, htype⟩
    refine ⟨(FieldPath.key ⟨more, path.type⟩, ⟨more, path.type⟩), (ih _ _).2 ⟨rfl, htype⟩, ?_⟩
    have hkey := Text.joined_cons "." name (ne_nil_of_type? htype)
    obtain ⟨segments, pathType⟩ := path
    subst hsegments
    simp only [Prod.mk.injEq, and_true]
    exact hkey.symm

theorem mem_paths_cons (h : rest.find? name = none)
    (own : (key, path) ∈ field.paths name ↔
      key = path.key ∧ ∃ more, path.segments = name :: more ∧ field.type? more = some path.type)
    (ih : (key, path) ∈ rest.paths ↔ key = path.key ∧ rest.type? path.segments = some path.type) :
    (key, path) ∈ (cons name field rest).paths ↔
      key = path.key ∧ (cons name field rest).type? path.segments = some path.type := by
  obtain ⟨segments, type⟩ := path
  rw [paths_cons, List.mem_append, own, ih]
  cases segments with
  | nil => simp [type?]
  | cons first more =>
    rw [type?_cons, type?_cons, find?_cons]
    by_cases hf : name = first
    · subst hf
      simp [h]
    · simp [hf, Ne.symm hf]

theorem mem_paths_iff (h : fields.IsDistinct) (key : String) (path : FieldPath) :
    (key, path) ∈ fields.paths ↔
      key = path.key ∧ fields.type? path.segments = some path.type := by
  induction fields generalizing key path with
  | nil =>
    obtain ⟨segments, type⟩ := path
    cases segments <;> simp [paths, type?, find?]
  | scalar name type rest ih => exact mem_paths_cons h.1 mem_paths_scalar (ih h.2 key path)
  | relation name record target rest iht ih =>
    exact mem_paths_cons h.1 (mem_paths_relation (iht h.2.1)) (ih h.2.2 key path)

/-- What is in the table under a key is what the segments of the key lead to. -/
theorem mem_paths_iff_pieces (hd : fields.IsDistinct) (hp : fields.ArePlain) (key : String)
    (path : FieldPath) :
    (key, path) ∈ fields.paths ↔ path.segments = Text.pieces pathSeparator key ∧
      fields.type? (Text.pieces pathSeparator key) = some path.type := by
  rw [mem_paths_iff hd]
  constructor
  · rintro ⟨rfl, htype⟩
    have hpieces : Text.pieces pathSeparator path.key = path.segments :=
      Text.pieces_joined rfl (ne_nil_of_type? htype) (notMem_of_type? hp htype)
    rw [hpieces]
    exact ⟨rfl, htype⟩
  · rintro ⟨hsegments, htype⟩
    have hkey : path.key = key := by
      rw [FieldPath.key, hsegments]
      exact Text.joined_pieces rfl key
    rw [hkey, hsegments]
    exact ⟨rfl, htype⟩

end Fields

namespace Schema

variable {schema : Schema} {key : String}

theorem path?_eq (hd : schema.fields.IsDistinct) (hp : schema.fields.ArePlain) (key : String) :
    schema.path? key = (schema.fields.type? (Text.pieces pathSeparator key)).map fun type =>
      ⟨Text.pieces pathSeparator key, type⟩ := by
  have hmem := Fields.mem_paths_iff_pieces hd hp key
  rw [path?]
  cases hf : schema.fields.paths.reverse.find? fun entry => entry.1 = key with
  | none =>
    have hnone := List.find?_eq_none.1 hf
    cases ht : schema.fields.type? (Text.pieces pathSeparator key) with
    | none => rfl
    | some type =>
      have hm := (hmem ⟨Text.pieces pathSeparator key, type⟩).2 ⟨rfl, ht⟩
      exact absurd (by simp) (hnone _ (List.mem_reverse.2 hm))
  | some entry =>
    obtain ⟨found, path⟩ := entry
    obtain rfl : found = key := by simpa using List.find?_some hf
    obtain ⟨hsegments, ht⟩ := (hmem path).1 (List.mem_reverse.1 (List.mem_of_find?_eq_some hf))
    rw [ht, ← hsegments]
    rfl

/-! ## Listing -/

theorem mem_declaredFields_iff (schema : Schema) (key : String) (type : FieldType) :
    (key, type) ∈ schema.declaredFields ↔ ∃ path, schema.path? key = some path ∧ path.type = type := by
  have hkeys : ∀ path, schema.path? key = some path → key ∈ schema.fields.paths.map (·.1) := by
    intro path hpath
    obtain ⟨entry, hf, -⟩ := Option.map_eq_some_iff.1 hpath
    obtain rfl : entry.1 = key := by simpa using List.find?_some hf
    exact List.mem_map_of_mem (List.mem_reverse.1 (List.mem_of_find?_eq_some hf))
  simp only [declaredFields, List.mem_filterMap, List.mem_mergeSort, List.mem_eraseDups,
    Option.map_eq_some_iff, Prod.mk.injEq]
  constructor
  · rintro ⟨found, -, path, hpath, rfl, htype⟩
    exact ⟨path, hpath, htype⟩
  · rintro ⟨path, hpath, htype⟩
    exact ⟨key, hkeys path hpath, path, hpath, rfl, htype⟩

theorem pairwise_declaredFields (schema : Schema) :
    schema.declaredFields.Pairwise fun a b => Text.compareText a.1 b.1 = .lt := by
  have hsorted := Text.pairwise_lt_mergeSort (nodup_eraseDups (schema.fields.paths.map (·.1)))
  refine hsorted.filterMap _ ?_
  intro a b hab entry ha entry' hb
  obtain ⟨path, -, rfl⟩ := Option.map_eq_some_iff.1 ha
  obtain ⟨path', -, rfl⟩ := Option.map_eq_some_iff.1 hb
  exact hab

end Schema
end RecordFilter
