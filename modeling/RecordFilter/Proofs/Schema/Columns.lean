import RecordFilter.Proofs.Schema.Resolution

/-!
# RecordFilter.Proofs.Schema.Columns

Where the column of an operand is. Each resolved operand looks at a column of the record type that its
relations lead to, whether the table or the walk has found it (`isColumnOf_of_resolve`).
-/

namespace RecordFilter

/-- The column that is looked at, or the one with the document that is looked into. -/
def Operand.column : Operand → FieldPath
  | .field path => path
  | .json path => path.column

/-- The names of the fields that are columns of the table itself. -/
def Fields.columns : Fields → List String
  | .nil => []
  | .scalar name _ rest => name :: columns rest
  | .relation _ _ _ rest => columns rest

theorem Fields.mem_columns_of_find? {fields : Fields} {name : String} {type : FieldType}
    (h : fields.find? name = some (.scalar type)) : name ∈ fields.columns := by
  induction fields with
  | nil => cases h
  | scalar other otherType rest ih =>
    rw [find?] at h
    split at h
    · rename_i heq
      rw [heq]
      exact List.mem_cons_self
    · exact List.mem_cons_of_mem _ (ih h)
  | relation other record target rest _ ih =>
    rw [find?] at h
    split at h
    · cases h
    · exact ih h

/-- The relations lead to a record type that has the column. -/
structure FieldPath.IsColumnOf (path : FieldPath) (schema : Schema) : Prop where
  segments : path.segments = path.relations ++ [path.name]
  behind : ∃ last, schema.behind? path.relations = some last ∧ path.name ∈ last.fields.columns

namespace Schema

variable {schema : Schema} {key record : String} {fields : Fields} {segments walked : List String}
  {operand : Operand} {path : FieldPath}

theorem type?_of_walkFrom (h : walkFrom key record fields walked segments = .ok operand) :
    ∃ more, operand.column.segments = walked.reverse ++ more ∧
      fields.type? more = some operand.column.type := by
  induction segments generalizing record fields walked with
  | nil => cases h
  | cons segment rest ih =>
    obtain ⟨_, _, found, hrest⟩ | ⟨found, keys, rfl⟩ := walkFrom_cases h
    · obtain ⟨more, hsegments, htype⟩ := ih hrest
      refine ⟨segment :: more, ?_, ?_⟩
      · rw [hsegments, List.reverse_cons, List.append_assoc, List.singleton_append]
      · rw [Fields.type?_cons, found]
        exact htype
    · have hown : fields.type? [segment] = some .json := by
        rw [Fields.type?_cons, found]
        rfl
      split <;> exact ⟨[segment], List.reverse_cons, hown⟩

theorem type?_of_resolve (hd : schema.fields.IsDistinct) (h : schema.resolve key = .ok operand) :
    schema.fields.type? operand.column.segments = some operand.column.type := by
  rw [resolve] at h
  split at h
  · next path hpath =>
    cases h
    obtain ⟨⟨other, found⟩, hfind, rfl⟩ := Option.map_eq_some_iff.1 hpath
    have hm := List.mem_reverse.1 (List.mem_of_find?_eq_some hfind)
    exact ((Fields.mem_paths_iff hd other found).1 hm).2
  · obtain ⟨more, hsegments, htype⟩ := type?_of_walkFrom h
    rw [hsegments]
    exact htype

theorem isColumnOf_of_type? (h : schema.fields.type? path.segments = some path.type) :
    path.IsColumnOf schema := by
  obtain ⟨segments, type⟩ := path
  induction segments generalizing schema with
  | nil => cases h
  | cons name rest ih =>
    dsimp only at h
    rw [Fields.type?] at h
    split at h
    · next found =>
      split at h
      · next hempty =>
        obtain rfl := List.isEmpty_iff.1 hempty
        exact ⟨rfl, schema, rfl, Fields.mem_columns_of_find? found⟩
      · cases h
    · next record target found =>
      obtain ⟨next, rest, rfl⟩ := List.exists_cons_of_ne_nil (Fields.ne_nil_of_type? h)
      obtain ⟨hsegments, last, through, hcolumn⟩ := @ih ⟨record, target⟩ h
      refine ⟨congrArg (name :: ·) hsegments, last, ?_, hcolumn⟩
      change behind? schema (name :: FieldPath.relations ⟨next :: rest, type⟩) = some last
      rw [behind?, found]
      exact through
    · cases h

theorem isColumnOf_of_resolve (hd : schema.IsDeclared) (h : schema.resolve key = .ok operand) :
    operand.column.IsColumnOf schema :=
  isColumnOf_of_type? (type?_of_resolve hd.isDistinct h)

end Schema
end RecordFilter
