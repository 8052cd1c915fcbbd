import RecordFilter.Filter.Error
import RecordFilter.Schema.Operand

/-!
# RecordFilter.Schema.Record

Record types and the keys that name their fields. A key is resolved in two ways: by the table of all
fields that can be reached through relations, and, where it is not in there, by walking along it
segment by segment. The walk finds the places inside JSON fields and says what is wrong with a key.
-/

namespace RecordFilter

/-- The fields of a record type in the order in which they are declared. A relation leads to another
record type, of which it holds the name and the fields. -/
inductive Fields where
  | nil
  | scalar (name : String) (type : FieldType) (rest : Fields)
  | relation (name record : String) (target rest : Fields)
deriving DecidableEq, Repr

inductive Field where
  | scalar (type : FieldType)
  | relation (record : String) (target : Fields)
deriving DecidableEq, Repr

namespace Fields

def find? (name : String) : Fields → Option Field
  | .nil => none
  | .scalar other type rest => if other = name then some (.scalar type) else find? name rest
  | .relation other record target rest =>
    if other = name then some (.relation record target) else find? name rest

/-- Every field that can be reached, with its dotted key. -/
def paths : Fields → List (String × FieldPath)
  | .nil => []
  | .scalar name type rest => (name, ⟨[name], type⟩) :: paths rest
  | .relation name _ target rest =>
    (paths target).map (fun (key, path) =>
      (name ++ "." ++ key, { path with segments := name :: path.segments })) ++ paths rest

def remove (name : String) : Fields → Fields
  | .nil => .nil
  | .scalar other type rest =>
    if other = name then remove name rest else .scalar other type (remove name rest)
  | .relation other record target rest =>
    if other = name then remove name rest else .relation other record target (remove name rest)

def append (fields : Fields) (name : String) (field : Field) : Fields :=
  match fields with
  | .nil =>
    match field with
    | .scalar type => .scalar name type .nil
    | .relation record target => .relation name record target .nil
  | .scalar other type rest => .scalar other type (append rest name field)
  | .relation other record target rest => .relation other record target (append rest name field)

/-- A later field of the same name replaces the earlier one and goes to the end. -/
def declare (fields : Fields) (name : String) (field : Field) : Fields :=
  (fields.remove name).append name field

end Fields

structure Schema where
  name : String
  fields : Fields
deriving DecidableEq, Repr

namespace Schema

def empty (name : String) : Schema := ⟨name, .nil⟩

def scalar (schema : Schema) (name : String) (type : FieldType) : Schema :=
  { schema with fields := schema.fields.declare name (.scalar type) }

def relation (schema : Schema) (name : String) (target : Schema) : Schema :=
  { schema with fields := schema.fields.declare name (.relation target.name target.fields) }

/-! ## Keys -/

/-- Of two fields with the same dotted key the later one counts. -/
def path? (schema : Schema) (key : String) : Option FieldPath :=
  (schema.fields.paths.reverse.find? fun entry => entry.1 = key).map (·.2)

/-- Follows the segments through the relations. `walked` holds the segments behind, nearest first. -/
def walkFrom (key record : String) (fields : Fields) (walked : List String) :
    List String → Except FilterError Operand
  | [] => .error (.unresolvedField key "" record)
  | segment :: rest =>
    match fields.find? segment with
    | none => .error (.unresolvedField key segment record)
    | some field =>
      match field, rest with
      | _, [] => .error (.unresolvedField key segment record)
      | .relation target inside, next :: rest =>
        walkFrom key target inside (segment :: walked) (next :: rest)
      | .scalar .json, next :: rest =>
        let path := JsonPath.ofSegments ⟨(segment :: walked).reverse, .json⟩ (next :: rest)
        .ok (if path.keys.isEmpty then .field path.column else .json path)
      | .scalar _, next :: _ => .error (.unresolvedField key next record)

def walk (schema : Schema) (key : String) : Except FilterError Operand :=
  walkFrom key schema.name schema.fields [] (Text.pieces pathSeparator key)

def resolve (schema : Schema) (key : String) : Except FilterError Operand :=
  match schema.path? key with
  | some path => .ok (.field path)
  | none => schema.walk key

/-! ## Listing -/

/-- Every key of the table once, with its type, in ascending order. -/
def declaredFields (schema : Schema) : List (String × FieldType) :=
  let keys := (schema.fields.paths.map (·.1)).eraseDups
  let sorted := keys.mergeSort fun a b => Text.compareText a b != .gt
  sorted.filterMap fun key => (schema.path? key).map fun path => (key, path.type)

end Schema

/-! ## Registry -/

/-- Record types by name. -/
abbrev Registry : Type := List Schema

namespace Registry

def get? (registry : Registry) (name : String) : Option Schema :=
  registry.find? fun schema => schema.name = name

/-- A later record type of the same name replaces the earlier one. -/
def register (registry : Registry) (schema : Schema) : Registry :=
  registry.filter (fun other => other.name ≠ schema.name) ++ [schema]

def recordNames (registry : Registry) : List String :=
  (registry.map (·.name)).mergeSort fun a b => Text.compareText a b != .gt

end Registry
end RecordFilter
