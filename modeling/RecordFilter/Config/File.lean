import RecordFilter.Filter.Options
import RecordFilter.Json.Reading
import RecordFilter.Sql.Dialect

/-!
# RecordFilter.Config.File

Configuration files. A file is a JSON object with up to four sections. A section is an object, or an
array of all its settings in their order; a setting that is missing or null is not made. Of a member
that is no setting of its section only the grammar counts.
-/

namespace RecordFilter
namespace Config

structure ServerSection where
  host : Option String
  port : Option Nat
deriving DecidableEq, Repr

structure FiltersSection where
  orGroupErrors : Option OrGroupErrors
  orGroups : Option GroupCombinator
  jsonValues : Option JsonValues
  dateFallback : Option DateFallback
deriving DecidableEq, Repr

structure SqlSection where
  dialect : Option Sql.Dialect
deriving DecidableEq, Repr

structure CatalogSection where
  seedPath : Option String
deriving DecidableEq, Repr

/-- `unknown` holds the other member names, each once, in the order of the file. -/
structure FileConfig where
  server : Option ServerSection
  filters : Option FiltersSection
  sql : Option SqlSection
  catalog : Option CatalogSection
  unknown : List String
deriving DecidableEq, Repr

def FileConfig.empty : FileConfig := ⟨none, none, none, none, []⟩

namespace File

/-! ## Settings -/

/-- A setting that is there must be readable; null stands for none. -/
def optional? {α : Type} (read : Json → Option α) : Option Json → Option (Option α)
  | none => some none
  | some .null => some none
  | some document => (read document).map some

def port? : Json → Option Nat
  | .integer n => if 0 ≤ n ∧ n < 65536 then some n.toNat else none
  | _ => none

def dialectNames : List (String × Sql.Dialect) := [("postgres", .postgres), ("sqlite", .sqlite)]

/-! ## Sections -/

def serverNames : List String := ["host", "port"]

def filtersNames : List String := ["or_group_errors", "or_groups", "json_values", "date_fallback"]

def sqlNames : List String := ["dialect"]

def catalogNames : List String := ["seed_path"]

/-- The sections, each with the names of its settings. -/
def sections : List (String × List String) :=
  [("server", serverNames), ("filters", filtersNames), ("sql", sqlNames), ("catalog", catalogNames)]

def sectionNames : List String := sections.map (·.1)

/-- The settings of a section by name. A name may come once; other names do not count. -/
def settings? (names : List String) : Json → Option (List (Option Json))
  | .object members =>
    if names.any fun name => 1 < members.countP fun member => member.1 = name then none
    else some (names.map fun name => members.lookup name)
  | .array items => if items.length = names.length then some (items.map some) else none
  | _ => none

def server? (document : Json) : Option ServerSection := do
  match ← settings? serverNames document with
  | [host, port] =>
    return ⟨← optional? Json.text? host, ← optional? port? port⟩
  | _ => none

def filters? (document : Json) : Option FiltersSection := do
  match ← settings? filtersNames document with
  | [errors, groups, values, fallback] =>
    return ⟨← optional? (CompileOptions.choice? CompileOptions.orGroupErrorsNames) errors,
      ← optional? (CompileOptions.choice? CompileOptions.groupCombinatorNames) groups,
      ← optional? (CompileOptions.choice? CompileOptions.jsonValuesNames) values,
      ← optional? (CompileOptions.choice? CompileOptions.dateFallbackNames) fallback⟩
  | _ => none

def sql? (document : Json) : Option SqlSection := do
  match ← settings? sqlNames document with
  | [dialect] => return ⟨← optional? (CompileOptions.choice? dialectNames) dialect⟩
  | _ => none

def catalog? (document : Json) : Option CatalogSection := do
  match ← settings? catalogNames document with
  | [seedPath] => return ⟨← optional? Json.text? seedPath⟩
  | _ => none

/-! ## Whole file -/

def unknownNames (members : Json.Members) : List String :=
  ((members.map (·.1)).filter fun name => !sectionNames.contains name).eraseDups

/-- Only an object is a configuration. -/
def ofJson? : Json → Option FileConfig
  | .object members => do
    match ← settings? sectionNames (.object members) with
    | [server, filters, sql, catalog] =>
      return ⟨← optional? server? server, ← optional? filters? filters, ← optional? sql? sql,
        ← optional? catalog? catalog, unknownNames members⟩
    | _ => none
  | _ => none

/-- A section without the members that are no settings; what is no section stays. -/
def dropOthers (name : String) (draft : Json.Draft) : Json.Draft :=
  match sections.lookup name with
  | some names => draft.keepMembers names.contains
  | none => draft

def parse? (text : String) : Option FileConfig := do
  let draft ← Json.draft? text.toList
  let document ← (draft.mapMembers dropOthers).resolve? Json.nestingLimit
  ofJson? document

end File
end Config
end RecordFilter
