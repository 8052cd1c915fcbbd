import RecordFilter.Json.Value

/-!
# RecordFilter.Filter.Options

The choices that a request leaves open. The first of each is the default.
-/

namespace RecordFilter

/-- What becomes of a branch of a group that cannot be compiled. -/
inductive OrGroupErrors where
  | skip
  | fail
deriving DecidableEq, Repr, Inhabited

/-- How the groups of a request are combined. -/
inductive GroupCombinator where
  | or
  | and
deriving DecidableEq, Repr, Inhabited

/-- How the values of a place inside a JSON field are combined. -/
inductive JsonValues where
  | and
  | or
deriving DecidableEq, Repr, Inhabited

/-- What becomes of a date behind an operator that cannot be read. -/
inductive DateFallback where
  | substring
  | reject
deriving DecidableEq, Repr, Inhabited

structure CompileOptions where
  orGroupErrors : OrGroupErrors
  orGroups : GroupCombinator
  jsonValues : JsonValues
  dateFallback : DateFallback
deriving DecidableEq, Repr

namespace CompileOptions

def standard : CompileOptions := ⟨.skip, .or, .and, .substring⟩

instance : Inhabited CompileOptions := ⟨standard⟩

/-! ## Names -/

def orGroupErrorsNames : List (String × OrGroupErrors) := [("skip", .skip), ("fail", .fail)]

def groupCombinatorNames : List (String × GroupCombinator) := [("or", .or), ("and", .and)]

def jsonValuesNames : List (String × JsonValues) := [("and", .and), ("or", .or)]

def dateFallbackNames : List (String × DateFallback) :=
  [("substring", .substring), ("reject", .reject)]

/-- The name that stands for a choice. -/
def nameIn {α : Type} [DecidableEq α] (names : List (String × α)) (choice : α) : String :=
  ((names.find? fun entry => entry.2 = choice).map (·.1)).getD ""

def capitalize (name : String) : String :=
  match name.toList with
  | [] => ""
  | c :: rest => String.ofList (c.toUpper :: rest)

def display (options : CompileOptions) : String :=
  "or_group_errors=" ++ capitalize (nameIn orGroupErrorsNames options.orGroupErrors) ++
    ", or_groups=" ++ capitalize (nameIn groupCombinatorNames options.orGroups) ++
    ", json_values=" ++ capitalize (nameIn jsonValuesNames options.jsonValues) ++
    ", date_fallback=" ++ capitalize (nameIn dateFallbackNames options.dateFallback)

def toJson (options : CompileOptions) : Json :=
  .object
    [("or_group_errors", .string (nameIn orGroupErrorsNames options.orGroupErrors)),
      ("or_groups", .string (nameIn groupCombinatorNames options.orGroups)),
      ("json_values", .string (nameIn jsonValuesNames options.jsonValues)),
      ("date_fallback", .string (nameIn dateFallbackNames options.dateFallback))]

/-! ## Reading -/

/-- A choice is its name, or an object whose only member has that name and is null. -/
def choice? {α : Type} (names : List (String × α)) : Json → Option α
  | .string name => names.lookup name
  | .object [(name, .null)] => names.lookup name
  | _ => none

/-- A missing choice is the default; null is no choice. -/
def choiceOr? {α : Type} (names : List (String × α)) (default : α) : Option Json → Option α
  | none => some default
  | some document => choice? names document

def ofParts? (errors groups values fallback : Option Json) : Option CompileOptions := do
  let errors ← choiceOr? orGroupErrorsNames standard.orGroupErrors errors
  let groups ← choiceOr? groupCombinatorNames standard.orGroups groups
  let values ← choiceOr? jsonValuesNames standard.jsonValues values
  let fallback ← choiceOr? dateFallbackNames standard.dateFallback fallback
  return ⟨errors, groups, values, fallback⟩

/-- The choices by name, or at most four of them in order. Members of other names do not count. -/
def ofJson? : Json → Option CompileOptions
  | .object members =>
    ofParts? (members.lookup "or_group_errors") (members.lookup "or_groups")
      (members.lookup "json_values") (members.lookup "date_fallback")
  | .array items =>
    if items.length ≤ 4 then ofParts? items[0]? items[1]? items[2]? items[3]? else none
  | _ => none

end CompileOptions
end RecordFilter
