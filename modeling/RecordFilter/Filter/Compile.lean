import RecordFilter.Filter.Order
import RecordFilter.Filter.Range
import RecordFilter.Filter.Request

/-!
# RecordFilter.Filter.Compile

From a request to a condition. Every plain key must hold. A key `a!b` is a group: its branches see the
same values and one of them must hold. The groups are combined as the options say.
-/

namespace RecordFilter

def groupSeparator : Char := '!'

/-- Inside a value of text it separates alternatives. -/
def alternationMarker : Char := '!'

/-- A branch of a group that was left out, and why. -/
structure SkippedBranch where
  group : String
  key : String
  code : String
  message : String
deriving DecidableEq, Repr

structure CompiledQuery where
  predicate : Predicate
  order : Option OrderClause
  skipped : List SkippedBranch

namespace Compile

/-- The pieces between the separators, without white space around them and without empty ones. -/
def namesIn (separator : Char) (text : String) : List String :=
  (((Text.split separator text.toList).map Text.trim).filter fun piece => !piece.isEmpty).map
    String.ofList

theorem mem_namesIn_iff {separator : Char} {text name : String} :
    name ∈ namesIn separator text ↔
      name ≠ "" ∧ ∃ piece ∈ Text.split separator text.toList, Text.trim piece = name.toList := by
  simp only [namesIn, List.mem_map, List.mem_filter, Bool.not_eq_true', List.isEmpty_eq_false_iff]
  constructor
  · rintro ⟨chars, ⟨⟨piece, hpiece, rfl⟩, hne⟩, rfl⟩
    exact ⟨by simpa using hne, piece, hpiece, by simp⟩
  · rintro ⟨hne, piece, hpiece, htrim⟩
    exact ⟨name.toList, ⟨⟨piece, hpiece, htrim⟩, by simpa using hne⟩, String.ofList_toList⟩

/-! ## One key -/

def json (options : CompileOptions) (path : JsonPath) (values : List String) : Predicate :=
  let conditions := values.map fun value => .contains (.json path) (Unicode.foldText value)
  match options.jsonValues with
  | .and => Predicate.conjunction conditions
  | .or => Predicate.disjunction conditions

def typedLiterals (literals : List Literal) : List Value :=
  literals.filterMap fun literal =>
    match literal with
    | .typed value => some value
    | .ranged _ => none

def isRanged : Literal → Bool
  | .typed _ => false
  | .ranged _ => true

/-- The alternatives of a value, if it has a marker. -/
def alternatives? (value : Value) : Option (List String) :=
  match value with
  | .text text | .raw text =>
    if text.toList.contains alternationMarker then some (namesIn alternationMarker text) else none
  | _ => none

/-- Text is looked for inside the field, everything else must equal it. -/
def typedCondition (operand : Operand) : Value → Predicate
  | .text text => .contains operand (Unicode.foldText text)
  | value => .equals operand value

def typed (field : FieldPath) (values : List Value) : Predicate :=
  let each := Predicate.disjunction (values.map (typedCondition (.field field)))
  match values with
  | [value] =>
    match alternatives? value with
    | some alternatives =>
      Predicate.disjunction
        (alternatives.map fun text => .foldedEquals (.field field) (Unicode.foldText text))
    | none => each
  | _ => each

/-- All values are converted first. One operator among them makes all of them parts of a range. -/
def field (options : CompileOptions) (path : FieldPath) (values : List String) :
    Except FilterError Predicate :=
  match values.mapM path.literal with
  | .error error => .error error
  | .ok literals =>
    if literals.any isRanged then mergeRange path options.dateFallback values
    else .ok (typed path (typedLiterals literals))

def key (schema : Schema) (options : CompileOptions) (key : String) (values : List String) :
    Except FilterError Predicate :=
  match schema.resolve key with
  | .error error => .error error
  | .ok (.json path) => .ok (json options path values)
  | .ok (.field path) => field options path values

/-! ## Groups -/

/-- What a branch comes to: a condition, or the reason why it is left out. -/
inductive Branch where
  | built (predicate : Predicate)
  | skipped (reason : SkippedBranch)

def branch (schema : Schema) (options : CompileOptions) (entry : Entry) (name : String) :
    Except FilterError Branch :=
  match key schema options name entry.values with
  | .ok predicate => .ok (.built predicate)
  | .error error =>
    match options.orGroupErrors with
    | .skip => .ok (.skipped ⟨entry.key, name, error.code, error.message⟩)
    | .fail => .error error

def builtBranches (branches : List Branch) : List Predicate :=
  branches.filterMap fun branch =>
    match branch with
    | .built predicate => some predicate
    | .skipped _ => none

def skippedBranches (branches : List Branch) : List SkippedBranch :=
  branches.filterMap fun branch =>
    match branch with
    | .built _ => none
    | .skipped reason => some reason

/-! ## Whole request -/

/-- What an entry of the request comes to. A group whose branches are all left out has no
condition. -/
inductive Part where
  | plain (predicate : Predicate)
  | group (predicate : Option Predicate) (skipped : List SkippedBranch)

def group (schema : Schema) (options : CompileOptions) (entry : Entry) : Except FilterError Part :=
  ((namesIn groupSeparator entry.key).mapM (branch schema options entry)).map fun branches =>
    match builtBranches branches with
    | [] => .group none (skippedBranches branches)
    | built => .group (some (Predicate.disjunction built)) (skippedBranches branches)

def part (schema : Schema) (options : CompileOptions) (entry : Entry) : Except FilterError Part :=
  if entry.key.toList.contains groupSeparator then group schema options entry
  else (key schema options entry.key entry.values).map .plain

def plainParts (parts : List Part) : List Predicate :=
  parts.filterMap fun part =>
    match part with
    | .plain predicate => some predicate
    | .group .. => none

def groupParts (parts : List Part) : List Predicate :=
  parts.filterMap fun part =>
    match part with
    | .plain _ => none
    | .group predicate _ => predicate

def skippedParts (parts : List Part) : List SkippedBranch :=
  parts.flatMap fun part =>
    match part with
    | .plain _ => []
    | .group _ skipped => skipped

def combineGroups (options : CompileOptions) (groups : List Predicate) : List Predicate :=
  match groups, options.orGroups with
  | [], _ => []
  | _, .or => [Predicate.disjunction groups]
  | _, .and => [Predicate.conjunction groups]

def combine (options : CompileOptions) (parts : List Part) : Predicate :=
  Predicate.conjunction (plainParts parts ++ combineGroups options (groupParts parts))

end Compile

/-- The first entry that fails makes the whole request fail; the order is looked at last. -/
def compile (schema : Schema) (options : CompileOptions) (request : Request) :
    Except FilterError CompiledQuery :=
  match (request.filters.filter fun entry => !entry.values.isEmpty).mapM
      (Compile.part schema options) with
  | .error error => .error error
  | .ok parts =>
    let sort := request.sortSpec
    (OrderClause.build schema sort.field sort.direction).map fun order =>
      ⟨Compile.combine options parts, order, Compile.skippedParts parts⟩

end RecordFilter
