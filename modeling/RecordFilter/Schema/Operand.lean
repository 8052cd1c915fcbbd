import RecordFilter.Schema.FieldType
import RecordFilter.Text.Basic

/-!
# RecordFilter.Schema.Operand

What a comparison looks at: a field, reached through relations, or a place inside a JSON field.
-/

namespace RecordFilter

def pathSeparator : Char := '.'

/-- The relations on the way, the field last, and the type of the field. -/
structure FieldPath where
  segments : List String
  type : FieldType
deriving DecidableEq, Repr

namespace FieldPath

def key (path : FieldPath) : String := Text.joined "." path.segments

def name (path : FieldPath) : String := path.segments.getLast?.getD ""

def relations (path : FieldPath) : List String := path.segments.dropLast

end FieldPath

/-- Member names and positions inside the document of a field. -/
structure JsonPath where
  column : FieldPath
  keys : List String
deriving DecidableEq, Repr

namespace JsonPath

/-- Empty pieces of a dotted path do not count. -/
def ofSegments (column : FieldPath) (segments : List String) : JsonPath :=
  ⟨column, segments.filter fun key => !key.isEmpty⟩

def ofText (column : FieldPath) (path : String) : JsonPath :=
  ofSegments column (Text.pieces pathSeparator path)

def key (path : JsonPath) : String :=
  path.keys.foldl (fun key next => key ++ "." ++ next) path.column.key

end JsonPath

inductive Operand where
  | field (path : FieldPath)
  | json (path : JsonPath)
deriving DecidableEq, Repr

namespace Operand

def key : Operand → String
  | .field path => path.key
  | .json path => path.key

/-- What is read out of a document is text. -/
def type : Operand → FieldType
  | .field path => path.type
  | .json _ => .text

end Operand
end RecordFilter
