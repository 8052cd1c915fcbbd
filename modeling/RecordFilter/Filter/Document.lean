import RecordFilter.Filter.Compile
import RecordFilter.Json.Value

/-!
# RecordFilter.Filter.Document

Queries and what they are made of as JSON documents.
-/

namespace RecordFilter

namespace FieldType

def toJson : FieldType → Json
  | .integer .unbounded => .string "integer_big"
  | .decimal => .string "decimal_exact"
  | .dateTime => .string "date_time"
  | .json => .string "json_document"
  | .choice name members =>
    .object [("enum", .object [("name", .string name), ("members", .texts members)])]
  | .other name => .object [("other", .string name)]
  | type => .string type.name

end FieldType

def FieldPath.members (path : FieldPath) : Json.Members :=
  [("segments", .texts path.segments), ("type", path.type.toJson)]

def Operand.toJson : Operand → Json
  | .field path => .object (("kind", .string "field") :: path.members)
  | .json path =>
    .object
      [("kind", .string "json"), ("column", .object path.column.members), ("keys", .texts path.keys)]

def Bound.toJson (bound : Bound) : Json :=
  .object [("value", bound.value.toJson), ("inclusive", .bool bound.inclusive)]

/-- A member that is there only if it has a value. -/
def Json.optional (name : String) : Option Json → Json.Members
  | some document => [(name, document)]
  | none => []

namespace Predicate

def leaf (op : String) (operand : Operand) (rest : Json.Members) : Json :=
  .object (("op", .string op) :: ("operand", operand.toJson) :: rest)

mutual

def toJson : Predicate → Json
  | .always => .object [("op", .string "true")]
  | .all children => .object [("op", .string "and"), ("children", .array (documents children))]
  | .any children => .object [("op", .string "or"), ("children", .array (documents children))]
  | .equals operand value => leaf "equals" operand [("value", value.toJson)]
  | .notEquals operand value => leaf "not_equals" operand [("value", value.toJson)]
  | .contains operand needle => leaf "contains" operand [("needle", .string needle)]
  | .foldedEquals operand value => leaf "folded_equals" operand [("value", .string value)]
  | .range operand min max =>
    leaf "range" operand
      (Json.optional "min" (min.map Bound.toJson) ++ Json.optional "max" (max.map Bound.toJson))

def documents : List Predicate → List Json
  | [] => []
  | child :: rest => toJson child :: documents rest

end

end Predicate

def OrderClause.toJson (order : OrderClause) : Json :=
  .object [("operand", order.operand.toJson), ("direction", .string order.direction.name)]

def SkippedBranch.toJson (branch : SkippedBranch) : Json :=
  .object
    [("group", .string branch.group),
      ("key", .string branch.key),
      ("code", .string branch.code),
      ("message", .string branch.message)]

/-- Nothing is said of skipped branches where there are none. -/
def skippedMember : List SkippedBranch → Json.Members
  | [] => []
  | skipped => [("skipped", .array (skipped.map SkippedBranch.toJson))]

def CompiledQuery.toJson (query : CompiledQuery) : Json :=
  .object
    ([("predicate", query.predicate.toJson),
      ("order", Json.ofOption (query.order.map OrderClause.toJson))] ++
      skippedMember query.skipped)

end RecordFilter
