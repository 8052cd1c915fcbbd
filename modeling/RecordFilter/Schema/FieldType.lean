import RecordFilter.Number.Integer

/-!
# RecordFilter.Schema.FieldType

What the values of a field are.
-/

namespace RecordFilter

open Number (IntegerWidth)

/-- `other` is a type that only has a name; its values are texts that are taken as they are. -/
inductive FieldType where
  | text
  | integer (width : IntegerWidth)
  | single
  | double
  | decimal
  | boolean
  | date
  | dateTime
  | choice (name : String) (members : List String)
  | json
  | other (name : String)
deriving DecidableEq, Repr

namespace FieldType

/-- The name that messages show. -/
def name : FieldType → String
  | .text => "text"
  | .integer .bits16 => "int16"
  | .integer .bits32 => "integer32"
  | .integer .bits64 => "integer64"
  | .integer .unbounded => "bigint"
  | .single => "float32"
  | .double => "float64"
  | .decimal => "decimal"
  | .boolean => "boolean"
  | .date => "date"
  | .dateTime => "datetime"
  | .choice name _ => name
  | .json => "json"
  | .other name => name

def isNumeric : FieldType → Bool
  | .integer _ | .single | .double | .decimal => true
  | _ => false

def isTemporal : FieldType → Bool
  | .date | .dateTime => true
  | _ => false

/-- Values of these types have bounds. -/
def supportsRange (type : FieldType) : Bool := type.isNumeric || type.isTemporal

end FieldType
end RecordFilter
