import RecordFilter.Calendar.Reading
import RecordFilter.Filter.Error
import RecordFilter.Schema.Operand
import RecordFilter.Value.Value

/-!
# RecordFilter.Value.Reading

The typed value that a literal stands for.
-/

namespace RecordFilter

/-- The value that a text has as a value of the type. A boolean is true where the text says so, in any
case of letters, and false otherwise. -/
def FieldType.read? (type : FieldType) (literal : String) : Option Value :=
  let text := literal.toList
  match type with
  | .text => some (.text literal)
  | .integer width => (Number.readInteger? width text).map (.integer width)
  | .single => (Number.Binary.read? Number.binary32 text).map .single
  | .double => (Number.Binary.read? Number.binary64 text).map .double
  | .decimal => (Number.Decimal.read? text).map .decimal
  | .boolean => some (.boolean (Text.isWord "true" text))
  | .date => (Calendar.readDate? text).map .date
  | .dateTime => (Calendar.readDateTime? text).map .dateTime
  | .choice _ members => if members.contains literal then some (.member literal) else none
  | .json => none
  | .other _ => some (.raw literal)

namespace FieldPath

/-- The value of a literal for this field. A JSON field cannot be compared with a value. -/
def convert (path : FieldPath) (literal : String) : Except FilterError Value :=
  match path.type with
  | .json => .error (.unsupportedType path.key path.type.name)
  | type =>
    match type.read? literal with
    | some value => .ok value
    | none => .error (.valueConversion path.key literal type.name)

end FieldPath

def operatorSeparator : Char := ':'

inductive Literal where
  | typed (value : Value)
  | ranged (raw : String)

/-- A literal with an operator in front, for a field that has bounds, is not converted yet. -/
def FieldPath.literal (path : FieldPath) (raw : String) : Except FilterError Literal :=
  if raw.toList.contains operatorSeparator && path.type.supportsRange then .ok (.ranged raw)
  else (path.convert raw).map .typed

end RecordFilter
