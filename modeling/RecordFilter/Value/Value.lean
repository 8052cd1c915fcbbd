import RecordFilter.Calendar.DateTime
import RecordFilter.Json.Writing
import RecordFilter.Number.Decimal

/-!
# RecordFilter.Value.Value

Typed values, what they are compared with and how they are shown.
-/

namespace RecordFilter

open Number (IntegerWidth Decimal)
open Calendar (Date DateTime)

inductive Value where
  | text (value : String)
  | integer (width : IntegerWidth) (value : Int)
  | single (value : Single)
  | double (value : Double)
  | decimal (value : Decimal)
  | boolean (value : Bool)
  | date (value : Date)
  | dateTime (value : DateTime)
  | member (name : String)
  | raw (literal : String)
deriving DecidableEq

namespace Value

/-! ## Order -/

def compareBool : Bool → Bool → Ordering
  | false, true => .lt
  | true, false => .gt
  | _, _ => .eq

/-- Only values of one kind and width are ordered, and a number only against a number. -/
def compare? : Value → Value → Option Ordering
  | .text a, .text b => some (Text.compareText a b)
  | .integer v a, .integer w b => if v = w then some (compare a b) else none
  | .single a, .single b => a.compare? b
  | .double a, .double b => a.compare? b
  | .decimal a, .decimal b => some (a.compareTo b)
  | .boolean a, .boolean b => some (compareBool a b)
  | .date a, .date b => some (a.compareTo b)
  | .dateTime a, .dateTime b => some (a.compareTo b)
  | .member a, .member b => some (Text.compareText a b)
  | .raw a, .raw b => some (Text.compareText a b)
  | _, _ => none

/-- Equality of what is meant: decimals of different scale may be equal, and what is not a number does
not even equal itself. -/
def equals (a b : Value) : Bool := a.compare? b == some .eq

def isNan : Value → Bool
  | .single x => x.isNan
  | .double x => x.isNan
  | _ => false

/-! ## Text -/

def display : Value → String
  | .text value | .member value | .raw value => value
  | .integer _ value => String.ofList (Number.writeInteger value)
  | .single value => String.ofList value.write
  | .double value => String.ofList value.write
  | .decimal value => String.ofList value.write
  | .boolean true => "true"
  | .boolean false => "false"
  | .date value => String.ofList value.write
  | .dateTime value => String.ofList value.write

/-- Numbers that a JSON number cannot hold exactly are texts, as are dates. -/
def toJson : Value → Json
  | .text value | .member value | .raw value => .string value
  | .integer .unbounded value => .string (String.ofList (Number.writeInteger value))
  | .integer _ value => .integer value
  | .single value => Json.ofSingle value
  | .double value => Json.ofDouble value
  | .decimal value => .string (String.ofList value.write)
  | .boolean value => .bool value
  | .date value => .string (String.ofList value.write)
  | .dateTime value => .string (String.ofList value.write)

end Value
end RecordFilter
