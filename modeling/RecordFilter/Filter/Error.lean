/-!
# RecordFilter.Filter.Error

Why a request cannot be understood. Every error names the key or the field it is about.
-/

namespace RecordFilter

inductive FilterError where
  | unresolvedField (key segment record : String)
  | valueConversion (field literal target : String)
  | unsupportedType (field type : String)
deriving DecidableEq, Repr

namespace FilterError

def field : FilterError → String
  | .unresolvedField key _ _ => key
  | .valueConversion field _ _ => field
  | .unsupportedType field _ => field

def code : FilterError → String
  | .unresolvedField .. => "UNKNOWN_FILTER_FIELD"
  | .valueConversion .. => "INVALID_FILTER_VALUE"
  | .unsupportedType .. => "UNSUPPORTED_FILTER_TYPE"

def message : FilterError → String
  | .unresolvedField key segment record =>
    "Unknown filter field '" ++ key ++ "': '" ++ segment ++ "' is not declared on '" ++ record ++ "'"
  | .valueConversion field literal target =>
    "Invalid value '" ++ literal ++ "' for field '" ++ field ++ "' (expected " ++ target ++ ")"
  | .unsupportedType field type =>
    "Field '" ++ field ++ "' of type " ++ type ++ " cannot be compared to a value"

end FilterError
end RecordFilter
