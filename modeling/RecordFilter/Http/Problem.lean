import RecordFilter.Filter.Error
import RecordFilter.Json.Value
import RecordFilter.Store.Database

/-!
# RecordFilter.Http.Problem

Why a request over HTTP is not answered.
-/

namespace RecordFilter
namespace Http

inductive Problem where
  | badRequest (code message : String)
  | notFound (code message : String)
  | internal (message : String)
deriving DecidableEq, Repr

namespace Problem

def status : Problem → Nat
  | .badRequest .. => 400
  | .notFound .. => 404
  | .internal _ => 500

def kind : Problem → String
  | .badRequest .. => "bad_request"
  | .notFound .. => "not_found"
  | .internal _ => "internal_error"

def code : Problem → String
  | .badRequest code _ => code
  | .notFound code _ => code
  | .internal _ => "INTERNAL"

def message : Problem → String
  | .badRequest _ message => message
  | .notFound _ message => message
  | .internal message => message

def toJson (problem : Problem) : Json :=
  .object
    [("error", .string problem.kind),
      ("code", .string problem.code),
      ("message", .string problem.message)]

def unknownRecord (record : String) : Problem :=
  .notFound "RECORD_NOT_FOUND" (DataError.unknownRecord record).message

def ofFilterError (error : FilterError) : Problem := .badRequest error.code error.message

def ofDataError : DataError → Problem
  | .unknownRecord record => unknownRecord record
  | _ => .internal "Record query failed"

end Problem
end Http
end RecordFilter
