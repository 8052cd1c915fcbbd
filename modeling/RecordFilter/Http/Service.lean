import RecordFilter.Http.Paging
import RecordFilter.Server.App
import RecordFilter.Sql.Statement
import RecordFilter.Text.PercentEncoding

/-!
# RecordFilter.Http.Service

The answers to requests over HTTP: which records there are, pages of records, and how a query would be
run.
-/

namespace RecordFilter
namespace Http

structure Call where
  method : String
  uri : String
  origin : Option String

inductive Body where
  | empty
  | json (document : Json)
  | text (content : String)

structure Response where
  status : Nat
  body : Body

namespace Body

def contentType? : Body → Option String
  | .empty => none
  | .json _ => some "application/json"
  | .text _ => some "text/plain; charset=utf-8"

end Body

/-! ## URIs -/

/-- Path and query; what follows `#` does not count. -/
def splitUri (uri : List Char) : List Char × List Char :=
  let uri := uri.takeWhile (· ≠ '#')
  (Text.splitFirst? '?' uri).getD (uri, [])

inductive Route where
  | health
  | recordTypes
  | records (record : List Char)
  | queryPlan (record : List Char)
deriving DecidableEq, Repr

/-- Paths match exactly. The record of a query plan may be empty, not the one of a listing. -/
def route? (path : List Char) : Option Route :=
  match (Text.split '/' path).map String.ofList with
  | ["", "api", "v1", "health"] => some .health
  | ["", "api", "v1", "records"] => some .recordTypes
  | ["", "api", "v1", "records", record] =>
    if record.isEmpty then none else some (.records record.toList)
  | ["", "api", "v1", "records", record, "query-plan"] => some (.queryPlan record.toList)
  | _ => none

/-! ## Answers -/

def ofProblem (problem : Problem) : Response := ⟨problem.status, .json problem.toJson⟩

def answered : Except Problem Json → Response
  | .ok document => ⟨200, .json document⟩
  | .error problem => ofProblem problem

def health : Json := .object [("status", .string "ok"), ("version", .string App.version)]

def recordTypes (app : App) : Json :=
  .object [("records", .texts (Registry.recordNames app.registry))]

/-- Page and query of a request for a record type. The page is looked at first. -/
def understand (app : App) (record : String) (request : Request) :
    Except Problem (PageRequest × CompiledQuery) :=
  match pageRequest request with
  | .error problem => .error problem
  | .ok page =>
    match Registry.get? app.registry record with
    | none => .error (Problem.unknownRecord record)
    | some schema =>
      match compile schema app.settings.filters request with
      | .ok query => .ok (page, query)
      | .error error => .error (Problem.ofFilterError error)

def records (app : App) (record : String) (request : Request) : Except Problem Json :=
  match understand app record request with
  | .error problem => .error problem
  | .ok (page, query) =>
    match app.database.findPage record query page with
    | .ok found => .ok (pageResponse found.rows page found.total)
    | .error error => .error (Problem.ofDataError error)

def queryPlan (app : App) (record : String) (request : Request) : Except Problem Json :=
  (understand app record request).map fun (page, query) =>
    let sql := Sql.render app.settings.dialect record query (some (page.size, page.offset))
    .object
      ([("record", .string record),
        ("options", app.settings.filters.toJson),
        ("filter", .string query.predicate.display),
        ("predicate", query.predicate.toJson)] ++
        Json.optional "order" (query.order.map OrderClause.toJson) ++
        [("sql", sql.toJson)] ++ skippedMember query.skipped)

/-- The name of the record is percent-decoded. -/
def withRecord (record query : List Char) (answer : String → Request → Except Problem Json) :
    Response :=
  match Text.PercentEncoding.decode? record with
  | some name => answered (answer (String.ofList name) (Request.ofPairs (formPairs query)))
  | none => ⟨400, .text "Invalid URL: Invalid UTF-8 in `record`"⟩

def dispatch (app : App) (query : List Char) : Route → Response
  | .health => ⟨200, .json health⟩
  | .recordTypes => ⟨200, .json (recordTypes app)⟩
  | .records record => withRecord record query (records app)
  | .queryPlan record => withRecord record query (queryPlan app)

def noRoute (path : List Char) : Response :=
  ofProblem (.notFound "ROUTE_NOT_FOUND" ("No route for " ++ String.ofList path))

/-! ## Service -/

/-- What a browser may ask about is answered for every path. -/
def respond (app : App) (call : Call) : Response :=
  let (path, query) := splitUri call.uri.toList
  if call.method = "OPTIONS" then ⟨200, .empty⟩
  else
    match route? path with
    | none => noRoute path
    | some route =>
      if call.method = "GET" ∨ call.method = "HEAD" then dispatch app query route
      else ⟨405, .empty⟩

/-- The origin that may read the answer. -/
def allowedOrigin? (app : App) (call : Call) : Option String :=
  call.origin.filter (isAllowed app.settings.host app.settings.port)

/-- Answers to `HEAD` are sent without their body. -/
def sentBody (call : Call) (response : Response) : Body :=
  if call.method = "HEAD" then .empty else response.body

end Http
end RecordFilter
