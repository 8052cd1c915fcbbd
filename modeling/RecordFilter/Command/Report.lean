import RecordFilter.Server.App
import RecordFilter.Sql.Statement

/-!
# RecordFilter.Command.Report

What the program prints: the banner of the server, and the description of a compiled query.
-/

namespace RecordFilter
namespace Command

/-! ## Banner -/

def escape : String := String.ofList ['\x1b', '[']

def colored (code text : String) : String := escape ++ code ++ "m" ++ text ++ escape ++ "0m"

/-- Spaces behind a text up to a width. -/
def padEnd (width : Nat) (text : String) : String :=
  text ++ String.ofList (List.replicate (width - text.toList.length) ' ')

def labelWidth : Nat := 12

def recordLine (base record : String) : String :=
  "  " ++ colored "32" "➜" ++ "  " ++ colored "1" (padEnd labelWidth (record ++ ":")) ++ " " ++
    colored "36" (base ++ "/" ++ record)

def noteLine (label text : String) : String :=
  "  " ++ colored "90" ("➜  " ++ padEnd labelWidth label ++ " " ++ text)

def networkLines (host : String) : List String :=
  if host = "127.0.0.1" ∨ host = "localhost" then
    [noteLine "Network:" "use --host 0.0.0.0 to expose"]
  else []

def bannerLines (settings : Config.Settings) (records : List String) : List String :=
  let host := if Http.isAllInterfaces settings.host then "localhost" else settings.host
  let base := "http://" ++ host ++ ":" ++ toString settings.port ++ "/api/v1/records"
  ["", "  " ++ escape ++ "1m" ++ colored "36" "Sieve" ++ " " ++ colored "90" ("v" ++ App.version), ""] ++
    records.map (recordLine base) ++ networkLines settings.host ++
    [noteLine "Filters:" settings.filters.display, noteLine "SQL:" settings.dialect.name, ""]

def banner (settings : Config.Settings) (records : List String) : String :=
  String.ofList ((bannerLines settings records).flatMap fun line => line.toList ++ ['\n'])

/-! ## Compiled query -/

def skippedLine (branch : SkippedBranch) : String :=
  "Skipped:   " ++ branch.key ++ " in " ++ branch.group ++ " (" ++ branch.message ++ ")"

def describeLines (dialect : Sql.Dialect) (record : String) (query : CompiledQuery) : List String :=
  let sql := Sql.render dialect record query none
  ["Filter:    " ++ query.predicate.display] ++
    (query.order.map fun order => "Order:     " ++ order.display).toList ++
    query.skipped.map skippedLine ++
    ["SQL (" ++ dialect.name ++ "): " ++ sql.text,
      "Params:    " ++ (Json.array (sql.params.map Value.toJson)).compact,
      "Predicate:",
      query.predicate.toJson.pretty]

def describe (dialect : Sql.Dialect) (record : String) (query : CompiledQuery) : String :=
  Text.joined "\n" (describeLines dialect record query)

end Command
end RecordFilter
