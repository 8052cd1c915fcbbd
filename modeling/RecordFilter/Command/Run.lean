import RecordFilter.Command.Arguments
import RecordFilter.Command.Report
import RecordFilter.Text.PercentEncoding

/-!
# RecordFilter.Command.Run

The program: it reads its command line, then compiles a query or starts the server.
-/

namespace RecordFilter
namespace Command

open Config (Place)

/-! ## Query strings -/

/-- A part of a query string; its bytes must be text. -/
def decodeComponent (raw : List Char) : Except String String :=
  match Text.PercentEncoding.decode? (Text.PercentEncoding.plusToSpace raw) with
  | some text => .ok (String.ofList text)
  | none => .error ("Invalid percent-encoding in '" ++ String.ofList raw ++ "'")

def decodePair (pair : List Char × List Char) : Except String (String × String) := do
  return (← decodeComponent pair.1, ← decodeComponent pair.2)

/-- White space around a query string and question marks in front of it do not count. -/
def readQuery (query : String) : Except String Request :=
  let text := (Text.trim query.toList).dropWhile (· = '?')
  ((Http.rawPairs text).mapM decodePair).map Request.ofPairs

/-! ## Compiling -/

def unknownRecord (record : String) : String :=
  "Unknown record type '" ++ record ++ "'. Known: " ++
    Text.joined ", " (Registry.recordNames Catalog.registry)

def compileQuery (settings : Config.Settings) (record query : String) : Except String String :=
  match Registry.get? Catalog.registry record with
  | none => .error (unknownRecord record)
  | some schema =>
    match readQuery query with
    | .error message => .error message
    | .ok request =>
      match RecordFilter.compile schema settings.filters request with
      | .ok query => .ok (describe settings.dialect record query)
      | .error _ => .error ("Failed to compile filter for '" ++ record ++ "'")

/-! ## Program -/

/-- How the program ends. A server goes on; its banner has been printed. -/
inductive Outcome where
  | finished (output : String)
  | failed (output message : String)
  | usage (error : UsageError)
  | serving (output : String) (app : App)

def versionLine : String := "sieve " ++ App.version ++ "\n"

/-! ## Hosts -/

/-- A part of an address of four numbers: no leading zero, at most 255. -/
def isOctet (text : List Char) : Bool :=
  match Number.readNat? text with
  | some n => n < 256 && (text.length = 1 || text.head? != some '0')
  | none => false

def isIpv4 (text : List Char) : Bool :=
  let parts := Text.split '.' text
  parts.length = 4 && parts.all isOctet

def isGroup (text : List Char) : Bool :=
  0 < text.length && text.length ≤ 4 && text.all fun c => (Text.hexValue? c).isSome

/-- How many groups of 16 bits a run of groups fills; an address of four numbers at its end fills
two. -/
def groupCount? (run : List Char) : Option Nat :=
  match run, (Text.split ':' run).reverse with
  | [], _ => some 0
  | _, [] => none
  | _, last :: before =>
    if !before.all isGroup then none
    else if isGroup last then some (before.length + 1)
    else if isIpv4 last then some (before.length + 2)
    else none

/-- Eight groups, or fewer around one `::`. -/
def isIpv6 (text : List Char) : Bool :=
  let cuts := (List.range (text.length - 1)).filter fun i => (text.drop i).take 2 = [':', ':']
  match cuts with
  | [] => groupCount? text = some 8
  | [i] =>
    let before := text.take i
    let after := text.drop (i + 2)
    match groupCount? before, groupCount? after with
    | some a, some b => a + b < 8 && !before.contains '.'
    | _, _ => false
  | _ => false

def isAddress (host : String) : Bool := isIpv4 host.toList || isIpv6 host.toList

variable {m : Type → Type} [Monad m]

/-- The banner comes first; a host that is not an address is noticed when the server starts. -/
def startServer (place : Place m) (overrides : Config.Overrides) : m Outcome := do
  match ← App.load place overrides with
  | .error message => return .failed "" message
  | .ok app =>
    let output := banner app.settings (Registry.recordNames app.registry)
    if isAddress app.settings.host then return .serving output app
    else return .failed output "invalid IP address syntax"

def perform (place : Place m) (line : CommandLine) : m Outcome := do
  match line.action with
  | some (.compile record query) =>
    match ← Config.load place line.overrides with
    | .error message => return .failed "" message
    | .ok loaded =>
      match compileQuery loaded.settings record query with
      | .ok output => return .finished (output ++ "\n")
      | .error message => return .failed "" message
  | _ => startServer place line.overrides

/-- The home directory is a variable like any other. -/
def environment (place : Place m) (env : Environment) : m Environment := do
  let env := EnvironmentFile.define env "HOME" place.home
  match ← environmentFile place.look (ancestors (Config.FileTree.names place.cwd)) with
  | some content => return EnvironmentFile.load env content
  | none => return env

def run (place : Place m) (env : Environment) (words : List String) : m Outcome := do
  match CommandLine.read (← environment place env) words with
  | .ok line => perform place line
  | .error .displayVersion => return .finished versionLine
  | .error error => return .usage error

/-! ## Results -/

/-- The exit code, and what is printed to both streams. -/
structure Result where
  exit : Nat
  output : String
  errors : String
deriving DecidableEq, Repr

def errorText (message : String) : String := "\nError: " ++ message ++ "\n\n"

def usageLines : List String :=
  ["Usage: sieve [OPTIONS] [start | compile <RECORD> [QUERY]]",
    "",
    "Options:",
    "  -H, --host <HOST>",
    "  -p, --port <PORT>",
    "  -c, --config <FILE>",
    "      --dialect <postgres | sqlite>",
    "      --or-group-errors <skip | fail>",
    "      --seed-path <FILE>"]

def usageText : String :=
  String.ofList (usageLines.flatMap fun line => line.toList ++ ['\n'])

/-- The program itself does not listen; a server ends where it would begin to. -/
def Outcome.result : Outcome → Result
  | .finished output => ⟨0, output, ""⟩
  | .failed output message => ⟨1, output, errorText message⟩
  | .usage .displayHelp => ⟨0, usageText, ""⟩
  | .usage error => ⟨2, "", "error: " ++ error.name ++ "\n\n" ++ usageText⟩
  | .serving output app =>
    ⟨1, output,
      errorText ("Cannot listen on " ++ app.settings.host ++ ":" ++ toString app.settings.port)⟩

end Command
end RecordFilter
