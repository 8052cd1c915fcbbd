import RecordFilter.Catalog.Catalog
import RecordFilter.Config.Settings

/-!
# RecordFilter.Server.App

What a server works with: settings, record types and records, and the origins whose pages may read its
answers.
-/

namespace RecordFilter

open Config (Node Overrides Place Settings)

structure App where
  settings : Settings
  registry : Registry
  database : Database

namespace App

def version : String := "0.3.0"

/-- A seed file takes the place of the sample products. -/
def seeded (path : String) : Node → Except DataError Database
  | .text content => (Store.ofText Catalog.produtos content).map Catalog.database
  | _ => .error (.unreadable path)

def seedFailure : String := "Failed to load record seed data"

def ofSeed (settings : Settings) (database : Except DataError Database) : Except String App :=
  match database with
  | .ok database => .ok ⟨settings, Catalog.registry, database⟩
  | .error _ => .error seedFailure

variable {m : Type → Type} [Monad m]

def load (place : Place m) (overrides : Overrides) : m (Except String App) := do
  match ← Config.load place overrides with
  | .error message => return .error message
  | .ok loaded =>
    match loaded.settings.seedPath with
    | none => return ofSeed loaded.settings (.ok Catalog.sampleDatabase)
    | some path => return ofSeed loaded.settings (seeded path (← place.look path))

end App

namespace Http

/-! ## Origins -/

/-- Whether a server on this host can be reached through every network. -/
def isAllInterfaces (host : String) : Bool := ["0.0.0.0", "::", "[::]"].contains host

/-- A local server is reached under both local names. -/
def hostNames (host : String) : List String :=
  if isAllInterfaces host || host == "127.0.0.1" || host == "localhost" then
    ["localhost", "127.0.0.1"]
  else [host]

def allowedOrigins (host : String) (port : Nat) : List String :=
  (hostNames host).flatMap fun name =>
    ["http://" ++ name ++ ":" ++ toString port, "http://" ++ name]

def isAllowed (host : String) (port : Nat) (origin : String) : Bool :=
  (allowedOrigins host port).contains origin

end Http
end RecordFilter
