import RecordFilter.Config.File
import RecordFilter.Config.FileTree

/-!
# RecordFilter.Config.Settings

The settings in force. They come from four layers: what is given on the command line, the overlay file,
the profile file and the defaults. Each setting is taken from the first layer that makes it.
-/

namespace RecordFilter
namespace Config

/-- What the command line says; `config` names the overlay file. -/
structure Overrides where
  host : Option String
  port : Option Nat
  config : Option String
  dialect : Option Sql.Dialect
  orGroupErrors : Option OrGroupErrors
  seedPath : Option String
deriving DecidableEq, Repr

def Overrides.none : Overrides := ⟨.none, .none, .none, .none, .none, .none⟩

structure Settings where
  host : String
  port : Nat
  filters : CompileOptions
  dialect : Sql.Dialect
  seedPath : Option String
deriving DecidableEq, Repr

/-! ## Layers -/

namespace FileConfig

def mergeServer (base : Option ServerSection) : Option ServerSection → Option ServerSection
  | none => base
  | some top =>
    let below := base.getD ⟨none, none⟩
    some ⟨top.host.or below.host, top.port.or below.port⟩

def mergeFilters (base : Option FiltersSection) : Option FiltersSection → Option FiltersSection
  | none => base
  | some top =>
    let below := base.getD ⟨none, none, none, none⟩
    some ⟨top.orGroupErrors.or below.orGroupErrors, top.orGroups.or below.orGroups,
      top.jsonValues.or below.jsonValues, top.dateFallback.or below.dateFallback⟩

def mergeSql (base : Option SqlSection) : Option SqlSection → Option SqlSection
  | some ⟨some dialect⟩ => some ⟨some dialect⟩
  | _ => base

def mergeCatalog (base : Option CatalogSection) : Option CatalogSection → Option CatalogSection
  | some ⟨some seedPath⟩ => some ⟨some seedPath⟩
  | _ => base

/-- The settings of `top`, and those of `base` that `top` does not make. -/
def merge (base top : FileConfig) : FileConfig :=
  { server := mergeServer base.server top.server
    filters := mergeFilters base.filters top.filters
    sql := mergeSql base.sql top.sql
    catalog := mergeCatalog base.catalog top.catalog
    unknown := base.unknown }

end FileConfig

def defaultHost : String := "127.0.0.1"

def defaultPort : Nat := 5390

def settle (home cwd : String) (overrides : Overrides) (file : FileConfig) : Settings :=
  let server := file.server.getD ⟨none, none⟩
  let filters := file.filters.getD ⟨none, none, none, none⟩
  let sql := file.sql.getD ⟨none⟩
  let catalog := file.catalog.getD ⟨none⟩
  let standard := CompileOptions.standard
  { host := (overrides.host.or server.host).getD defaultHost
    port := (overrides.port.or server.port).getD defaultPort
    filters :=
      { orGroupErrors :=
          (overrides.orGroupErrors.or filters.orGroupErrors).getD standard.orGroupErrors
        orGroups := filters.orGroups.getD standard.orGroups
        jsonValues := filters.jsonValues.getD standard.jsonValues
        dateFallback := filters.dateFallback.getD standard.dateFallback }
    dialect := (overrides.dialect.or sql.dialect).getD .postgres
    seedPath := (overrides.seedPath.or catalog.seedPath).map (expandPath home cwd) }

/-- The files of both layers, where they exist, profile first. -/
def layered (home cwd : String) (overrides : Overrides) (files : List FileConfig) : Settings :=
  settle home cwd overrides (files.foldl FileConfig.merge FileConfig.empty)

/-! ## Files -/

/-- Where the program runs, and how it looks up a path. -/
structure Place (m : Type → Type) where
  home : String
  cwd : String
  look : String → m Node

def fileName : String := "sieve.json"

def profilePath (home : String) : String :=
  String.ofList (joinPath (joinPath home.toList ".sieve".toList) fileName.toList)

/-- A file that does not exist is no layer. -/
def readFile (path : String) : Node → Except String (Option FileConfig)
  | .missing => .ok none
  | .directory => .error ("Failed to read config file: " ++ path)
  | .text content =>
    match File.parse? content with
    | some file => .ok (some file)
    | none => .error ("Failed to parse config file: " ++ path)

/-- A file that is asked for must exist; without one the file in the working directory counts. -/
def overlayPath (home cwd : String) (overrides : Overrides) : String :=
  match overrides.config with
  | some path => expandPath home cwd path
  | none => fileName

def readOverlay (home cwd : String) (overrides : Overrides) (node : Node) :
    Except String (Option FileConfig) :=
  let path := overlayPath home cwd overrides
  match node, overrides.config with
  | .missing, some _ => .error ("Config file not found: " ++ path)
  | node, _ => readFile path node

/-- The files that count, profile first, from what their paths lead to. -/
def readFiles (home cwd : String) (overrides : Overrides) (profile overlay : Node) :
    Except String (List FileConfig) :=
  match readFile (profilePath home) profile with
  | .error message => .error message
  | .ok profile =>
    match readOverlay home cwd overrides overlay with
    | .error message => .error message
    | .ok overlay => .ok (profile.toList ++ overlay.toList)

structure Loaded where
  settings : Settings
  files : List FileConfig

variable {m : Type → Type} [Monad m]

def load (place : Place m) (overrides : Overrides) : m (Except String Loaded) := do
  let profile ← place.look (profilePath place.home)
  let overlay ← place.look (overlayPath place.home place.cwd overrides)
  return (readFiles place.home place.cwd overrides profile overlay).map fun files =>
    ⟨layered place.home place.cwd overrides files, files⟩

/-! ## Warnings -/

/-- For each file that has any, its unknown member names. -/
def unknownFields (files : List FileConfig) : List String :=
  (files.filter fun file => !file.unknown.isEmpty).map fun file => Text.joined ", " file.unknown

end Config
end RecordFilter
