import RecordFilter.Config.Settings

/-!
# RecordFilter.Proofs.Config.Layers

Layers of settings. A setting is looked up in a layer by itself (`Setting`), so one law speaks of all eight:

* `FileConfig.get?_merge`: merged files say of a setting what the upper one says, and what the lower one says
  where the upper one says nothing. How a section is merged does not show.
* `get?_settle`: the command line comes before the files and the defaults come behind them.
* `load_takes_first`: so a program that loads its settings takes each of them from the first layer that makes it,
  whatever the layers say of the others, and it does load them unless the file it is told to read is missing.
-/

namespace RecordFilter
namespace Config

/-! ## Settings -/

/-- The settings, with the types of their values. -/
inductive Setting : Type → Type where
  | host : Setting String
  | port : Setting Nat
  | orGroupErrors : Setting OrGroupErrors
  | orGroups : Setting GroupCombinator
  | jsonValues : Setting JsonValues
  | dateFallback : Setting DateFallback
  | dialect : Setting Sql.Dialect
  | seedPath : Setting String

namespace Setting

/-- What holds where no layer makes the setting. -/
@[simp]
def standard? : {α : Type} → Setting α → Option α
  | _, .host => some defaultHost
  | _, .port => some defaultPort
  | _, .orGroupErrors => some CompileOptions.standard.orGroupErrors
  | _, .orGroups => some CompileOptions.standard.orGroups
  | _, .jsonValues => some CompileOptions.standard.jsonValues
  | _, .dateFallback => some CompileOptions.standard.dateFallback
  | _, .dialect => some .postgres
  | _, .seedPath => none

/-- The value in force of the value that a layer gives: only a path is not taken as it is given. -/
@[simp]
def inForce (home cwd : String) : {α : Type} → Setting α → α → α
  | _, .seedPath => expandPath home cwd
  | _, .host | _, .port | _, .orGroupErrors | _, .orGroups | _, .jsonValues | _, .dateFallback | _, .dialect => id

end Setting

@[simp]
def FileConfig.get? (file : FileConfig) : {α : Type} → Setting α → Option α
  | _, .host => file.server.bind (·.host)
  | _, .port => file.server.bind (·.port)
  | _, .orGroupErrors => file.filters.bind (·.orGroupErrors)
  | _, .orGroups => file.filters.bind (·.orGroups)
  | _, .jsonValues => file.filters.bind (·.jsonValues)
  | _, .dateFallback => file.filters.bind (·.dateFallback)
  | _, .dialect => file.sql.bind (·.dialect)
  | _, .seedPath => file.catalog.bind (·.seedPath)

/-- The command line has no words for some of the settings. -/
@[simp]
def Overrides.get? (overrides : Overrides) : {α : Type} → Setting α → Option α
  | _, .host => overrides.host
  | _, .port => overrides.port
  | _, .orGroupErrors => overrides.orGroupErrors
  | _, .dialect => overrides.dialect
  | _, .seedPath => overrides.seedPath
  | _, .orGroups | _, .jsonValues | _, .dateFallback => Option.none

/-- Only the seed path may be without a value. -/
@[simp]
def Settings.get? (settings : Settings) : {α : Type} → Setting α → Option α
  | _, .host => some settings.host
  | _, .port => some settings.port
  | _, .orGroupErrors => some settings.filters.orGroupErrors
  | _, .orGroups => some settings.filters.orGroups
  | _, .jsonValues => some settings.filters.jsonValues
  | _, .dateFallback => some settings.filters.dateFallback
  | _, .dialect => some settings.dialect
  | _, .seedPath => settings.seedPath

variable {α : Type}

theorem Settings.eq_of_get? {settings settings' : Settings}
    (h : ∀ {α : Type} (setting : Setting α), settings.get? setting = settings'.get? setting) :
    settings = settings' := by
  obtain ⟨host, port, ⟨errors, groups, values, fallback⟩, dialect, seedPath⟩ := settings
  obtain ⟨host', port', ⟨errors', groups', values', fallback'⟩, dialect', seedPath'⟩ := settings'
  have hhost := h .host
  have hport := h .port
  have herrors := h .orGroupErrors
  have hgroups := h .orGroups
  have hvalues := h .jsonValues
  have hfallback := h .dateFallback
  have hdialect := h .dialect
  have hseedPath := h .seedPath
  simp_all

/-! ## Files over files -/

namespace FileConfig

theorem get?_empty (setting : Setting α) : empty.get? setting = none := by
  cases setting <;> rfl

/-- A file says of a setting what it said alone, except where the file above it says something. -/
theorem get?_merge (base top : FileConfig) (setting : Setting α) :
    (base.merge top).get? setting = (top.get? setting).or (base.get? setting) := by
  obtain ⟨server, filters, sql, catalog, -⟩ := base
  obtain ⟨server', filters', sql', catalog', -⟩ := top
  cases setting with
  | host | port => cases server' <;> cases server <;> simp [merge, mergeServer]
  | orGroupErrors | orGroups | jsonValues | dateFallback =>
    cases filters' <;> cases filters <;> simp [merge, mergeFilters]
  -- A section without its only setting leaves the section below it as it is.
  | dialect => obtain _ | ⟨_ | dialect⟩ := sql' <;> simp [merge, mergeSql]
  | seedPath => obtain _ | ⟨_ | path⟩ := catalog' <;> simp [merge, mergeCatalog]

/-- Of any number of files the last that makes the setting counts. -/
theorem get?_foldl_merge (files : List FileConfig) (base : FileConfig) (setting : Setting α) :
    (files.foldl merge base).get? setting =
      (files.reverse.findSome? fun file => file.get? setting).or (base.get? setting) := by
  induction files generalizing base with
  | nil => simp
  | cons file files ih =>
    rw [List.foldl_cons, ih, get?_merge, List.reverse_cons, List.findSome?_append, Option.or_assoc,
      List.findSome?_singleton]

end FileConfig

/-! ## Command line and defaults -/

theorem get?_settle (home cwd : String) (overrides : Overrides) (file : FileConfig) (setting : Setting α) :
    (settle home cwd overrides file).get? setting =
      (((overrides.get? setting).or (file.get? setting)).or setting.standard?).map (setting.inForce home cwd) := by
  obtain ⟨server, filters, sql, catalog, -⟩ := file
  cases setting with
  | host | port => cases server <;> simp [settle, Option.or_some]
  | orGroupErrors | orGroups | jsonValues | dateFallback => cases filters <;> simp [settle, Option.or_some]
  | dialect => cases sql <;> simp [settle, Option.or_some]
  | seedPath => cases catalog <;> simp [settle]

theorem get?_layered (home cwd : String) (overrides : Overrides) (files : List FileConfig) (setting : Setting α) :
    (layered home cwd overrides files).get? setting =
      ((overrides.get? setting).or
        ((files.reverse.findSome? fun file => file.get? setting).or setting.standard?)).map
        (setting.inForce home cwd) := by
  rw [layered, get?_settle, FileConfig.get?_foldl_merge, FileConfig.get?_empty, Option.or_none, Option.or_assoc]

/-! ## Loading -/

/-- The layer that a path leads to: none if there is no file, and else what the file is read as. -/
inductive Holds : Node → Option FileConfig → Prop where
  | absent : Holds .missing none
  | text {content : String} {file : FileConfig} (h : File.parse? content = some file) :
      Holds (.text content) (some file)

/-- A place whose files are known. -/
def FileTree.place (tree : FileTree) (home cwd : String) : Place Id := ⟨home, cwd, tree.look cwd⟩

theorem FileTree.look_place {tree : FileTree} {home cwd path : String} {node : Node}
    (h : tree.look cwd path = node) : (tree.place home cwd).look path = pure node := h

section Loading

variable {profile overlay : Node} {profileFile overlayFile : Option FileConfig}

theorem readFile_of_holds (path : String) (h : Holds overlay overlayFile) :
    readFile path overlay = .ok overlayFile := by
  cases h with
  | absent => rfl
  | text hparse => rw [readFile, hparse]

/-- The file that the command line names is missing. -/
def LacksOverlay (overrides : Overrides) (overlay : Node) : Prop :=
  overrides.config ≠ none ∧ overlay = .missing

theorem readOverlay_of_lacksOverlay (home cwd : String) {overrides : Overrides}
    (h : LacksOverlay overrides overlay) :
    readOverlay home cwd overrides overlay =
      .error ("Config file not found: " ++ overlayPath home cwd overrides) := by
  obtain ⟨hconfig, rfl⟩ := h
  obtain ⟨path, hpath⟩ := Option.ne_none_iff_exists'.1 hconfig
  simp only [readOverlay, hpath]

theorem readOverlay_of_holds (home cwd : String) {overrides : Overrides} (h : Holds overlay overlayFile)
    (hnamed : ¬ LacksOverlay overrides overlay) :
    readOverlay home cwd overrides overlay = .ok overlayFile := by
  rw [readOverlay]
  · exact readFile_of_holds _ h
  · rintro path rfl hconfig
    exact hnamed ⟨by simp [hconfig], rfl⟩

variable {m : Type → Type} [Monad m] [LawfulMonad m] {place : Place m} {overrides : Overrides}

theorem load_eq_pure (hprofile : place.look (profilePath place.home) = pure profile)
    (hoverlay : place.look (overlayPath place.home place.cwd overrides) = pure overlay) :
    load place overrides =
      pure ((readFiles place.home place.cwd overrides profile overlay).map fun files =>
        ⟨layered place.home place.cwd overrides files, files⟩) := by
  rw [load, hprofile, pure_bind, hoverlay, pure_bind]

theorem readFiles_of_lacksOverlay (home cwd : String) {overrides : Overrides} (hprofile : Holds profile profileFile)
    (h : LacksOverlay overrides overlay) :
    readFiles home cwd overrides profile overlay =
      .error ("Config file not found: " ++ overlayPath home cwd overrides) := by
  simp only [readFiles, readFile_of_holds _ hprofile, readOverlay_of_lacksOverlay _ _ h]

theorem readFiles_of_holds (home cwd : String) {overrides : Overrides} (hprofile : Holds profile profileFile)
    (hoverlay : Holds overlay overlayFile) (h : ¬ LacksOverlay overrides overlay) :
    readFiles home cwd overrides profile overlay = .ok (profileFile.toList ++ overlayFile.toList) := by
  simp only [readFiles, readFile_of_holds _ hprofile, readOverlay_of_holds _ _ hoverlay h]

/-- Every setting comes from the first layer that makes it: the command line, the overlay file, the profile file
or the defaults. What the layers say of other settings does not count. Only if the command line names a file
that does not exist, there are no settings. -/
theorem load_takes_first (hlookProfile : place.look (profilePath place.home) = pure profile)
    (hlookOverlay : place.look (overlayPath place.home place.cwd overrides) = pure overlay)
    (hprofile : Holds profile profileFile) (hoverlay : Holds overlay overlayFile) :
    (LacksOverlay overrides overlay → load place overrides =
      pure (.error ("Config file not found: " ++ overlayPath place.home place.cwd overrides))) ∧
    (¬ LacksOverlay overrides overlay → ∃ loaded, load place overrides = pure (.ok loaded) ∧
      ∀ {α : Type} (setting : Setting α), loaded.settings.get? setting =
        ((overrides.get? setting).or
          ((overlayFile.bind fun file => file.get? setting).or
            ((profileFile.bind fun file => file.get? setting).or setting.standard?))).map
          (setting.inForce place.home place.cwd)) := by
  rw [load_eq_pure hlookProfile hlookOverlay]
  constructor
  · intro hlacks
    rw [readFiles_of_lacksOverlay _ _ hprofile hlacks]
    rfl
  · intro hnamed
    rw [readFiles_of_holds _ _ hprofile hoverlay hnamed]
    refine ⟨_, rfl, fun setting => ?_⟩
    rw [get?_layered, List.reverse_append, List.findSome?_append, Option.or_assoc]
    cases overlayFile <;> cases profileFile <;> simp

/-- What is named must exist: the layers that there are do not make up for it. -/
theorem load_missing_overlay :
    let place := FileTree.place ⟨[]⟩ "/home/ana" "/work"
    let overrides : Overrides := { Overrides.none with config := some "missing.json" }
    Holds (place.look (profilePath place.home)) none ∧
      Holds (place.look (overlayPath place.home place.cwd overrides)) none ∧
      load place overrides = .error "Config file not found: /work/missing.json" ∧
      ¬ ∃ loaded, load place overrides = .ok loaded := by
  intro place overrides
  have hprofile : place.look (profilePath place.home) = pure .missing := FileTree.look_place (by decide)
  have hoverlay : place.look (overlayPath place.home place.cwd overrides) = pure .missing :=
    FileTree.look_place (by decide)
  have hload : load place overrides = .error "Config file not found: /work/missing.json" := by
    have hlacks : LacksOverlay overrides .missing := ⟨Option.some_ne_none _, rfl⟩
    have hmessage : "Config file not found: " ++ overlayPath "/home/ana" "/work" overrides =
        "Config file not found: /work/missing.json" := by decide
    rw [load_eq_pure hprofile hoverlay, readFiles_of_lacksOverlay _ _ .absent hlacks]
    exact congrArg Except.error hmessage
  refine ⟨hprofile ▸ .absent, hoverlay ▸ .absent, hload, ?_⟩
  rintro ⟨loaded, hloaded⟩
  rw [hload] at hloaded
  cases hloaded

/-- Two files that leave out settings: a section, members of one, and all members of one. -/
def twoFiles : FileTree :=
  ⟨[(["home", "ana", ".sieve", "sieve.json"], .text
      "\x7b\"server\": \x7b\"host\": \"::\", \"port\": 80\x7d, \"catalog\": \x7b\"seed_path\": \"~/s.json\"\x7d\x7d"),
    (["work", "sieve.json"], .text
      "\x7b\"server\": \x7b\"port\": 90\x7d, \"filters\": \x7b\"or_groups\": \"and\"\x7d, \"catalog\": \x7b\x7d\x7d")]⟩

theorem load_takes_first_twoFiles :
    let overrides : Overrides := { Overrides.none with dialect := some .sqlite }
    ∃ loaded, load (twoFiles.place "/home/ana" "/work") overrides = .ok loaded ∧
      loaded.settings = ⟨"::", 90, ⟨.skip, .and, .and, .substring⟩, .sqlite, some "/home/ana/s.json"⟩ := by
  intro overrides
  have hprofile : Holds (twoFiles.look "/work" (profilePath "/home/ana"))
      (some ⟨some ⟨some "::", some 80⟩, none, none, some ⟨some "~/s.json"⟩, []⟩) := .text (by decide +kernel)
  have hoverlay : Holds (twoFiles.look "/work" fileName)
      (some ⟨some ⟨none, some 90⟩, some ⟨none, some .and, none, none⟩, none, some ⟨none⟩, []⟩) :=
    .text (by decide +kernel)
  have hlook : (twoFiles.place "/home/ana" "/work").look (overlayPath "/home/ana" "/work" overrides) =
      pure (twoFiles.look "/work" fileName) := rfl
  obtain ⟨loaded, hload, hsettings⟩ :=
    (load_takes_first (FileTree.look_place rfl) hlook hprofile hoverlay).2 fun hlacks => hlacks.1 rfl
  refine ⟨loaded, hload, Settings.eq_of_get? fun setting => (hsettings setting).trans ?_⟩
  cases setting <;> decide

end Loading

end Config
end RecordFilter
