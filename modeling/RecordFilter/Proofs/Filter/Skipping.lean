import RecordFilter.Proofs.Filter.Meaning

/-!
# RecordFilter.Proofs.Filter.Skipping

Leaving out the branches of a group that make no condition. A request is compiled twice, with the choices
that differ in this one only:

* where such branches are left out, the report lists exactly them, and only a plain key or the order can
  make the request fail;
* where they are not, the first plain key or branch that makes no condition does, and what compiles is
  what compiles in the other way with an empty report.

`compile_failing_and_skipping` says all of it.
-/

namespace RecordFilter

namespace CompileOptions

/-- The same choices, but a branch that makes no condition is left out. -/
def skipping (options : CompileOptions) : CompileOptions := { options with orGroupErrors := .skip }

/-- The same choices, but a branch that makes no condition makes the request fail. -/
def failing (options : CompileOptions) : CompileOptions := { options with orGroupErrors := .fail }

end CompileOptions

/-! ## Report and errors -/

/-- The branches that make no condition on their own, with the reasons. -/
def Entry.failures (schema : Schema) (options : CompileOptions) (entry : Entry) : List SkippedBranch :=
  entry.branches.filterMap fun name =>
    (errorOf? (Compile.key schema options name entry.values)).map fun error =>
      ⟨entry.key, name, error.code, error.message⟩

/-- Everything that is compiled on its own: plain keys and branches, with their values. -/
def Request.attempts (request : Request) : List (String × List String) :=
  request.conditions.flatMap fun entry => entry.names.map fun name => (name, entry.values)

/-- The error of the first plain key that makes no condition. -/
def Request.plainError? (schema : Schema) (options : CompileOptions) (request : Request) :
    Option FilterError :=
  firstError? (fun entry => Compile.key schema options entry.key entry.values) request.plainEntries

/-- The error of the first plain key or branch that makes no condition. -/
def Request.attemptError? (schema : Schema) (options : CompileOptions) (request : Request) :
    Option FilterError :=
  firstError? (fun attempt => Compile.key schema options attempt.1 attempt.2) request.attempts

/-- The error of the field by which to order. -/
def Request.orderError? (schema : Schema) (request : Request) : Option FilterError :=
  errorOf? (OrderClause.build schema request.sortSpec.field request.sortSpec.direction)

namespace Compile

variable {schema : Schema} {options : CompileOptions} {entry : Entry} {name : String}

/-! ## Branches -/

def Branch.reason? : Branch → Option SkippedBranch
  | .built _ => none
  | .skipped reason => some reason

/-- What becomes of a branch that may be left out. -/
def skipFailed (entry : Entry) (name : String) : Except FilterError Predicate → Branch
  | .ok p => .built p
  | .error error => .skipped ⟨entry.key, name, error.code, error.message⟩

theorem branch_skipping :
    branch schema options.skipping entry name =
      .ok (skipFailed entry name (key schema options name entry.values)) := by
  have hkey : key schema options.skipping name entry.values = key schema options name entry.values := rfl
  rw [branch, hkey]
  cases key schema options name entry.values <;> rfl

theorem branch_failing :
    branch schema options.failing entry name =
      (key schema options name entry.values).map .built := by
  have hkey : key schema options.failing name entry.values = key schema options name entry.values := rfl
  rw [branch, hkey]
  cases key schema options name entry.values <;> rfl

theorem reason?_skipFailed :
    (skipFailed entry name (key schema options name entry.values)).reason? =
      (errorOf? (key schema options name entry.values)).map fun error =>
        ⟨entry.key, name, error.code, error.message⟩ := by
  cases key schema options name entry.values <;> rfl

theorem branch_failing_eq_ok_iff (name : String) (b : Branch) :
    branch schema options.failing entry name = .ok b ↔
      branch schema options.skipping entry name = .ok b ∧ b.reason? = none := by
  rw [branch_failing, branch_skipping]
  cases key schema options name entry.values with
  | error e =>
    simp only [Except.map, reduceCtorEq, skipFailed, Except.ok.injEq, false_iff, not_and]
    rintro rfl
    simp [Branch.reason?]
  | ok p =>
    simp only [Except.map, skipFailed, Except.ok.injEq, iff_self_and]
    rintro rfl
    rfl

/-! ## Entries -/

def Part.skippedBranches : Part → List SkippedBranch
  | .plain _ => []
  | .group _ skipped => skipped

/-- The part that the branches of a group make. -/
def groupOf (branches : List Branch) : Part :=
  match builtBranches branches with
  | [] => .group none (skippedBranches branches)
  | built => .group (some (Predicate.disjunction built)) (skippedBranches branches)

theorem group_eq :
    group schema options entry = (entry.branches.mapM (branch schema options entry)).map groupOf := rfl

theorem skippedBranches_groupOf (branches : List Branch) :
    (groupOf branches).skippedBranches = branches.filterMap Branch.reason? := by
  unfold groupOf
  split <;> rfl

theorem group_skipping (schema : Schema) (options : CompileOptions) (entry : Entry) :
    ∃ branches, group schema options.skipping entry = .ok (groupOf branches) ∧
      (groupOf branches).skippedBranches = entry.failures schema options := by
  refine ⟨entry.branches.map fun name =>
    skipFailed entry name (key schema options name entry.values), ?_, ?_⟩
  · have hbranch : branch schema options.skipping entry = fun name =>
        .ok (skipFailed entry name (key schema options name entry.values)) :=
      funext fun name => branch_skipping
    rw [group_eq, hbranch, mapM_ok]
    rfl
  · rw [skippedBranches_groupOf, List.filterMap_map, Entry.failures]
    exact congrArg (List.filterMap · entry.branches) (funext fun name => reason?_skipFailed)

theorem group_failing_eq_ok_iff (part : Part) :
    group schema options.failing entry = .ok part ↔
      group schema options.skipping entry = .ok part ∧ part.skippedBranches = [] := by
  rw [group_eq, group_eq, map_eq_ok_iff, map_eq_ok_iff]
  simp only [mapM_eq_ok_iff_of_stricter branch_failing_eq_ok_iff]
  constructor
  · rintro ⟨branches, ⟨hm, hnone⟩, rfl⟩
    refine ⟨⟨branches, hm, rfl⟩, ?_⟩
    rw [skippedBranches_groupOf, List.filterMap_eq_nil_iff]
    exact hnone
  · rintro ⟨⟨branches, hm, rfl⟩, hempty⟩
    rw [skippedBranches_groupOf, List.filterMap_eq_nil_iff] at hempty
    exact ⟨branches, ⟨hm, hempty⟩, rfl⟩

theorem part_failing_eq_ok_iff (entry : Entry) (part' : Part) :
    part schema options.failing entry = .ok part' ↔
      part schema options.skipping entry = .ok part' ∧ part'.skippedBranches = [] := by
  cases hg : entry.isGroup with
  | true =>
    rw [part_of_group hg, part_of_group hg]
    exact group_failing_eq_ok_iff part'
  | false =>
    have hkey : key schema options.failing entry.key entry.values =
        key schema options.skipping entry.key entry.values := rfl
    rw [part_of_plain hg, part_of_plain hg, hkey, map_eq_ok_iff, iff_self_and]
    rintro ⟨p, _, rfl⟩
    rfl

theorem skippedBranches_of_part_skipping {part' : Part}
    (h : part schema options.skipping entry = .ok part') :
    part'.skippedBranches = if entry.isGroup then entry.failures schema options else [] := by
  cases hg : entry.isGroup with
  | true =>
    obtain ⟨branches, hbranches, hfailures⟩ := group_skipping schema options entry
    rw [part_of_group hg, hbranches] at h
    cases h
    exact hfailures
  | false =>
    rw [part_of_plain hg, map_eq_ok_iff] at h
    obtain ⟨p, _, rfl⟩ := h
    rfl

/-- An entry that may leave branches out fails only as a plain key. -/
theorem errorOf?_part_skipping (entry : Entry) :
    errorOf? (part schema options.skipping entry) =
      if entry.isGroup then none else errorOf? (key schema options entry.key entry.values) := by
  cases hg : entry.isGroup with
  | true =>
    obtain ⟨branches, hbranches, -⟩ := group_skipping schema options entry
    rw [part_of_group hg, hbranches]
    rfl
  | false =>
    rw [part_of_plain hg, errorOf?_map]
    rfl

/-- An entry that must not leave branches out fails with its first name that makes no condition. -/
theorem errorOf?_part_failing (entry : Entry) :
    errorOf? (part schema options.failing entry) =
      firstError? (fun attempt => key schema options attempt.1 attempt.2)
        (entry.names.map fun name => (name, entry.values)) := by
  have hmap : firstError? (fun attempt => key schema options attempt.1 attempt.2)
      (entry.names.map fun name => (name, entry.values)) =
        firstError? (fun name => key schema options name entry.values) entry.names :=
    List.findSome?_map
  rw [hmap]
  cases hg : entry.isGroup with
  | true =>
    have hnames : entry.names = entry.branches := by simp [Entry.names, hg]
    rw [part_of_group hg, group_eq, errorOf?_map, errorOf?_mapM, hnames]
    apply firstError?_congr
    intro name _
    rw [branch_failing, errorOf?_map]
  | false =>
    have hnames : entry.names = [entry.key] := by simp [Entry.names, hg]
    rw [part_of_plain hg, errorOf?_map, hnames, firstError?_cons]
    exact (Option.or_none).symm

end Compile

/-! ## Requests -/

variable {schema : Schema} {options : CompileOptions} {request : Request}

theorem skippedParts_of_skipping {parts : List Compile.Part}
    (h : request.conditions.mapM (Compile.part schema options.skipping) = .ok parts) :
    Compile.skippedParts parts = request.groups.flatMap (Entry.failures schema options) := by
  have hparts : Compile.skippedParts parts = parts.flatMap Compile.Part.skippedBranches := rfl
  rw [hparts, flatMap_of_mapM h fun entry _ part hp => Compile.skippedBranches_of_part_skipping hp,
    Request.groups]
  induction request.conditions with
  | nil => rfl
  | cons entry entries ih =>
    rw [List.flatMap_cons, List.filter_cons, ih]
    cases entry.isGroup <;> rfl

theorem errorOf?_compile_skipping :
    errorOf? (compile schema options.skipping request) =
      (request.plainError? schema options).or (request.orderError? schema) := by
  have hentries : firstError? (Compile.part schema options.skipping) request.conditions =
      request.plainError? schema options := by
    rw [Request.plainError?, Request.plainEntries, ← firstError?_filter (p := fun entry => !entry.isGroup)]
    · apply firstError?_congr
      intro entry hm
      have hplain := (List.mem_filter.1 hm).2
      rw [Compile.errorOf?_part_skipping, if_neg]
      simpa using hplain
    · intro entry _ hgroup
      rw [Compile.errorOf?_part_skipping, if_pos]
      simpa using hgroup
  rw [errorOf?_compile, hentries]
  rfl

theorem errorOf?_compile_failing :
    errorOf? (compile schema options.failing request) =
      (request.attemptError? schema options).or (request.orderError? schema) := by
  have hentries : firstError? (Compile.part schema options.failing) request.conditions =
      request.attemptError? schema options :=
    firstError?_flatMap fun entry _ => Compile.errorOf?_part_failing entry
  rw [errorOf?_compile, hentries]
  rfl

theorem compile_failing_eq_ok_iff (query : CompiledQuery) :
    compile schema options.failing request = .ok query ↔
      compile schema options.skipping request = .ok query ∧ query.skipped = [] := by
  rw [compile_eq_ok_iff, compile_eq_ok_iff]
  simp only [mapM_eq_ok_iff_of_stricter Compile.part_failing_eq_ok_iff]
  constructor
  · rintro ⟨parts, order, ⟨hm, hempty⟩, horder, rfl⟩
    exact ⟨⟨parts, order, hm, horder, rfl⟩, List.flatMap_eq_nil_iff.2 hempty⟩
  · rintro ⟨⟨parts, order, hm, horder, rfl⟩, hempty⟩
    exact ⟨parts, order, ⟨hm, List.flatMap_eq_nil_iff.1 hempty⟩, horder, rfl⟩

/-- With and without leaving branches out:

* what compiles without it is what compiles with it and an empty report;
* the report lists the branches that make no condition on their own, in order;
* with it only a plain key fails, the first one, or else the order;
* without it the first plain key or branch fails, or else the order. -/
theorem compile_failing_and_skipping (schema : Schema) (options : CompileOptions) (request : Request) :
    (∀ query, compile schema options.failing request = .ok query ↔
        compile schema options.skipping request = .ok query ∧ query.skipped = []) ∧
      (∀ query, compile schema options.skipping request = .ok query →
        query.skipped = request.groups.flatMap (Entry.failures schema options)) ∧
      errorOf? (compile schema options.skipping request) =
        (request.plainError? schema options).or (request.orderError? schema) ∧
      errorOf? (compile schema options.failing request) =
        (request.attemptError? schema options).or (request.orderError? schema) := by
  refine ⟨compile_failing_eq_ok_iff, ?_, errorOf?_compile_skipping, errorOf?_compile_failing⟩
  intro query h
  obtain ⟨parts, order, hm, _, rfl⟩ := compile_eq_ok_iff.1 h
  exact skippedParts_of_skipping hm

/-- A group of which the second and the third branch make no condition, before a plain key that makes
none and a field to order by that does not exist. -/
theorem compile_failing_and_skipping_produtos :
    let request : Request :=
      ⟨[⟨"nome! cor !peso", ["cafe"]⟩, ⟨"estoque", ["muito"]⟩, ⟨"sortBy", ["sabor"]⟩]⟩
    errorOf? (compile Catalog.produtosSchema CompileOptions.standard.skipping request) =
        some (.valueConversion "estoque" "muito" "integer32") ∧
      errorOf? (compile Catalog.produtosSchema CompileOptions.standard.failing request) =
        some (.unresolvedField "cor" "cor" "produtos") ∧
      ∃ query, compile Catalog.produtosSchema CompileOptions.standard.skipping
          ⟨[⟨"nome! cor !peso", ["cafe"]⟩]⟩ = .ok query ∧
        query.skipped.map (·.key) = ["cor", "peso"] := by
  obtain ⟨-, -, hskipping, hfailing⟩ := compile_failing_and_skipping Catalog.produtosSchema .standard
    ⟨[⟨"nome! cor !peso", ["cafe"]⟩, ⟨"estoque", ["muito"]⟩, ⟨"sortBy", ["sabor"]⟩]⟩
  obtain ⟨-, hreport, -, -⟩ := compile_failing_and_skipping Catalog.produtosSchema .standard
    ⟨[⟨"nome! cor !peso", ["cafe"]⟩]⟩
  have hcompile : ∃ query, compile Catalog.produtosSchema CompileOptions.standard.skipping
      ⟨[⟨"nome! cor !peso", ["cafe"]⟩]⟩ = .ok query := ⟨_, rfl⟩
  obtain ⟨query, hquery⟩ := hcompile
  refine ⟨hskipping.trans rfl, hfailing.trans rfl, query, hquery, ?_⟩
  rw [hreport query hquery]
  rfl

end RecordFilter
