import RecordFilter.Proofs.Filter.Conditions
import RecordFilter.Proofs.Filter.Sequence

/-!
# RecordFilter.Proofs.Filter.Compilation

What a compiled request is made of. The entries of a request that count (`Request.conditions`) are plain
or groups; a plain entry has one name, its key, and a group has its branches (`Entry.names`). An entry counts
if its key is not reserved and it has a value (`mem_conditions_iff`).

* `mem_plainParts_iff`: the plain parts are the conditions of the plain keys.
* `mem_groupParts_elim`, `mem_groupParts_intro`: the groups are those with a branch that compiles.
* `compile_eq_ok_iff`, `errorOf?_compile`: a request compiles if its entries and its order do, and fails
  with the first entry that fails, or else with its order.
* `compile_induction`: what holds of the condition of every name and is kept by combination holds of the
  whole condition.
-/

namespace RecordFilter

namespace Entry

def isGroup (entry : Entry) : Bool := entry.key.toList.contains groupSeparator

/-- The keys between the separators (`Compile.mem_namesIn_iff`). -/
def branches (entry : Entry) : List String := Compile.namesIn groupSeparator entry.key

def names (entry : Entry) : List String := if entry.isGroup then entry.branches else [entry.key]

end Entry

/-- The entries that filter and have a value. -/
def Request.conditions (request : Request) : List Entry :=
  request.filters.filter fun entry => !entry.values.isEmpty

theorem Request.mem_conditions_iff {request : Request} {entry : Entry} :
    entry ∈ request.conditions ↔
      entry ∈ request.entries ∧ entry.key ∉ Request.reservedKeys ∧ entry.values ≠ [] := by
  simp [conditions, mem_filters_iff, and_assoc]

namespace Compile

variable {schema : Schema} {options : CompileOptions} {entry : Entry} {entries : List Entry}
  {parts : List Part} {p : Predicate}

/-! ## Branches -/

/-- `built` are the conditions of the branches of the entry that compile. -/
def AreBranches (schema : Schema) (options : CompileOptions) (entry : Entry) (built : List Predicate) :
    Prop :=
  ∀ p, p ∈ built ↔ ∃ name ∈ entry.branches, key schema options name entry.values = .ok p

theorem mem_builtBranches {branches : List Branch} :
    p ∈ builtBranches branches ↔ Branch.built p ∈ branches := by
  rw [builtBranches, List.mem_filterMap]
  constructor
  · rintro ⟨branch, hm, h⟩
    cases branch with
    | built q => cases h; exact hm
    | skipped reason => cases h
  · intro h
    exact ⟨_, h, rfl⟩

theorem branch_eq_built_iff {name : String} :
    branch schema options entry name = .ok (.built p) ↔
      key schema options name entry.values = .ok p := by
  rw [branch]
  cases key schema options name entry.values with
  | ok q => simp
  | error e => cases options.orGroupErrors <;> simp

theorem areBranches_of_mapM {branches : List Branch}
    (h : entry.branches.mapM (branch schema options entry) = .ok branches) :
    AreBranches schema options entry (builtBranches branches) := by
  intro p
  rw [mem_builtBranches, mem_of_mapM_eq_ok h]
  simp only [branch_eq_built_iff]

/-! ## Parts -/

theorem group_spec {part : Part} (h : group schema options entry = .ok part) :
    ∃ built skipped, AreBranches schema options entry built ∧
      part = .group (if built = [] then none else some (Predicate.disjunction built)) skipped := by
  rw [group] at h
  cases hm : (namesIn groupSeparator entry.key).mapM (branch schema options entry) with
  | error e => rw [hm] at h; cases h
  | ok branches =>
    rw [hm] at h; cases h
    refine ⟨builtBranches branches, skippedBranches branches, areBranches_of_mapM hm, ?_⟩
    cases hb : builtBranches branches with
    | nil => simp only [hb, if_true]
    | cons q built => simp only [hb, if_neg (List.cons_ne_nil q built)]

theorem part_of_plain (h : entry.isGroup = false) :
    part schema options entry = (key schema options entry.key entry.values).map .plain := by
  unfold part
  exact if_neg fun hg => Bool.false_ne_true (h.symm.trans hg)

theorem part_of_group (h : entry.isGroup = true) :
    part schema options entry = group schema options entry := by
  unfold part
  exact if_pos h

theorem part_eq_plain_iff :
    part schema options entry = .ok (.plain p) ↔
      entry.isGroup = false ∧ key schema options entry.key entry.values = .ok p := by
  cases hg : entry.isGroup with
  | false =>
    rw [part_of_plain hg]
    cases key schema options entry.key entry.values <;> simp [Except.map]
  | true =>
    rw [part_of_group hg]
    constructor
    · intro h
      obtain ⟨built, skipped, _, hpart⟩ := group_spec h
      cases hpart
    · rintro ⟨h, _⟩
      cases h

theorem mem_plainParts : p ∈ plainParts parts ↔ Part.plain p ∈ parts := by
  rw [plainParts, List.mem_filterMap]
  constructor
  · rintro ⟨part, hm, h⟩
    cases part with
    | plain q => cases h; exact hm
    | group q skipped => cases h
  · intro h
    exact ⟨_, h, rfl⟩

theorem mem_groupParts : p ∈ groupParts parts ↔ ∃ skipped, Part.group (some p) skipped ∈ parts := by
  rw [groupParts, List.mem_filterMap]
  constructor
  · rintro ⟨part, hm, h⟩
    cases part with
    | plain q => cases h
    | group q skipped => cases h; exact ⟨skipped, hm⟩
  · rintro ⟨skipped, h⟩
    exact ⟨_, h, rfl⟩

theorem mem_plainParts_iff (h : entries.mapM (part schema options) = .ok parts) :
    p ∈ plainParts parts ↔ ∃ entry ∈ entries, entry.isGroup = false ∧
      key schema options entry.key entry.values = .ok p := by
  rw [mem_plainParts, mem_of_mapM_eq_ok h]
  simp only [part_eq_plain_iff]

/-- A group in the condition comes from an entry with a branch that compiles. -/
theorem mem_groupParts_elim (h : entries.mapM (part schema options) = .ok parts)
    (hp : p ∈ groupParts parts) :
    ∃ entry ∈ entries, entry.isGroup = true ∧ ∃ built, built ≠ [] ∧
      AreBranches schema options entry built ∧ p = Predicate.disjunction built := by
  obtain ⟨skipped, hm⟩ := mem_groupParts.1 hp
  obtain ⟨entry, he, hpart⟩ := (mem_of_mapM_eq_ok h _).1 hm
  cases hg : entry.isGroup with
  | false =>
    rw [part_of_plain hg] at hpart
    cases hk : key schema options entry.key entry.values <;> rw [hk] at hpart <;> cases hpart
  | true =>
    rw [part_of_group hg] at hpart
    obtain ⟨built, skipped', hb, heq⟩ := group_spec hpart
    refine ⟨entry, he, hg, built, ?_, hb, ?_⟩
    · rintro rfl; cases heq
    · split at heq
      · cases heq
      · cases heq; rfl

end Compile

/-! ## Whole request -/

section

variable {schema : Schema} {options : CompileOptions} {request : Request} {query : CompiledQuery}

theorem compile_eq :
    compile schema options request =
      match request.conditions.mapM (Compile.part schema options) with
      | .error error => .error error
      | .ok parts =>
        (OrderClause.build schema request.sortSpec.field request.sortSpec.direction).map fun order =>
          ⟨Compile.combine options parts, order, Compile.skippedParts parts⟩ := rfl

theorem compile_eq_ok_iff :
    compile schema options request = .ok query ↔
      ∃ parts order, request.conditions.mapM (Compile.part schema options) = .ok parts ∧
        OrderClause.build schema request.sortSpec.field request.sortSpec.direction = .ok order ∧
        query = ⟨Compile.combine options parts, order, Compile.skippedParts parts⟩ := by
  rw [compile_eq]
  cases request.conditions.mapM (Compile.part schema options) with
  | error e => simp
  | ok parts =>
    cases OrderClause.build schema request.sortSpec.field request.sortSpec.direction with
    | error e => simp [Except.map]
    | ok order => simp [Except.map, eq_comm]

/-- The entries fail first, then the order. -/
theorem errorOf?_compile :
    errorOf? (compile schema options request) =
      (firstError? (Compile.part schema options) request.conditions).or
        (errorOf? (OrderClause.build schema request.sortSpec.field request.sortSpec.direction)) := by
  rw [compile_eq, ← errorOf?_mapM]
  cases request.conditions.mapM (Compile.part schema options) with
  | error e => rfl
  | ok parts =>
    cases OrderClause.build schema request.sortSpec.field request.sortSpec.direction <;> rfl

/-- What a request that compiles comes to. -/
theorem compile_spec (h : compile schema options request = .ok query) :
    ∃ parts, request.conditions.mapM (Compile.part schema options) = .ok parts ∧
      query.predicate = Compile.combine options parts := by
  obtain ⟨parts, order, hm, _, rfl⟩ := compile_eq_ok_iff.1 h
  exact ⟨parts, hm, rfl⟩

theorem Compile.mem_combineGroups {groups : List Predicate} {p : Predicate}
    (h : p ∈ combineGroups options groups) :
    groups ≠ [] ∧ (p = Predicate.disjunction groups ∨ p = Predicate.conjunction groups) := by
  cases groups with
  | nil => cases h
  | cons q groups =>
    refine ⟨List.cons_ne_nil q groups, ?_⟩
    rw [combineGroups.eq_def] at h
    cases ho : options.orGroups <;> rw [ho] at h <;> obtain rfl := List.mem_singleton.1 h
    · exact .inl rfl
    · exact .inr rfl

/-- By the way in which conditions are combined: names to branches to groups to the request. -/
theorem compile_induction {Q : Predicate → Prop}
    (hconjunction : ∀ children, (∀ child ∈ children, Q child) → Q (Predicate.conjunction children))
    (hdisjunction : ∀ children, (∀ child ∈ children, Q child) → Q (Predicate.disjunction children))
    (hkey : ∀ entry ∈ request.conditions, ∀ name ∈ entry.names, ∀ p,
      Compile.key schema options name entry.values = .ok p → Q p)
    (h : compile schema options request = .ok query) : Q query.predicate := by
  obtain ⟨parts, hm, hq⟩ := compile_spec h
  have hplain : ∀ p ∈ Compile.plainParts parts, Q p := by
    intro p hp
    obtain ⟨entry, he, hg, hk⟩ := (Compile.mem_plainParts_iff hm).1 hp
    exact hkey entry he entry.key (by simp [Entry.names, hg]) p hk
  have hgroups : ∀ p ∈ Compile.groupParts parts, Q p := by
    intro p hp
    obtain ⟨entry, he, hg, built, _, hb, rfl⟩ := Compile.mem_groupParts_elim hm hp
    refine hdisjunction built fun q hq => ?_
    obtain ⟨name, hn, hk⟩ := (hb q).1 hq
    exact hkey entry he name (by simpa [Entry.names, hg] using hn) q hk
  rw [hq, Compile.combine]
  refine hconjunction _ fun p hp => ?_
  obtain hp | hp := List.mem_append.1 hp
  · exact hplain p hp
  · obtain ⟨_, rfl | rfl⟩ := Compile.mem_combineGroups hp
    · exact hdisjunction _ hgroups
    · exact hconjunction _ hgroups

end
end RecordFilter
