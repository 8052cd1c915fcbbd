import RecordFilter.Config.Settings
import RecordFilter.Proofs.Json.Drafts
import RecordFilter.Proofs.Text.Order

/-!
# RecordFilter.Proofs.Config.UnknownMembers

The members of a configuration file that are no section. What is read of a file goes through a draft whose parts
are changed and dropped, and the names of its members stay (`File.exists_names_of_parse?`). All that name no
section are reported, each once and in the order of the file (`unknown_ascends_iff`); they are not sorted.
-/

namespace RecordFilter
namespace Config

open Json (draft?)

/-- The text is an object with members of these names, in this order and as often as they come. -/
def HasMemberNames (text : String) (names : List String) : Prop :=
  ∃ members, draft? text.toList = some (.object members) ∧ members.map (·.1) = names.map some

/-- The names in the order of the text that name no section. -/
def unknownAmong (names : List String) : List String := names.filter fun name => !File.sectionNames.contains name

theorem mem_unknownAmong {names : List String} {name : String} :
    name ∈ unknownAmong names ↔ name ∈ names ∧ name ∉ File.sectionNames := by
  simp [unknownAmong]

namespace File

theorem exists_members_of_ofJson? {document : Json} {file : FileConfig} (h : ofJson? document = some file) :
    ∃ members, document = .object members ∧ file.unknown = unknownNames members := by
  cases document with
  | object members =>
    refine ⟨members, rfl, ?_⟩
    simp only [ofJson?, bind, Option.bind_eq_some_iff] at h
    obtain ⟨settings, -, h⟩ := h
    split at h
    · simp only [Option.bind_eq_some_iff] at h
      obtain ⟨server, -, filters, -, sql, -, catalog, -, h⟩ := h
      cases h
      rfl
    · cases h
  | _ => cases h

/-- What is dropped of the sections and how the members are read does not touch their names. -/
theorem exists_names_of_parse? {text : String} {file : FileConfig} (h : parse? text = some file) :
    ∃ names, HasMemberNames text names ∧ file.unknown = (unknownAmong names).eraseDups := by
  simp only [parse?, bind, Option.bind_eq_some_iff] at h
  obtain ⟨draft, hdraft, document, hdocument, hfile⟩ := h
  obtain ⟨documents, rfl, hunknown⟩ := exists_members_of_ofJson? hfile
  have hleaf : ∀ value, draft.mapMembers dropOthers = .leaf value → value.all Json.isScalar = true := by
    intro value hvalue
    rw [Json.Draft.eq_leaf_of_mapMembers hvalue] at hdraft
    exact Json.isScalar_of_draft? hdraft
  obtain ⟨changed, hchanged, hnames⟩ := Json.Draft.exists_of_resolve?_object hleaf hdocument
  obtain ⟨members, rfl, hsame⟩ := Json.Draft.exists_of_mapMembers_object hchanged
  refine ⟨documents.map Prod.fst, ⟨members, hdraft, ?_⟩, hunknown⟩
  rw [hsame, hnames, List.map_map]
  rfl

end File

/-- Each name that is no section's is reported, once and where it first stands. The report ascends if and only if
no such name that is new comes below one before it. -/
theorem unknown_ascends_iff {text : String} {file : FileConfig} (h : File.parse? text = some file) :
    ∃ names, HasMemberNames text names ∧
      file.unknown.Nodup ∧
      (∀ name, name ∈ file.unknown ↔ name ∈ names ∧ name ∉ File.sectionNames) ∧
      file.unknown = (unknownAmong names).eraseDups ∧
      ((file.unknown.Pairwise fun a b => Text.compareText a b = .lt) ↔
        RisesBy (fun a b => Text.compareText a b = .lt) (unknownAmong names)) := by
  obtain ⟨names, hnames, hunknown⟩ := File.exists_names_of_parse? h
  refine ⟨names, hnames, ?_, fun name => ?_, hunknown, ?_⟩
  · rw [hunknown]
    exact nodup_eraseDups _
  · rw [hunknown, List.mem_eraseDups, mem_unknownAmong]
  · rw [hunknown]
    exact pairwise_eraseDups_iff

theorem unknown_ascends_iff_repeated :
    ∃ names, HasMemberNames "\x7b\"debug\": 1, \"sql\": null, \"filtres\": 2, \"debug\": 3\x7d" names ∧
      RisesBy (fun a b => Text.compareText a b = .lt) (unknownAmong names) := by
  have hparse : File.parse? "\x7b\"debug\": 1, \"sql\": null, \"filtres\": 2, \"debug\": 3\x7d" =
      some ⟨none, none, none, none, ["debug", "filtres"]⟩ := by decide +kernel
  obtain ⟨names, hnames, -, -, -, hascends⟩ := unknown_ascends_iff hparse
  exact ⟨names, hnames, hascends.1 (by decide)⟩

/-- A report that does not ascend. -/
theorem unknown_misspelled :
    ∃ file, File.parse? "\x7b\"server\": \x7b\x7d, \"filtres\": \x7b\x7d, \"debug\": true\x7d" = some file ∧
      file.unknown = ["filtres", "debug"] ∧ unknownFields [file] = ["filtres, debug"] ∧
      ¬ file.unknown.Pairwise fun a b => Text.compareText a b = .lt :=
  ⟨⟨some ⟨none, none⟩, none, none, none, ["filtres", "debug"]⟩, by decide +kernel, rfl, by decide, by decide⟩

end Config
end RecordFilter
