import Mathlib.Data.List.DropRight
import RecordFilter.Config.Path
import RecordFilter.Proofs.Text.Split

/-!
# RecordFilter.Proofs.Config.Paths

Where an expanded path leads. It is settled (`IsSettled`): absolute and without white space around it. So
nothing is left to expand in it (`expandChars_of_isSettled`).

A relative path behind `~/` leads below the home directory (`IsUnder`): its steps follow those of the home
directory (`components_joinPath`). One that begins with a `/` of its own takes no notice of the home directory.

* `expandPath_isUnder_home_iff`: the laws of expansion, and which paths behind `~/` stay under the home directory.
* `expandPath_leaves_home`: one that does not.
-/

namespace RecordFilter

/-! ## White space at the end -/

namespace Text

variable {front text : List Char}

def NoBlankEnd (text : List Char) : Prop := ∀ c ∈ text.getLast?, isBlank c = false

theorem noBlankEnd_nil : NoBlankEnd [] := by simp [NoBlankEnd]

theorem noBlankEnd_append_iff (front : List Char) (h : text ≠ []) :
    NoBlankEnd (front ++ text) ↔ NoBlankEnd text := by
  rw [NoBlankEnd, List.getLast?_append_of_ne_nil front h, NoBlankEnd]

theorem NoBlankEnd.of_append (h : NoBlankEnd (front ++ text)) : NoBlankEnd text := by
  by_cases ht : text = []
  · rw [ht]
    exact noBlankEnd_nil
  · exact (noBlankEnd_append_iff front ht).1 h

theorem NoBlankEnd.cons {c : Char} (hc : isBlank c = false) (h : NoBlankEnd text) : NoBlankEnd (c :: text) := by
  by_cases ht : text = []
  · simpa [NoBlankEnd, ht] using hc
  · exact (noBlankEnd_append_iff [c] ht).2 h

theorem noBlankEnd_trim (text : List Char) : NoBlankEnd (trim text) := by
  intro c hc
  obtain ⟨hne, rfl⟩ := List.mem_getLast?_eq_getLast hc
  exact Bool.eq_false_iff.2 (List.rdropWhile_last_not isBlank (trimStart text) hne)

/-- There is nothing to cut off between two visible ends. -/
theorem trim_eq_self {c : Char} (hc : isBlank c = false) (h : NoBlankEnd (c :: text)) :
    trim (c :: text) = c :: text := by
  have hstart : trimStart (c :: text) = c :: text := by simp [trimStart, hc]
  rw [trim, hstart]
  refine List.rdropWhile_eq_self_iff.2 fun hne => ?_
  simp [h _ (List.getLast?_eq_some_getLast hne)]

end Text

namespace Config

/-! ## Steps of a path -/

/-- What stands between the slashes leads somewhere unless it is empty or a dot. -/
def isStep (piece : List Char) : Bool := !piece.isEmpty && piece != ['.']

def steps (path : List Char) : List (List Char) := (Text.split '/' path).filter isStep

theorem steps_append (front rest : List Char) : steps (front ++ '/' :: rest) = steps front ++ steps rest := by
  simp only [steps, Text.split_append, List.filter_append]

theorem steps_nil : steps [] = [] := rfl

/-- One part of a path, as paths are compared. -/
inductive Component where
  | root
  | here
  | name (text : List Char)
deriving DecidableEq, Repr

/-- The root, if the path begins there, and the steps. Only in front of a relative path a dot counts. -/
def components (path : List Char) : List Component :=
  let names := (steps path).map .name
  if isAbsolute path then .root :: names
  else if (Text.split '/' path).head? = some ['.'] then .here :: names
  else names

/-- The directory itself or something below it. `..` is a step like any other. -/
def IsUnder (directory path : List Char) : Prop := components directory <+: components path

instance (directory path : List Char) : Decidable (IsUnder directory path) :=
  inferInstanceAs (Decidable (components directory <+: components path))

theorem components_of_isAbsolute {path : List Char} (h : isAbsolute path = true) :
    components path = .root :: (steps path).map .name := by
  rw [components, if_pos h]

/-! ## Joining -/

section Joining

variable {base path : List Char}

theorem isAbsolute_iff : isAbsolute path = true ↔ ∃ rest, path = '/' :: rest := by
  constructor
  · intro h
    unfold isAbsolute at h
    split at h
    · exact ⟨_, rfl⟩
    · cases h
  · rintro ⟨rest, rfl⟩
    rfl

theorem isAbsolute_append (h : isAbsolute base = true) (path : List Char) : isAbsolute (base ++ path) = true := by
  obtain ⟨rest, rfl⟩ := isAbsolute_iff.1 h
  rfl

theorem joinPath_of_isAbsolute (base : List Char) (h : isAbsolute path = true) : joinPath base path = path :=
  if_pos h

/-- A slash stands in front of what is joined to a directory: one of its own, or the one at the end of the
directory. -/
theorem exists_joinPath_eq (hbase : isAbsolute base = true) (hpath : isAbsolute path = false) :
    ∃ front, joinPath base path = front ++ '/' :: path ∧ (base = front ∨ base = front ++ ['/']) := by
  rw [joinPath, if_neg (by simp [hpath])]
  split
  · rename_i hlast
    rw [List.getLast?_eq_none_iff.1 hlast] at hbase
    cases hbase
  · rename_i hlast
    obtain ⟨front, hfront⟩ := List.getLast?_eq_some_iff.1 hlast
    exact ⟨front, by simp [hfront], .inr hfront⟩
  · exact ⟨base, rfl, .inl rfl⟩

theorem isAbsolute_joinPath (hbase : isAbsolute base = true) (path : List Char) :
    isAbsolute (joinPath base path) = true := by
  cases hpath : isAbsolute path with
  | true => rw [joinPath_of_isAbsolute base hpath, hpath]
  | false =>
    obtain ⟨front, hjoin, hfront | hfront⟩ := exists_joinPath_eq hbase hpath
    · rw [hjoin, ← hfront]
      exact isAbsolute_append hbase _
    · have happend : joinPath base path = base ++ path := by
        rw [hjoin, hfront, List.append_assoc, List.singleton_append]
      rw [happend]
      exact isAbsolute_append hbase _

theorem components_joinPath (hbase : isAbsolute base = true) (hpath : isAbsolute path = false) :
    components (joinPath base path) = components base ++ (steps path).map .name := by
  obtain ⟨front, hjoin, hfront⟩ := exists_joinPath_eq hbase hpath
  have hsteps : steps base = steps front := by
    rcases hfront with rfl | rfl
    · rfl
    · rw [steps_append, steps_nil, List.append_nil]
  rw [components_of_isAbsolute (isAbsolute_joinPath hbase path), components_of_isAbsolute hbase, hjoin,
    steps_append, hsteps, List.map_append, List.cons_append]

/-- What is joined to a directory leads below it, unless it is absolute. Then only its own way counts. -/
theorem isUnder_joinPath_iff (hbase : isAbsolute base = true) :
    IsUnder base (joinPath base path) ↔ isAbsolute path = false ∨ IsUnder base path := by
  cases hpath : isAbsolute path with
  | true => simp [joinPath_of_isAbsolute base hpath]
  | false =>
    rw [IsUnder, components_joinPath hbase hpath]
    exact iff_of_true (List.prefix_append _ _) (.inl rfl)

end Joining

/-! ## Expansion -/

/-- An absolute path without white space around it. -/
structure IsSettled (path : List Char) : Prop where
  absolute : isAbsolute path = true
  trimmed : Text.trim path = path

section Expansion

variable {home cwd base path : List Char}

theorem IsSettled.noBlankEnd (h : IsSettled path) : Text.NoBlankEnd path :=
  h.trimmed ▸ Text.noBlankEnd_trim path

theorem isSettled_of_noBlankEnd (habsolute : isAbsolute path = true) (hend : Text.NoBlankEnd path) :
    IsSettled path := by
  obtain ⟨rest, rfl⟩ := isAbsolute_iff.1 habsolute
  exact ⟨habsolute, Text.trim_eq_self (by decide) hend⟩

theorem isSettled_joinPath (hbase : isAbsolute base = true) (hend : Text.NoBlankEnd path) :
    IsSettled (joinPath base path) := by
  refine isSettled_of_noBlankEnd (isAbsolute_joinPath hbase path) ?_
  cases hpath : isAbsolute path with
  | true => rwa [joinPath_of_isAbsolute base hpath]
  | false =>
    obtain ⟨front, hjoin, _⟩ := exists_joinPath_eq hbase hpath
    rw [hjoin]
    exact (Text.noBlankEnd_append_iff front (List.cons_ne_nil _ _)).2 (hend.cons (by decide))

theorem noBlankEnd_expandHome (hhome : IsSettled home) (hend : Text.NoBlankEnd path) :
    Text.NoBlankEnd (expandHome home path) := by
  unfold expandHome
  split
  · exact Text.noBlankEnd_nil.cons (by decide)
  · exact hhome.noBlankEnd
  · rename_i rest
    have hrest : Text.NoBlankEnd (['~', '/'] ++ rest) := hend
    exact (isSettled_joinPath hhome.absolute hrest.of_append).noBlankEnd
  · exact hend

/-- What is absolute already is not changed by the working directory. -/
theorem expandChars_eq (home cwd path : List Char) :
    expandChars home cwd path = joinPath cwd (expandHome home (Text.trim path)) := by
  simp only [expandChars]
  split
  · rename_i h
    rw [joinPath_of_isAbsolute cwd h]
  · rfl

theorem isSettled_expandChars (hhome : IsSettled home) (hcwd : IsSettled cwd) (path : List Char) :
    IsSettled (expandChars home cwd path) := by
  rw [expandChars_eq]
  exact isSettled_joinPath hcwd.absolute (noBlankEnd_expandHome hhome (Text.noBlankEnd_trim path))

theorem expandChars_of_isSettled (home cwd : List Char) (h : IsSettled path) :
    expandChars home cwd path = path := by
  obtain ⟨rest, rfl⟩ := isAbsolute_iff.1 h.absolute
  rw [expandChars_eq, h.trimmed]
  exact joinPath_of_isAbsolute cwd rfl

theorem expandChars_of_tilde (hhome : IsSettled home) (htrim : Text.trim path = ['~']) :
    expandChars home cwd path = home := by
  rw [expandChars_eq, htrim]
  exact joinPath_of_isAbsolute cwd hhome.absolute

theorem expandChars_of_tilde_slash (hhome : IsSettled home) {rest : List Char}
    (htrim : Text.trim path = '~' :: '/' :: rest) : expandChars home cwd path = joinPath home rest := by
  rw [expandChars_eq, htrim]
  exact joinPath_of_isAbsolute cwd (isAbsolute_joinPath hhome.absolute rest)

end Expansion

/-- An expanded path is absolute, and expanding it again changes nothing. `~` is the home directory. What
follows `~/` leads below the home directory if it is relative or leads there by itself, and else not. -/
theorem expandPath_isUnder_home_iff {home cwd : String} (hhome : IsSettled home.toList)
    (hcwd : IsSettled cwd.toList) (path : String) :
    isAbsolute (expandPath home cwd path).toList = true ∧
    expandPath home cwd (expandPath home cwd path) = expandPath home cwd path ∧
    (Text.trim path.toList = ['~'] → expandPath home cwd path = home) ∧
    ∀ rest, Text.trim path.toList = '~' :: '/' :: rest →
      (IsUnder home.toList (expandPath home cwd path).toList ↔
        isAbsolute rest = false ∨ IsUnder home.toList rest) := by
  have hsettled := isSettled_expandChars hhome hcwd path.toList
  simp only [expandPath, String.toList_ofList]
  refine ⟨hsettled.absolute, ?_, ?_, ?_⟩
  · rw [expandChars_of_isSettled _ _ hsettled]
  · intro htrim
    rw [expandChars_of_tilde hhome htrim, String.ofList_toList]
  · intro rest htrim
    rw [expandChars_of_tilde_slash hhome htrim]
    exact isUnder_joinPath_iff hhome.absolute

/-- A path behind `~/` that is absolute, and leads below the home directory all the same. -/
theorem expandPath_isUnder_home_iff_slash :
    IsSettled "/home/ana".toList ∧ IsSettled "/work".toList ∧
      expandPath "/home/ana" "/work" " ~//home/./ana/x " = "/home/./ana/x" ∧
      IsUnder "/home/ana".toList (expandPath "/home/ana" "/work" " ~//home/./ana/x ").toList := by
  have hhome : IsSettled "/home/ana".toList := ⟨by decide, by decide⟩
  have hcwd : IsSettled "/work".toList := ⟨by decide, by decide⟩
  obtain ⟨_, _, _, hunder⟩ := expandPath_isUnder_home_iff hhome hcwd " ~//home/./ana/x "
  exact ⟨hhome, hcwd, by decide, (hunder "/home/./ana/x".toList (by decide)).2 (.inr (by decide))⟩

/-- A second slash behind `~/` is enough to leave the home directory. -/
theorem expandPath_leaves_home :
    IsSettled "/home/ana".toList ∧ IsSettled "/work".toList ∧
      Text.trim "~//etc".toList = '~' :: '/' :: "/etc".toList ∧
      expandPath "/home/ana" "/work" "~//etc" = "/etc" ∧
      ¬ IsUnder "/home/ana".toList (expandPath "/home/ana" "/work" "~//etc").toList :=
  ⟨⟨by decide, by decide⟩, ⟨by decide, by decide⟩, by decide, by decide, by decide⟩

end Config
end RecordFilter
