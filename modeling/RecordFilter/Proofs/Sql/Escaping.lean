import RecordFilter.Proofs.Sql.Pattern

/-!
# RecordFilter.Proofs.Sql.Escaping

Escaping for `LIKE` is exact. What a pattern stands for is said in rules (`Like.Matches`), one for each
kind of piece, and reading a pattern into pieces and trying them one after the other decides it
(`Like.holds?_eq_some_true_iff`).

* `Like.escapeLike_eq_rounds`: the characters may be escaped one kind after the other, as long as the
  escape character comes first.
* `Like.matches_likePattern_iff`: the texts that are like the pattern of a needle are those that have the
  needle in them, and the pattern escapes nothing but the characters that need it.
-/

namespace RecordFilter
namespace Sql
namespace Like

/-- The characters that do not stand for themselves. -/
def metacharacters : List Char := ['\\', '%', '_']

theorem mem_metacharacters_iff {c : Char} : c ∈ metacharacters ↔ c = '\\' ∨ c = '%' ∨ c = '_' := by
  simp [metacharacters]

/-! ## Rules -/

/-- The text is like the pattern, in which a backslash makes the next character stand for itself. -/
inductive Matches : List Char → List Char → Prop where
  | nil : Matches [] []
  | any {pattern text : List Char} (before : List Char) : Matches pattern text →
      Matches ('%' :: pattern) (before ++ text)
  | one {pattern text : List Char} (c : Char) : Matches pattern text →
      Matches ('_' :: pattern) (c :: text)
  | escaped {pattern text : List Char} (c : Char) : Matches pattern text →
      Matches ('\\' :: c :: pattern) (c :: text)
  | char {pattern text : List Char} {c : Char} : c ∉ metacharacters → Matches pattern text →
      Matches (c :: pattern) (c :: text)

/-- Read from the left, every backslash makes a character stand for itself that otherwise would not. -/
inductive EscapesMetacharacters : List Char → Prop where
  | nil : EscapesMetacharacters []
  | char {c : Char} {pattern : List Char} : c ≠ '\\' → EscapesMetacharacters pattern →
      EscapesMetacharacters (c :: pattern)
  | escape {c : Char} {pattern : List Char} : c ∈ metacharacters → EscapesMetacharacters pattern →
      EscapesMetacharacters ('\\' :: c :: pattern)

/-! ## Reading and trying -/

theorem exists_cons_of_matchesAll_char {c : Char} {pieces : List Piece} {text : List Char}
    (h : matchesAll (.char c :: pieces) text = true) :
    ∃ rest, text = c :: rest ∧ matchesAll pieces rest = true := by
  rw [← List.singleton_append, ← List.map_singleton] at h
  exact matchesAll_chars_iff.1 h

/-- A character of the pattern that escapes nothing is a piece of its own. -/
theorem matches_of_pieceOf {c : Char} {pattern : List Char} {pieces : List Piece} (hc : c ≠ '\\')
    (hrest : ∀ text, matchesAll pieces text = true → Matches pattern text) {text : List Char}
    (h : matchesAll (pieceOf c :: pieces) text = true) : Matches (c :: pattern) text := by
  unfold pieceOf at h
  split at h
  · rename_i hp
    subst hp
    obtain ⟨rest, ⟨before, rfl⟩, hm⟩ := someEnd_iff.1 h
    exact .any before (hrest rest hm)
  · rename_i hp
    split at h
    · rename_i hu
      subst hu
      cases text with
      | nil => cases h
      | cons d text => exact .one d (hrest text h)
    · rename_i hu
      obtain ⟨rest, rfl, hm⟩ := exists_cons_of_matchesAll_char h
      exact .char (by simp [mem_metacharacters_iff, hp, hu, hc]) (hrest rest hm)

theorem matches_of_read? {pattern text : List Char} {pieces : List Piece}
    (hread : read? (some '\\') pattern = some pieces) (h : matchesAll pieces text = true) :
    Matches pattern text := by
  induction pattern using read?.induct (some '\\') generalizing pieces text with
  | case1 =>
    obtain rfl := Option.some.inj hread
    obtain rfl : text = [] := by simpa [matchesAll] using h
    exact .nil
  | case2 c hc => simp [read?, hc] at hread
  | case3 c hc =>
    rw [read?, if_neg hc] at hread
    obtain rfl := Option.some.inj hread
    refine matches_of_pieceOf (Ne.symm (by simpa using hc)) (fun rest hm => ?_) h
    obtain rfl : rest = [] := by simpa [matchesAll] using hm
    exact .nil
  | case4 c d pattern hc ih =>
    obtain rfl := Option.some.inj hc
    rw [read?, if_pos rfl] at hread
    obtain ⟨pieces, hpieces, rfl⟩ := Option.map_eq_some_iff.1 hread
    obtain ⟨rest, rfl, hm⟩ := exists_cons_of_matchesAll_char h
    exact .escaped d (ih hpieces hm)
  | case5 c d pattern hc ih =>
    rw [read?, if_neg hc] at hread
    obtain ⟨pieces, hpieces, rfl⟩ := Option.map_eq_some_iff.1 hread
    exact matches_of_pieceOf (Ne.symm (by simpa using hc)) (fun _ hm => ih hpieces hm) h

theorem exists_read?_of_matches {pattern text : List Char} (h : Matches pattern text) :
    ∃ pieces, read? (some '\\') pattern = some pieces ∧ matchesAll pieces text = true := by
  induction h with
  | nil => exact ⟨[], rfl, rfl⟩
  | any before _ ih =>
    obtain ⟨pieces, hread, hm⟩ := ih
    refine ⟨.any :: pieces, ?_, someEnd_iff.2 ⟨_, List.suffix_append before _, hm⟩⟩
    rw [read?_cons_of_ne (by decide), hread]
    rfl
  | one c _ ih =>
    obtain ⟨pieces, hread, hm⟩ := ih
    refine ⟨.one :: pieces, ?_, hm⟩
    rw [read?_cons_of_ne (by decide), hread]
    rfl
  | escaped c _ ih =>
    obtain ⟨pieces, hread, hm⟩ := ih
    refine ⟨.char c :: pieces, ?_, by simp [matchesAll, hm]⟩
    rw [read?, if_pos rfl, hread]
    rfl
  | @char _ _ c hc _ ih =>
    obtain ⟨pieces, hread, hm⟩ := ih
    obtain ⟨hb, hp, hu⟩ : c ≠ '\\' ∧ c ≠ '%' ∧ c ≠ '_' := by
      simpa [mem_metacharacters_iff, not_or] using hc
    refine ⟨.char c :: pieces, ?_, by simp [matchesAll, hm]⟩
    rw [read?_cons_of_ne (by simpa using Ne.symm hb), hread, pieceOf, if_neg hp, if_neg hu]
    rfl

/-- Reading the pattern and trying its pieces decides what is like it. -/
theorem holds?_eq_some_true_iff {pattern text : List Char} :
    holds? (some '\\') pattern text = some true ↔ Matches pattern text := by
  refine Option.map_eq_some_iff.trans ⟨?_, exists_read?_of_matches⟩
  rintro ⟨pieces, hread, hm⟩
  exact matches_of_read? hread hm

/-! ## Escaping -/

/-- Which character is escaped does not depend on the others, so escaping can go in rounds. The escape
character comes first: what a later round writes is not escaped again. -/
theorem escapeLike_eq_rounds (needle : String) :
    escapeLike needle = replaceChar '_' ['\\', '_'] (replaceChar '%' ['\\', '%']
      (replaceChar '\\' ['\\', '\\'] needle)) := by
  simp only [escapeLike, replaceChar, String.toList_ofList, List.flatMap_assoc]
  refine congrArg (fun f => String.ofList (needle.toList.flatMap f)) (funext fun c => ?_)
  by_cases hb : c = '\\'
  · simp [hb]
  · by_cases hp : c = '%'
    · simp [hp]
    · by_cases hu : c = '_'
      · simp [hu]
      · simp [hb, hp, hu]

theorem EscapesMetacharacters.escapeLike_append (needle : String) {rest : List Char}
    (h : EscapesMetacharacters rest) : EscapesMetacharacters ((escapeLike needle).toList ++ rest) := by
  rw [escapeLike, String.toList_ofList]
  induction needle.toList with
  | nil => exact h
  | cons c needle ih =>
    rw [List.flatMap_cons, List.append_assoc]
    by_cases hc : c = '\\' ∨ c = '%' ∨ c = '_'
    · rw [if_pos hc]
      exact .escape (mem_metacharacters_iff.2 hc) ih
    · rw [if_neg hc]
      exact .char (fun hb => hc (.inl hb)) ih

/-- A text is like the pattern that is made of a needle if and only if the needle stands in it without a
gap. Escaped in rounds the needle is the same, and nothing is escaped without need. -/
theorem matches_likePattern_iff (needle text : String) :
    (Matches (likePattern needle).toList text.toList ↔ needle.toList <:+: text.toList) ∧
      EscapesMetacharacters (likePattern needle).toList ∧
      escapeLike needle = replaceChar '_' ['\\', '_'] (replaceChar '%' ['\\', '%']
        (replaceChar '\\' ['\\', '\\'] needle)) := by
  refine ⟨?_, ?_, escapeLike_eq_rounds needle⟩
  · rw [← holds?_eq_some_true_iff, holds?_likePattern, Option.some.injEq, Text.contains_iff]
  · rw [likePattern, String.toList_append, String.toList_append, List.append_assoc]
    exact .char (by decide) (.escapeLike_append needle (.char (by decide) .nil))

end Like
end Sql
end RecordFilter
