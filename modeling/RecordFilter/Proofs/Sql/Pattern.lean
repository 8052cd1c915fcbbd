import RecordFilter.Proofs.Text.Split
import RecordFilter.Sql.Binding

/-!
# RecordFilter.Proofs.Sql.Pattern

What `LIKE` means: `%` stands for any text, `_` for any one character, and a character behind the escape
character for itself. The pattern that is made of a needle matches the texts that have the needle in them
(`holds?_likePattern`), also where the needle has one of those characters.
-/

namespace RecordFilter
namespace Sql
namespace Like

inductive Piece where
  | any
  | one
  | char (c : Char)
deriving DecidableEq, Repr

def pieceOf (c : Char) : Piece :=
  if c = '%' then .any else if c = '_' then .one else .char c

/-- The pieces of a pattern. At the end there is nothing to escape. -/
def read? (escape? : Option Char) : List Char → Option (List Piece)
  | [] => some []
  | [c] => if escape? = some c then none else some [pieceOf c]
  | c :: d :: rest =>
    if escape? = some c then (read? escape? rest).map (.char d :: ·)
    else (read? escape? (d :: rest)).map (pieceOf c :: ·)

/-- The whole text or what is left of it further on. -/
def someEnd (p : List Char → Bool) : List Char → Bool
  | [] => p []
  | c :: rest => p (c :: rest) || someEnd p rest

def matchesAll : List Piece → List Char → Bool
  | [], text => text.isEmpty
  | .any :: pieces, text => someEnd (matchesAll pieces) text
  | .one :: _, [] => false
  | .one :: pieces, _ :: text => matchesAll pieces text
  | .char _ :: _, [] => false
  | .char c :: pieces, d :: text => c == d && matchesAll pieces text

def holds? (escape? : Option Char) (pattern text : List Char) : Option Bool :=
  (read? escape? pattern).map fun pieces => matchesAll pieces text

/-! ## Reading -/

theorem read?_cons_of_ne {escape? : Option Char} {c : Char} (h : escape? ≠ some c) (rest : List Char) :
    read? escape? (c :: rest) = (read? escape? rest).map (pieceOf c :: ·) := by
  cases rest <;> simp [read?, h]

theorem read?_escapeLike (needle : String) (rest : List Char) :
    read? (some '\\') ((escapeLike needle).toList ++ rest) =
      (read? (some '\\') rest).map (needle.toList.map .char ++ ·) := by
  rw [escapeLike, String.toList_ofList]
  induction needle.toList with
  | nil => simp
  | cons c needle ih =>
    rw [List.flatMap_cons, List.append_assoc]
    split
    · rw [List.cons_append, List.cons_append, List.nil_append, read?, if_pos rfl, ih, Option.map_map]
      rfl
    · rename_i hc
      obtain ⟨hb, hp, hu⟩ : c ≠ '\\' ∧ c ≠ '%' ∧ c ≠ '_' := by simpa [not_or] using hc
      rw [List.cons_append, List.nil_append, read?_cons_of_ne (by simpa using Ne.symm hb), ih,
        Option.map_map, pieceOf, if_neg hp, if_neg hu]
      rfl

theorem read?_likePattern (needle : String) :
    read? (some '\\') (likePattern needle).toList =
      some (.any :: (needle.toList.map .char ++ [.any])) := by
  have hescaped := read?_escapeLike needle ['%']
  rw [likePattern, String.toList_append, String.toList_append, List.append_assoc]
  generalize (escapeLike needle).toList = escaped at hescaped ⊢
  change read? (some '\\') ('%' :: (escaped ++ ['%'])) = _
  rw [read?_cons_of_ne (by decide), hescaped]
  rfl

/-! ## Matching -/

theorem someEnd_iff {p : List Char → Bool} {text : List Char} :
    someEnd p text = true ↔ ∃ rest, rest <:+ text ∧ p rest = true := by
  induction text with
  | nil => simp [someEnd]
  | cons c text ih =>
    rw [someEnd, Bool.or_eq_true, ih]
    constructor
    · rintro (h | ⟨rest, hs, h⟩)
      · exact ⟨c :: text, List.suffix_rfl, h⟩
      · exact ⟨rest, hs.trans (List.suffix_cons c text), h⟩
    · rintro ⟨rest, hs, h⟩
      obtain rfl | hs := List.suffix_cons_iff.1 hs
      · exact .inl h
      · exact .inr ⟨rest, hs, h⟩

theorem matchesAll_any (text : List Char) : matchesAll [.any] text = true :=
  someEnd_iff.2 ⟨[], List.nil_suffix, rfl⟩

theorem matchesAll_chars_iff {needle text : List Char} {pieces : List Piece} :
    matchesAll (needle.map .char ++ pieces) text = true ↔
      ∃ rest, text = needle ++ rest ∧ matchesAll pieces rest = true := by
  induction needle generalizing text with
  | nil => simp
  | cons c needle ih =>
    cases text with
    | nil => simp [matchesAll]
    | cons d text =>
      simp only [List.map_cons, List.cons_append, matchesAll, Bool.and_eq_true, beq_iff_eq, ih,
        List.cons.injEq, eq_comm (a := c)]
      exact ⟨fun ⟨hd, rest, ht, h⟩ => ⟨rest, ⟨hd, ht⟩, h⟩, fun ⟨rest, ⟨hd, ht⟩, h⟩ => ⟨hd, rest, ht, h⟩⟩

theorem holds?_likePattern (needle : String) (text : List Char) :
    holds? (some '\\') (likePattern needle).toList text = some (Text.contains needle.toList text) := by
  rw [holds?, read?_likePattern, Option.map_some, Option.some.injEq, Bool.eq_iff_iff, matchesAll,
    someEnd_iff, Text.contains_iff]
  simp only [matchesAll_chars_iff, matchesAll_any, and_true]
  constructor
  · rintro ⟨_, ⟨before, rfl⟩, after, rfl⟩
    exact ⟨before, after, List.append_assoc _ _ _⟩
  · rintro ⟨before, after, rfl⟩
    exact ⟨needle.toList ++ after, ⟨before, (List.append_assoc _ _ _).symm⟩, after, rfl⟩

end Like
end Sql
end RecordFilter
