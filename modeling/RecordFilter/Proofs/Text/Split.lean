import RecordFilter.Text.Basic

/-!
# RecordFilter.Proofs.Text.Split

Cutting a text at a separator and joining the pieces are inverse to each other (`joined_pieces`,
`pieces_joined`), as long as the separator does not stand in a piece. A text is cut in two at the first
separator (`splitFirst?_append`). `contains_iff` says when one text stands inside another.
-/

namespace RecordFilter
namespace Text

theorem split_eq_splitOn (sep : Char) (text : List Char) : split sep text = text.splitOn sep := by
  induction text with
  | nil => simp [split]
  | cons c rest ih =>
    rw [split, List.splitOn_cons_eq_if_modifyHead, ← ih]
    by_cases h : c = sep
    · simp [h]
    · have hne := split_ne_nil sep rest
      cases hs : split sep rest with
      | nil => exact absurd hs hne
      | cons piece pieces => simp [h]

theorem split_append (sep : Char) (front rest : List Char) :
    split sep (front ++ sep :: rest) = split sep front ++ split sep rest := by
  simp only [split_eq_splitOn]
  exact List.splitOnP_append_cons front rest (beq_self_eq_true sep)

theorem notMem_of_mem_split {sep : Char} {text piece : List Char} (h : piece ∈ split sep text) :
    sep ∉ piece := by
  induction text generalizing piece with
  | nil =>
    simp only [split, List.mem_singleton] at h
    simp [h]
  | cons c rest ih =>
    rw [split] at h
    by_cases hc : c = sep
    · rw [if_pos hc, List.mem_cons] at h
      rcases h with rfl | h
      · simp
      · exact ih h
    · rw [if_neg hc] at h
      cases hs : split sep rest with
      | nil => exact absurd hs (split_ne_nil sep rest)
      | cons first others =>
        rw [hs] at ih h
        rcases List.mem_cons.1 h with rfl | h
        · have hfirst := ih List.mem_cons_self
          simp [hfirst, Ne.symm hc]
        · exact ih (List.mem_cons_of_mem first h)

theorem splitFirst?_append {sep : Char} {before : List Char} (h : sep ∉ before) (after : List Char) :
    splitFirst? sep (before ++ sep :: after) = some (before, after) := by
  induction before with
  | nil => simp [splitFirst?]
  | cons c before ih =>
    obtain ⟨hc, hbefore⟩ := not_or.1 (mt List.mem_cons.2 h)
    simp [splitFirst?, Ne.symm hc, ih hbefore]

section

variable {sep : Char} {separator : String}

theorem pieces_ne_nil (sep : Char) (text : String) : pieces sep text ≠ [] := by
  simp [pieces, split_ne_nil]

theorem notMem_of_mem_pieces {text piece : String} (h : piece ∈ pieces sep text) :
    sep ∉ piece.toList := by
  obtain ⟨chars, hm, rfl⟩ := List.mem_map.1 h
  rw [String.toList_ofList]
  exact notMem_of_mem_split hm

theorem joined_pieces (hs : separator.toList = [sep]) (text : String) :
    joined separator (pieces sep text) = text := by
  rw [joined, pieces, hs, List.map_map, split_eq_splitOn]
  have hid : (String.toList ∘ String.ofList) = id := by
    funext chars
    simp
  rw [hid, List.map_id, List.intercalate_splitOn, String.ofList_toList]

theorem pieces_joined (hs : separator.toList = [sep]) {parts : List String} (hne : parts ≠ [])
    (hparts : ∀ part ∈ parts, sep ∉ part.toList) : pieces sep (joined separator parts) = parts := by
  have hid : (String.ofList ∘ String.toList) = id := by
    funext text
    simp
  rw [joined, pieces, hs, String.toList_ofList, split_eq_splitOn, List.splitOn_intercalate,
    List.map_map, hid, List.map_id]
  · intro chars hm
    obtain ⟨part, hp, rfl⟩ := List.mem_map.1 hm
    exact hparts part hp
  · simpa using hne

end

theorem joined_singleton (separator part : String) : joined separator [part] = part := by
  simp [joined]

theorem joined_cons {rest : List String} (separator first : String) (hne : rest ≠ []) :
    joined separator (first :: rest) = first ++ separator ++ joined separator rest := by
  cases rest with
  | nil => exact absurd rfl hne
  | cons second rest =>
    apply String.toList_inj.1
    simp [joined]

theorem joined_concat {parts : List String} (separator last : String) (hne : parts ≠ []) :
    joined separator (parts ++ [last]) = joined separator parts ++ separator ++ last := by
  induction parts with
  | nil => exact absurd rfl hne
  | cons first rest ih =>
    cases rest with
    | nil =>
      have hcons := joined_cons separator first (List.cons_ne_nil last [])
      rw [List.cons_append, List.nil_append, hcons, joined_singleton, joined_singleton]
    | cons second rest =>
      have hlast : second :: rest ++ [last] ≠ [] := List.cons_ne_nil _ _
      rw [List.cons_append, joined_cons separator first hlast, ih (List.cons_ne_nil second rest),
        joined_cons separator first (List.cons_ne_nil second rest)]
      simp only [String.append_assoc]

theorem contains_iff {part text : List Char} : contains part text = true ↔ part <:+: text := by
  induction text with
  | nil => simp [contains]
  | cons c rest ih => rw [contains, Bool.or_eq_true, ih, List.isPrefixOf_iff_prefix, List.infix_cons_iff]

end Text
end RecordFilter
