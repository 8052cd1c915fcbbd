import RecordFilter.Proofs.Unicode.Context

/-!
# RecordFilter.Proofs.Unicode.Folding

Folding a text that is decomposed already, or folded already.

* `foldText_decomposeText`: canonically equivalent texts fold to the same text.
* `foldText_foldText`: folding again changes nothing, unless the first fold took away a joiner that kept two
  marks out of their order; the second fold orders them, and a third one changes nothing.
-/

namespace RecordFilter
namespace Unicode

/-! ## Decomposed texts -/

def decomposeText (text : String) : String := String.ofList (decompose text.toList)

theorem isComposed_of_mem_flatMap {text : List Char} {c : Char} (h : c ∈ text.flatMap decomposeChar) :
    isComposed c = false := by
  obtain ⟨d, -, hc⟩ := List.mem_flatMap.1 h
  exact (isDecomposition_decomposeChar d).atomic c hc

theorem flatMap_decomposeChar_of_atomic {text : List Char} (h : ∀ c ∈ text, isComposed c = false) :
    text.flatMap decomposeChar = text := by
  induction text with
  | nil => rfl
  | cons c rest ih =>
    rw [List.flatMap_cons, decomposeChar_of_not_isComposed (h c List.mem_cons_self),
      ih fun d hd => h d (List.mem_cons_of_mem c hd)]
    rfl

theorem isComposed_of_mem_decompose {text : List Char} {c : Char} (h : c ∈ decompose text) :
    isComposed c = false :=
  isComposed_of_mem_flatMap (mem_orderMarks.1 h)

theorem decompose_lowercase (text : List Char) :
    decompose (lowercase text) = orderMarks (lowercaseWithin [] [] (text.flatMap decomposeChar)) := by
  rw [decompose, lowercase_eq, flatMap_decomposeChar_lowercaseWithin]

theorem fold_decompose (text : List Char) : fold (decompose text) = fold text := by
  have hatomic : (decompose text).flatMap decomposeChar = decompose text :=
    flatMap_decomposeChar_of_atomic fun c hc => isComposed_of_mem_decompose hc
  have hmarks : Rearranged (text.flatMap decomposeChar) (decompose text) := rearranged_orderMarks _
  rw [fold, fold, decompose_lowercase, decompose_lowercase, hatomic,
    orderMarks_congr (hmarks.lowercaseWithin [] [])]

theorem foldText_decomposeText :
    (∀ text : String, foldText (decomposeText text) = foldText text) ∧
      ∀ s t : String, decomposeText s = decomposeText t → foldText s = foldText t := by
  have hfold : ∀ text : String, foldText (decomposeText text) = foldText text := by
    intro text
    rw [foldText, foldText, decomposeText, String.toList_ofList, fold_decompose]
  refine ⟨hfold, ?_⟩
  intro s t h
  rw [← hfold s, ← hfold t, h]

theorem foldText_decomposeText_cafe :
    decomposeText "caf\u00E9" = decomposeText "cafe\u0301" ∧ foldText "caf\u00E9" = foldText "cafe\u0301" := by
  have h : decomposeText "caf\u00E9" = decomposeText "cafe\u0301" := by decide +kernel
  exact ⟨h, foldText_decomposeText.2 _ _ h⟩

/-! ## Folded texts -/

/-- Neither lower-casing nor decomposing changes the character. -/
structure IsPlain (c : Char) : Prop where
  lowercase : lowercaseChar c = [c]
  composed : isComposed c = false

theorem lowercaseChar_of_mem_lowercaseAt {before after : List Char} {c l : Char}
    (h : l ∈ lowercaseAt before after c) : lowercaseChar l = [l] := by
  rw [lowercaseAt] at h
  split_ifs at h
  · rw [List.mem_singleton.1 h]
    rcases sigma_cases before after with hs | hs
    · rw [hs]
      decide +kernel
    · rw [hs]
      decide +kernel
  · by_cases hc : c = '\u0130'
    · have hdotted : ((lowercaseChar '\u0130').all fun l => lowercaseChar l == [l]) = true := by
        decide +kernel
      exact beq_iff_eq.1 (List.all_eq_true.1 hdotted l (hc ▸ h))
    · obtain ⟨d, hd, hlower⟩ := exists_isLowercase hc
      rw [hd] at h
      rw [List.mem_singleton.1 h]
      exact hlower.fixed

theorem lowercaseChar_of_mem_lowercaseWithin {before after text : List Char} {l : Char}
    (h : l ∈ lowercaseWithin before after text) : lowercaseChar l = [l] := by
  induction text generalizing before with
  | nil => cases h
  | cons c rest ih =>
    rcases List.mem_append.1 h with h | h
    · exact lowercaseChar_of_mem_lowercaseAt h
    · exact ih h

/-- The parts of a character that has no other lower-case form have no other lower-case form. -/
theorem lowercaseChar_of_mem_decomposeChar {c d : Char} (hc : lowercaseChar c = [c])
    (hd : d ∈ decomposeChar c) : lowercaseChar d = [d] := by
  have hparts := isDecomposition_decomposeChar c
  have heq := hparts.lowercase
  rw [hc, List.flatMap_singleton] at heq
  have hlower : ∀ e ∈ decomposeChar c, lowercaseChar e = [Char.ofNat (lowercaseCode e.toNat)] :=
    fun e he => lowercaseChar_eq (ne_dotted_of_not_isComposed (hparts.atomic e he))
  have hmap : (decomposeChar c).flatMap lowercaseChar =
      (decomposeChar c).map fun e => Char.ofNat (lowercaseCode e.toNat) := by
    rw [List.map_eq_flatMap]
    exact List.flatMap_congr hlower
  have hsame := List.map_inj_left.1 ((hmap.symm.trans heq).trans (List.map_id _).symm) d hd
  rw [hlower d hd, hsame]
  rfl

theorem isPlain_of_mem_decompose_lowercase {text : List Char} {c : Char}
    (h : c ∈ decompose (lowercase text)) : IsPlain c := by
  refine ⟨?_, isComposed_of_mem_decompose h⟩
  obtain ⟨d, hd, hc⟩ := List.mem_flatMap.1 (mem_orderMarks.1 h)
  rw [lowercase_eq] at hd
  exact lowercaseChar_of_mem_decomposeChar (lowercaseChar_of_mem_lowercaseWithin hd) hc

theorem IsPlain.ne_sigma {c : Char} (h : IsPlain c) : c ≠ 'Σ' := by
  rintro rfl
  have hsigma : lowercaseChar 'Σ' ≠ ['Σ'] := by decide +kernel
  exact hsigma h.lowercase

theorem lowercase_of_isPlain {text : List Char} (h : ∀ c ∈ text, IsPlain c) : lowercase text = text := by
  have hsigma : 'Σ' ∉ text := fun hmem => (h _ hmem).ne_sigma rfl
  rw [lowercase_eq, lowercaseWithin_of_notMem hsigma, List.flatMap_congr fun c hc => (h c hc).lowercase]
  exact List.flatMap_singleton' text

theorem fold_of_isPlain {text : List Char} (h : ∀ c ∈ text, IsPlain c)
    (hdiacritics : ∀ c ∈ text, isDiacritic c = false) : fold text = orderMarks text := by
  rw [fold, decompose, lowercase_of_isPlain h, flatMap_decomposeChar_of_atomic fun c hc => (h c hc).composed,
    List.filter_eq_self]
  intro c hc
  rw [hdiacritics c (mem_orderMarks.1 hc)]
  rfl

/-- Folding again only orders the marks again. -/
theorem fold_fold (text : List Char) : fold (fold text) = orderMarks (fold text) :=
  fold_of_isPlain (fun _ hc => isPlain_of_mem_decompose_lowercase (List.mem_of_mem_filter hc))
    fun _ hc => not_isDiacritic_of_mem_fold hc

/-! ## Marks held apart -/

/-- The only starter among the diacritics. -/
def joiner : Char := '\u034F'

/-- Two marks that the fold keeps are out of order, with a joiner and nothing else but diacritics between
them. -/
def HoldsApart (text : List Char) : Prop :=
  ∃ before high gap low after, text = before ++ high :: (gap ++ low :: after) ∧ joiner ∈ gap ∧
    (∀ c ∈ gap, isDiacritic c = true) ∧ isDiacritic high = false ∧ isDiacritic low = false ∧
    isMark low = true ∧ combiningClass low < combiningClass high

theorem isMark_of_isDiacritic {c : Char} (h : isDiacritic c = true) (hne : c ≠ joiner) : isMark c = true := by
  have hmarks : ∀ n, 0x300 ≤ n → n ≤ 0x36F → n ≠ 0x34F → hasBit markBits n = true := by decide +kernel
  rw [isDiacritic, Bool.and_eq_true, decide_eq_true_eq, decide_eq_true_eq] at h
  rw [isMark_eq]
  exact hmarks _ h.1 h.2 fun heq => hne (Char.toNat_inj.1 heq)

theorem IsOrdered.le_of_marks {c d : Char} {gap rest : List Char} (h : IsOrdered (c :: (gap ++ d :: rest)))
    (hgap : ∀ e ∈ gap, isMark e = true) (hd : isMark d = true) : combiningClass c ≤ combiningClass d := by
  induction gap generalizing c with
  | nil => exact (List.isChain_cons_cons.1 h).1 hd
  | cons e gap ih =>
    obtain ⟨hce, htail⟩ := List.isChain_cons_cons.1 h
    have hle := ih htail fun f hf => hgap f (List.mem_cons_of_mem e hf)
    exact Nat.le_trans (hce (hgap e List.mem_cons_self)) hle

theorem isOrdered_filter_iff {text : List Char} (h : IsOrdered text) :
    IsOrdered (text.filter fun c => !isDiacritic c) ↔ ¬ HoldsApart text := by
  rw [IsOrdered, List.isChain_iff_forall_rel_of_append_cons_cons]
  constructor
  · rintro hordered ⟨before, high, gap, low, after, rfl, -, hgap, hhigh, hlow, hmark, hlt⟩
    have hnone : gap.filter (fun c => !isDiacritic c) = [] := by
      simpa [List.filter_eq_nil_iff] using hgap
    have hfilter : (before ++ high :: (gap ++ low :: after)).filter (fun c => !isDiacritic c) =
        before.filter (fun c => !isDiacritic c) ++ high :: low :: after.filter fun c => !isDiacritic c := by
      simp only [List.filter_append, List.filter_cons, hnone, hhigh, hlow, Bool.not_false, if_true,
        List.nil_append]
    exact Nat.not_le_of_lt hlt (hordered hfilter hmark)
  · intro hapart high low front back heq hmark
    by_contra hlt
    obtain ⟨before, tail, rfl, -, htail⟩ := List.filter_eq_append_iff.1 heq
    obtain ⟨skipped, tail', rfl, -, hhigh, htail'⟩ := List.filter_eq_cons_iff.1 htail
    obtain ⟨gap, after, rfl, hgap, hlow, -⟩ := List.filter_eq_cons_iff.1 htail'
    have hordered : IsOrdered (high :: (gap ++ low :: after)) :=
      h.suffix (by rw [← List.append_assoc]; exact List.suffix_append _ _)
    have hdiacritic : ∀ c ∈ gap, isDiacritic c = true := fun c hc => by simpa using hgap c hc
    refine hapart ⟨before ++ skipped, high, gap, low, after, by simp, ?_, hdiacritic, by simpa using hhigh,
      by simpa using hlow, hmark, Nat.lt_of_not_le hlt⟩
    by_contra hjoiner
    refine hlt (hordered.le_of_marks (fun e he => isMark_of_isDiacritic (hdiacritic e he) ?_) hmark)
    rintro rfl
    exact hjoiner he

theorem fold_fold_eq_iff (text : List Char) :
    fold (fold text) = fold text ↔ ¬ HoldsApart (decompose (lowercase text)) := by
  rw [fold_fold, orderMarks_eq_self_iff]
  exact isOrdered_filter_iff (isOrdered_orderMarks _)

theorem foldText_foldText (text : String) :
    (foldText (foldText text) = foldText text ↔ ¬ HoldsApart (decompose (lowercase text.toList))) ∧
      foldText (foldText (foldText text)) = foldText (foldText text) := by
  simp only [foldText, String.toList_ofList]
  constructor
  · rw [← fold_fold_eq_iff]
    exact ⟨fun h => String.ofList_inj.1 h, congrArg String.ofList⟩
  · rw [fold_fold (fold text.toList), fold_fold text.toList, orderMarks_orderMarks]

/-- The vowel points of Hebrew have classes 11 and 10. -/
theorem foldText_foldText_joiner : ¬ ∀ text : String, foldText (foldText text) = foldText text := by
  intro h
  have hfold : foldText (foldText "\u05B1\u034F\u05B0") ≠ foldText "\u05B1\u034F\u05B0" := by decide +kernel
  exact hfold (h _)

end Unicode
end RecordFilter
