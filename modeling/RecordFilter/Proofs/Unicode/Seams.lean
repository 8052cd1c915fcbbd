import Mathlib.Data.List.Forall2
import RecordFilter.Proofs.Unicode.Context

/-!
# RecordFilter.Proofs.Unicode.Seams

The fold of a text that has other text around it.

* `fold_infix`: a text keeps its fold among other text where its sigmas keep their form and no mark crosses
  a seam.
-/

namespace RecordFilter
namespace Unicode

/-! ## What the fold keeps -/

/-- A mark that a fold takes away. The joiner is none. -/
def isAccent (c : Char) : Bool := isMark c && isDiacritic c

def withoutAccents (text : List Char) : List Char := text.filter fun c => !isAccent c

theorem withoutAccents_append (t u : List Char) :
    withoutAccents (t ++ u) = withoutAccents t ++ withoutAccents u := List.filter_append t u

theorem fold_eq (text : List Char) :
    fold text =
      (orderMarks (withoutAccents ((lowercase text).flatMap decomposeChar))).filter fun c => !isDiacritic c := by
  have hmarks : ∀ c, (!isAccent c) = false → isMark c = true := by
    intro c hc
    rw [Bool.not_eq_false', isAccent, Bool.and_eq_true] at hc
    exact hc.1
  have hkept : ∀ c, (!isDiacritic c && !isAccent c) = !isDiacritic c := by
    intro c
    rw [isAccent]
    cases isDiacritic c <;> cases isMark c <;> rfl
  rw [withoutAccents, ← filter_orderMarks hmarks, List.filter_filter]
  simp only [hkept]
  rfl

/-- A mark stays the same, and a starter gives way to a starter. -/
def IsAlike (c l : Char) : Prop := l = c ∨ isMark c = false ∧ isMark l = false

theorem isAlike_lowercaseAt {c : Char} (h : isComposed c = false) (before after : List Char) :
    ∃ l, lowercaseAt before after c = [l] ∧ IsAlike c l := by
  have hsigmas : isMark 'Σ' = false ∧ isMark 'σ' = false ∧ isMark 'ς' = false := by decide +kernel
  rw [lowercaseAt]
  split_ifs with hc
  · refine ⟨_, rfl, .inr ⟨hc ▸ hsigmas.1, ?_⟩⟩
    rcases sigma_cases before after with hs | hs <;> rw [hs]
    · exact hsigmas.2.2
    · exact hsigmas.2.1
  · obtain ⟨l, hl, hlower⟩ := exists_isLowercase (ne_dotted_of_not_isComposed h)
    exact ⟨l, hl, hlower.mark⟩

theorem forall₂_lowercaseWithin {text : List Char} (h : ∀ c ∈ text, isComposed c = false)
    (before after : List Char) : List.Forall₂ IsAlike text (lowercaseWithin before after text) := by
  induction text generalizing before with
  | nil => exact .nil
  | cons c rest ih =>
    obtain ⟨l, hl, halike⟩ := isAlike_lowercaseAt (h c List.mem_cons_self) before (rest ++ after)
    rw [lowercaseWithin, hl]
    exact .cons halike (ih (fun d hd => h d (List.mem_cons_of_mem c hd)) (c :: before))

theorem startMarks_of_isAlike {t u : List Char} (h : List.Forall₂ IsAlike t u) :
    startMarks (withoutAccents t) = startMarks (withoutAccents u) := by
  induction h with
  | nil => rfl
  | @cons c l t u halike _ ih =>
    rw [startMarks, startMarks, withoutAccents, withoutAccents] at ih ⊢
    rcases halike with rfl | ⟨hc, hl⟩
    · cases haccent : isAccent l with
      | true => simpa [List.filter_cons, haccent] using ih
      | false => simp only [List.filter_cons, haccent, Bool.not_false, if_true, List.takeWhile_cons, ih]
    · simp [isAccent, hc, hl]

theorem endMarks_of_isAlike {t u : List Char} (h : List.Forall₂ IsAlike t u) :
    endMarks (withoutAccents t) = endMarks (withoutAccents u) := by
  have hreverse := startMarks_of_isAlike (List.forall₂_reverse_iff.2 h)
  rwa [withoutAccents, withoutAccents, List.filter_reverse, List.filter_reverse] at hreverse

/-! ## Parts -/

/-- What a fold makes of a part of a text, before the order of the marks. -/
def partWithin (before after text : List Char) : List Char :=
  withoutAccents ((lowercaseWithin before after text).flatMap decomposeChar)

/-- The marks of a text that a fold keeps, among its starters. -/
def settled (text : List Char) : List Char := withoutAccents (text.flatMap decomposeChar)

theorem fold_eq_partWithin (text : List Char) :
    fold text = (orderMarks (partWithin [] [] text)).filter fun c => !isDiacritic c := by
  rw [fold_eq, lowercase_eq, partWithin]

theorem partWithin_append (before after t u : List Char) :
    partWithin before after (t ++ u) =
      partWithin before (u ++ after) t ++ partWithin (t.reverse ++ before) after u := by
  rw [partWithin, lowercaseWithin_append, List.flatMap_append, withoutAccents_append]
  rfl

theorem isAlike_flatMap_lowercaseWithin (before after text : List Char) :
    List.Forall₂ IsAlike (text.flatMap decomposeChar)
      ((lowercaseWithin before after text).flatMap decomposeChar) := by
  rw [flatMap_decomposeChar_lowercaseWithin]
  refine forall₂_lowercaseWithin ?_ before after
  intro c hc
  obtain ⟨d, -, hd⟩ := List.mem_flatMap.1 hc
  exact (isDecomposition_decomposeChar d).atomic c hd

theorem startMarks_partWithin (before after text : List Char) :
    startMarks (partWithin before after text) = startMarks (settled text) :=
  (startMarks_of_isAlike (isAlike_flatMap_lowercaseWithin before after text)).symm

theorem endMarks_partWithin (before after text : List Char) :
    endMarks (partWithin before after text) = endMarks (settled text) :=
  (endMarks_of_isAlike (isAlike_flatMap_lowercaseWithin before after text)).symm

theorem keepsApart_partWithin {t u : List Char} (h : KeepsApart (settled t) (settled u))
    (b a b' a' : List Char) : KeepsApart (partWithin b a t) (partWithin b' a' u) := by
  intro c hc d hd
  rw [endMarks_partWithin] at hc
  rw [startMarks_partWithin] at hd
  exact h c hc d hd

/-- No mark crosses two seams, since it would have to pass all that stands between them. -/
theorem KeepsApart.append {t u v : List Char} (htu : KeepsApart t u) (huv : KeepsApart u v) (hu : u ≠ []) :
    KeepsApart t (u ++ v) := by
  intro c hc d hd
  rw [startMarks, List.takeWhile_append] at hd
  split_ifs at hd with hall
  · have hstart : startMarks u = u := (List.takeWhile_prefix isMark).eq_of_length hall
    rcases List.mem_append.1 hd with hd | hd
    · exact htu c hc d (by rwa [hstart])
    · obtain ⟨e, he⟩ := List.exists_mem_of_ne_nil u hu
      have hend : endMarks u = u.reverse := by
        rw [endMarks, startMarks, List.takeWhile_eq_self_iff]
        intro f hf
        exact List.takeWhile_eq_self_iff.1 hstart f (List.mem_reverse.1 hf)
      exact Nat.le_trans (htu c hc e (by rwa [hstart])) (huv e (by rwa [hend, List.mem_reverse]) d hd)
  · exact htu c hc d hd

/-! ## Among other text -/

/-- Between `p` and `q` the fold of `s` stays what it is on its own: every sigma has the form that it has in
`s` alone, and the marks that the fold keeps do not cross the seams. -/
structure KeepsForm (p s q : List Char) : Prop where
  sigma : ∀ before after, s = before ++ 'Σ' :: after →
    sigma (before.reverse ++ p.reverse) (after ++ q) = sigma before.reverse after
  front : KeepsApart (settled p) (settled s)
  back : KeepsApart (settled s) (settled q)

theorem lowercaseWithin_of_sigma {text b a b' a' : List Char}
    (h : ∀ before after, text = before ++ 'Σ' :: after →
      sigma (before.reverse ++ b) (after ++ a) = sigma (before.reverse ++ b') (after ++ a')) :
    lowercaseWithin b a text = lowercaseWithin b' a' text := by
  induction text generalizing b b' with
  | nil => rfl
  | cons c rest ih =>
    have hhead : lowercaseAt b (rest ++ a) c = lowercaseAt b' (rest ++ a') c := by
      rw [lowercaseAt, lowercaseAt]
      split_ifs with hc
      · exact congrArg (fun l => [l]) (h [] rest (by rw [hc]; rfl))
      · rfl
    have htail : lowercaseWithin (c :: b) a rest = lowercaseWithin (c :: b') a' rest := by
      refine ih fun before after heq => ?_
      have hsigma := h (c :: before) after (by rw [heq]; rfl)
      rwa [List.reverse_cons, List.append_assoc, List.append_assoc] at hsigma
    rw [lowercaseWithin, lowercaseWithin, hhead, htail]

theorem KeepsForm.partWithin_eq {p s q : List Char} (h : KeepsForm p s q) :
    partWithin p.reverse q s = partWithin [] [] s := by
  have hsame : lowercaseWithin p.reverse q s = lowercaseWithin [] [] s := by
    refine lowercaseWithin_of_sigma fun before after heq => ?_
    rw [List.append_nil, List.append_nil]
    exact h.sigma before after heq
  rw [partWithin, partWithin, hsame]

theorem fold_infix {p s q : List Char} (h : KeepsForm p s q) : fold s <:+: fold (p ++ s ++ q) := by
  have hparts : partWithin [] [] (p ++ s ++ q) =
      partWithin [] (s ++ q) p ++ (partWithin [] [] s ++ partWithin (s.reverse ++ p.reverse) [] q) := by
    rw [List.append_assoc, partWithin_append, partWithin_append]
    simp only [List.append_nil, h.partWithin_eq]
  rw [fold_eq_partWithin, fold_eq_partWithin, hparts]
  by_cases hs : partWithin [] [] s = []
  · rw [hs]
    exact List.nil_infix
  · have hback := keepsApart_partWithin h.back [] [] (s.reverse ++ p.reverse) []
    have hfront := keepsApart_partWithin h.front [] (s ++ q) [] []
    rw [orderMarks_append (hfront.append hback hs), orderMarks_append hback, List.filter_append,
      List.filter_append]
    exact ⟨_, _, List.append_assoc _ _ _⟩

end Unicode
end RecordFilter
