import RecordFilter.Proofs.Unicode.CanonicalOrder
import RecordFilter.Proofs.Unicode.Characters

/-!
# RecordFilter.Proofs.Unicode.Context

Lower-casing of a part of a text, with the text around it.

* `lowercaseWithin_append`: the parts of a text are lower-cased apart, each within the others.
* `flatMap_decomposeChar_lowercaseWithin`: lower-casing and decomposing every character can be exchanged.
* `Rearranged.lowercaseWithin`: rearranged texts have rearranged lower-case forms.
-/

namespace RecordFilter
namespace Unicode

def lowercaseAt (before after : List Char) (c : Char) : List Char :=
  if c = 'Σ' then [sigma before after] else lowercaseChar c

/-- The lower-case form of a text that stands between `before`, nearest character first, and `after`. -/
def lowercaseWithin (before after : List Char) : List Char → List Char
  | [] => []
  | c :: rest => lowercaseAt before (rest ++ after) c ++ lowercaseWithin (c :: before) after rest

theorem lowercaseFrom_eq (before text : List Char) :
    lowercaseFrom before text = lowercaseWithin before [] text := by
  induction text generalizing before with
  | nil => rfl
  | cons c rest ih => rw [lowercaseFrom, lowercaseWithin, ih, List.append_nil, lowercaseAt]

theorem lowercase_eq (text : List Char) : lowercase text = lowercaseWithin [] [] text := lowercaseFrom_eq [] text

theorem lowercaseWithin_append (before after t u : List Char) :
    lowercaseWithin before after (t ++ u) =
      lowercaseWithin before (u ++ after) t ++ lowercaseWithin (t.reverse ++ before) after u := by
  induction t generalizing before with
  | nil => rfl
  | cons c rest ih =>
    simp only [List.cons_append, lowercaseWithin, ih, List.reverse_cons, List.append_assoc, List.nil_append]

/-! ## What a sigma sees -/

theorem meetsCased_append (t u : List Char) : meetsCased (t ++ u) = (firstCase t).getD (meetsCased u) := by
  rw [meetsCased_eq, meetsCased_eq, firstCase_append]
  cases firstCase t <;> rfl

theorem meetsCased_append_congr {s t u v : List Char} (hfirst : firstCase s = firstCase t)
    (hrest : meetsCased u = meetsCased v) : meetsCased (s ++ u) = meetsCased (t ++ v) := by
  rw [meetsCased_append, meetsCased_append, hfirst, hrest]

theorem meetsCased_cons_congr (c : Char) {t t' : List Char} (h : meetsCased t = meetsCased t') :
    meetsCased (c :: t) = meetsCased (c :: t') := meetsCased_append_congr (s := [c]) rfl h

theorem sigma_congr {b b' a a' : List Char} (hb : meetsCased b = meetsCased b')
    (ha : meetsCased a = meetsCased a') : sigma b a = sigma b' a' := by
  rw [sigma, sigma, hb, ha]

theorem sigma_cases (before after : List Char) : sigma before after = 'ς' ∨ sigma before after = 'σ' := by
  rw [sigma]
  split_ifs
  · exact .inl rfl
  · exact .inr rfl

theorem lowercaseAt_congr (c : Char) {b b' a a' : List Char} (hb : meetsCased b = meetsCased b')
    (ha : meetsCased a = meetsCased a') : lowercaseAt b a c = lowercaseAt b' a' c := by
  rw [lowercaseAt, lowercaseAt, sigma_congr hb ha]

theorem lowercaseWithin_congr (text : List Char) {b b' a a' : List Char} (hb : meetsCased b = meetsCased b')
    (ha : meetsCased a = meetsCased a') : lowercaseWithin b a text = lowercaseWithin b' a' text := by
  induction text generalizing b b' with
  | nil => rfl
  | cons c rest ih =>
    rw [lowercaseWithin, lowercaseWithin, ih (meetsCased_cons_congr c hb),
      lowercaseAt_congr c hb (meetsCased_append_congr rfl ha)]

theorem lowercaseWithin_of_notMem {text : List Char} (h : 'Σ' ∉ text) (before after : List Char) :
    lowercaseWithin before after text = text.flatMap lowercaseChar := by
  induction text generalizing before with
  | nil => rfl
  | cons c rest ih =>
    obtain ⟨hc, hrest⟩ := not_or.1 (mt List.mem_cons.2 h)
    rw [lowercaseWithin, lowercaseAt, if_neg (Ne.symm hc), ih hrest, List.flatMap_cons]

/-! ## Decomposition -/

theorem firstCase_flatMap_decomposeChar (text : List Char) :
    firstCase (text.flatMap decomposeChar) = firstCase text := by
  induction text with
  | nil => rfl
  | cons c rest ih =>
    rw [List.flatMap_cons, firstCase_append, firstCase_cons, ih, (isDecomposition_decomposeChar c).forward]

theorem decomposeChar_sigma : decomposeChar 'Σ' = ['Σ'] := by decide +kernel

theorem flatMap_decomposeChar_sigma (before after : List Char) :
    [sigma before after].flatMap decomposeChar = [sigma before after] := by
  rcases sigma_cases before after with h | h
  · rw [h]
    decide +kernel
  · rw [h]
    decide +kernel

theorem notMem_decomposeChar {c : Char} (h : c ≠ 'Σ') : 'Σ' ∉ decomposeChar c := by
  intro hmem
  have hparts := (isDecomposition_decomposeChar c).sigma 'Σ' hmem rfl
  rw [hparts] at hmem
  exact h (List.mem_singleton.1 hmem).symm

theorem flatMap_decomposeChar_lowercaseWithin (before after text : List Char) :
    (lowercaseWithin before after text).flatMap decomposeChar =
      lowercaseWithin before after (text.flatMap decomposeChar) := by
  induction text generalizing before with
  | nil => rfl
  | cons c rest ih =>
    have hbefore : meetsCased ((decomposeChar c).reverse ++ before) = meetsCased (c :: before) :=
      meetsCased_append_congr (t := [c]) (by simp [(isDecomposition_decomposeChar c).backward]) rfl
    have hafter : meetsCased (rest.flatMap decomposeChar ++ after) = meetsCased (rest ++ after) :=
      meetsCased_append_congr (firstCase_flatMap_decomposeChar rest) rfl
    rw [lowercaseWithin, List.flatMap_append, ih, List.flatMap_cons, lowercaseWithin_append,
      lowercaseWithin_congr _ hbefore rfl]
    congr 1
    by_cases hc : c = 'Σ'
    · subst hc
      rw [decomposeChar_sigma, lowercaseAt, if_pos rfl, flatMap_decomposeChar_sigma]
      exact congrArg (fun l => [l]) (sigma_congr rfl hafter.symm)
    · rw [lowercaseWithin_of_notMem (notMem_decomposeChar hc), lowercaseAt, if_neg hc,
        (isDecomposition_decomposeChar c).lowercase]

/-! ## Order of marks -/

theorem lowercaseAt_of_isMark {c : Char} (h : isMark c = true) (before after : List Char) :
    lowercaseAt before after c = [c] := by
  have hsigma : isMark 'Σ' = false := by decide +kernel
  have hdotted : isMark '\u0130' = false := by decide +kernel
  have hc : c ≠ 'Σ' := by
    rintro rfl
    rw [hsigma] at h
    cases h
  have hc' : c ≠ '\u0130' := by
    rintro rfl
    rw [hdotted] at h
    cases h
  obtain ⟨l, hl, hlower⟩ := exists_isLowercase hc'
  rw [lowercaseAt, if_neg hc, hl]
  rcases hlower.mark with rfl | ⟨hnot, -⟩
  · rfl
  · rw [h] at hnot
    cases hnot

theorem caseOf_of_isMark {c : Char} (h : isMark c = true) : caseOf c = none ∨ caseOf c = some false := by
  have hcased : (markBits &&& casedBits) ||| ignorableBits = ignorableBits := by decide +kernel
  rw [isMark_eq, hasBit_eq_testBit] at h
  rw [caseOf, isCaseIgnorable_eq, isCased_eq]
  cases hignorable : hasBit ignorableBits c.toNat with
  | true => exact .inl rfl
  | false =>
    have hbit := congrArg (fun bits => bits.testBit c.toNat) hcased
    rw [hasBit_eq_testBit] at hignorable ⊢
    simp only [Nat.testBit_or, Nat.testBit_and, h, hignorable, Bool.true_and, Bool.or_false] at hbit
    rw [hbit]
    exact .inr rfl

theorem Rearranged.firstCase {t u : List Char} (h : Rearranged t u) : firstCase t = firstCase u := by
  induction h with
  | refl t => rfl
  | swap before after hc hd _ =>
    simp only [firstCase_append, firstCase_cons]
    rcases caseOf_of_isMark hc with hc | hc <;> rcases caseOf_of_isMark hd with hd | hd <;> rw [hc, hd] <;> rfl
  | trans _ _ ih ih' => exact ih.trans ih'

theorem Rearranged.lowercaseWithin {t u : List Char} (h : Rearranged t u) (b a : List Char) :
    Rearranged (lowercaseWithin b a t) (lowercaseWithin b a u) := by
  induction h with
  | refl t => exact .refl _
  | @swap before c d after hc hd hne =>
    have hback : meetsCased (d :: c :: (before.reverse ++ b)) = meetsCased (c :: d :: (before.reverse ++ b)) :=
      meetsCased_append_congr (s := [d, c]) (t := [c, d]) (Rearranged.swap [] [] hd hc hne.symm).firstCase rfl
    have hahead : meetsCased (c :: d :: after ++ a) = meetsCased (d :: c :: after ++ a) :=
      meetsCased_append_congr (Rearranged.swap [] after hc hd hne).firstCase rfl
    rw [lowercaseWithin_append, lowercaseWithin_append, lowercaseWithin_congr before rfl hahead]
    simp only [Unicode.lowercaseWithin, lowercaseAt_of_isMark hc, lowercaseAt_of_isMark hd, List.cons_append,
      List.nil_append]
    rw [lowercaseWithin_congr after hback rfl]
    exact .swap _ _ hc hd hne
  | trans _ _ ih ih' => exact ih.trans ih'

end Unicode
end RecordFilter
