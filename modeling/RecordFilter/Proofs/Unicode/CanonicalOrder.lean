import Mathlib.Data.List.Chain
import Mathlib.Data.List.TakeWhile
import RecordFilter.Proofs.Unicode.Tables

/-!
# RecordFilter.Proofs.Unicode.CanonicalOrder

The canonical order of marks as a normal form.

* `rearranged_orderMarks`, `isOrdered_orderMarks`: ordering only moves marks past marks of another class, and
  afterwards no mark stands behind one of a greater class.
* `orderMarks_congr`: texts that differ by such moves have the same order.
* `filter_orderMarks`: marks can be left out before the order or after it.
* `orderMarks_append`: two texts are ordered apart where no mark has to cross the seam.
-/

namespace RecordFilter
namespace Unicode

/-- No mark stands right behind a mark of a greater class. -/
def IsOrdered (text : List Char) : Prop :=
  text.IsChain fun c d => isMark d = true → combiningClass c ≤ combiningClass d

/-- The texts differ in the order of neighbouring marks of different classes. -/
inductive Rearranged : List Char → List Char → Prop where
  | refl (text : List Char) : Rearranged text text
  | swap (before : List Char) {c d : Char} (after : List Char) (hc : isMark c = true) (hd : isMark d = true)
      (hne : combiningClass c ≠ combiningClass d) :
      Rearranged (before ++ c :: d :: after) (before ++ d :: c :: after)
  | trans {t u v : List Char} (htu : Rearranged t u) (huv : Rearranged u v) : Rearranged t v

theorem isMark_iff {c : Char} : isMark c = true ↔ combiningClass c ≠ 0 := by
  rw [isMark, bne_iff_ne]

theorem isMark_of_lt {c d : Char} (h : combiningClass d < combiningClass c) : isMark c = true :=
  isMark_iff.2 (Nat.ne_of_gt (Nat.lt_of_le_of_lt (Nat.zero_le _) h))

/-! ## Rearranged texts -/

theorem Rearranged.append {t u : List Char} (h : Rearranged t u) (front back : List Char) :
    Rearranged (front ++ t ++ back) (front ++ u ++ back) := by
  induction h with
  | refl t => exact .refl _
  | swap before after hc hd hne =>
    have hswap := Rearranged.swap (front ++ before) (after ++ back) hc hd hne
    simpa only [List.append_assoc, List.cons_append] using hswap
  | trans _ _ ih ih' => exact ih.trans ih'

theorem Rearranged.cons {t u : List Char} (h : Rearranged t u) (c : Char) :
    Rearranged (c :: t) (c :: u) := by
  simpa using h.append [c] []

theorem Rearranged.reverse {t u : List Char} (h : Rearranged t u) : Rearranged t.reverse u.reverse := by
  induction h with
  | refl t => exact .refl _
  | swap before after hc hd hne =>
    have hswap := Rearranged.swap after.reverse before.reverse hd hc hne.symm
    simpa using hswap
  | trans _ _ ih ih' => exact ih.trans ih'

theorem Rearranged.filter {t u : List Char} (h : Rearranged t u) (keep : Char → Bool) :
    Rearranged (t.filter keep) (u.filter keep) := by
  induction h with
  | refl t => exact .refl _
  | @swap before c d after hc hd hne =>
    have hswap := Rearranged.swap (before.filter keep) (after.filter keep) hc hd hne
    cases hkc : keep c <;> cases hkd : keep d
    · simpa [hkc, hkd] using Rearranged.refl _
    · simpa [hkc, hkd] using Rearranged.refl _
    · simpa [hkc, hkd] using Rearranged.refl _
    · simpa [hkc, hkd] using hswap
  | trans _ _ ih ih' => exact ih.trans ih'

theorem Rearranged.perm {t u : List Char} (h : Rearranged t u) : t.Perm u := by
  induction h with
  | refl t => exact .refl t
  | swap before after _ _ _ => exact List.Perm.append_left before (.swap _ _ after)
  | trans _ _ ih ih' => exact ih.trans ih'

/-- The run of marks that a text begins with keeps its members. -/
theorem Rearranged.takeWhile_perm {t u : List Char} (h : Rearranged t u) :
    (t.takeWhile isMark).Perm (u.takeWhile isMark) := by
  induction h with
  | refl t => exact .refl _
  | @swap before c d after hc hd _ =>
    have hcd : ((c :: d :: after).takeWhile isMark).Perm ((d :: c :: after).takeWhile isMark) := by
      simp only [List.takeWhile_cons_of_pos, hc, hd]
      exact .swap _ _ _
    rw [List.takeWhile_append, List.takeWhile_append]
    split_ifs
    · exact List.Perm.append_left before hcd
    · exact .refl _
  | trans _ _ ih ih' => exact ih.trans ih'

/-! ## Insertion -/

theorem insertMark_of_lt {c d : Char} {text : List Char} (hd : isMark d = true)
    (h : combiningClass d < combiningClass c) : insertMark c (d :: text) = d :: insertMark c text := by
  rw [insertMark, if_pos ⟨isMark_iff.1 hd, h⟩]

theorem insertMark_of_le {c d : Char} {text : List Char}
    (h : isMark d = true → combiningClass c ≤ combiningClass d) :
    insertMark c (d :: text) = c :: d :: text := by
  rw [insertMark, if_neg]
  rintro ⟨hd, hlt⟩
  exact Nat.not_le_of_lt hlt (h (isMark_iff.2 hd))

/-- The mark at the front moves past the one behind it, or it stays where it is. -/
theorem insertMark_cases (c d : Char) :
    (isMark d = true ∧ combiningClass d < combiningClass c) ∨
      (isMark d = true → combiningClass c ≤ combiningClass d) := by
  by_cases hd : isMark d = true
  · rcases Nat.lt_or_ge (combiningClass d) (combiningClass c) with hlt | hge
    · exact .inl ⟨hd, hlt⟩
    · exact .inr fun _ => hge
  · exact .inr fun h => absurd h hd

theorem rearranged_insertMark (c : Char) (text : List Char) : Rearranged (c :: text) (insertMark c text) := by
  induction text with
  | nil => exact .refl [c]
  | cons d rest ih =>
    rcases insertMark_cases c d with ⟨hd, hlt⟩ | hle
    · rw [insertMark_of_lt hd hlt]
      have hswap : Rearranged (c :: d :: rest) (d :: c :: rest) :=
        .swap [] rest (isMark_of_lt hlt) hd (Nat.ne_of_gt hlt)
      exact hswap.trans (ih.cons d)
    · rw [insertMark_of_le hle]
      exact .refl _

theorem insertMark_comm_of_lt {c d : Char} (hd : isMark d = true)
    (h : combiningClass d < combiningClass c) (text : List Char) :
    insertMark c (insertMark d text) = insertMark d (insertMark c text) := by
  induction text with
  | nil => rw [insertMark, insertMark, insertMark_of_lt hd h, insertMark, insertMark_of_le fun _ => Nat.le_of_lt h]
  | cons e rest ih =>
    rcases insertMark_cases d e with ⟨he, hlt⟩ | hle
    · rw [insertMark_of_lt he hlt, insertMark_of_lt he (Nat.lt_trans hlt h),
        insertMark_of_lt he (Nat.lt_trans hlt h), insertMark_of_lt he hlt, ih]
    · rw [insertMark_of_le hle, insertMark_of_lt hd h]
      rcases insertMark_cases c e with ⟨he, hlt⟩ | hle'
      · rw [insertMark_of_lt he hlt, insertMark_of_le hle]
      · rw [insertMark_of_le hle', insertMark_of_le fun _ => Nat.le_of_lt h]

theorem insertMark_comm {c d : Char} (hc : isMark c = true) (hd : isMark d = true)
    (hne : combiningClass c ≠ combiningClass d) (text : List Char) :
    insertMark c (insertMark d text) = insertMark d (insertMark c text) := by
  rcases Nat.lt_or_gt_of_ne hne with hlt | hgt
  · exact (insertMark_comm_of_lt hc hlt text).symm
  · exact insertMark_comm_of_lt hd hgt text

theorem insertMark_of_isOrdered {c : Char} {text : List Char} (h : IsOrdered (c :: text)) :
    insertMark c text = c :: text := by
  cases text with
  | nil => rfl
  | cons d rest => exact insertMark_of_le (List.isChain_cons_cons.1 h).1

theorem isOrdered_insertMark (c : Char) {text : List Char} (h : IsOrdered text) :
    IsOrdered (insertMark c text) := by
  induction text with
  | nil => exact List.isChain_singleton c
  | cons d rest ih =>
    rcases insertMark_cases c d with ⟨hd, hlt⟩ | hle
    · rw [insertMark_of_lt hd hlt]
      have hrest := ih (List.IsChain.tail h)
      cases rest with
      | nil => exact List.isChain_pair.2 fun _ => Nat.le_of_lt hlt
      | cons e rest =>
        rcases insertMark_cases c e with ⟨he, hlt'⟩ | hle'
        · rw [insertMark_of_lt he hlt'] at hrest ⊢
          exact List.isChain_cons_cons.2 ⟨(List.isChain_cons_cons.1 h).1, hrest⟩
        · rw [insertMark_of_le hle'] at hrest ⊢
          exact List.isChain_cons_cons.2 ⟨fun _ => Nat.le_of_lt hlt, hrest⟩
    · rw [insertMark_of_le hle]
      exact List.isChain_cons_cons.2 ⟨hle, h⟩

/-! ## Order -/

theorem rearranged_orderMarks (text : List Char) : Rearranged text (orderMarks text) := by
  induction text with
  | nil => exact .refl []
  | cons c rest ih => exact (ih.cons c).trans (rearranged_insertMark c (orderMarks rest))

theorem isOrdered_orderMarks (text : List Char) : IsOrdered (orderMarks text) := by
  induction text with
  | nil => exact List.isChain_nil
  | cons c rest ih => exact isOrdered_insertMark c ih

theorem orderMarks_of_isOrdered {text : List Char} (h : IsOrdered text) : orderMarks text = text := by
  induction text with
  | nil => rfl
  | cons c rest ih =>
    have hrest : orderMarks rest = rest := ih (List.IsChain.tail h)
    rw [orderMarks] at hrest ⊢
    rw [List.foldr_cons, hrest, insertMark_of_isOrdered h]

theorem orderMarks_eq_self_iff {text : List Char} : orderMarks text = text ↔ IsOrdered text :=
  ⟨fun h => h ▸ isOrdered_orderMarks text, orderMarks_of_isOrdered⟩

@[simp]
theorem orderMarks_orderMarks (text : List Char) : orderMarks (orderMarks text) = orderMarks text :=
  orderMarks_of_isOrdered (isOrdered_orderMarks text)

theorem orderMarks_congr {t u : List Char} (h : Rearranged t u) : orderMarks t = orderMarks u := by
  induction h with
  | refl t => rfl
  | swap before after hc hd hne =>
    rw [orderMarks, orderMarks, List.foldr_append, List.foldr_append]
    simp only [List.foldr_cons, insertMark_comm hc hd hne]
  | trans _ _ ih ih' => exact ih.trans ih'

theorem mem_orderMarks {text : List Char} {c : Char} : c ∈ orderMarks text ↔ c ∈ text :=
  (rearranged_orderMarks text).perm.mem_iff.symm

/-! ## Marks left out -/

theorem IsOrdered.filter_cons {keep : Char → Bool} (hkeep : ∀ c, keep c = false → isMark c = true) {c : Char}
    {text : List Char} (h : IsOrdered (c :: text)) : IsOrdered (c :: text.filter keep) := by
  induction text generalizing c with
  | nil => exact h
  | cons d rest ih =>
    obtain ⟨hcd, hrest⟩ := List.isChain_cons_cons.1 h
    cases hd : keep d with
    | true =>
      rw [List.filter_cons_of_pos hd]
      exact List.isChain_cons_cons.2 ⟨hcd, ih hrest⟩
    | false =>
      rw [List.filter_cons_of_neg (Bool.eq_false_iff.1 hd)]
      refine ih ?_
      cases rest with
      | nil => exact List.isChain_singleton c
      | cons e rest =>
        obtain ⟨hde, htail⟩ := List.isChain_cons_cons.1 hrest
        exact List.isChain_cons_cons.2 ⟨fun he => Nat.le_trans (hcd (hkeep d hd)) (hde he), htail⟩

theorem IsOrdered.filter {keep : Char → Bool} (hkeep : ∀ c, keep c = false → isMark c = true)
    {text : List Char} (h : IsOrdered text) : IsOrdered (text.filter keep) := by
  cases text with
  | nil => exact h
  | cons c rest =>
    have hcons := IsOrdered.filter_cons hkeep h
    cases hc : keep c with
    | true =>
      rw [List.filter_cons_of_pos hc]
      exact hcons
    | false =>
      rw [List.filter_cons_of_neg (Bool.eq_false_iff.1 hc)]
      exact List.IsChain.tail hcons

theorem filter_orderMarks {keep : Char → Bool} (hkeep : ∀ c, keep c = false → isMark c = true)
    (text : List Char) : (orderMarks text).filter keep = orderMarks (text.filter keep) := by
  rw [orderMarks_congr ((rearranged_orderMarks text).filter keep),
    orderMarks_of_isOrdered ((isOrdered_orderMarks text).filter hkeep)]

/-! ## Texts behind each other -/

/-- The marks in front of the first starter. -/
def startMarks (text : List Char) : List Char := text.takeWhile isMark

/-- The marks behind the last starter, the last one first. -/
def endMarks (text : List Char) : List Char := startMarks text.reverse

/-- No mark crosses the seam between the two texts. -/
def KeepsApart (t u : List Char) : Prop :=
  ∀ c ∈ endMarks t, ∀ d ∈ startMarks u, combiningClass c ≤ combiningClass d

theorem mem_startMarks_orderMarks {text : List Char} {c : Char} :
    c ∈ startMarks (orderMarks text) ↔ c ∈ startMarks text :=
  (rearranged_orderMarks text).takeWhile_perm.mem_iff.symm

theorem mem_endMarks_orderMarks {text : List Char} {c : Char} :
    c ∈ endMarks (orderMarks text) ↔ c ∈ endMarks text :=
  (rearranged_orderMarks text).reverse.takeWhile_perm.mem_iff.symm

theorem mem_startMarks_of_head {text : List Char} {c : Char} (hhead : c ∈ text.head?) (hc : isMark c = true) :
    c ∈ startMarks text := by
  obtain ⟨rest, rfl⟩ := List.head?_eq_some_iff.1 hhead
  rw [startMarks, List.takeWhile_cons_of_pos hc]
  exact List.mem_cons_self

theorem orderMarks_append {t u : List Char} (h : KeepsApart t u) :
    orderMarks (t ++ u) = orderMarks t ++ orderMarks u := by
  have hordered : IsOrdered (orderMarks t ++ orderMarks u) := by
    refine List.isChain_append.2 ⟨isOrdered_orderMarks t, isOrdered_orderMarks u, ?_⟩
    intro c hlast d hhead hd
    by_cases hc : isMark c = true
    · rw [List.getLast?_eq_head?_reverse] at hlast
      exact h c (mem_endMarks_orderMarks.1 (mem_startMarks_of_head hlast hc)) d
        (mem_startMarks_orderMarks.1 (mem_startMarks_of_head hhead hd))
    · rw [isMark_iff, not_not] at hc
      rw [hc]
      exact Nat.zero_le _
  have hfront := (rearranged_orderMarks t).append [] u
  have hback := (rearranged_orderMarks u).append (orderMarks t) []
  simp only [List.nil_append, List.append_nil] at hfront hback
  rw [orderMarks_congr (hfront.trans hback), orderMarks_of_isOrdered hordered]

end Unicode
end RecordFilter
