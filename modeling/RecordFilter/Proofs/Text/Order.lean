import Mathlib.Data.List.Induction
import RecordFilter.Text.Basic

/-!
# RecordFilter.Proofs.Text.Order

Lists in which nothing comes twice: the first appearances of what is in a list, and texts in ascending
order. Texts are compared character by character, which is a total order (`compareText_eq_iff` says when two
are equal), and a list of texts in which none comes twice is sorted into a strictly ascending one
(`pairwise_lt_mergeSort`).
-/

namespace RecordFilter

/-! ## First appearances -/

section Rising

variable {α : Type} {lt : α → α → Prop} {xs : List α} {x : α}

/-- Every element has been there before or comes after all that has been there. -/
def RisesBy (lt : α → α → Prop) (l : List α) : Prop :=
  ∀ before x after, l = before ++ x :: after → x ∈ before ∨ ∀ y ∈ before, lt y x

theorem risesBy_concat_iff :
    RisesBy lt (xs ++ [x]) ↔ RisesBy lt xs ∧ (x ∈ xs ∨ ∀ y ∈ xs, lt y x) := by
  constructor
  · intro h
    exact ⟨fun before y after hxs => h before y (after ++ [x]) (by simp [hxs]), h xs x [] rfl⟩
  · rintro ⟨hxs, hx⟩ before y after heq
    cases after using List.reverseRecOn with
    | nil =>
      obtain ⟨rfl, hlast⟩ := List.append_inj' heq rfl
      cases hlast
      exact hx
    | append_singleton after z =>
      rw [← List.cons_append, ← List.append_assoc] at heq
      exact hxs before y after (List.append_inj' heq rfl).1

end Rising

section

variable {α β : Type} [BEq α] [LawfulBEq α] [BEq β] [LawfulBEq β] {xs ys : List α} {x : α}

theorem nodup_eraseDups (l : List α) : l.eraseDups.Nodup := by
  cases l with
  | nil => simp
  | cons x l =>
    rw [List.eraseDups_cons, List.nodup_cons]
    constructor
    · simp [List.mem_eraseDups]
    · exact nodup_eraseDups (l.filter fun y => !y == x)
termination_by l.length
decreasing_by exact Nat.lt_succ_of_le (List.length_filter_le _ l)

theorem eraseDups_append_of_subset (h : ys ⊆ xs) : (xs ++ ys).eraseDups = xs.eraseDups := by
  have hnone : ys.removeAll xs = [] := by
    rw [List.removeAll, List.filter_eq_nil_iff]
    intro y hy
    simpa using h hy
  rw [List.eraseDups_append, hnone, List.eraseDups_nil, List.append_nil]

theorem eraseDups_concat_of_notMem (h : x ∉ xs) : (xs ++ [x]).eraseDups = xs.eraseDups ++ [x] := by
  have hnew : [x].removeAll xs = [x] := by simp [List.removeAll, h]
  rw [List.eraseDups_append, hnew]
  rfl

theorem eraseDups_map {f : α → β} (h : ∀ x ∈ xs, ∀ y ∈ xs, f x = f y → x = y) :
    (xs.map f).eraseDups = xs.eraseDups.map f := by
  induction xs using List.reverseRecOn with
  | nil => rfl
  | append_singleton xs x ih =>
    have hxs := ih fun y hy z hz =>
      h y (List.mem_append_left [x] hy) z (List.mem_append_left [x] hz)
    have hnew : f x ∈ xs.map f ↔ x ∈ xs := by
      refine ⟨fun hm => ?_, List.mem_map_of_mem⟩
      obtain ⟨y, hy, heq⟩ := List.mem_map.1 hm
      rwa [← h y (List.mem_append_left [x] hy) x (by simp) heq]
    rw [List.map_append, List.map_singleton]
    by_cases hx : x ∈ xs
    · rw [eraseDups_append_of_subset (List.forall_mem_singleton.2 (hnew.2 hx)),
        eraseDups_append_of_subset (List.forall_mem_singleton.2 hx), hxs]
    · rw [eraseDups_concat_of_notMem (mt hnew.1 hx), eraseDups_concat_of_notMem hx, hxs, List.map_append,
        List.map_singleton]

/-- The first appearances ascend if and only if nothing new comes below what has been there. -/
theorem pairwise_eraseDups_iff {lt : α → α → Prop} : xs.eraseDups.Pairwise lt ↔ RisesBy lt xs := by
  induction xs using List.reverseRecOn with
  | nil => simp [RisesBy]
  | append_singleton xs x ih =>
    rw [risesBy_concat_iff, ← ih]
    by_cases hx : x ∈ xs
    · rw [eraseDups_append_of_subset (List.forall_mem_singleton.2 hx)]
      simp [hx]
    · rw [eraseDups_concat_of_notMem hx, List.pairwise_append]
      simp [hx, List.mem_eraseDups]

end

/-! ## Comparison -/

namespace Text

theorem compareChars_eq_iff {as bs : List Char} : compareChars as bs = .eq ↔ as = bs := by
  induction as generalizing bs with
  | nil => cases bs <;> simp [compareChars]
  | cons a as ih =>
    cases bs with
    | nil => simp [compareChars]
    | cons b bs =>
      rw [compareChars, Ordering.then_eq_eq, ih, Nat.compare_eq_eq, Char.toNat_inj, List.cons.injEq]

theorem compareText_eq_iff {a b : String} : compareText a b = .eq ↔ a = b := by
  rw [compareText, compareChars_eq_iff, String.toList_inj]

theorem compareChars_eq_compareLex (as bs : List Char) :
    compareChars as bs = List.compareLex (compareOn Char.toNat) as bs := by
  induction as generalizing bs with
  | nil => cases bs <;> rfl
  | cons a as ih =>
    cases bs with
    | nil => rfl
    | cons b bs => rw [compareChars, ih, List.compareLex_cons_cons, compareOn]

instance : Std.TransCmp compareText where
  eq_swap := by
    intro a b
    simp only [compareText, compareChars_eq_compareLex]
    exact Std.OrientedCmp.eq_swap
  isLE_trans := by
    intro a b c
    simp only [compareText, compareChars_eq_compareLex]
    exact Std.TransCmp.isLE_trans

/-- Not after. -/
def notAfter (a b : String) : Bool := compareText a b != .gt

theorem notAfter_iff {a b : String} : notAfter a b = true ↔ (compareText a b).isLE = true := by
  cases h : compareText a b <;> simp [notAfter, h]

theorem compareText_eq_lt_iff {a b : String} :
    compareText a b = .lt ↔ notAfter a b = true ∧ a ≠ b := by
  rw [Ne, ← compareText_eq_iff, notAfter]
  cases compareText a b <;> simp

theorem pairwise_lt_mergeSort {texts : List String} (h : texts.Nodup) :
    (texts.mergeSort fun a b => compareText a b != .gt).Pairwise fun a b => compareText a b = .lt := by
  have hsorted : (texts.mergeSort notAfter).Pairwise fun a b => notAfter a b = true := by
    refine List.pairwise_mergeSort ?_ ?_ texts
    · intro a b c hab hbc
      rw [notAfter_iff] at hab hbc ⊢
      exact Std.TransCmp.isLE_trans hab hbc
    · intro a b
      have hswap : compareText a b = (compareText b a).swap := Std.OrientedCmp.eq_swap
      rw [Bool.or_eq_true, notAfter, notAfter, hswap]
      cases compareText b a <;> simp
  have hnodup : (texts.mergeSort notAfter).Nodup := (List.mergeSort_perm texts notAfter).nodup_iff.2 h
  refine (hsorted.and hnodup).imp ?_
  intro a b hab
  exact compareText_eq_lt_iff.2 hab

end Text
end RecordFilter
