import RecordFilter.Proofs.Filter.Combination

/-!
# RecordFilter.Proofs.Filter.Nesting

Combinations of combinations. A part of a conjunction that is itself a conjunction of parts in normal form may
be replaced by these parts (`conjunction_splice`), and likewise for disjunctions (`disjunction_splice`): it
adds to the outer combination what its parts would add (`conjuncts_conjunction_of_isNormal`,
`disjuncts_disjunction_of_isNormal`).

* `combinations_associate`: a combination holds as its parts say, and on parts in normal form it does not
  matter how they are grouped.
-/

namespace RecordFilter
namespace Predicate

variable {p : Predicate} {xs ys : List Predicate}

/-! ## What a combination adds -/

theorem IsNested.isAlways_eq_false (h : IsNested p) : p.isAlways = false := by
  cases p with
  | always => cases h with | leaf hleaf => cases hleaf
  | _ => rfl

theorem conjuncts_eq_singleton (hnested : IsNested p) (hall : p.isAll = false) : p.conjuncts = [p] := by
  cases p with
  | always => cases hnested.isAlways_eq_false
  | all children => cases hall
  | _ => rfl

theorem disjuncts_eq_singleton (hany : p.isAny = false) : p.disjuncts = [p] := by
  cases p with
  | any children => cases hany
  | _ => rfl

theorem conjuncts_conjunction_of_isNormal (h : ∀ x ∈ xs, IsNormal x) :
    (conjunction xs).conjuncts = xs.flatMap conjuncts := by
  have hnested := isNested_of_mem_conjuncts h
  rw [conjunction]
  split
  · rename_i hflat
    rw [hflat, conjuncts]
  · rename_i single hflat
    -- what is left alone is neither a conjunction nor `always`, so it adds itself again
    obtain ⟨hsingle, hall⟩ := hnested single (by simp [hflat])
    rw [hflat, conjuncts_eq_singleton hsingle hall]
  · rfl

theorem disjunction_of_always (h : xs.any isAlways = true) : disjunction xs = .always := by
  rw [disjunction, if_pos h]

theorem disjuncts_disjunction_of_isNormal (h : ∀ x ∈ xs, IsNormal x) (hnever : xs.any isAlways = false) :
    (disjunction xs).disjuncts = xs.flatMap disjuncts := by
  have hnested := isNested_of_mem_disjuncts h hnever
  rw [disjunction, if_neg (by simp [hnever])]
  split
  · rename_i single hflat
    rw [hflat, disjuncts_eq_singleton (hnested single (by simp [hflat])).2]
  · rfl

theorem isAlways_disjunction (h : ∀ x ∈ xs, IsNormal x) : (disjunction xs).isAlways = xs.any isAlways := by
  cases hnever : xs.any isAlways with
  | true => rw [disjunction_of_always hnever, isAlways]
  | false =>
    have hnested := isNested_of_mem_disjuncts h hnever
    rw [disjunction, if_neg (by simp [hnever])]
    split
    · rename_i single hflat
      exact (hnested single (by simp [hflat])).1.isAlways_eq_false
    · rfl

/-! ## Grouping -/

theorem conjunction_congr (h : xs.flatMap conjuncts = ys.flatMap conjuncts) : conjunction xs = conjunction ys := by
  rw [conjunction, conjunction, h]

theorem disjunction_congr (hnever : xs.any isAlways = ys.any isAlways)
    (h : xs.flatMap disjuncts = ys.flatMap disjuncts) : disjunction xs = disjunction ys := by
  rw [disjunction, disjunction, hnever, h]

theorem conjunction_splice (h : ∀ x ∈ xs, IsNormal x) (front rest : List Predicate) :
    conjunction (front ++ conjunction xs :: rest) = conjunction (front ++ (xs ++ rest)) := by
  refine conjunction_congr ?_
  simp only [List.flatMap_append, List.flatMap_cons, conjuncts_conjunction_of_isNormal h]

theorem disjunction_splice (h : ∀ x ∈ xs, IsNormal x) (front rest : List Predicate) :
    disjunction (front ++ disjunction xs :: rest) = disjunction (front ++ (xs ++ rest)) := by
  have hany : (front ++ disjunction xs :: rest).any isAlways = (front ++ (xs ++ rest)).any isAlways := by
    simp only [List.any_append, List.any_cons, isAlways_disjunction h]
  cases hnever : xs.any isAlways with
  | true =>
    -- one part that always holds makes both sides `always`, whatever the others add
    have hright : (front ++ (xs ++ rest)).any isAlways = true := by simp [hnever]
    rw [disjunction_of_always (hany.trans hright), disjunction_of_always hright]
  | false =>
    refine disjunction_congr hany ?_
    simp only [List.flatMap_append, List.flatMap_cons, disjuncts_disjunction_of_isNormal h hnever]

theorem conjunction_pair (hxs : ∀ x ∈ xs, IsNormal x) (hys : ∀ y ∈ ys, IsNormal y) :
    conjunction [conjunction xs, conjunction ys] = conjunction (xs ++ ys) := by
  have hfirst := conjunction_splice hxs [] [conjunction ys]
  have hsecond := conjunction_splice hys xs []
  rw [List.append_nil] at hsecond
  exact hfirst.trans hsecond

theorem disjunction_pair (hxs : ∀ x ∈ xs, IsNormal x) (hys : ∀ y ∈ ys, IsNormal y) :
    disjunction [disjunction xs, disjunction ys] = disjunction (xs ++ ys) := by
  have hfirst := disjunction_splice hxs [] [disjunction ys]
  have hsecond := disjunction_splice hys xs []
  rw [List.append_nil] at hsecond
  exact hfirst.trans hsecond

/-- Combinations of any parts hold as the parts say. Combinations of parts in normal form are in normal form
themselves, and combining them is combining all their parts at once. -/
theorem combinations_associate :
    (∀ (record : Json) (children : List Predicate),
      (holds record (conjunction children) = true ↔ ∀ child ∈ children, holds record child = true) ∧
      (holds record (disjunction children) = true ↔ ∃ child ∈ children, holds record child = true)) ∧
    ∀ xs ys : List Predicate, (∀ x ∈ xs, IsNormal x) → (∀ y ∈ ys, IsNormal y) →
      conjunction [conjunction xs, conjunction ys] = conjunction (xs ++ ys) ∧
      IsNormal (conjunction (xs ++ ys)) ∧
      disjunction [disjunction xs, disjunction ys] = disjunction (xs ++ ys) ∧
      IsNormal (disjunction (xs ++ ys)) := by
  refine ⟨fun record children => ⟨holds_conjunction_iff, holds_disjunction_iff⟩, fun xs ys hxs hys => ?_⟩
  have hboth : ∀ child ∈ xs ++ ys, IsNormal child := fun child hchild =>
    (List.mem_append.1 hchild).elim (hxs child) (hys child)
  exact ⟨conjunction_pair hxs hys, isNormal_conjunction hboth, disjunction_pair hxs hys,
    isNormal_disjunction hboth⟩

/-- Parts of every form: a disjunction of nothing adds nothing to a disjunction, and `always` nothing to a
conjunction. -/
theorem combinations_associate_forms :
    let needle (text : String) : Predicate := .contains (.field ⟨["nome"], .text⟩) text
    let xs : List Predicate := [.any [], .all [needle "a", needle "b"]]
    let ys : List Predicate := [.any [needle "c", .all [needle "d", needle "e"]]]
    let always : List Predicate := [.always]
    (∀ x ∈ xs, IsNormal x) ∧ (∀ y ∈ ys, IsNormal y) ∧
      conjunction [conjunction xs, conjunction always] = .all [.any [], needle "a", needle "b"] ∧
      disjunction [disjunction xs, disjunction ys] =
        .any [.all [needle "a", needle "b"], needle "c", .all [needle "d", needle "e"]] ∧
      disjunction [disjunction xs, disjunction always] = .always := by
  intro needle xs ys always
  have hpair : ∀ s t : String, IsNested (.all [needle s, needle t]) := fun s t =>
    .all (by simp) (by simp [needle, isAll])
      (List.forall_mem_cons.2 ⟨.leaf rfl, List.forall_mem_singleton.2 (.leaf rfl)⟩)
  have hnothing : IsNested (.any []) := .any (.inl rfl) (by simp) (by simp)
  have hmixed : IsNested (.any [needle "c", .all [needle "d", needle "e"]]) :=
    .any (.inr (by simp)) (by simp [needle, isAny])
      (List.forall_mem_cons.2 ⟨.leaf rfl, List.forall_mem_singleton.2 (hpair "d" "e")⟩)
  have hxs : ∀ x ∈ xs, IsNormal x :=
    List.forall_mem_cons.2 ⟨hnothing.isNormal, List.forall_mem_singleton.2 (hpair "a" "b").isNormal⟩
  have hys : ∀ y ∈ ys, IsNormal y := List.forall_mem_singleton.2 hmixed.isNormal
  have halways : ∀ p ∈ always, IsNormal p := List.forall_mem_singleton.2 (.inl rfl)
  obtain ⟨_, hlaws⟩ := combinations_associate
  obtain ⟨hconjunction, _, hdisjunction, _⟩ := hlaws xs always hxs halways
  obtain ⟨_, _, hflat, _⟩ := hlaws xs ys hxs hys
  exact ⟨hxs, hys, hconjunction.trans rfl, hflat.trans rfl, hdisjunction.trans rfl⟩

end Predicate
end RecordFilter
