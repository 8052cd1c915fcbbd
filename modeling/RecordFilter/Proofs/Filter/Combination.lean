import RecordFilter.Store.Evaluation

/-!
# RecordFilter.Proofs.Filter.Combination

`conjunction` and `disjunction` keep the meaning of their parts while they keep the tree flat.

* `holds_conjunction`, `holds_disjunction`: a combination holds as its parts say.
* `leaves_conjunction`, `mem_leaves_disjunction`: it has no leaves but those of its parts.
* `isNormal_conjunction`, `isNormal_disjunction`: it is in normal form if its parts are. In normal form
  (`IsNormal`) `always` stands only alone, a conjunction has at least two children and none of them is
  a conjunction, a disjunction has no child or at least two and none of them is a disjunction.
-/

namespace RecordFilter
namespace Predicate

/-! ## Meaning -/

theorem holdsAll_eq (record : Json) (children : List Predicate) :
    holdsAll record children = children.all (holds record) := by
  induction children with
  | nil => rw [holdsAll, List.all_nil]
  | cons child rest ih => rw [holdsAll, List.all_cons, ih]

theorem holdsAny_eq (record : Json) (children : List Predicate) :
    holdsAny record children = children.any (holds record) := by
  induction children with
  | nil => rw [holdsAny, List.any_nil]
  | cons child rest ih => rw [holdsAny, List.any_cons, ih]

theorem all_conjuncts (record : Json) (p : Predicate) :
    p.conjuncts.all (holds record) = holds record p := by
  cases p with
  | always => simp [conjuncts, holds]
  | all children => simp [conjuncts, holds, holdsAll_eq]
  | _ => simp [conjuncts]

theorem any_disjuncts (record : Json) (p : Predicate) :
    p.disjuncts.any (holds record) = holds record p := by
  cases p with
  | any children => simp [disjuncts, holds, holdsAny_eq]
  | _ => simp [disjuncts]

theorem holds_conjunction (record : Json) (children : List Predicate) :
    holds record (conjunction children) = children.all (holds record) := by
  have hflat : (children.flatMap conjuncts).all (holds record) = children.all (holds record) := by
    simp only [List.all_flatMap, all_conjuncts]
  rw [← hflat, conjunction]
  split
  · rename_i h; rw [h, holds]; rfl
  · rename_i child h; rw [h]; simp
  · rw [holds, holdsAll_eq]

theorem holds_of_isAlways {p : Predicate} (h : p.isAlways = true) (record : Json) :
    holds record p = true := by
  cases p <;> simp [isAlways] at h
  rw [holds]

theorem holds_disjunction (record : Json) (children : List Predicate) :
    holds record (disjunction children) = children.any (holds record) := by
  have hflat : (children.flatMap disjuncts).any (holds record) = children.any (holds record) := by
    simp only [List.any_flatMap, any_disjuncts]
  rw [disjunction]
  split
  · rename_i h
    obtain ⟨child, hc, ha⟩ := List.any_eq_true.1 h
    rw [holds, List.any_eq_true.2 ⟨child, hc, holds_of_isAlways ha record⟩]
  · rw [← hflat]
    split
    · rename_i child h; rw [h]; simp
    · rw [holds, holdsAny_eq]

theorem holds_conjunction_iff {record : Json} {children : List Predicate} :
    holds record (conjunction children) = true ↔ ∀ child ∈ children, holds record child = true := by
  rw [holds_conjunction, List.all_eq_true]

theorem holds_disjunction_iff {record : Json} {children : List Predicate} :
    holds record (disjunction children) = true ↔ ∃ child ∈ children, holds record child = true := by
  rw [holds_disjunction, List.any_eq_true]

mutual

/-- The conditions on single operands, from left to right. -/
def leaves : Predicate → List Predicate
  | .always => []
  | .all children => leavesOf children
  | .any children => leavesOf children
  | leaf => [leaf]

def leavesOf : List Predicate → List Predicate
  | [] => []
  | child :: rest => leaves child ++ leavesOf rest

end

theorem leavesOf_eq (children : List Predicate) : leavesOf children = children.flatMap leaves := by
  induction children with
  | nil => rw [leavesOf, List.flatMap_nil]
  | cons child rest ih => rw [leavesOf, List.flatMap_cons, ih]

theorem mem_leaves_all {leaf : Predicate} {children : List Predicate} :
    leaf ∈ leaves (.all children) ↔ ∃ child ∈ children, leaf ∈ leaves child := by
  rw [leaves, leavesOf_eq, List.mem_flatMap]

theorem mem_leaves_any {leaf : Predicate} {children : List Predicate} :
    leaf ∈ leaves (.any children) ↔ ∃ child ∈ children, leaf ∈ leaves child := by
  rw [leaves, leavesOf_eq, List.mem_flatMap]

theorem leaves_conjuncts (p : Predicate) : p.conjuncts.flatMap leaves = leaves p := by
  cases p with
  | always => simp [conjuncts, leaves]
  | all children => simp [conjuncts, leaves, leavesOf_eq]
  | _ => simp [conjuncts]

theorem leaves_disjuncts (p : Predicate) : p.disjuncts.flatMap leaves = leaves p := by
  cases p with
  | any children => simp [disjuncts, leaves, leavesOf_eq]
  | _ => simp [disjuncts]

theorem leaves_conjunction (children : List Predicate) :
    leaves (conjunction children) = children.flatMap leaves := by
  have hflat : (children.flatMap conjuncts).flatMap leaves = children.flatMap leaves := by
    simp only [List.flatMap_assoc, leaves_conjuncts]
  rw [← hflat, conjunction]
  split
  · rename_i h; rw [h, leaves]; rfl
  · rename_i child h; rw [h]; simp
  · rw [leaves, leavesOf_eq]

/-- A part that always holds takes the leaves of the others away. -/
theorem mem_leaves_disjunction {leaf : Predicate} {children : List Predicate}
    (h : leaf ∈ leaves (disjunction children)) : ∃ child ∈ children, leaf ∈ leaves child := by
  have hflat : (children.flatMap disjuncts).flatMap leaves = children.flatMap leaves := by
    simp only [List.flatMap_assoc, leaves_disjuncts]
  rw [← List.mem_flatMap, ← hflat]
  rw [disjunction] at h
  split at h
  · rw [leaves] at h; cases h
  · split at h
    · rename_i child hc; rw [hc]; simpa using h
    · rwa [leaves, leavesOf_eq] at h

/-! ## Normal form -/

def isLeaf : Predicate → Bool
  | .always | .all _ | .any _ => false
  | _ => true

def isAll : Predicate → Bool
  | .all _ => true
  | _ => false

def isAny : Predicate → Bool
  | .any _ => true
  | _ => false

/-- By the tree, all conditions on single operands at once. -/
@[elab_as_elim]
theorem induction {motive : Predicate → Prop} (always : motive .always)
    (leaf : ∀ p, p.isLeaf = true → motive p)
    (all : ∀ children, (∀ child ∈ children, motive child) → motive (.all children))
    (any : ∀ children, (∀ child ∈ children, motive child) → motive (.any children)) : ∀ p, motive p
  | .always => always
  | .all children => all children fun child _ => induction always leaf all any child
  | .any children => any children fun child _ => induction always leaf all any child
  | .equals operand value => leaf (.equals operand value) rfl
  | .notEquals operand value => leaf (.notEquals operand value) rfl
  | .contains operand needle => leaf (.contains operand needle) rfl
  | .foldedEquals operand value => leaf (.foldedEquals operand value) rfl
  | .range operand min max => leaf (.range operand min max) rfl

/-- Normal form inside a tree. -/
inductive IsNested : Predicate → Prop where
  | all {children : List Predicate} (two : 2 ≤ children.length)
      (flat : ∀ child ∈ children, child.isAll = false) (nested : ∀ child ∈ children, IsNested child) :
      IsNested (.all children)
  | any {children : List Predicate} (two : children = [] ∨ 2 ≤ children.length)
      (flat : ∀ child ∈ children, child.isAny = false) (nested : ∀ child ∈ children, IsNested child) :
      IsNested (.any children)
  | leaf {p : Predicate} (h : p.isLeaf = true) : IsNested p

/-- Normal form of a whole tree. -/
def IsNormal (p : Predicate) : Prop := p = .always ∨ IsNested p

theorem IsNested.isNormal {p : Predicate} (h : IsNested p) : IsNormal p := .inr h

theorem isNormal_leaf {p : Predicate} (h : p.isLeaf = true) : IsNormal p := .inr (.leaf h)

theorem IsNormal.conjuncts {p : Predicate} (h : IsNormal p) :
    ∀ q ∈ p.conjuncts, IsNested q ∧ q.isAll = false := by
  intro q hq
  obtain rfl | h := h
  · cases hq
  · cases h with
    | all two flat nested => exact ⟨nested q hq, flat q hq⟩
    | any two flat nested =>
      obtain rfl := List.mem_singleton.1 hq
      exact ⟨.any two flat nested, rfl⟩
    | leaf hl =>
      cases p <;> simp [isLeaf] at hl <;> obtain rfl := List.mem_singleton.1 hq <;>
        exact ⟨.leaf rfl, rfl⟩

theorem IsNested.disjuncts {p : Predicate} (h : IsNested p) :
    ∀ q ∈ p.disjuncts, IsNested q ∧ q.isAny = false := by
  intro q hq
  cases h with
  | all two flat nested =>
    obtain rfl := List.mem_singleton.1 hq
    exact ⟨.all two flat nested, rfl⟩
  | any two flat nested => exact ⟨nested q hq, flat q hq⟩
  | leaf hl =>
    cases p <;> simp [isLeaf] at hl <;> obtain rfl := List.mem_singleton.1 hq <;>
      exact ⟨.leaf rfl, rfl⟩

theorem isNested_of_mem_conjuncts {children : List Predicate} (h : ∀ child ∈ children, IsNormal child) :
    ∀ q ∈ children.flatMap conjuncts, IsNested q ∧ q.isAll = false := by
  intro q hq
  obtain ⟨child, hc, hq⟩ := List.mem_flatMap.1 hq
  exact (h child hc).conjuncts q hq

/-- Without a child that always holds. -/
theorem isNested_of_mem_disjuncts {children : List Predicate} (h : ∀ child ∈ children, IsNormal child)
    (hnever : children.any isAlways = false) :
    ∀ q ∈ children.flatMap disjuncts, IsNested q ∧ q.isAny = false := by
  intro q hq
  obtain ⟨child, hc, hq⟩ := List.mem_flatMap.1 hq
  obtain rfl | hn := h child hc
  · have hany : children.any isAlways = true := List.any_eq_true.2 ⟨.always, hc, rfl⟩
    rw [hnever] at hany
    cases hany
  · exact hn.disjuncts q hq

theorem isNormal_conjunction {children : List Predicate} (h : ∀ child ∈ children, IsNormal child) :
    IsNormal (conjunction children) := by
  have hflat := isNested_of_mem_conjuncts h
  rw [conjunction]
  split
  · exact .inl rfl
  · rename_i child hc
    exact (hflat child (by simp [hc])).1.isNormal
  · rename_i hne hnone
    refine .inr (.all ?_ (fun q hq => (hflat q hq).2) fun q hq => (hflat q hq).1)
    match hl : children.flatMap conjuncts with
    | [] => exact absurd hl hne
    | [q] => exact absurd hl (hnone q)
    | _ :: _ :: rest => simp

theorem isNormal_disjunction {children : List Predicate} (h : ∀ child ∈ children, IsNormal child) :
    IsNormal (disjunction children) := by
  rw [disjunction]
  split
  · exact .inl rfl
  rename_i hnever
  have hflat := isNested_of_mem_disjuncts h (Bool.eq_false_iff.2 hnever)
  split
  · rename_i child hc
    exact (hflat child (by simp [hc])).1.isNormal
  · rename_i hnone
    refine .inr (.any ?_ (fun q hq => (hflat q hq).2) fun q hq => (hflat q hq).1)
    match hl : children.flatMap disjuncts with
    | [] => exact .inl rfl
    | [q] => exact absurd hl (hnone q)
    | _ :: _ :: rest => exact .inr (by simp)

end Predicate
end RecordFilter
