import RecordFilter.Proofs.Sql.Agreement
import RecordFilter.Proofs.Sql.Quoting

/-!
# RecordFilter.Proofs.Sql.Placeholders

Which parameter a placeholder stands for. The condition holds the number of each parameter where its value
was bound; in the text one of the dialects shows the numbers, and with the other they are counted from the
left. Both come to the same for every condition but one with a range whose operand has keys that are
bound and is not written exactly once: the keys are bound once and written as often as the operand.

* `bindPredicate_places`: the placeholders of any condition, compiled or not, are those of its parameters
  in order if and only if it writes all keys once.
* `placeholders_iff`: what this says of the text in either dialect.
-/

namespace RecordFilter

open Sql (Dialect)

/-! ## Keys -/

/-- What is bound for the operand. -/
def Operand.boundKeys (dialect : Dialect) : Operand → List String
  | .field _ => []
  | .json path => dialect.jsonPathParams path.keys

/-- Only ranges can write their operand more than once, or not at all. -/
def Predicate.WritesKeysOnce (dialect : Dialect) : Predicate → Prop
  | .range operand min max => operand.boundKeys dialect = [] ∨ Predicate.boundMentions min max = 1
  | _ => True

namespace Sql

variable {dialect : Dialect}

theorem bindTexts_params (texts : List String) (b : Binding) :
    (b.bindTexts texts).2.params = b.params ++ texts.map .text := by
  induction texts generalizing b with
  | nil => exact (List.append_nil _).symm
  | cons text texts ih =>
    refine (ih (b.bind (.text text)).2).trans ?_
    simp [Binding.bind]

theorem bindOperand_params (operand : Operand) (b : Binding) :
    (bindOperand dialect operand b).2.params = b.params ++ (operand.boundKeys dialect).map .text := by
  cases operand with
  | field path => exact (bindColumn_params path b).trans (List.append_nil _).symm
  | json path =>
    refine (bindTexts_params (dialect.jsonPathParams path.keys) (bindColumn path.column b).2).trans ?_
    rw [bindColumn_params]
    rfl

/-! ## Places -/

namespace Binding

/-- The numbers of what was bound on the way. -/
def numbersTo (b b' : Binding) : List (Option Nat) :=
  (List.range' (b.params.length + 1) (b'.params.length - b.params.length)).map some

/-- Further parameters were bound behind those that were there, and all the numbers are theirs. -/
structure Among (b b' : Binding) (indexes : List (Option Nat)) : Prop where
  keeps : b.params <+: b'.params
  among : ∀ index? ∈ indexes, ∃ i, index? = some i ∧ b.params.length < i ∧ i ≤ b'.params.length

variable {b b' b'' : Binding} {indexes indexes' : List (Option Nat)}

theorem adds_iff (h : b.params <+: b'.params) : b.Adds b' indexes ↔ indexes = b.numbersTo b' := by
  obtain ⟨added, hadded⟩ := h
  have hcount : b'.params.length - b.params.length = added.length := by
    rw [← hadded, List.length_append, Nat.add_sub_cancel_left]
  rw [numbersTo, hcount]
  constructor
  · rintro ⟨other, hother, rfl⟩
    obtain rfl : added = other := List.append_cancel_left (hadded.trans hother)
    rfl
  · rintro rfl
    exact ⟨added, hadded.symm, rfl⟩

theorem among_numbersTo (h : b.params <+: b'.params) : b.Among b' (b.numbersTo b') := by
  refine ⟨h, fun index? hm => ?_⟩
  obtain ⟨i, hi, rfl⟩ := List.mem_map.1 hm
  have hle := h.length_le
  rw [List.mem_range'_1] at hi
  exact ⟨i, rfl, by omega, by omega⟩

theorem Adds.among (h : b.Adds b' indexes) : b.Among b' indexes := by
  rw [(adds_iff h.keeps).1 h]
  exact among_numbersTo h.keeps

theorem numbersTo_append (h : b.params <+: b'.params) (h' : b'.params <+: b''.params) :
    b.numbersTo b'' = b.numbersTo b' ++ b'.numbersTo b'' := by
  have hadds := ((adds_iff h).2 rfl).trans ((adds_iff h').2 rfl)
  exact ((adds_iff (h.trans h')).1 hadds).symm

namespace Among

theorem trans (h : b.Among b' indexes) (h' : b'.Among b'' indexes') :
    b.Among b'' (indexes ++ indexes') := by
  have hle := h.keeps.length_le
  have hle' := h'.keeps.length_le
  refine ⟨h.keeps.trans h'.keeps, fun index? hm => ?_⟩
  obtain hm | hm := List.mem_append.1 hm
  · obtain ⟨i, rfl, hlow, hhigh⟩ := h.among index? hm
    exact ⟨i, rfl, hlow, by omega⟩
  · obtain ⟨i, rfl, hlow, hhigh⟩ := h'.among index? hm
    exact ⟨i, rfl, by omega, hhigh⟩

/-- Of two steps each has its own numbers, so that those of the first are told by their size. -/
theorem filter_append (h : b.Among b' indexes) (h' : b'.Among b'' indexes') :
    (indexes ++ indexes').filter (Option.any (· ≤ b'.params.length)) = indexes := by
  have hfirst : indexes.filter (Option.any (· ≤ b'.params.length)) = indexes := by
    rw [List.filter_eq_self]
    intro index? hm
    obtain ⟨i, rfl, -, hhigh⟩ := h.among index? hm
    simpa using hhigh
  have hsecond : indexes'.filter (Option.any (· ≤ b'.params.length)) = [] := by
    rw [List.filter_eq_nil_iff]
    intro index? hm
    obtain ⟨i, rfl, hlow, -⟩ := h'.among index? hm
    simpa using hlow
  rw [List.filter_append, hfirst, hsecond, List.append_nil]

/-- Two steps write the numbers of all that they bind if and only if each of them does. -/
theorem adds_append_iff (h : b.Among b' indexes) (h' : b'.Among b'' indexes') :
    b.Adds b'' (indexes ++ indexes') ↔ b.Adds b' indexes ∧ b'.Adds b'' indexes' := by
  refine ⟨fun hadds => ?_, fun hadds => hadds.1.trans hadds.2⟩
  have hall : indexes ++ indexes' = b.numbersTo b' ++ b'.numbersTo b'' := by
    rw [← numbersTo_append h.keeps h'.keeps]
    exact (adds_iff (h.keeps.trans h'.keeps)).1 hadds
  have hfirst : indexes = b.numbersTo b' := by
    rw [← h.filter_append h', hall]
    exact (among_numbersTo h.keeps).filter_append (among_numbersTo h'.keeps)
  rw [hfirst] at hall
  exact ⟨(adds_iff h.keeps).2 hfirst, (adds_iff h'.keeps).2 (List.append_cancel_left hall)⟩

end Among

/-- The numbers are of what was bound on the way, and they are all of them in order just in one case. -/
structure Places (b b' : Binding) (indexes : List (Option Nat)) (inOrder : Prop) : Prop where
  among : b.Among b' indexes
  adds_iff : b.Adds b' indexes ↔ inOrder

theorem Adds.places {inOrder : Prop} (h : b.Adds b' indexes) (ho : inOrder) :
    b.Places b' indexes inOrder := ⟨h.among, iff_of_true h ho⟩

theorem Places.append {first second : Prop} (h : b.Places b' indexes first)
    (h' : b'.Places b'' indexes' second) : b.Places b'' (indexes ++ indexes') (first ∧ second) :=
  ⟨h.among.trans h'.among, (h.among.adds_append_iff h'.among).trans (and_congr h.adds_iff h'.adds_iff)⟩

end Binding

/-! ## Leaves -/

section

variable {b b' : Binding} {left : Term}

theorem bindComparison_adds (h : b.Adds b' (indexesIn (left.tokens dialect))) (comparison : Comparison)
    (value : Value) : b.Adds (bindComparison left comparison value b').2
      (indexesIn ((bindComparison left comparison value b').1.tokens dialect)) := by
  have hindexes : indexesIn ((bindComparison left comparison value b').1.tokens dialect) =
      indexesIn (left.tokens dialect) ++ [some (b'.params.length + 1)] := indexesIn_compare ..
  rw [hindexes]
  exact h.trans (.bind b' value)

theorem adds_nil_iff : b.Adds b' [] ↔ b'.params = b.params := by
  refine ⟨fun hadds => ?_, .of_eq⟩
  obtain ⟨added, hparams, hindexes⟩ := hadds
  obtain rfl : added = [] := by simpa using hindexes
  rw [hparams, List.append_nil]

/-- Between two bounds of which one is open the operand is written twice. What is added in between is as
long as what was bound for it. -/
theorem adds_twice_iff {indexes : List (Option Nat)} (h : b.Adds b' indexes) (low high : Value) :
    b.Adds ((b'.bind low).2.bind high).2 (indexes ++ [some (b'.params.length + 1)] ++
      (indexes ++ [some ((b'.bind low).2.params.length + 1)])) ↔ b'.params = b.params := by
  have hlow := h.trans (.bind b' low)
  have hhigh : (b'.bind low).2.Adds _ [_] := .bind (b'.bind low).2 high
  obtain ⟨added, hparams, hindexes⟩ := h
  have hlength : indexes.length = added.length := by simp [hindexes]
  constructor
  · rintro ⟨other, hother, heq⟩
    have hcount := congrArg List.length heq
    have hsame := congrArg List.length hother
    simp [Binding.bind, hparams] at hcount hsame
    obtain rfl : added = [] := List.eq_nil_of_length_eq_zero (by omega)
    rw [hparams, List.append_nil]
  · intro hnone
    obtain rfl : added = [] := by simpa [hnone] using hparams
    obtain rfl : indexes = [] := hindexes
    exact hlow.trans hhigh

theorem indexesIn_bounds (left : Term) (low high : Bound) (i j : Nat) :
    indexesIn ((boundsCondition left low high i j).tokens dialect) =
      if low.inclusive && high.inclusive then indexesIn (left.tokens dialect) ++ [some i] ++ [some j]
      else indexesIn (left.tokens dialect) ++ [some i] ++ (indexesIn (left.tokens dialect) ++ [some j]) := by
  unfold boundsCondition
  split
  · rw [indexesIn_between, List.append_assoc]
    rfl
  · rw [indexesIn_all]
    simp only [List.flatMap_cons, List.flatMap_nil, indexesIn_compare, List.append_nil]
    rfl

theorem boundMentions_bounds (low high : Bound) :
    Predicate.boundMentions (some low) (some high) =
      if low.inclusive && high.inclusive then 1 else 2 := by
  obtain ⟨low, lowClosed⟩ := low
  obtain ⟨high, highClosed⟩ := high
  cases lowClosed <;> cases highClosed <;> rfl

theorem bindRange_places (h : b.Adds b' (indexesIn (left.tokens dialect))) (min max : Option Bound) :
    b.Places (bindRange left min max b').2
      (indexesIn ((bindRange left min max b').1.tokens dialect))
      (b'.params = b.params ∨ Predicate.boundMentions min max = 1) := by
  cases min with
  | none =>
    cases max with
    | none =>
      have hnone : b.Among b' [] := ⟨h.keeps, by simp⟩
      exact ⟨hnone, adds_nil_iff.trans (or_iff_left (by decide)).symm⟩
    | some high =>
      refine Binding.Adds.places ?_ (.inr rfl)
      exact bindComparison_adds h (if high.inclusive then .le else .lt) high.value
  | some low =>
    cases max with
    | none =>
      obtain ⟨low, closed⟩ := low
      have hadds := bindComparison_adds h (if closed then .ge else .gt) low
      cases closed <;> exact hadds.places (.inr rfl)
    | some high =>
      have hall : b.Adds _ (_ ++ [_] ++ [_]) :=
        (h.trans (.bind b' low.value)).trans (.bind (b'.bind low.value).2 high.value)
      rw [bindRange_bounds, indexesIn_bounds, boundMentions_bounds]
      by_cases hclosed : (low.inclusive && high.inclusive) = true
      · rw [if_pos hclosed, if_pos hclosed]
        exact hall.places (.inr rfl)
      · rw [if_neg hclosed, if_neg hclosed]
        refine ⟨⟨hall.keeps, fun index? hm => hall.among.among index? ?_⟩, ?_⟩
        · simp only [List.mem_append] at hm ⊢
          tauto
        · exact (adds_twice_iff h low.value high.value).trans (or_iff_left (by decide)).symm

theorem bindLeaf_places {leaf : Predicate} (hleaf : leaf.isLeaf = true) (b : Binding) :
    b.Places (bindPredicate dialect leaf b).2
      (indexesIn ((bindPredicate dialect leaf b).1.tokens dialect)) (leaf.WritesKeysOnce dialect) := by
  cases leaf with
  | always | all | any => cases hleaf
  | equals operand value | notEquals operand value =>
    exact (bindComparison_adds (bindOperand_adds operand b) _ value).places trivial
  | foldedEquals operand text =>
    exact (bindComparison_adds (bindFolded_adds operand b) .eq (.text text)).places trivial
  | contains operand needle =>
    have hleft : b.Adds (bindFolded dialect operand b).2 _ := bindFolded_adds operand b
    refine Binding.Adds.places ?_ trivial
    exact (indexesIn_like _ _).symm ▸ hleft.trans (.bind _ (.text (likePattern needle)))
  | range operand min max =>
    have hparams : (bindOperand dialect operand b).2.params = b.params ↔
        operand.boundKeys dialect = [] := by
      simp [bindOperand_params]
    have hleft : b.Adds (bindOperand dialect operand b).2 _ := bindOperand_adds operand b
    have hrange := bindRange_places hleft min max
    rw [hparams] at hrange
    exact hrange

end

/-! ## Trees -/

theorem bindPredicates_places {children : List Predicate}
    (h : ∀ child ∈ children, ∀ b : Binding, b.Places (bindPredicate dialect child b).2
      (indexesIn ((bindPredicate dialect child b).1.tokens dialect))
      (∀ leaf ∈ child.leaves, leaf.WritesKeysOnce dialect)) (b : Binding) :
    b.Places (bindPredicates dialect children b).2
      ((bindPredicates dialect children b).1.flatMap fun c => indexesIn (c.tokens dialect))
      (∀ leaf ∈ children.flatMap Predicate.leaves, leaf.WritesKeysOnce dialect) := by
  induction children generalizing b with
  | nil => exact (Binding.Adds.of_eq rfl).places (by simp)
  | cons child rest ih =>
    rw [List.forall_mem_cons] at h
    have hboth := (h.1 b).append (ih h.2 (bindPredicate dialect child b).2)
    rw [← List.forall_mem_append] at hboth
    exact hboth

/-- Every placeholder of a condition is one of its own parameters, and from left to right they are all of
these in order if and only if every range writes its operand once or has no keys to bind. -/
theorem bindPredicate_places (p : Predicate) (b : Binding) :
    b.Places (bindPredicate dialect p b).2
      (indexesIn ((bindPredicate dialect p b).1.tokens dialect))
      (∀ leaf ∈ p.leaves, leaf.WritesKeysOnce dialect) := by
  induction p using Predicate.induction generalizing b with
  | always => exact (Binding.Adds.of_eq rfl).places (by simp [Predicate.leaves])
  | leaf p hleaf =>
    have hsame : (∀ leaf ∈ p.leaves, leaf.WritesKeysOnce dialect) ↔ p.WritesKeysOnce dialect := by
      rw [Predicate.leaves_of_isLeaf hleaf, List.forall_mem_singleton]
    rw [hsame]
    exact bindLeaf_places hleaf b
  | all children ih =>
    rw [Predicate.leaves, Predicate.leavesOf_eq]
    exact (indexesIn_all _).symm ▸ bindPredicates_places ih b
  | any children ih =>
    rw [Predicate.leaves, Predicate.leavesOf_eq]
    exact (indexesIn_any _).symm ▸ bindPredicates_places ih b

/-! ## Statements -/

theorem indexesIn_boundTokens_iff (table : String) (query : CompiledQuery) (page : Option (Nat × Nat)) :
    indexesIn (boundTokens dialect query) =
        (List.range' 1 (render dialect table query page).params.length).map some ↔
      ∀ leaf ∈ query.predicate.leaves, leaf.WritesKeysOnce dialect := by
  have hplaces : Binding.empty.Places (bindPredicate dialect query.predicate Binding.empty).2 _ _ :=
    bindPredicate_places query.predicate Binding.empty
  rw [← hplaces.adds_iff, Binding.adds_iff hplaces.among.keeps, render_params]
  rfl

/-- Where no number is shown, there is one question mark for each placeholder. -/
theorem indexesIn_shown_sqlite (ts : List Token) :
    indexesIn (ts.map Dialect.sqlite.shown) = List.replicate (indexesIn ts).length none := by
  induction ts with
  | nil => rfl
  | cons token ts ih =>
    cases token with
    | parameter index? => cases index? <;> exact congrArg (none :: ·) ih
    | _ => exact ih

/-- Question marks are numbered one after the other. -/
theorem indexesIn_numberFrom_shown (ts : List Token) (next : Nat) :
    indexesIn (numberFrom next (ts.map Dialect.sqlite.shown)) =
      (List.range' next (indexesIn ts).length).map some := by
  induction ts generalizing next with
  | nil => rfl
  | cons token ts ih =>
    cases token with
    | parameter index? => cases index? <;> exact congrArg (some next :: ·) (ih (next + 1))
    | _ => exact ih next

theorem numberFrom_shown_eq_iff {ts : List Token} {count : Nat} :
    (indexesIn (ts.map Dialect.sqlite.shown) = List.replicate count none ∧
        numberFrom 1 (ts.map Dialect.sqlite.shown) = ts) ↔
      indexesIn ts = (List.range' 1 count).map some := by
  rw [indexesIn_shown_sqlite]
  constructor
  · rintro ⟨hcount, hnumbers⟩
    obtain rfl : (indexesIn ts).length = count := by simpa using congrArg List.length hcount
    rw [← indexesIn_numberFrom_shown, hnumbers]
  · intro hindexes
    refine ⟨?_, numberFrom_shown .sqlite hindexes⟩
    simp [hindexes]

/-- Without numbers there are as many placeholders as parameters, and counted from the left each stands
where its parameter was bound, and with numbers the placeholders are those from one up to the number of
parameters, from left to right: both for just the conditions that write every key that they bind once. -/
theorem placeholders_iff (table : String) (query : CompiledQuery) (page : Option (Nat × Nat)) :
    (∃ tokens, IsCutInto (render .sqlite table query page).whereClause tokens ∧
        ((indexesIn tokens = List.replicate (render .sqlite table query page).params.length none ∧
            numberFrom 1 tokens = boundTokens .sqlite query) ↔
          ∀ leaf ∈ query.predicate.leaves, leaf.WritesKeysOnce .sqlite)) ∧
      ∃ tokens, IsCutInto (render .postgres table query page).whereClause tokens ∧
        (indexesIn tokens =
            (List.range' 1 (render .postgres table query page).params.length).map some ↔
          ∀ leaf ∈ query.predicate.leaves, leaf.WritesKeysOnce .postgres) := by
  refine ⟨⟨_, whereClause_isCutInto table query page, ?_⟩,
    ⟨_, whereClause_isCutInto table query page, ?_⟩⟩
  · exact numberFrom_shown_eq_iff.trans (indexesIn_boundTokens_iff table query page)
  · rw [map_shown_postgres]
    exact indexesIn_boundTokens_iff table query page

/-- The weight inside a document, between a closed bound and an open one. -/
def weighed : CompiledQuery :=
  ⟨.range (.json ⟨⟨["dto"], .json⟩, ["peso"]⟩) (some ⟨.text "1", true⟩) (some ⟨.text "5", false⟩), none, []⟩

/-- The place inside the document is written twice and bound once. -/
theorem placeholders_weighed :
    (render .sqlite "t" weighed none).whereClause =
        "(CAST(json_extract(\"dto\", ?) AS TEXT) >= ? AND CAST(json_extract(\"dto\", ?) AS TEXT) < ?)" ∧
      (render .sqlite "t" weighed none).params = [.text "$.\"peso\"", .text "1", .text "5"] ∧
      (∀ tokens, Lexes (render .sqlite "t" weighed none).whereClause.toList tokens →
        (indexesIn tokens).length ≠ (render .sqlite "t" weighed none).params.length) ∧
      ∀ tokens, Lexes (render .postgres "t" weighed none).whereClause.toList tokens →
        indexesIn tokens ≠
          (List.range' 1 (render .postgres "t" weighed none).params.length).map some := by
  refine ⟨by decide, by decide, fun tokens h => ?_, fun tokens h => ?_⟩
  · rw [(whereClause_isCutInto "t" weighed none).2 tokens h]
    decide
  · rw [(whereClause_isCutInto "t" weighed none).2 tokens h]
    decide

end Sql
end RecordFilter
