import Mathlib.Data.List.Forall2
import RecordFilter.Proofs.Filter.Merging
import RecordFilter.Proofs.Filter.Nesting

/-!
# RecordFilter.Proofs.Filter.Tightest

What is left of the bounds of a key. Every value with a bound operator sets a bound on one side
(`FieldPath.bound?`), and the range keeps on each side the tightest of them (`Bound.IsTightest`): no
other is tighter, and the kept one is exclusive if an exclusive one stands at its place. The step is
`IsTightest.tighten`, the run over all bounds of a side `isTightestOf_onSide`.

* `mergeRange_keeps_tightest`: a merged key is one condition for each value that sets no bound, in
  order, and then at most one range, with the tightest bound on either side.
-/

namespace RecordFilter

/-! ## Sides -/

/-- The side on which an operator sets a bound, named by how a tighter value compares with a less tight
one, and whether the bound itself is allowed. -/
def Operator.side? : Operator → Option (Ordering × Bool)
  | .gte => some (.gt, true)
  | .gt => some (.gt, false)
  | .lte => some (.lt, true)
  | .lt => some (.lt, false)
  | .eq | .ne => none

/-- The bound that an operator with a literal sets on a side. -/
def Bound.of? (side : Ordering) (operator : Operator) (literal : Value) : Option Bound :=
  match operator.side? with
  | some (tighter, inclusive) => if tighter = side then some ⟨literal, inclusive⟩ else none
  | none => none

theorem Bound.of?_eq_some_iff {side : Ordering} {operator : Operator} {literal : Value} {b : Bound} :
    Bound.of? side operator literal = some b ↔
      operator.side? = some (side, b.inclusive) ∧ literal = b.value := by
  obtain ⟨value, inclusive⟩ := b
  cases operator <;> simp [Bound.of?, Operator.side?] <;> grind

namespace FieldPath

variable {path : FieldPath} {side : Ordering} {values : List String}

/-- The value has a bound operator and a literal that can be read. -/
def setsBound (path : FieldPath) (raw : String) : Bool :=
  (OperatorToken.read raw).operator.isBound && (path.convert (OperatorToken.read raw).literal).isOk

/-- The bound that a value sets on a side, if it sets one there. -/
def bound? (path : FieldPath) (side : Ordering) (raw : String) : Option Bound :=
  match path.convert (OperatorToken.read raw).literal with
  | .ok literal => Bound.of? side (OperatorToken.read raw).operator literal
  | .error _ => none

/-- The bounds that the values set on a side, in order. -/
def boundsOn (path : FieldPath) (side : Ordering) (values : List String) : List Bound :=
  values.filterMap (path.bound? side)

theorem mem_boundsOn_iff {b : Bound} :
    b ∈ path.boundsOn side values ↔ ∃ raw ∈ values,
      (OperatorToken.read raw).operator.side? = some (side, b.inclusive) ∧
        path.convert (OperatorToken.read raw).literal = .ok b.value := by
  simp only [boundsOn, List.mem_filterMap, bound?]
  refine exists_congr fun raw => and_congr_right fun _ => ?_
  cases path.convert (OperatorToken.read raw).literal with
  | error e => simp
  | ok literal => simp [Bound.of?_eq_some_iff]

end FieldPath

/-! ## One side -/

/-- One of the bounds, at least as tight as all of them, and exclusive if and only if an exclusive one
stands at its place. -/
structure Bound.IsTightest (tighter : Ordering) (bounds : List Bound) (b : Bound) : Prop where
  mem : b ∈ bounds
  tightest : ∀ c ∈ bounds, b.value.compare? c.value = some tighter ∨ b.value.compare? c.value = some .eq
  exclusive_iff : b.inclusive = false ↔
    ∃ c ∈ bounds, c.inclusive = false ∧ c.value.compare? b.value = some .eq

/-- What a side keeps of its bounds: nothing of none, else the tightest. -/
def Bound.IsTightestOf (tighter : Ordering) (bounds : List Bound) (kept : Option Bound) : Prop :=
  (kept.isSome = true ↔ bounds ≠ []) ∧ ∀ b ∈ kept, Bound.IsTightest tighter bounds b

namespace Bound

open RangeBound (tighten)

variable {tighter : Ordering} {bounds : List Bound} {old new : Bound}

theorem isTightest_singleton {b : Bound} (h : b.value.isNan = false) : IsTightest tighter [b] b := by
  have hself := Value.compare?_self h
  refine ⟨List.mem_singleton_self b, fun c hc => ?_, fun hi => ⟨b, List.mem_singleton_self b, hi, hself⟩, ?_⟩
  · obtain rfl := List.mem_singleton.1 hc
    exact .inr hself
  · rintro ⟨c, hc, hi, _⟩
    obtain rfl := List.mem_singleton.1 hc
    exact hi

/-- A bound at the place of the tightest one leaves it, unless the new one is exclusive. -/
theorem IsTightest.append_of_eq (h : IsTightest tighter bounds old)
    (ho : new.value.compare? old.value = some .eq) :
    IsTightest tighter (bounds ++ [new]) (if new.inclusive then old else new) := by
  have hback : old.value.compare? new.value = some .eq := Value.compare?_swap_of ho
  have hself : new.value.compare? new.value = some .eq := Value.compare?_trans ho hback
  cases hi : new.inclusive with
  | true =>
    refine ⟨List.mem_append_left _ h.mem, ?_, ?_⟩
    · simpa [or_imp, forall_and] using ⟨h.tightest, .inr hback⟩
    · simpa [or_and_right, exists_or, hi] using h.exclusive_iff
  | false =>
    have hlike : ∀ c, new.value.compare? c = old.value.compare? c := Value.compare?_congr_right ho
    refine ⟨List.mem_append_right _ (List.mem_singleton_self new), ?_, fun _ => ?_, fun _ => hi⟩
    · simpa [or_imp, forall_and, hlike] using ⟨h.tightest, .inr hback⟩
    · exact ⟨new, List.mem_append_right _ (List.mem_singleton_self new), hi, hself⟩

/-- A tighter bound takes the place of the tightest one. -/
theorem IsTightest.append_of_tighter (hne : tighter ≠ .eq) (h : IsTightest tighter bounds old)
    (ho : new.value.compare? old.value = some tighter) : IsTightest tighter (bounds ++ [new]) new := by
  have hself : new.value.compare? new.value = some .eq :=
    Value.compare?_self (Value.compare?_isSome_iff.1 (Option.isSome_of_eq_some ho)).2.1
  have hall : ∀ c ∈ bounds, new.value.compare? c.value = some tighter := by
    intro c hc
    obtain ht | he := h.tightest c hc
    · exact Value.compare?_trans ho ht
    · rw [← Value.compare?_congr_left he]
      exact ho
  refine ⟨List.mem_append_right _ (List.mem_singleton_self new), fun c hc => ?_, fun hi => ?_, ?_⟩
  · obtain hc | hc := List.mem_append.1 hc
    · exact .inl (hall c hc)
    · obtain rfl := List.mem_singleton.1 hc
      exact .inr hself
  · exact ⟨new, List.mem_append_right _ (List.mem_singleton_self new), hi, hself⟩
  · rintro ⟨c, hc, hi, he⟩
    obtain hc | hc := List.mem_append.1 hc
    · have hsame := Value.compare?_swap_of he
      rw [hall c hc] at hsame
      exact absurd (Option.some.inj hsame) hne
    · obtain rfl := List.mem_singleton.1 hc
      exact hi

/-- A bound that is less tight leaves the tightest one. -/
theorem IsTightest.append_of_weaker (h : IsTightest tighter bounds old)
    (hback : old.value.compare? new.value = some tighter) (hne : tighter ≠ .eq) :
    IsTightest tighter (bounds ++ [new]) old := by
  have hnot : new.value.compare? old.value ≠ some .eq := by
    intro he
    have hsame := Value.compare?_swap_of he
    rw [hback] at hsame
    exact hne (Option.some.inj hsame)
  refine ⟨List.mem_append_left _ h.mem, ?_, ?_⟩
  · simpa [or_imp, forall_and] using ⟨h.tightest, .inl hback⟩
  · simpa [or_and_right, exists_or, hnot] using h.exclusive_iff

/-- The step: of the tightest bound and a new one the tighter is kept. -/
theorem IsTightest.tighten (hne : tighter ≠ .eq) (h : IsTightest tighter bounds old)
    (hc : (new.value.compare? old.value).isSome = true) :
    IsTightest tighter (bounds ++ [new]) (RangeBound.tighten (some old) tighter new) := by
  obtain ⟨order, ho⟩ := Option.isSome_iff_exists.1 hc
  have hback := Value.compare?_swap_of ho
  simp only [RangeBound.tighten, ho]
  cases order with
  | eq => exact h.append_of_eq ho
  | lt =>
    cases tighter with
    | eq => exact absurd rfl hne
    | lt => exact h.append_of_tighter hne ho
    | gt => exact h.append_of_weaker hback hne
  | gt =>
    cases tighter with
    | eq => exact absurd rfl hne
    | lt => exact h.append_of_weaker hback hne
    | gt => exact h.append_of_tighter hne ho

end Bound

namespace RangeBound

open RecordFilter.Bound (IsTightest IsTightestOf)

/-- The bound of a side. -/
def slot (bound : RangeBound) : Ordering → Option Bound
  | .gt => bound.min
  | .lt => bound.max
  | .eq => .none

/-- What is left of a side after one bound more. -/
def tightenBy (tighter : Ordering) (old : Option Bound) (new : Bound) : Option Bound :=
  some (tighten old tighter new)

/-- What is left of a side when its bounds have come one after the other. -/
def onSide (tighter : Ordering) (bounds : List Bound) : Option Bound :=
  bounds.foldl (tightenBy tighter) .none

variable {tighter : Ordering} {path : FieldPath}

/-- The invariant of the fold, by induction on the bounds that are still to come. -/
theorem isTightest_foldl (hne : tighter ≠ .eq) {rest done : List Bound} {old : Bound}
    (hp : ∀ b ∈ done ++ rest, path.HasPlace b.value) (h : IsTightest tighter done old) :
    ∃ b, rest.foldl (tightenBy tighter) (some old) = some b ∧ IsTightest tighter (done ++ rest) b := by
  induction rest generalizing done old with
  | nil => exact ⟨old, rfl, by rwa [List.append_nil]⟩
  | cons new rest ih =>
    have hold : path.HasPlace old.value := hp old (List.mem_append_left _ h.mem)
    have hnew : path.HasPlace new.value := hp new (List.mem_append_right _ List.mem_cons_self)
    have hstep := h.tighten hne (hnew.compare? hold)
    rw [List.append_cons] at hp ⊢
    exact ih hp hstep

/-- A side keeps the tightest of its bounds. -/
theorem isTightestOf_onSide (hne : tighter ≠ .eq) {bounds : List Bound}
    (hp : ∀ b ∈ bounds, path.HasPlace b.value) : IsTightestOf tighter bounds (onSide tighter bounds) := by
  cases bounds with
  | nil => simp [IsTightestOf, onSide]
  | cons first rest =>
    have hfirst : IsTightest tighter [first] first :=
      Bound.isTightest_singleton (hp first List.mem_cons_self).2
    obtain ⟨b, hb, ht⟩ := isTightest_foldl hne hp hfirst
    have hside : onSide tighter (first :: rest) = some b := hb
    simp [IsTightestOf, hside]
    exact ht

end RangeBound

/-! ## Single values -/

theorem FieldPath.Contributes.setsBound {path : FieldPath} {fallback : DateFallback} {raw : String}
    {p : Predicate} (h : path.Contributes fallback raw p) : path.setsBound raw = false := by
  unfold FieldPath.setsBound
  cases h with
  | equals operator converted => rw [operator]; rfl
  | notEquals operator converted => rw [operator]; rfl
  | contains unreadable temporal substring => rw [unreadable, Bool.and_false]

theorem FieldPath.Contributes.isLeaf {path : FieldPath} {fallback : DateFallback} {raw : String}
    {p : Predicate} (h : path.Contributes fallback raw p) : p.isLeaf = true := by
  cases h <;> rfl

namespace RangeMerging

open RangeBound (slot onSide tightenBy)

variable {path : FieldPath} {fallback : DateFallback} {side : Ordering} {raw : String} {part : Part}
  {values : List String} {parts : List Part}

theorem isBound_iff_of_read (h : read path fallback raw = .ok part) :
    part.IsBound ↔ path.setsBound raw = true := by
  obtain ⟨p, rfl, hp⟩ | ⟨literal, rfl, ho, hc⟩ := cases_of_read h
  · simp [Part.IsBound, hp.setsBound]
  · simp [Part.IsBound, FieldPath.setsBound, ho, hc, Except.isOk, Except.toBool]

/-! ## Bounds of a key -/

/-- The bound that a part sets on a side. -/
def Part.bound? (side : Ordering) : Part → Option Bound
  | .condition _ => none
  | .bound operator literal => Bound.of? side operator literal

theorem slot_add (hne : side ≠ .eq) (bound : RangeBound) (part : Part) :
    (add bound part).slot side =
      match part.bound? side with
      | some new => tightenBy side (bound.slot side) new
      | none => bound.slot side := by
  cases part with
  | condition p => rfl
  | bound operator literal =>
    cases side with
    | eq => exact absurd rfl hne
    | lt => cases operator <;> rfl
    | gt => cases operator <;> rfl

/-- The two sides do not meddle with each other. -/
theorem slot_bounds (hne : side ≠ .eq) (parts : List Part) :
    (bounds parts).slot side = onSide side (parts.filterMap (Part.bound? side)) := by
  have h : ∀ bound : RangeBound, (parts.foldl add bound).slot side =
      (parts.filterMap (Part.bound? side)).foldl (tightenBy side) (bound.slot side) := by
    induction parts with
    | nil => exact fun bound => rfl
    | cons part parts ih =>
      intro bound
      rw [List.foldl_cons, ih, slot_add hne, List.filterMap_cons]
      cases part.bound? side <;> rfl
  have hnone : RangeBound.none.slot side = none := by cases side <;> rfl
  rw [bounds_eq, h, hnone]
  rfl

theorem bound?_of_read (h : read path fallback raw = .ok part) :
    part.bound? side = path.bound? side raw := by
  unfold FieldPath.bound?
  obtain ⟨p, rfl, hp⟩ | ⟨literal, rfl, _, hc⟩ := cases_of_read h
  · cases hp with
    | equals operator converted => rw [converted, operator]; rfl
    | notEquals operator converted => rw [converted, operator]; rfl
    | contains unreadable temporal substring =>
      cases hc : path.convert (OperatorToken.read raw).literal with
      | ok literal => rw [hc] at unreadable; cases unreadable
      | error e => rfl
  · rw [hc]
    rfl

theorem filterMap_bound?_of_mapM (h : values.mapM (read path fallback) = .ok parts) :
    parts.filterMap (Part.bound? side) = path.boundsOn side values := by
  induction parts generalizing values with
  | nil =>
    obtain rfl := mapM_eq_ok_nil_iff.1 h
    rfl
  | cons part parts ih =>
    obtain ⟨raw, rest, rfl, hraw, hrest⟩ := mapM_eq_ok_cons_iff.1 h
    rw [List.filterMap_cons, FieldPath.boundsOn, List.filterMap_cons, bound?_of_read hraw, ih hrest]
    rfl

/-- The range is there if and only if some value sets a bound. -/
theorem isSet_bounds_iff (hn : path.BoundsAreNumbers values)
    (h : values.mapM (read path fallback) = .ok parts) :
    (bounds parts).isSet = true ↔ ∃ raw ∈ values, path.setsBound raw = true := by
  have hp : ∀ part ∈ parts, part.IsProper path := by
    intro part hpart
    obtain ⟨raw, hraw, hread⟩ := (mem_of_mapM_eq_ok h part).1 hpart
    exact isProper_of_read hread (hn raw hraw)
  rw [← exists_mem_iff_of_mapM h fun raw _ part hread => isBound_iff_of_read hread]
  have hfold := (foldl_add_spec hp (RangeBound.all_none path.HasPlace)).1
  simpa [bounds_eq, RangeBound.isSet, RangeBound.none] using hfold

theorem hasPlace_of_mem_boundsOn (hn : path.BoundsAreNumbers values) :
    ∀ b ∈ path.boundsOn side values, path.HasPlace b.value := by
  intro b hb
  obtain ⟨raw, hraw, hside, hc⟩ := FieldPath.mem_boundsOn_iff.1 hb
  have hop : (OperatorToken.read raw).operator.isBound = true := by
    cases ho : (OperatorToken.read raw).operator <;> rw [ho] at hside <;> first | rfl | cases hside
  exact ⟨FieldPath.kind?_of_convert hc, hn raw hraw hop _ hc⟩

/-- The range keeps on each side the tightest of the bounds that the values set there. -/
theorem isTightestOf_slot (hne : side ≠ .eq) (hn : path.BoundsAreNumbers values)
    (h : values.mapM (read path fallback) = .ok parts) :
    Bound.IsTightestOf side (path.boundsOn side values) ((bounds parts).slot side) := by
  rw [slot_bounds hne, filterMap_bound?_of_mapM h]
  exact RangeBound.isTightestOf_onSide hne (hasPlace_of_mem_boundsOn hn)

/-- The range of the merged condition, if a side is bounded. -/
def ranges (path : FieldPath) (parts : List Part) : List Predicate :=
  if (bounds parts).isSet then [.range (.field path) (bounds parts).min (bounds parts).max] else []

/-- By induction on the parts: every value makes one part, a condition or a bound. -/
theorem contributes_of_mapM (h : values.mapM (read path fallback) = .ok parts) :
    List.Forall₂ (path.Contributes fallback) (values.filter fun raw => !path.setsBound raw)
      (conditions parts) := by
  induction parts generalizing values with
  | nil =>
    obtain rfl := mapM_eq_ok_nil_iff.1 h
    exact .nil
  | cons part parts ih =>
    obtain ⟨raw, rest, rfl, hraw, hrest⟩ := mapM_eq_ok_cons_iff.1 h
    cases part with
    | condition p =>
      have hs : path.setsBound raw = false := (contributes_of_read hraw).setsBound
      simpa [conditions, List.filter_cons, hs] using And.intro (contributes_of_read hraw) (ih hrest)
    | bound operator literal =>
      have hs : path.setsBound raw = true := (isBound_iff_of_read hraw).1 trivial
      simpa [conditions, List.filter_cons, hs] using ih hrest

theorem isLeaf_of_mem_combined (h : values.mapM (read path fallback) = .ok parts) :
    ∀ leaf ∈ conditions parts ++ ranges path parts, leaf.isLeaf = true := by
  intro leaf hl
  obtain hl | hl := List.mem_append.1 hl
  · obtain ⟨raw, _, hread⟩ := (mem_of_mapM_eq_ok h _).1 (mem_conditions.1 hl)
    exact (contributes_of_read hread).isLeaf
  · rw [ranges] at hl
    split at hl
    · obtain rfl := List.mem_singleton.1 hl
      rfl
    · cases hl

end RangeMerging

/-! ## The merged condition -/

theorem Predicate.conjuncts_of_isLeaf {p : Predicate} (h : p.isLeaf = true) : p.conjuncts = [p] := by
  cases p with
  | always => cases h
  | all _ => cases h
  | _ => rfl

/-- A conjunction of conditions on single operands consists of them, in order. -/
theorem Predicate.conjuncts_conjunction {children : List Predicate}
    (h : ∀ child ∈ children, child.isLeaf = true) : (conjunction children).conjuncts = children := by
  have hflat : children.flatMap conjuncts = children := by
    induction children with
    | nil => rfl
    | cons child rest ih =>
      rw [List.forall_mem_cons] at h
      rw [List.flatMap_cons, conjuncts_of_isLeaf h.1, ih h.2, List.singleton_append]
  rw [conjuncts_conjunction_of_isNormal fun child hc => isNormal_leaf (h child hc), hflat]

open RecordFilter.Bound (IsTightestOf)

/-- A merged key is one condition for each value that sets no bound, in the order of the values, and
behind them one range if some value sets a bound. The range keeps on either side the tightest of the
bounds that are set there. -/
theorem mergeRange_keeps_tightest {path : FieldPath} {fallback : DateFallback} {values : List String}
    {p : Predicate} (hn : path.BoundsAreNumbers values) (h : mergeRange path fallback values = .ok p) :
    ∃ conditions ranges, p.IsNormal ∧ p.conjuncts = conditions ++ ranges ∧
      List.Forall₂ (path.Contributes fallback) (values.filter fun raw => !path.setsBound raw)
        conditions ∧
      ((∃ raw ∈ values, path.setsBound raw = true) → ∃ min max,
        ranges = [.range (.field path) min max] ∧
          IsTightestOf .gt (path.boundsOn .gt values) min ∧
          IsTightestOf .lt (path.boundsOn .lt values) max) ∧
      ((∀ raw ∈ values, path.setsBound raw = false) → ranges = []) := by
  rw [mergeRange] at h
  obtain ⟨parts, hm, rfl⟩ := map_eq_ok_iff.1 h
  have hset := RangeMerging.isSet_bounds_iff hn hm
  have hleaf := RangeMerging.isLeaf_of_mem_combined hm
  refine ⟨RangeMerging.conditions parts, RangeMerging.ranges path parts,
    Predicate.isNormal_conjunction fun leaf hl => Predicate.isNormal_leaf (hleaf leaf hl),
    Predicate.conjuncts_conjunction hleaf, RangeMerging.contributes_of_mapM hm, fun hex => ?_,
    fun hall => ?_⟩
  · exact ⟨_, _, if_pos (hset.2 hex), RangeMerging.isTightestOf_slot (by decide) hn hm,
      RangeMerging.isTightestOf_slot (by decide) hn hm⟩
  · refine if_neg fun hs => ?_
    obtain ⟨raw, hraw, hbound⟩ := hset.1 hs
    rw [hall raw hraw] at hbound
    cases hbound

/-- Prices that are equal at different scales: of `10.0` and the exclusive `10.00` the latter is kept, of
the exclusive `20` and `20.0` the former. -/
theorem mergeRange_keeps_tightest_preco :
    ∃ p conditions min max, mergeRange ⟨["preco"], .decimal⟩ .reject
        ["gte:10.0", "ne:12", "gt:10.00", "lt:20", "7", "lte:20.0", "cerca:8"] = .ok p ∧
      p.conjuncts = conditions ++ [.range (.field ⟨["preco"], .decimal⟩) min max] ∧
      conditions.length = 3 ∧
      IsTightestOf .gt [⟨.decimal ⟨false, 100, 1, by decide, by decide⟩, true⟩,
        ⟨.decimal ⟨false, 1000, 2, by decide, by decide⟩, false⟩] min ∧
      IsTightestOf .lt [⟨.decimal ⟨false, 20, 0, by decide, by decide⟩, false⟩,
        ⟨.decimal ⟨false, 200, 1, by decide, by decide⟩, true⟩] max := by
  have hn : (FieldPath.mk ["preco"] .decimal).BoundsAreNumbers
      ["gte:10.0", "ne:12", "gt:10.00", "lt:20", "7", "lte:20.0", "cerca:8"] :=
    FieldPath.boundsAreNumbers_of_not_float (by decide) (by decide) _
  obtain ⟨p, hmerge⟩ : ∃ p, mergeRange ⟨["preco"], .decimal⟩ .reject
      ["gte:10.0", "ne:12", "gt:10.00", "lt:20", "7", "lte:20.0", "cerca:8"] = .ok p := ⟨_, rfl⟩
  obtain ⟨conditions, ranges, _, hp, hconditions, hranges, _⟩ := mergeRange_keeps_tightest hn hmerge
  obtain ⟨min, max, rfl, hmin, hmax⟩ := hranges ⟨"gte:10.0", by decide, by decide⟩
  exact ⟨p, conditions, min, max, hmerge, hp, hconditions.length_eq.symm, hmin, hmax⟩

end RecordFilter
