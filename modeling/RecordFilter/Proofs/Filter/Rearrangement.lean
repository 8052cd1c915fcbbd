import RecordFilter.Proofs.Filter.Tightest

/-!
# RecordFilter.Proofs.Filter.Rearrangement

What becomes of a merged key when its values come in another order. Whether the values can be merged does
not depend on the order. What the merged condition says does not depend on it either, as long as the
bounds are numbers. A bound that is not a number compares with nothing: it stays where it comes first on
its side, and then nothing meets the range (`holds_combine_of_beginsWithNan`); anywhere else it is passed
over (`onSide_numbers`). So a condition says what its other values say, unless a side begins with such a
bound (`holds_mergeRange_iff`).

* `mergeRange_perm_iff`: two orders of the same values say the same if and only if both have or both lack
  a side that begins with a bound that is not a number, or the other values hold of no record anyway.
* `mergeRange_perm_nan`: an order in which that makes a difference.
-/

namespace RecordFilter

/-! ## One side -/

namespace Bound

def isNumber (b : Bound) : Bool := !b.value.isNan

/-- What is not a number is not replaced and replaces nothing. -/
theorem tighten_of_nan {tighter : Ordering} {old new : Bound}
    (h : old.isNumber = false ∨ new.isNumber = false) :
    RangeBound.tighten (some old) tighter new = old := by
  have hnone : new.value.compare? old.value = none := by
    cases hc : new.value.compare? old.value with
    | none => rfl
    | some order =>
      have hs := (Value.compare?_isSome_iff.1 (Option.isSome_of_eq_some hc)).2
      simp [isNumber, hs] at h
  simp only [RangeBound.tighten, hnone]

/-- Nothing meets a bound that is not a number. -/
theorem meets_of_nan {tighter : Ordering} {v : Value} {b : Bound} (h : b.isNumber = false) :
    meets tighter v b = false := by
  unfold meets
  cases hc : v.compare? b.value with
  | none => rfl
  | some order =>
    have hs := (Value.compare?_isSome_iff.1 (Option.isSome_of_eq_some hc)).2.2
    simp [isNumber, hs] at h

end Bound

namespace RangeBound

variable {tighter : Ordering}

/-- A bound that is not a number stays, whatever comes behind it. -/
theorem foldl_of_nan {b : Bound} (h : b.isNumber = false) (rest : List Bound) :
    rest.foldl (tightenBy tighter) (some b) = some b := by
  induction rest with
  | nil => rfl
  | cons new rest ih => rw [List.foldl_cons, tightenBy, Bound.tighten_of_nan (.inl h), ih]

/-- Behind another bound it is passed over. -/
theorem foldl_numbers (old : Bound) (rest : List Bound) :
    rest.foldl (tightenBy tighter) (some old) =
      (rest.filter Bound.isNumber).foldl (tightenBy tighter) (some old) := by
  induction rest generalizing old with
  | nil => rfl
  | cons new rest ih =>
    rw [List.foldl_cons, tightenBy, ih, List.filter_cons]
    cases hn : new.isNumber with
    | true => rfl
    | false => rw [Bound.tighten_of_nan (.inr hn)]; rfl

theorem min_or_max_of_slot {bound : RangeBound} {side : Ordering} {b : Bound}
    (h : bound.slot side = some b) : bound.min = some b ∨ bound.max = some b := by
  cases side with
  | eq => cases h
  | gt => exact .inl h
  | lt => exact .inr h

theorem ext_slot {a b : RangeBound} (hmin : a.slot .gt = b.slot .gt) (hmax : a.slot .lt = b.slot .lt) :
    a = b := by
  obtain ⟨_, _⟩ := a
  cases hmin
  cases hmax
  rfl

/-- The first of the bounds is not a number. -/
def beginsWithNan : List Bound → Bool
  | [] => false
  | first :: _ => !first.isNumber

theorem onSide_of_beginsWithNan {bounds : List Bound} (h : beginsWithNan bounds = true) :
    ∃ b, onSide tighter bounds = some b ∧ b.isNumber = false := by
  cases bounds with
  | nil => cases h
  | cons first rest =>
    have hfirst : first.isNumber = false := by simpa [beginsWithNan] using h
    exact ⟨first, foldl_of_nan hfirst rest, hfirst⟩

theorem onSide_numbers {bounds : List Bound} (h : beginsWithNan bounds = false) :
    onSide tighter (bounds.filter Bound.isNumber) = onSide tighter bounds := by
  cases bounds with
  | nil => rfl
  | cons first rest =>
    have hfirst : first.isNumber = true := by simpa [beginsWithNan] using h
    rw [List.filter_cons, if_pos hfirst]
    exact (foldl_numbers first rest).symm

end RangeBound

/-! ## Values of a key -/

namespace FieldPath

/-- The value sets a bound that is not a number. -/
def setsNan (path : FieldPath) (raw : String) : Bool :=
  match path.convert (OperatorToken.read raw).literal with
  | .ok literal => path.setsBound raw && literal.isNan
  | .error _ => false

/-- On one side the first of the bounds is not a number. -/
def beginsWithNan (path : FieldPath) (values : List String) : Bool :=
  RangeBound.beginsWithNan (path.boundsOn .gt values) ||
    RangeBound.beginsWithNan (path.boundsOn .lt values)

/-- What the values say that set no bound or a number. -/
def NumbersHold (path : FieldPath) (fallback : DateFallback) (record : Json) (values : List String) :
    Prop :=
  ∀ raw ∈ values, path.setsNan raw = false → path.TokenHolds fallback record raw

theorem numbersHold_of_perm {path : FieldPath} {fallback : DateFallback} {record : Json}
    {values values' : List String} (h : values.Perm values') :
    path.NumbersHold fallback record values ↔ path.NumbersHold fallback record values' := by
  unfold NumbersHold
  simp only [h.mem_iff]

end FieldPath

namespace RangeMerging

variable {path : FieldPath} {fallback : DateFallback} {raw : String} {part : Part}
  {values : List String} {parts : List Part}

/-- A condition, or a bound that is a number. -/
def Part.isNumber : Part → Bool
  | .condition _ => true
  | .bound _ literal => !literal.isNan

theorem isNumber_of_read (h : read path fallback raw = .ok part) :
    part.isNumber = !path.setsNan raw := by
  unfold FieldPath.setsNan
  obtain ⟨p, rfl, hp⟩ | ⟨literal, rfl, ho, hc⟩ := cases_of_read h
  · cases path.convert (OperatorToken.read raw).literal with
    | ok literal => rw [hp.setsBound]; rfl
    | error e => rfl
  · have hs : path.setsBound raw = true := (isBound_iff_of_read h).1 trivial
    rw [hc, hs]
    rfl

theorem isProper_of_isNumber (h : read path fallback raw = .ok part) (hn : part.isNumber = true) :
    part.IsProper path := by
  obtain ⟨p, rfl, _⟩ | ⟨literal, rfl, ho, hc⟩ := cases_of_read h
  · trivial
  · exact ⟨ho, FieldPath.kind?_of_convert hc, by simpa [Part.isNumber] using hn⟩

/-! ## Passing over -/

theorem conditions_numbers (parts : List Part) :
    conditions (parts.filter Part.isNumber) = conditions parts := by
  rw [conditions, conditions, List.filterMap_filter]
  refine congrArg (parts.filterMap ·) (funext fun part => ?_)
  cases part <;> simp [Part.isNumber]

theorem filterMap_numbers (side : Ordering) (parts : List Part) :
    (parts.filter Part.isNumber).filterMap (Part.bound? side) =
      (parts.filterMap (Part.bound? side)).filter Bound.isNumber := by
  rw [List.filterMap_filter, List.filter_filterMap]
  refine congrArg (parts.filterMap ·) (funext fun part => ?_)
  cases part with
  | condition p => rfl
  | bound operator literal =>
    cases hb : Bound.of? side operator literal with
    | none => simp [Part.bound?, hb]
    | some b =>
      obtain ⟨_, rfl⟩ := Bound.of?_eq_some_iff.1 hb
      simp [Part.bound?, hb, Part.isNumber, Bound.isNumber, Option.filter]

theorem slot_numbers {side : Ordering} (hne : side ≠ .eq)
    (hm : values.mapM (read path fallback) = .ok parts)
    (h : RangeBound.beginsWithNan (path.boundsOn side values) = false) :
    (bounds (parts.filter Part.isNumber)).slot side = (bounds parts).slot side := by
  rw [slot_bounds hne, slot_bounds hne, filterMap_numbers, filterMap_bound?_of_mapM hm,
    RangeBound.onSide_numbers h]

/-- Unless a side begins with them, the bounds that are not numbers could as well be missing. -/
theorem combine_numbers (hm : values.mapM (read path fallback) = .ok parts)
    (h : path.beginsWithNan values = false) :
    combine path (parts.filter Part.isNumber) = combine path parts := by
  rw [FieldPath.beginsWithNan, Bool.or_eq_false_iff] at h
  have hbounds : bounds (parts.filter Part.isNumber) = bounds parts :=
    RangeBound.ext_slot (slot_numbers (by decide) hm h.1) (slot_numbers (by decide) hm h.2)
  rw [combine, combine, conditions_numbers, hbounds]

theorem holds_combine_of_numbers (hm : values.mapM (read path fallback) = .ok parts)
    (h : path.beginsWithNan values = false) (record : Json) :
    (combine path parts).holds record = true ↔ path.NumbersHold fallback record values := by
  have hproper : ∀ part ∈ parts.filter Part.isNumber, part.IsProper path := by
    intro part hpart
    obtain ⟨hpart, hn⟩ := List.mem_filter.1 hpart
    obtain ⟨raw, _, hread⟩ := (mem_of_mapM_eq_ok hm part).1 hpart
    exact isProper_of_isNumber hread hn
  rw [← combine_numbers hm h, holds_combine_iff hproper]
  simp only [List.mem_filter, and_imp]
  refine forall_mem_iff_of_mapM hm fun raw _ part hread => ?_
  rw [isNumber_of_read hread, read_spec hread record, Bool.not_eq_true']

/-! ## Being stuck -/

/-- A range with a bound that is not a number holds of nothing. -/
theorem within_of_nan {bound : RangeBound} {side : Ordering} {b : Bound} (hs : bound.slot side = some b)
    (hn : b.isNumber = false) : bound.isSet = true ∧
      ∀ v, Predicate.within v bound.min bound.max = false := by
  have hmeets : ∀ tighter v, (some b).all (Bound.meets tighter v) = false := by
    intro tighter v
    rw [Option.all_some, Bound.meets_of_nan hn]
  simp only [RangeBound.within_eq, RangeBound.isSet]
  obtain h | h := RangeBound.min_or_max_of_slot hs
  · simp only [h, hmeets]
    simp
  · simp only [h, hmeets]
    simp

/-- So does the merged condition where a side begins with one. -/
theorem holds_combine_of_beginsWithNan (hm : values.mapM (read path fallback) = .ok parts)
    (h : path.beginsWithNan values = true) (record : Json) : (combine path parts).holds record = false := by
  have hstuck : ∀ side, side ≠ .eq → RangeBound.beginsWithNan (path.boundsOn side values) = true →
      (bounds parts).isSet = true ∧
        ∀ v, Predicate.within v (bounds parts).min (bounds parts).max = false := by
    intro side hne hb
    obtain ⟨b, hb, hn⟩ := RangeBound.onSide_of_beginsWithNan hb
    have hslot : (bounds parts).slot side = some b := by
      rw [slot_bounds hne, filterMap_bound?_of_mapM hm, hb]
    exact within_of_nan hslot hn
  have hnever : (bounds parts).isSet = true ∧
      ∀ v, Predicate.within v (bounds parts).min (bounds parts).max = false := by
    obtain h | h := Bool.or_eq_true_iff.1 h
    · exact hstuck .gt (by decide) h
    · exact hstuck .lt (by decide) h
  rw [combine, Predicate.holds_conjunction, List.all_append, hnever.1, if_pos rfl]
  simp [Predicate.holds, hnever.2]

end RangeMerging

variable {path : FieldPath} {fallback : DateFallback} {values values' : List String} {p p' : Predicate}

/-- A merged condition holds if no side begins with a bound that is not a number, and the other values
hold. -/
theorem holds_mergeRange_iff (h : mergeRange path fallback values = .ok p) (record : Json) :
    p.holds record = true ↔
      path.beginsWithNan values = false ∧ path.NumbersHold fallback record values := by
  rw [mergeRange] at h
  obtain ⟨parts, hm, rfl⟩ := map_eq_ok_iff.1 h
  cases hb : path.beginsWithNan values with
  | true => simp [RangeMerging.holds_combine_of_beginsWithNan hm hb]
  | false => simp [RangeMerging.holds_combine_of_numbers hm hb]

theorem exists_mergeRange_of_perm (hp : values.Perm values')
    (h : ∃ p, mergeRange path fallback values = .ok p) : ∃ p, mergeRange path fallback values' = .ok p := by
  obtain ⟨p, h⟩ := h
  rw [mergeRange] at h
  obtain ⟨parts, hm, rfl⟩ := map_eq_ok_iff.1 h
  obtain ⟨parts', hm', _⟩ := perm_of_mapM hp hm
  exact ⟨_, by rw [mergeRange, hm']; rfl⟩

/-- Two orders of the same values can both be merged or both not. If they can, they say the same if and
only if a side begins with a bound that is not a number in both orders or in none, or the values without
those bounds hold of no record. -/
theorem mergeRange_perm_iff (hp : values.Perm values') :
    ((∃ p, mergeRange path fallback values = .ok p) ↔ ∃ p, mergeRange path fallback values' = .ok p) ∧
      ∀ p p', mergeRange path fallback values = .ok p → mergeRange path fallback values' = .ok p' →
        ((∀ record, p.holds record = p'.holds record) ↔
          path.beginsWithNan values = path.beginsWithNan values' ∨
            ∀ record, ¬ path.NumbersHold fallback record values) := by
  refine ⟨⟨exists_mergeRange_of_perm hp, exists_mergeRange_of_perm hp.symm⟩, fun p p' h h' => ?_⟩
  have hsame : (∀ record, p.holds record = p'.holds record) ↔
      ∀ record, p.holds record = true ↔ p'.holds record = true := forall_congr' fun _ => Bool.eq_iff_iff
  simp only [hsame, holds_mergeRange_iff h, holds_mergeRange_iff h', ← FieldPath.numbersHold_of_perm hp]
  cases path.beginsWithNan values <;> cases path.beginsWithNan values' <;> simp

/-- A bound that is not a number does no harm where it comes behind another one in both orders. -/
theorem mergeRange_perm_iff_peso : ∃ p p',
    mergeRange ⟨["peso"], .double⟩ .substring ["gt:5", "lt:20", "gt:NaN"] = .ok p ∧
      mergeRange ⟨["peso"], .double⟩ .substring ["lt:20", "gt:5", "gt:NaN"] = .ok p' ∧
      ∀ record, p.holds record = p'.holds record := by
  have hp : ["gt:5", "lt:20", "gt:NaN"].Perm ["lt:20", "gt:5", "gt:NaN"] := by decide
  obtain ⟨_, hiff⟩ := @mergeRange_perm_iff ⟨["peso"], .double⟩ .substring _ _ hp
  exact ⟨_, _, rfl, rfl, (hiff _ _ rfl rfl).2 (.inl (by decide +kernel))⟩

/-- The order of the values can make a difference. -/
theorem mergeRange_perm_nan :
    ¬ ∀ (path : FieldPath) (fallback : DateFallback) (values values' : List String),
      path.type.supportsRange = true → values.Perm values' → ∀ p p',
        mergeRange path fallback values = .ok p → mergeRange path fallback values' = .ok p' →
          ∀ record, p.holds record = p'.holds record := by
  intro h
  have hp : ["gt:5", "gt:NaN"].Perm ["gt:NaN", "gt:5"] := by decide
  have hsame := h ⟨["peso"], .double⟩ .substring _ _ rfl hp _ _ rfl rfl (.object [("peso", .nat 10)])
  revert hsame
  decide +kernel

end RecordFilter
