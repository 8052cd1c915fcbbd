import RecordFilter.Proofs.Filter.Conditions
import RecordFilter.Proofs.Filter.Sequence

/-!
# RecordFilter.Proofs.Filter.Merging

Merging the values of a key into one range loses nothing: the merged condition holds if and only if
every value, read alone, holds (`holds_of_mergeRange`). The step is `tighten_meets`: a bound together
with a new one says as much as the tighter of the two. It needs that the two compare, so the bounds must
be numbers (`FieldPath.BoundsAreNumbers`). What a single value comes to, a condition or a bound, is said
by `RangeMerging.cases_of_read`.
-/

namespace RecordFilter

/-! ## One bound -/

namespace Bound

/-- The value lies on the side of the bound that `tighter` names, or on the bound itself. -/
def meets (tighter : Ordering) (v : Value) (bound : Bound) : Bool :=
  match v.compare? bound.value with
  | some .eq => bound.inclusive
  | some order => order == tighter
  | none => false

theorem isAbove_eq_meets (v : Value) (bound : Bound) : isAbove v bound = meets .gt v bound := by
  unfold isAbove meets
  cases v.compare? bound.value with
  | none => rfl
  | some order => cases order <;> rfl

theorem isBelow_eq_meets (v : Value) (bound : Bound) : isBelow v bound = meets .lt v bound := by
  unfold isBelow meets
  cases v.compare? bound.value with
  | none => rfl
  | some order => cases order <;> rfl

theorem meets_congr (tighter : Ordering) (v : Value) {a b : Value} (h : a.compare? b = some .eq)
    (inclusive : Bool) : meets tighter v ⟨a, inclusive⟩ = meets tighter v ⟨b, inclusive⟩ := by
  unfold meets
  rw [Value.compare?_congr_left h]

/-- What meets a bound meets every less tight one. -/
theorem meets_of_tighter {tighter : Ordering} {v : Value} {a b : Bound} (hne : tighter ≠ .eq)
    (h : a.value.compare? b.value = some tighter) (ha : meets tighter v a = true) :
    meets tighter v b = true := by
  have hb : v.compare? b.value = some tighter := by
    unfold meets at ha
    split at ha
    · rename_i heq
      rw [Value.compare?_congr_right heq]; exact h
    · rename_i order _ hv
      rw [beq_iff_eq] at ha; subst ha
      exact Value.compare?_trans hv h
    · cases ha
  unfold meets
  rw [hb]
  cases tighter with
  | eq => exact absurd rfl hne
  | lt => rfl
  | gt => rfl

theorem meets_and_of_tighter {tighter : Ordering} {a b : Bound} (hne : tighter ≠ .eq)
    (h : a.value.compare? b.value = some tighter) (v : Value) :
    (meets tighter v b && meets tighter v a) = meets tighter v a := by
  cases ha : meets tighter v a with
  | false => rw [Bool.and_false]
  | true => rw [meets_of_tighter hne h ha, Bool.and_true]

end Bound

namespace RangeBound

open RecordFilter.Bound

theorem tighten_meets {tighter : Ordering} (hne : tighter ≠ .eq) (v : Value) {old new : Bound}
    (hc : (new.value.compare? old.value).isSome = true) :
    meets tighter v (tighten (some old) tighter new) = (meets tighter v old && meets tighter v new) := by
  obtain ⟨order, ho⟩ := Option.isSome_iff_exists.1 hc
  have hback := Value.compare?_swap new.value old.value
  rw [ho, Option.map_some] at hback
  simp only [tighten, ho]
  cases order with
  | eq =>
    -- both bounds stand at the same place, the exclusive one is the tighter
    have hold : meets tighter v old = meets tighter v ⟨new.value, old.inclusive⟩ :=
      (meets_congr tighter v ho old.inclusive).symm
    simp only [hold, apply_ite (meets tighter v)]
    unfold meets
    cases v.compare? new.value with
    | none => simp
    | some order => cases order <;> cases new.inclusive <;> cases old.inclusive <;> simp
  | lt =>
    cases tighter with
    | eq => exact absurd rfl hne
    | lt => rw [meets_and_of_tighter hne ho]; rfl
    | gt => rw [Bool.and_comm, meets_and_of_tighter hne hback]; rfl
  | gt =>
    cases tighter with
    | eq => exact absurd rfl hne
    | lt => rw [Bool.and_comm, meets_and_of_tighter hne hback]; rfl
    | gt => rw [meets_and_of_tighter hne ho]; rfl

/-- The same with a side that may still be open. -/
theorem all_meets_tighten {tighter : Ordering} (hne : tighter ≠ .eq) (v : Value) {old : Option Bound}
    {new : Bound} (hc : ∀ b ∈ old, (new.value.compare? b.value).isSome = true) :
    meets tighter v (tighten old tighter new) = (old.all (meets tighter v) && meets tighter v new) := by
  cases old with
  | none => rfl
  | some b => exact tighten_meets hne v (hc b rfl)

/-- A bound that is kept is the old one or the new one. -/
theorem tighten_eq_or (old : Option Bound) (tighter : Ordering) (new : Bound) :
    tighten old tighter new ∈ old ∨ tighten old tighter new = new := by
  unfold tighten
  cases old with
  | none => exact .inr rfl
  | some b =>
    simp only [Option.mem_some_iff]
    split
    · split
      · exact .inl rfl
      · exact .inr rfl
    · split
      · exact .inr rfl
      · exact .inl rfl
    · exact .inl rfl

end RangeBound

/-! ## All bounds -/

/-- The operators that make a bound. -/
def Operator.isBound : Operator → Bool
  | .eq | .ne => false
  | .gt | .gte | .lt | .lte => true

/-- The value stands somewhere among the values of the field. -/
def FieldPath.HasPlace (path : FieldPath) (v : Value) : Prop :=
  path.type.kind? = some v.kind ∧ v.isNan = false

/-- The literals behind the operators that make a bound are numbers. -/
def FieldPath.BoundsAreNumbers (path : FieldPath) (values : List String) : Prop :=
  ∀ raw ∈ values, (OperatorToken.read raw).operator.isBound = true →
    ∀ literal, path.convert (OperatorToken.read raw).literal = .ok literal → literal.isNan = false

/-- Only floating-point fields have literals that are not numbers. -/
theorem FieldPath.boundsAreNumbers_of_not_float {path : FieldPath} (hs : path.type ≠ .single)
    (hd : path.type ≠ .double) (values : List String) : path.BoundsAreNumbers values := by
  intro raw _ _ literal hc
  exact Value.isNan_of_read? hs hd (convert_eq_ok_iff.1 hc)

theorem FieldPath.HasPlace.compare? {path : FieldPath} {a b : Value} (ha : path.HasPlace a)
    (hb : path.HasPlace b) : (a.compare? b).isSome = true :=
  Value.compare?_isSome_iff.2 ⟨Option.some.inj (ha.1.symm.trans hb.1), ha.2, hb.2⟩

namespace RangeBound

open RecordFilter.Bound

/-- All bounds that are set have the property. -/
def All (P : Value → Prop) (bound : RangeBound) : Prop :=
  (∀ b ∈ bound.min, P b.value) ∧ ∀ b ∈ bound.max, P b.value

theorem all_none (P : Value → Prop) : RangeBound.none.All P := by simp [All, RangeBound.none]

theorem forall_tighten {P : Value → Prop} {old : Option Bound} {tighter : Ordering} {new : Bound}
    (ho : ∀ b ∈ old, P b.value) (hn : P new.value) : ∀ b ∈ some (tighten old tighter new), P b.value := by
  intro b hb
  obtain rfl := Option.some.inj hb
  obtain h | h := tighten_eq_or old tighter new
  · exact ho _ h
  · rw [h]; exact hn

theorem all_narrow? {P : Value → Prop} {bound next : RangeBound} {operator : Operator} {literal : Value}
    (hb : bound.All P) (hl : P literal) (h : bound.narrow? operator literal = some next) :
    next.All P := by
  cases operator <;> cases h
  · exact ⟨forall_tighten hb.1 hl, hb.2⟩
  · exact ⟨forall_tighten hb.1 hl, hb.2⟩
  · exact ⟨hb.1, forall_tighten hb.2 hl⟩
  · exact ⟨hb.1, forall_tighten hb.2 hl⟩

theorem meets_iff_relates (stored literal : Value) :
    (meets .gt stored ⟨literal, true⟩ = true ↔ Operator.gte.Relates stored literal) ∧
      (meets .gt stored ⟨literal, false⟩ = true ↔ Operator.gt.Relates stored literal) ∧
      (meets .lt stored ⟨literal, true⟩ = true ↔ Operator.lte.Relates stored literal) ∧
      (meets .lt stored ⟨literal, false⟩ = true ↔ Operator.lt.Relates stored literal) := by
  simp only [meets, Operator.Relates]
  cases stored.compare? literal with
  | none => simp
  | some order => cases order <;> simp

theorem within_eq (v : Value) (bound : RangeBound) :
    Predicate.within v bound.min bound.max =
      (bound.min.all (meets .gt v) && bound.max.all (meets .lt v)) := by
  unfold Predicate.within
  congr 2
  · funext b; exact isAbove_eq_meets v b
  · funext b; exact isBelow_eq_meets v b

theorem within_tighten_min (bound : RangeBound) (new : Bound)
    (hc : ∀ b ∈ bound.min, (new.value.compare? b.value).isSome = true) (stored : Value) :
    Predicate.within stored (some (tighten bound.min .gt new)) bound.max = true ↔
      Predicate.within stored bound.min bound.max = true ∧ meets .gt stored new = true := by
  have hnext := within_eq stored { bound with min := some (tighten bound.min .gt new) }
  rw [Option.all_some, all_meets_tighten (by decide) stored hc] at hnext
  rw [hnext, within_eq]
  simp only [Bool.and_eq_true]
  exact and_right_comm

theorem within_tighten_max (bound : RangeBound) (new : Bound)
    (hc : ∀ b ∈ bound.max, (new.value.compare? b.value).isSome = true) (stored : Value) :
    Predicate.within stored bound.min (some (tighten bound.max .lt new)) = true ↔
      Predicate.within stored bound.min bound.max = true ∧ meets .lt stored new = true := by
  have hnext := within_eq stored { bound with max := some (tighten bound.max .lt new) }
  rw [Option.all_some, all_meets_tighten (by decide) stored hc] at hnext
  rw [hnext, within_eq]
  simp only [Bool.and_eq_true, and_assoc]

/-- One step: the new bound is set and says what the old one and the operator say. -/
theorem narrow?_spec {path : FieldPath} {bound : RangeBound} {operator : Operator} {literal : Value}
    (hb : bound.All path.HasPlace) (hop : operator.isBound = true) (hl : path.HasPlace literal) :
    ∃ next, bound.narrow? operator literal = some next ∧ next.isSet = true ∧
      ∀ stored, Predicate.within stored next.min next.max = true ↔
        Predicate.within stored bound.min bound.max = true ∧ operator.Relates stored literal := by
  have hmin : ∀ b ∈ bound.min, (literal.compare? b.value).isSome = true :=
    fun b h => hl.compare? (hb.1 b h)
  have hmax : ∀ b ∈ bound.max, (literal.compare? b.value).isSome = true :=
    fun b h => hl.compare? (hb.2 b h)
  cases operator with
  | eq => cases hop
  | ne => cases hop
  | gte =>
    refine ⟨_, rfl, rfl, fun stored => ?_⟩
    rw [← (meets_iff_relates stored literal).1]
    exact within_tighten_min bound ⟨literal, true⟩ hmin stored
  | gt =>
    refine ⟨_, rfl, rfl, fun stored => ?_⟩
    rw [← (meets_iff_relates stored literal).2.1]
    exact within_tighten_min bound ⟨literal, false⟩ hmin stored
  | lte =>
    refine ⟨_, rfl, by simp [isSet], fun stored => ?_⟩
    rw [← (meets_iff_relates stored literal).2.2.1]
    exact within_tighten_max bound ⟨literal, true⟩ hmax stored
  | lt =>
    refine ⟨_, rfl, by simp [isSet], fun stored => ?_⟩
    rw [← (meets_iff_relates stored literal).2.2.2]
    exact within_tighten_max bound ⟨literal, false⟩ hmax stored

end RangeBound

namespace RangeMerging

/-- What a part adds to the bounds before it. -/
def add (bound : RangeBound) : Part → RangeBound
  | .condition _ => bound
  | .bound operator literal => (bound.narrow? operator literal).getD bound

theorem bounds_eq (parts : List Part) : bounds parts = parts.foldl add RangeBound.none := rfl

def Part.IsBound : Part → Prop
  | .condition _ => False
  | .bound .. => True

/-- A part that is a bound has an operator that makes one and a literal with a place. -/
def Part.IsProper (path : FieldPath) : Part → Prop
  | .condition _ => True
  | .bound operator literal => operator.isBound = true ∧ path.HasPlace literal

/-- What a part says of a record on its own. -/
def Part.Holds (path : FieldPath) (record : Json) : Part → Prop
  | .condition p => p.holds record = true
  | .bound operator literal => (Operand.field path).Compares record operator literal

/-- What a part says of the stored value; only bounds say anything of it. -/
def Part.Admits (stored : Value) : Part → Prop
  | .condition _ => True
  | .bound operator literal => operator.Relates stored literal

theorem all_add {P : Value → Prop} {bound : RangeBound} {part : Part} (hb : bound.All P)
    (hp : ∀ operator literal, part = .bound operator literal → P literal) : (add bound part).All P := by
  cases part with
  | condition p => exact hb
  | bound operator literal =>
    rw [add]
    cases hn : bound.narrow? operator literal with
    | none => exact hb
    | some next => exact RangeBound.all_narrow? hb (hp operator literal rfl) hn

/-- The bounds have what the literals of all parts have. -/
theorem all_bounds {P : Value → Prop} {parts : List Part}
    (hp : ∀ operator literal, Part.bound operator literal ∈ parts → P literal) : (bounds parts).All P := by
  have h : ∀ bound : RangeBound, bound.All P → (parts.foldl add bound).All P := by
    induction parts with
    | nil => exact fun bound hb => hb
    | cons part parts ih =>
      intro bound hb
      refine ih (fun operator literal hm => hp operator literal (List.mem_cons_of_mem part hm)) _ ?_
      exact all_add hb fun operator literal he => hp operator literal (he ▸ List.mem_cons_self)
  exact h _ (RangeBound.all_none P)

/-- The invariant of the fold, by induction on the parts that are still to come. -/
theorem foldl_add_spec {path : FieldPath} {parts : List Part} (hp : ∀ part ∈ parts, part.IsProper path)
    {bound : RangeBound} (hb : bound.All path.HasPlace) :
    ((parts.foldl add bound).isSet = true ↔ bound.isSet = true ∨ ∃ part ∈ parts, part.IsBound) ∧
      ∀ stored, Predicate.within stored (parts.foldl add bound).min (parts.foldl add bound).max = true ↔
        Predicate.within stored bound.min bound.max = true ∧ ∀ part ∈ parts, part.Admits stored := by
  induction parts generalizing bound with
  | nil => simp
  | cons part parts ih =>
    rw [List.foldl_cons]
    have hrest : ∀ q ∈ parts, q.IsProper path := fun q hq => hp q (List.mem_cons_of_mem part hq)
    have hpart := hp part List.mem_cons_self
    cases part with
    | condition p => simpa [add, Part.IsBound, Part.Admits] using ih hrest hb
    | bound operator literal =>
      obtain ⟨next, hn, hset, hwithin⟩ := RangeBound.narrow?_spec hb hpart.1 hpart.2
      have hadd : add bound (.bound operator literal) = next := by rw [add, hn, Option.getD_some]
      obtain ⟨h1, h2⟩ := ih hrest (RangeBound.all_narrow? hb hpart.2 hn)
      rw [hadd]
      refine ⟨by simp [h1, hset, Part.IsBound], fun stored => ?_⟩
      rw [h2 stored, hwithin stored]
      simp [Part.Admits, and_assoc]

/-! ## The merged condition -/

theorem mem_conditions {p : Predicate} {parts : List Part} :
    p ∈ conditions parts ↔ Part.condition p ∈ parts := by
  rw [conditions, List.mem_filterMap]
  constructor
  · rintro ⟨part, hm, h⟩
    cases part with
    | condition q => cases h; exact hm
    | bound operator literal => cases h
  · intro h
    exact ⟨_, h, rfl⟩

/-- The values of one key on one record are compared with one and the same stored value. -/
theorem forall_compares_iff {path : FieldPath} {record : Json} {parts : List Part}
    (h : ∃ part ∈ parts, part.IsBound) :
    (∃ stored, (Operand.field path).value? record = some stored ∧ ∀ part ∈ parts, part.Admits stored) ↔
      ∀ operator literal, Part.bound operator literal ∈ parts →
        (Operand.field path).Compares record operator literal := by
  constructor
  · rintro ⟨stored, hs, hall⟩ operator literal hm
    exact ⟨stored, hs, hall _ hm⟩
  · intro hall
    obtain ⟨part, hm, hpart⟩ := h
    cases part with
    | condition p => cases hpart
    | bound operator literal =>
      obtain ⟨stored, hs, _⟩ := hall operator literal hm
      refine ⟨stored, hs, fun other ho => ?_⟩
      cases other with
      | condition p => trivial
      | bound operator' literal' =>
        obtain ⟨stored', hs', hr⟩ := hall operator' literal' ho
        obtain rfl := Option.some.inj (hs.symm.trans hs')
        exact hr

theorem holds_combine_iff {path : FieldPath} {parts : List Part} {record : Json}
    (hp : ∀ part ∈ parts, part.IsProper path) :
    (combine path parts).holds record = true ↔ ∀ part ∈ parts, part.Holds path record := by
  obtain ⟨hset, hwithin⟩ := foldl_add_spec hp (RangeBound.all_none path.HasPlace)
  have hrange : (Predicate.range (.field path) (bounds parts).min (bounds parts).max).holds record = true ↔
      ∃ stored, (Operand.field path).value? record = some stored ∧ ∀ part ∈ parts, part.Admits stored := by
    simp only [Predicate.holds, Option.any_eq_true, bounds_eq, hwithin]
    simp [RangeBound.none, Predicate.within]
  simp only [combine, Predicate.holds_conjunction_iff, List.mem_append]
  constructor
  · intro h part hm
    cases part with
    | condition p => exact h p (.inl (mem_conditions.2 hm))
    | bound operator literal =>
      have hb : ∃ part ∈ parts, part.IsBound := ⟨_, hm, trivial⟩
      have hs : (bounds parts).isSet = true := hset.2 (.inr hb)
      exact (forall_compares_iff hb).1 (hrange.1 (h _ (.inr (by simp [hs])))) operator literal hm
  · rintro h p (hm | hm)
    · exact h _ (mem_conditions.1 hm)
    · split at hm
      · rename_i hs
        obtain rfl := List.mem_singleton.1 hm
        have hb : ∃ part ∈ parts, part.IsBound := by
          simpa [RangeBound.isSet, RangeBound.none] using hset.1 hs
        exact hrange.2 ((forall_compares_iff hb).2 fun operator literal ho => h _ ho)
      · cases hm

end RangeMerging

/-! ## Single values -/

/-- The condition that a value makes which sets no bound: an equality, an inequality, or the search for
a date that cannot be read. -/
inductive FieldPath.Contributes (path : FieldPath) (fallback : DateFallback) (raw : String) :
    Predicate → Prop where
  | equals {literal : Value} (operator : (OperatorToken.read raw).operator = .eq)
      (converted : path.convert (OperatorToken.read raw).literal = .ok literal) :
      Contributes path fallback raw (.equals (.field path) literal)
  | notEquals {literal : Value} (operator : (OperatorToken.read raw).operator = .ne)
      (converted : path.convert (OperatorToken.read raw).literal = .ok literal) :
      Contributes path fallback raw (.notEquals (.field path) literal)
  | contains (unreadable : (path.convert (OperatorToken.read raw).literal).isOk = false)
      (temporal : path.type.isTemporal = true) (substring : fallback = .substring) :
      Contributes path fallback raw (.contains (.field path) (Unicode.foldText raw))

variable {path : FieldPath} {fallback : DateFallback} {raw : String} {p : Predicate}

theorem FieldPath.Contributes.holds_iff (h : path.Contributes fallback raw p) (record : Json) :
    p.holds record = true ↔ path.TokenHolds fallback record raw := by
  unfold FieldPath.TokenHolds
  cases h with
  | equals operator converted =>
    rw [converted, operator]
    exact Predicate.holds_equals_iff
  | notEquals operator converted =>
    rw [converted, operator]
    exact Predicate.holds_notEquals_iff
  | contains unreadable temporal substring =>
    cases hc : path.convert (OperatorToken.read raw).literal with
    | ok literal =>
      rw [hc] at unreadable
      cases unreadable
    | error e => simp only [Predicate.holds_contains_iff, temporal, substring, true_and]

namespace RangeMerging

variable {part : Part}

/-- All that a value can come to: a condition, or a bound. -/
theorem cases_of_read (h : read path fallback raw = .ok part) :
    (∃ p, part = .condition p ∧ path.Contributes fallback raw p) ∨
      ∃ literal, part = .bound (OperatorToken.read raw).operator literal ∧
        (OperatorToken.read raw).operator.isBound = true ∧
        path.convert (OperatorToken.read raw).literal = .ok literal := by
  rw [read] at h
  split at h
  · rename_i literal hc
    split at h
    · rename_i ho
      cases h
      exact .inl ⟨_, rfl, .equals ho hc⟩
    · rename_i ho
      cases h
      exact .inl ⟨_, rfl, .notEquals ho hc⟩
    · rename_i heq hne
      cases h
      refine .inr ⟨literal, rfl, ?_, hc⟩
      cases ho : (OperatorToken.read raw).operator with
      | eq => exact absurd ho heq
      | ne => exact absurd ho hne
      | _ => rfl
  · rename_i e hc
    split at h
    · rename_i ht
      cases h
      exact .inl ⟨_, rfl, .contains (by rw [hc]; rfl) ht.1 ht.2⟩
    · cases h

theorem contributes_of_read (h : read path fallback raw = .ok (.condition p)) :
    path.Contributes fallback raw p := by
  obtain ⟨q, he, hq⟩ | ⟨literal, he, _⟩ := cases_of_read h
  · cases he
    exact hq
  · cases he

theorem read_spec (h : read path fallback raw = .ok part) (record : Json) :
    part.Holds path record ↔ path.TokenHolds fallback record raw := by
  obtain ⟨p, rfl, hp⟩ | ⟨literal, rfl, _, hc⟩ := cases_of_read h
  · exact hp.holds_iff record
  · unfold FieldPath.TokenHolds
    rw [hc]
    rfl

theorem isProper_of_read (h : read path fallback raw = .ok part)
    (hn : (OperatorToken.read raw).operator.isBound = true →
      ∀ literal, path.convert (OperatorToken.read raw).literal = .ok literal → literal.isNan = false) :
    part.IsProper path := by
  obtain ⟨p, rfl, _⟩ | ⟨literal, rfl, ho, hc⟩ := cases_of_read h
  · trivial
  · exact ⟨ho, FieldPath.kind?_of_convert hc, hn ho literal hc⟩

end RangeMerging

end RecordFilter
