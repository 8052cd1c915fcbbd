import RecordFilter.Proofs.Filter.Conditions
import RecordFilter.Store.Query

/-!
# RecordFilter.Proofs.Store.Precedence

Which of two rows has to stand in front of the other (`OrderClause.Precedes`). A row with a value stands in
front of all rows without one, and among the rows with a value the direction decides. What is missing or
null, what cannot be converted and what is not a number counts as no value (`not_ranks_iff`). Values come one
after the other as they compare, but negative zero comes before zero (`Value.Before`).

The keys that rows are sorted by compare like the ranks of the rows (`compareTo_eq`), and the ranks are
totally preordered (`compareRanks` with its instance of `Std.TransCmp`). So sorting puts the rows in their
order and keeps the order of rows of which none precedes the other:

* `perm_sortRows`, `pairwise_sortRows`, `sublist_sortRows`.
-/

namespace RecordFilter

/-! ## Values -/

theorem Number.sign_of_signed (negative : Bool) (magnitude : Nat) :
    (negative = true → Number.signed negative magnitude ≤ 0) ∧
      (negative = false → 0 ≤ Number.signed negative magnitude) := by
  cases negative <;> simp [Number.signed]

namespace Number.Binary

variable {f : Format} {x y : Binary f} {m n : Int}

/-- The sign that is shown is the sign of the number; zero may have either. -/
theorem sign_of_units? (h : x.units? = some m) :
    (x.isNegative = true → m ≤ 0) ∧ (x.isNegative = false → 0 ≤ m) := by
  cases x with
  | nan => cases h
  | infinite negative =>
    obtain rfl := Option.some.inj h
    exact sign_of_signed negative _
  | finite negative mantissa exponent =>
    obtain rfl := Option.some.inj h
    exact sign_of_signed negative _

theorem totalKey?_of_units? (h : x.units? = some m) :
    x.totalKey? = some (2 * m + if x.isNegative then 0 else 1) := by
  rw [totalKey?, h, Option.map_some]

/-- Only the zeros have different keys although they are equal. -/
theorem compare_totalKey_eq_lt_iff (hx : x.units? = some m) (hy : y.units? = some n) :
    compare (2 * m + if x.isNegative then 0 else 1) (2 * n + if y.isNegative then (0 : Int) else 1) = .lt ↔
      compare m n = .lt ∨ compare m n = .eq ∧ m = 0 ∧ x.isNegative = true ∧ y.isNegative = false := by
  have hsx := sign_of_units? hx
  have hsy := sign_of_units? hy
  -- the keys tell the sign of equal numbers only, and equal numbers of different signs are zeros
  rw [Int.compare_eq_lt, Int.compare_eq_lt, Int.compare_eq_eq]
  cases hnx : x.isNegative <;> cases hny : y.isNegative <;> simp [hnx, hny] at hsx hsy ⊢ <;> omega

end Number.Binary

namespace Value

/-- Zero with a minus sign. -/
def isNegativeZero : Value → Bool
  | .single x => x.isNegative && x.units? == some 0
  | .double x => x.isNegative && x.units? == some 0
  | _ => false

/-- The total order of the values of one kind: as they compare, and negative zero before zero. -/
def Before (a b : Value) : Prop :=
  a.compare? b = some .lt ∨
    a.compare? b = some .eq ∧ a.isNegativeZero = true ∧ b.isNegativeZero = false

/-- The place of a value in the total order: its place among the values of its kind, with the two zeros
told apart. -/
def rank? : Value → Option (List Int)
  | .single x => x.totalKey?.map fun n => [n]
  | .double x => x.totalKey?.map fun n => [n]
  | v => v.place?

theorem exists_rank_of_isNan {v : Value} (h : v.isNan = false) : ∃ r, v.rank? = some r := by
  cases hp : v.place? with
  | none =>
    rw [(isNan_iff_place? v).2 hp] at h
    cases h
  | some p =>
    cases v with
    | single x =>
      obtain ⟨n, hn, _⟩ := Option.map_eq_some_iff.1 hp
      exact ⟨_, by rw [rank?, Number.Binary.totalKey?_of_units? hn]; rfl⟩
    | double x =>
      obtain ⟨n, hn, _⟩ := Option.map_eq_some_iff.1 hp
      exact ⟨_, by rw [rank?, Number.Binary.totalKey?_of_units? hn]; rfl⟩
    | _ => exact ⟨p, hp⟩

/-- On numbers of one format the keys compare as the ranks do, and the ranks as the total order says. -/
theorem compare_totalKey_of_rank {f : Number.Format} {x y : Number.Binary f} {r s : List Int}
    (hr : (x.totalKey?.map fun n => [n]) = some r) (hs : (y.totalKey?.map fun n => [n]) = some s) :
    compare (x.totalKey?.getD 0) (y.totalKey?.getD 0) = comparePlaces r s ∧
      (comparePlaces r s = .lt ↔ x.compare? y = some .lt ∨ x.compare? y = some .eq ∧
        (x.isNegative && x.units? == some 0) = true ∧ (y.isNegative && y.units? == some 0) = false) := by
  obtain ⟨k, hk, rfl⟩ := Option.map_eq_some_iff.1 hr
  obtain ⟨l, hl, rfl⟩ := Option.map_eq_some_iff.1 hs
  obtain ⟨m, hm, rfl⟩ := Option.map_eq_some_iff.1 hk
  obtain ⟨n, hn, rfl⟩ := Option.map_eq_some_iff.1 hl
  rw [hk, hl, comparePlaces_singleton]
  refine ⟨rfl, (Number.Binary.compare_totalKey_eq_lt_iff hm hn).trans ?_⟩
  simp only [Number.Binary.compare?, hm, hn, Option.some.injEq, Bool.and_eq_true, beq_iff_eq]
  refine or_congr_right (and_congr_right fun he => ?_)
  rw [Int.compare_eq_eq] at he
  subst he
  by_cases hzero : m = 0 <;> simp [hzero]

theorem compare?_of_place? {a b : Value} {r s : List Int} (hk : a.kind = b.kind) (hr : a.place? = some r)
    (hs : b.place? = some s) : a.compare? b = some (comparePlaces r s) := by
  rw [compare?_eq, if_pos hk, hr, hs]
  rfl

/-- Two values of one kind compare as their ranks do, and the ranks as the total order says. -/
theorem compareValues_of_rank {a b : Value} {r s : List Int} (hk : a.kind = b.kind)
    (hr : a.rank? = some r) (hs : b.rank? = some s) :
    SortKey.compareValues a b = comparePlaces r s ∧ (comparePlaces r s = .lt ↔ a.Before b) := by
  have hplaces : a.place? = some r → b.place? = some s → a.isNegativeZero = false →
      (a.compare? b).getD .eq = comparePlaces r s ∧ (comparePlaces r s = .lt ↔ a.Before b) := by
    intro ha hb hz
    simp [Before, compare?_of_place? hk ha hb, hz]
  cases a <;> cases b <;> cases hk
  case single.single x y => exact compare_totalKey_of_rank hr hs
  case double.double x y => exact compare_totalKey_of_rank hr hs
  all_goals exact hplaces hr hs rfl

end Value

namespace Operand

variable {operand : Operand} {row other : Json} {v w : Value}

/-- All rows have values of one kind at an operand. -/
theorem kind_eq_of_value? (hv : operand.value? row = some v) (hw : operand.value? other = some w) :
    v.kind = w.kind := by
  cases operand with
  | field path => exact Option.some.inj ((kind?_of_value? hv).symm.trans (kind?_of_value? hw))
  | json path =>
    obtain ⟨_, _, rfl⟩ := value?_eq_some_iff.1 hv
    obtain ⟨_, _, rfl⟩ := value?_eq_some_iff.1 hw
    rfl

/-- The row has the value at the operand, and it is not one that is no number. -/
def Ranks (operand : Operand) (row : Json) (v : Value) : Prop :=
  operand.value? row = some v ∧ v.isNan = false

theorem ranks_iff :
    operand.Ranks row v ↔ ∃ document text, operand.LeadsTo row document ∧
      document.scalarText? = some text ∧ operand.ReadsAs text v ∧ v.isNan = false := by
  simp only [Ranks, value?_eq_some_iff, text?_eq_some_iff]
  constructor
  · rintro ⟨⟨text, ⟨document, hleads, htext⟩, hreads⟩, hnan⟩
    exact ⟨document, text, hleads, htext, hreads, hnan⟩
  · rintro ⟨document, text, hleads, htext, hreads, hnan⟩
    exact ⟨⟨text, ⟨document, hleads, htext⟩, hreads⟩, hnan⟩

/-- A row has no value if nothing but null stands at the operand, or if the text there cannot be read as a
value or is read as one that is not a number. -/
theorem not_ranks_iff :
    (∀ v, ¬ operand.Ranks row v) ↔
      (∀ document, operand.LeadsTo row document → document = .null) ∨
        ∃ text, operand.text? row = some text ∧ ∀ v, operand.ReadsAs text v → v.isNan = true := by
  rw [← text?_eq_none_iff]
  simp only [Ranks, value?_eq_some_iff]
  cases operand.text? row with
  | none => simp
  | some text => simp

theorem sortKey_eq_some_iff : SortKey.of operand row = some v ↔ operand.Ranks row v := by
  simp [SortKey.of, Ranks, Option.filter_eq_some_iff]

theorem Ranks.unique (hv : operand.Ranks row v) (hw : operand.Ranks row w) : v = w :=
  Option.some.inj (hv.1.symm.trans hw.1)

/-- The rank of a row; a row without a value has none. -/
def rank? (operand : Operand) (row : Json) : Option (List Int) :=
  (SortKey.of operand row).bind Value.rank?

theorem Ranks.exists_rank (h : operand.Ranks row v) :
    ∃ r, v.rank? = some r ∧ operand.rank? row = some r := by
  obtain ⟨r, hr⟩ := Value.exists_rank_of_isNan h.2
  exact ⟨r, hr, by rw [rank?, sortKey_eq_some_iff.2 h, Option.bind_some, hr]⟩

theorem rank?_eq_none (h : SortKey.of operand row = none) : operand.rank? row = none := by
  rw [rank?, h]
  rfl

end Operand

/-! ## Rows -/

namespace SortDirection

open Value (comparePlaces)

def compareDirected : SortDirection → List Int → List Int → Ordering
  | .ascending, r, s => comparePlaces r s
  | .descending, r, s => comparePlaces s r

instance (direction : SortDirection) : Std.TransCmp direction.compareDirected where
  eq_swap {r s} := by
    cases direction with
    | ascending => exact (Std.OrientedCmp.eq_swap : comparePlaces r s = (comparePlaces s r).swap)
    | descending => exact (Std.OrientedCmp.eq_swap : comparePlaces s r = (comparePlaces r s).swap)
  isLE_trans {r s t} hrs hst := by
    cases direction with
    | ascending => exact (Std.TransCmp.isLE_trans hrs hst : (comparePlaces r t).isLE = true)
    | descending => exact (Std.TransCmp.isLE_trans hst hrs : (comparePlaces t r).isLE = true)

/-- Ranks in the direction; what has no rank comes last in both directions. -/
def compareRanks (direction : SortDirection) : Option (List Int) → Option (List Int) → Ordering
  | some r, some s => direction.compareDirected r s
  | some _, none => .lt
  | none, some _ => .gt
  | none, none => .eq

/-- The ranks are totally preordered. -/
instance (direction : SortDirection) : Std.TransCmp direction.compareRanks where
  eq_swap {a b} := by
    cases a with
    | none => cases b <;> rfl
    | some r =>
      cases b with
      | none => rfl
      | some s => exact (Std.OrientedCmp.eq_swap :
          direction.compareDirected r s = (direction.compareDirected s r).swap)
  isLE_trans {a b c} hab hbc := by
    cases c with
    | none => cases a <;> rfl
    | some t =>
      cases b with
      | none => cases hbc
      | some s =>
        cases a with
        | none => cases hab
        | some r => exact (Std.TransCmp.isLE_trans hab hbc :
            (direction.compareDirected r t).isLE = true)

end SortDirection

namespace OrderClause

open Operand (Ranks)

variable {order : OrderClause} {a b : Json}

/-- The first row has a value, and the second has none or one that comes later in the direction. -/
def Precedes (order : OrderClause) (a b : Json) : Prop :=
  ∃ v, order.operand.Ranks a v ∧ ∀ w, order.operand.Ranks b w →
    match order.direction with
    | .ascending => v.Before w
    | .descending => w.Before v

/-- Neither row has a value, or both have equal values; the two zeros are not equal. -/
def Ties (order : OrderClause) (a b : Json) : Prop :=
  ((∀ v, ¬ order.operand.Ranks a v) ∧ ∀ w, ¬ order.operand.Ranks b w) ∨
    ∃ v w, order.operand.Ranks a v ∧ order.operand.Ranks b w ∧
      v.compare? w = some .eq ∧ v.isNegativeZero = w.isNegativeZero

theorem precedes_iff_of_ranks {v w : Value} (hv : order.operand.Ranks a v) (hw : order.operand.Ranks b w) :
    order.Precedes a b ↔
      match order.direction with
      | .ascending => v.Before w
      | .descending => w.Before v := by
  constructor
  · rintro ⟨v', hv', h⟩
    obtain rfl := Operand.Ranks.unique hv hv'
    exact h w hw
  · intro h
    refine ⟨v, hv, fun w' hw' => ?_⟩
    obtain rfl := Operand.Ranks.unique hw hw'
    exact h

theorem Ties.not_precedes (h : order.Ties a b) : ¬ order.Precedes b a := by
  rcases h with ⟨_, hb⟩ | ⟨v, w, hv, hw, heq, hzero⟩
  · rintro ⟨w, hw, _⟩
    exact hb w hw
  · have hback : w.compare? v = some .eq := by rw [Value.compare?_swap, heq]; rfl
    rw [precedes_iff_of_ranks hw hv]
    cases order.direction <;> simp [Value.Before, heq, hback, hzero]

/-- The keys of two rows with values compare as their ranks do, and these as the rows precede each other. -/
theorem compareTo_of_ranks {v w : Value} (hv : order.operand.Ranks a v) (hw : order.operand.Ranks b w) :
    SortKey.compareTo order.direction (some v) (some w) =
        order.direction.compareRanks (order.operand.rank? a) (order.operand.rank? b) ∧
      (order.direction.compareRanks (order.operand.rank? a) (order.operand.rank? b) = .lt ↔
        order.Precedes a b) := by
  obtain ⟨r, hr, hra⟩ := hv.exists_rank
  obtain ⟨s, hs, hsb⟩ := hw.exists_rank
  have hkind := Operand.kind_eq_of_value? hv.1 hw.1
  rw [precedes_iff_of_ranks hv hw, hra, hsb]
  cases hd : order.direction with
  | ascending => exact Value.compareValues_of_rank hkind hr hs
  | descending =>
    refine ⟨?_, (Value.compareValues_of_rank hkind.symm hs hr).2⟩
    have hswap : (Value.comparePlaces r s).swap = Value.comparePlaces s r :=
      Std.OrientedCmp.eq_swap.symm
    exact (congrArg Ordering.swap (Value.compareValues_of_rank hkind hr hs).1).trans hswap

/-- The keys of rows compare as their ranks do, and these as the rows precede each other. -/
theorem compareTo_eq (order : OrderClause) (a b : Json) :
    SortKey.compareTo order.direction (SortKey.of order.operand a) (SortKey.of order.operand b) =
        order.direction.compareRanks (order.operand.rank? a) (order.operand.rank? b) ∧
      (order.direction.compareRanks (order.operand.rank? a) (order.operand.rank? b) = .lt ↔
        order.Precedes a b) := by
  cases ha : SortKey.of order.operand a with
  | none =>
    have hno : ¬ order.Precedes a b := by
      rintro ⟨v, hv, _⟩
      rw [Operand.sortKey_eq_some_iff.2 hv] at ha
      cases ha
    rw [Operand.rank?_eq_none ha]
    cases hb : SortKey.of order.operand b with
    | none => simp [Operand.rank?_eq_none hb, SortKey.compareTo, SortDirection.compareRanks, hno]
    | some w =>
      obtain ⟨s, _, hs⟩ := (Operand.sortKey_eq_some_iff.1 hb).exists_rank
      simp [hs, SortKey.compareTo, SortDirection.compareRanks, hno]
  | some v =>
    have hv := Operand.sortKey_eq_some_iff.1 ha
    cases hb : SortKey.of order.operand b with
    | none =>
      obtain ⟨r, _, hr⟩ := hv.exists_rank
      have hbefore : order.Precedes a b := by
        refine ⟨v, hv, fun w hw => ?_⟩
        rw [Operand.sortKey_eq_some_iff.2 hw] at hb
        cases hb
      simp [hr, Operand.rank?_eq_none hb, SortKey.compareTo, SortDirection.compareRanks, hbefore]
    | some w => exact compareTo_of_ranks hv (Operand.sortKey_eq_some_iff.1 hb)

/-- One row may stand in front of another by its rank. -/
def leRanks (order : OrderClause) (a b : Json) : Bool :=
  (order.direction.compareRanks (order.operand.rank? a) (order.operand.rank? b)).isLE

theorem leRanks_iff (order : OrderClause) (a b : Json) :
    order.leRanks a b = true ↔ ¬ order.Precedes b a := by
  rw [leRanks, ← (order.compareTo_eq b a).2, ← Std.OrientedCmp.gt_iff_lt, Ordering.isLE_iff_ne_gt]

theorem leRanks_trans (order : OrderClause) (a b c : Json) (hab : order.leRanks a b = true)
    (hbc : order.leRanks b c = true) : order.leRanks a c = true :=
  Std.TransCmp.isLE_trans hab hbc

theorem leRanks_total (order : OrderClause) (a b : Json) :
    (order.leRanks a b || order.leRanks b a) = true := by
  rw [leRanks, leRanks, @Std.OrientedCmp.eq_swap _ order.direction.compareRanks _ (order.operand.rank? b)]
  cases order.direction.compareRanks (order.operand.rank? a) (order.operand.rank? b) <;> rfl

theorem le_eq_leRanks (order : OrderClause) (a b : Json) :
    SortKey.le order.direction (SortKey.of order.operand a, a) (SortKey.of order.operand b, b) =
      order.leRanks a b := by
  rw [SortKey.le, (order.compareTo_eq a b).1, leRanks]
  cases order.direction.compareRanks (order.operand.rank? a) (order.operand.rank? b) <;> rfl

end OrderClause

/-! ## Sorting -/

section Sorting

variable {order : OrderClause} {rows tied : List Json}

/-- Sorting by keys that are computed once sorts the rows themselves by their ranks. -/
theorem sortRows_eq (order : OrderClause) (rows : List Json) :
    sortRows order rows = rows.mergeSort order.leRanks := by
  simp only [sortRows]
  rw [← List.map_mergeSort fun a _ b _ => (order.le_eq_leRanks a b).symm, List.map_map]
  exact List.map_id _

theorem perm_sortRows (order : OrderClause) (rows : List Json) : (sortRows order rows).Perm rows := by
  rw [sortRows_eq]
  exact List.mergeSort_perm _ _

theorem pairwise_sortRows (order : OrderClause) (rows : List Json) :
    (sortRows order rows).Pairwise fun a b => ¬ order.Precedes b a := by
  rw [sortRows_eq]
  exact (List.pairwise_mergeSort order.leRanks_trans order.leRanks_total rows).imp
    fun h => (order.leRanks_iff _ _).1 h

/-- Rows that tie keep their order. -/
theorem sublist_sortRows (hsub : tied.Sublist rows) (htied : tied.Pairwise order.Ties) :
    tied.Sublist (sortRows order rows) := by
  have hle : tied.Pairwise fun a b => order.leRanks a b = true :=
    htied.imp fun h => (order.leRanks_iff _ _).2 h.not_precedes
  rw [sortRows_eq]
  exact List.sublist_mergeSort order.leRanks_trans order.leRanks_total hle hsub

end Sorting
end RecordFilter
