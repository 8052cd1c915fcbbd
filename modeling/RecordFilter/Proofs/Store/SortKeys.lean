import RecordFilter.Proofs.Store.Precedence

/-!
# RecordFilter.Proofs.Store.SortKeys

The keys that rows are sorted by, compared row by row (`OrderClause.compareKeys`). They are totally
preordered, for every operand and in both directions, and no two values are ever taken for equal only
because they cannot be compared (`compareKeys_isPreorder`).
-/

namespace RecordFilter

namespace Operand

variable {operand : Operand} {row : Json}

/-- The row has no value at the operand, or one that is not a number. -/
def LacksRank (operand : Operand) (row : Json) : Prop :=
  operand.value? row = none ∨ ∃ v, operand.value? row = some v ∧ v.isNan = true

/-- `not_ranks_iff` says the same of the documents in the row. -/
theorem lacksRank_iff : operand.LacksRank row ↔ ∀ v, ¬ operand.Ranks row v := by
  unfold LacksRank Ranks
  cases operand.value? row with
  | none => simp
  | some v => simp

theorem sortKey_of_lacksRank (h : operand.LacksRank row) : SortKey.of operand row = none := by
  rw [Option.eq_none_iff_forall_ne_some]
  exact fun v hv => lacksRank_iff.1 h v (sortKey_eq_some_iff.1 hv)

end Operand

namespace OrderClause

variable {order : OrderClause} {operand : Operand} {a b : Json} {v w : Value}

def compareKeys (order : OrderClause) (a b : Json) : Ordering :=
  SortKey.compareTo order.direction (SortKey.of order.operand a) (SortKey.of order.operand b)

theorem compareKeys_eq (order : OrderClause) (a b : Json) :
    order.compareKeys a b =
      order.direction.compareRanks (order.operand.rank? a) (order.operand.rank? b) :=
  (order.compareTo_eq a b).1

theorem compareKeys_eq_lt_iff (order : OrderClause) (a b : Json) :
    order.compareKeys a b = .lt ↔ order.Precedes a b := by
  rw [compareKeys_eq]
  exact (order.compareTo_eq a b).2

/-- The keys are preordered as the ranks of the rows are. -/
instance (order : OrderClause) : Std.TransCmp order.compareKeys where
  eq_swap {a b} := by
    rw [compareKeys_eq, compareKeys_eq]
    exact Std.OrientedCmp.eq_swap
  isLE_trans {a b c} hab hbc := by
    rw [compareKeys_eq] at hab hbc ⊢
    exact Std.TransCmp.isLE_trans hab hbc

/-- In both directions. -/
theorem compareKeys_of_lacksRank (ha : order.operand.LacksRank a) (hb : order.operand.Ranks b w) :
    order.compareKeys a b = .gt := by
  rw [compareKeys, Operand.sortKey_of_lacksRank ha, Operand.sortKey_eq_some_iff.2 hb]
  rfl

theorem compareKeys_ascending_iff (ha : operand.Ranks a v) (hb : operand.Ranks b w) :
    compareKeys ⟨operand, .ascending⟩ a b = .lt ↔ v.Before w := by
  rw [compareKeys_eq_lt_iff]
  exact precedes_iff_of_ranks ha hb

theorem compareKeys_descending (ha : operand.Ranks a v) (hb : operand.Ranks b w) :
    compareKeys ⟨operand, .descending⟩ a b = (compareKeys ⟨operand, .ascending⟩ a b).swap := by
  simp only [compareKeys, Operand.sortKey_eq_some_iff.2 ha, Operand.sortKey_eq_some_iff.2 hb, SortKey.compareTo]

/-- Two rows have values of one kind at an operand, so their values compare unless one is not a number. -/
theorem isSome_compare?_of_ranks (ha : operand.Ranks a v) (hb : operand.Ranks b w) :
    (v.compare? w).isSome = true :=
  Value.compare?_isSome_iff.2 ⟨Operand.kind_eq_of_value? ha.1 hb.1, ha.2, hb.2⟩

/-- Comparing keys is a total preorder in which every row without a value is greater than every row with one,
in both directions. Two values always compare, and the keys do as the order of values says; descending is the
reverse of ascending on them. -/
theorem compareKeys_isPreorder (order : OrderClause) :
    (∀ a, order.compareKeys a a = .eq) ∧
    (∀ a b, order.compareKeys b a = (order.compareKeys a b).swap) ∧
    (∀ a b c, (order.compareKeys a b).isLE = true → (order.compareKeys b c).isLE = true →
      (order.compareKeys a c).isLE = true) ∧
    (∀ a b w, order.operand.LacksRank a → order.operand.Ranks b w → order.compareKeys a b = .gt) ∧
    ∀ a b v w, order.operand.Ranks a v → order.operand.Ranks b w →
      (v.compare? w).isSome = true ∧
      (compareKeys ⟨order.operand, .ascending⟩ a b = .lt ↔ v.Before w) ∧
      compareKeys ⟨order.operand, .descending⟩ a b =
        (compareKeys ⟨order.operand, .ascending⟩ a b).swap := by
  refine ⟨fun a => Std.ReflCmp.compare_self, fun a b => Std.OrientedCmp.eq_swap,
    fun a b c => Std.TransCmp.isLE_trans, fun a b w => compareKeys_of_lacksRank, fun a b v w ha hb => ?_⟩
  exact ⟨isSome_compare?_of_ranks ha hb, compareKeys_ascending_iff ha hb, compareKeys_descending ha hb⟩

/-- The two zeros, and a text that reads as not a number. -/
theorem compareKeys_isPreorder_peso :
    let order : OrderClause := ⟨.field ⟨["peso"], .double⟩, .descending⟩
    let row (text : String) : Json := .object [("peso", .string text)]
    order.operand.LacksRank (row "NaN") ∧
      order.operand.Ranks (row "-0") (.double (.zero _ true)) ∧
      order.operand.Ranks (row "0e9") (.double (.zero _ false)) ∧
      order.compareKeys (row "NaN") (row "-0") = .gt ∧
      ((Value.double (.zero _ true)).compare? (.double (.zero _ false))).isSome = true ∧
      compareKeys ⟨order.operand, .ascending⟩ (row "-0") (row "0e9") = .lt ∧
      order.compareKeys (row "-0") (row "0e9") = .gt := by
  intro order row
  have hnan : order.operand.LacksRank (row "NaN") := .inr ⟨.double .nan, by decide, rfl⟩
  have hfirst : order.operand.Ranks (row "-0") (.double (.zero _ true)) := ⟨by decide, rfl⟩
  have hsecond : order.operand.Ranks (row "0e9") (.double (.zero _ false)) := ⟨by decide, rfl⟩
  obtain ⟨_, _, _, hlast, hvalues⟩ := compareKeys_isPreorder order
  obtain ⟨hsome, hbefore, hreverse⟩ := hvalues (row "-0") (row "0e9") _ _ hfirst hsecond
  have hascending := hbefore.2 (.inr ⟨rfl, rfl, rfl⟩)
  refine ⟨hnan, hfirst, hsecond, hlast _ _ _ hnan hfirst, hsome, hascending, ?_⟩
  rw [hascending] at hreverse
  exact hreverse

end OrderClause
end RecordFilter
