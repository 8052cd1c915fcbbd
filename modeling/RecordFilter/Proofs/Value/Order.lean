import RecordFilter.Value.Reading

/-!
# RecordFilter.Proofs.Value.Order

The order of values. Every value has a kind (`Value.kind`), and every value that is a number or not of
a floating-point kind has a place among the values of its kind (`Value.place?`). Values are compared by
their places (`compare?_eq`), so on one kind the comparison is a total preorder:

* `compare?_isSome_iff`: two values compare if and only if they are of one kind and have places.
* `compare?_swap`, `compare?_trans`, `compare?_congr_left`, `compare?_congr_right`: the laws of a preorder.

A literal that is read for a type has the kind of that type (`FieldPath.kind?_of_convert`).
-/

namespace RecordFilter

open Number (IntegerWidth)

/-! ## Kinds -/

/-- What kind of value it is; integers of different widths are of different kinds. -/
inductive ValueKind where
  | text
  | integer (width : IntegerWidth)
  | single
  | double
  | decimal
  | boolean
  | date
  | dateTime
  | member
  | raw
deriving DecidableEq, Repr

def Value.kind : Value → ValueKind
  | .text _ => .text
  | .integer width _ => .integer width
  | .single _ => .single
  | .double _ => .double
  | .decimal _ => .decimal
  | .boolean _ => .boolean
  | .date _ => .date
  | .dateTime _ => .dateTime
  | .member _ => .member
  | .raw _ => .raw

/-- The kind of the values of a type. A JSON field has no values of its own. -/
def FieldType.kind? : FieldType → Option ValueKind
  | .text => some .text
  | .integer width => some (.integer width)
  | .single => some .single
  | .double => some .double
  | .decimal => some .decimal
  | .boolean => some .boolean
  | .date => some .date
  | .dateTime => some .dateTime
  | .choice _ _ => some .member
  | .json => none
  | .other _ => some .raw

theorem FieldType.kind?_of_read? {type : FieldType} {literal : String} {v : Value}
    (h : type.read? literal = some v) : type.kind? = some v.kind := by
  cases type with
  | text => cases h; rfl
  | integer width => obtain ⟨n, _, rfl⟩ := Option.map_eq_some_iff.1 h; rfl
  | single => obtain ⟨x, _, rfl⟩ := Option.map_eq_some_iff.1 h; rfl
  | double => obtain ⟨x, _, rfl⟩ := Option.map_eq_some_iff.1 h; rfl
  | decimal => obtain ⟨d, _, rfl⟩ := Option.map_eq_some_iff.1 h; rfl
  | boolean => cases h; rfl
  | date => obtain ⟨d, _, rfl⟩ := Option.map_eq_some_iff.1 h; rfl
  | dateTime => obtain ⟨t, _, rfl⟩ := Option.map_eq_some_iff.1 h; rfl
  | choice name members =>
    simp only [FieldType.read?] at h
    split at h
    · cases h; rfl
    · cases h
  | json => cases h
  | other name => cases h; rfl

namespace FieldPath

/-- A literal is converted if and only if it can be read and the field is not a JSON field. -/
theorem convert_eq_ok_iff {path : FieldPath} {literal : String} {v : Value} :
    path.convert literal = .ok v ↔ path.type.read? literal = some v := by
  unfold convert
  split
  · rename_i h; simp [h, FieldType.read?]
  · split
    · rename_i hv; simp [hv]
    · rename_i hv; simp [hv]

theorem kind?_of_convert {path : FieldPath} {literal : String} {v : Value}
    (h : path.convert literal = .ok v) : path.type.kind? = some v.kind :=
  FieldType.kind?_of_read? (convert_eq_ok_iff.1 h)

end FieldPath

/-! ## Places -/

namespace Value

def placeOfText (text : String) : List Int := text.toList.map fun c => (c.toNat : Int)

def placeOfDate (d : Calendar.Date) : List Int := [d.year, d.month, d.day]

/-- The place of a value among the values of its kind, to be compared from the left. What is not a
number has none. -/
def place? : Value → Option (List Int)
  | .text t | .member t | .raw t => some (placeOfText t)
  | .integer _ n => some [n]
  | .single x => x.units?.map fun n => [n]
  | .double x => x.units?.map fun n => [n]
  | .decimal d => some [d.units]
  | .boolean b => some [if b then 1 else 0]
  | .date d => some (placeOfDate d)
  | .dateTime t => some (placeOfDate t.date ++ [(t.hour : Int), t.minute, t.second, t.nano])

def comparePlaces : List Int → List Int → Ordering := List.compareLex compare

theorem compare_natCast (m n : Nat) : compare (m : Int) (n : Int) = compare m n := by
  simp only [compare, compareOfLessAndEq, Int.ofNat_lt, Int.ofNat_inj]

theorem comparePlaces_cons (m n : Int) (as bs : List Int) :
    comparePlaces (m :: as) (n :: bs) = (compare m n).then (comparePlaces as bs) :=
  List.compareLex_cons_cons

theorem comparePlaces_singleton (m n : Int) : comparePlaces [m] [n] = compare m n := by
  rw [comparePlaces_cons]
  cases compare m n <;> rfl

theorem comparePlaces_text (a b : String) :
    comparePlaces (placeOfText a) (placeOfText b) = Text.compareText a b := by
  unfold placeOfText Text.compareText
  generalize a.toList = as
  generalize b.toList = bs
  induction as generalizing bs with
  | nil => cases bs <;> rfl
  | cons c as ih =>
    cases bs with
    | nil => rfl
    | cons d bs =>
      rw [List.map_cons, List.map_cons, comparePlaces_cons, compare_natCast, ih]
      rfl

theorem comparePlaces_date (a b : Calendar.Date) (as bs : List Int) :
    comparePlaces (placeOfDate a ++ as) (placeOfDate b ++ bs) =
      (a.compareTo b).then (comparePlaces as bs) := by
  simp only [placeOfDate, List.cons_append, List.nil_append, comparePlaces_cons, compare_natCast,
    Calendar.Date.compareTo, Ordering.then_assoc]

theorem comparePlaces_time (a b : Calendar.DateTime) :
    comparePlaces [(a.hour : Int), a.minute, a.second, a.nano] [(b.hour : Int), b.minute, b.second, b.nano]
      = (compare a.hour b.hour).then ((compare a.minute b.minute).then
        ((compare a.second b.second).then (compare a.nano b.nano))) := by
  rw [comparePlaces_cons, comparePlaces_cons, comparePlaces_cons, comparePlaces_singleton]
  simp only [compare_natCast]

/-- How two values compare that may have no places. -/
def comparePlaces? : Option (List Int) → Option (List Int) → Option Ordering
  | some a, some b => some (comparePlaces a b)
  | _, _ => none

theorem comparePlaces?_units {f : Number.Format} (a b : Number.Binary f) :
    comparePlaces? (a.units?.map fun n => [n]) (b.units?.map fun n => [n]) = a.compare? b := by
  unfold Number.Binary.compare?
  cases a.units? with
  | none => rfl
  | some m =>
    cases b.units? with
    | none => rfl
    | some n => exact congrArg some (comparePlaces_singleton m n)

/-- Values of one kind are compared by their places, values of two kinds not at all. -/
theorem compare?_eq (a b : Value) :
    a.compare? b = if a.kind = b.kind then comparePlaces? a.place? b.place? else none := by
  cases a <;> cases b <;> try rfl
  case text.text a b => exact congrArg some (comparePlaces_text a b).symm
  case member.member a b => exact congrArg some (comparePlaces_text a b).symm
  case raw.raw a b => exact congrArg some (comparePlaces_text a b).symm
  case integer.integer v a w b =>
    simp only [compare?, kind, ValueKind.integer.injEq, place?, comparePlaces?,
      comparePlaces_singleton]
  case single.single a b => exact (comparePlaces?_units a b).symm
  case double.double a b => exact (comparePlaces?_units a b).symm
  case decimal.decimal a b => exact congrArg some (comparePlaces_singleton _ _).symm
  case boolean.boolean a b => cases a <;> cases b <;> rfl
  case date.date a b =>
    have h := comparePlaces_date a b [] []
    simp only [List.append_nil] at h
    simp only [compare?, kind, if_true, place?, comparePlaces?, h]
    cases a.compareTo b <;> rfl
  case dateTime.dateTime a b =>
    simp only [compare?, kind, if_true, place?, comparePlaces?, comparePlaces_date,
      comparePlaces_time, Calendar.DateTime.compareTo]

theorem isNan_iff_place? (v : Value) : v.isNan = true ↔ v.place? = none := by
  cases v <;> simp [isNan, place?]
  case single x => cases x <;> simp [Number.Binary.isNan, Number.Binary.units?]
  case double x => cases x <;> simp [Number.Binary.isNan, Number.Binary.units?]

/-- Only the literals of floating-point types can be no numbers. -/
theorem isNan_of_read? {type : FieldType} {literal : String} {v : Value} (hsingle : type ≠ .single)
    (hdouble : type ≠ .double) (h : type.read? literal = some v) : v.isNan = false := by
  have hkind := FieldType.kind?_of_read? h
  cases v with
  | single x =>
    cases type <;> cases hkind
    exact absurd rfl hsingle
  | double x =>
    cases type <;> cases hkind
    exact absurd rfl hdouble
  | _ => rfl

/-! ## Laws -/

theorem compare?_eq_some_iff {a b : Value} {order : Ordering} :
    a.compare? b = some order ↔ a.kind = b.kind ∧
      ∃ x y, a.place? = some x ∧ b.place? = some y ∧ comparePlaces x y = order := by
  rw [compare?_eq]
  split
  · rename_i hk
    cases ha : a.place? <;> cases hb : b.place? <;> simp [comparePlaces?, hk]
  · rename_i hk
    simp [hk]

/-- Two values compare if and only if they are of one kind and both are numbers, as far as the kind
asks for numbers. -/
theorem compare?_isSome_iff {a b : Value} :
    (a.compare? b).isSome = true ↔ a.kind = b.kind ∧ a.isNan = false ∧ b.isNan = false := by
  have ha := isNan_iff_place? a
  have hb := isNan_iff_place? b
  rw [compare?_eq]
  split
  · rename_i hk
    cases hx : a.place? <;> cases hy : b.place? <;> simp_all [comparePlaces?]
  · rename_i hk
    simp [hk]

instance : Std.TransCmp comparePlaces := inferInstanceAs (Std.TransCmp (List.compareLex compare))

theorem compare?_swap (a b : Value) : b.compare? a = (a.compare? b).map Ordering.swap := by
  rw [compare?_eq, compare?_eq]
  by_cases hk : a.kind = b.kind
  · rw [if_pos hk, if_pos hk.symm]
    cases a.place? <;> cases b.place? <;> try rfl
    rename_i x y
    exact congrArg some Std.OrientedCmp.eq_swap
  · rw [if_neg hk, if_neg fun h => hk h.symm]
    rfl

theorem compare?_swap_of {a b : Value} {order : Ordering} (h : a.compare? b = some order) :
    b.compare? a = some order.swap := by
  rw [compare?_swap, h, Option.map_some]

theorem compare?_self {v : Value} (h : v.isNan = false) : v.compare? v = some .eq := by
  have hs : (v.compare? v).isSome = true := compare?_isSome_iff.2 ⟨rfl, h, h⟩
  obtain ⟨order, ho⟩ := Option.isSome_iff_exists.1 hs
  have hswap := compare?_swap v v
  rw [ho, Option.map_some, Option.some.injEq] at hswap
  rw [ho]
  cases order <;> first | rfl | cases hswap

/-- What holds between neighbours holds between the ends. -/
theorem compare?_trans {a b c : Value} {order : Ordering} (hab : a.compare? b = some order)
    (hbc : b.compare? c = some order) : a.compare? c = some order := by
  rw [compare?_eq_some_iff] at hab hbc ⊢
  obtain ⟨hk, x, y, hx, hy, hxy⟩ := hab
  obtain ⟨hk', y', z, hy', hz, hyz⟩ := hbc
  obtain rfl : y = y' := Option.some.inj (hy.symm.trans hy')
  refine ⟨hk.trans hk', x, z, hx, hz, ?_⟩
  cases order with
  | lt => exact Std.TransCmp.lt_trans hxy hyz
  | eq => exact Std.TransCmp.eq_trans hxy hyz
  | gt => exact Std.TransCmp.gt_trans hxy hyz

/-- Values that compare equal compare alike with every value. -/
theorem compare?_congr_left {a b : Value} (h : a.compare? b = some .eq) (c : Value) :
    c.compare? a = c.compare? b := by
  obtain ⟨hk, x, y, hx, hy, hxy⟩ := compare?_eq_some_iff.1 h
  rw [compare?_eq, compare?_eq, hx, hy, hk]
  cases c.place? with
  | none => rfl
  | some z => simp only [comparePlaces?, Std.TransCmp.congr_right hxy]

theorem compare?_congr_right {a b : Value} (h : a.compare? b = some .eq) (c : Value) :
    a.compare? c = b.compare? c := by
  rw [compare?_swap c a, compare?_swap c b, compare?_congr_left h]

end Value
end RecordFilter
