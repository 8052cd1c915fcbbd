import RecordFilter.Filter.Operator
import RecordFilter.Filter.Options
import RecordFilter.Filter.Predicate
import RecordFilter.Unicode.Fold

/-!
# RecordFilter.Filter.Range

The values of one key as bounds. All bounds of a key become one range that is as tight as possible;
the other values of the key stay conditions of their own.
-/

namespace RecordFilter

structure RangeBound where
  min : Option Bound
  max : Option Bound
deriving DecidableEq

namespace RangeBound

def none : RangeBound := ⟨.none, .none⟩

def isSet (bound : RangeBound) : Bool := bound.min.isSome || bound.max.isSome

/-- A bound gives way to one that is strictly tighter, or equal and exclusive. `tighter` is how the
tighter value compares with the old one. -/
def tighten (old : Option Bound) (tighter : Ordering) (new : Bound) : Bound :=
  match old with
  | .none => new
  | some old =>
    match new.value.compare? old.value with
    | some .eq => if new.inclusive then old else new
    | some order => if order = tighter then new else old
    | .none => old

/-- Equality and inequality are not bounds. -/
def narrow? (bound : RangeBound) (operator : Operator) (value : Value) : Option RangeBound :=
  match operator with
  | .gte => some { bound with min := tighten bound.min .gt ⟨value, true⟩ }
  | .gt => some { bound with min := tighten bound.min .gt ⟨value, false⟩ }
  | .lte => some { bound with max := tighten bound.max .lt ⟨value, true⟩ }
  | .lt => some { bound with max := tighten bound.max .lt ⟨value, false⟩ }
  | .eq | .ne => .none

end RangeBound

namespace RangeMerging

/-- What one value of a key comes to. -/
inductive Part where
  | condition (predicate : Predicate)
  | bound (operator : Operator) (value : Value)

/-- A date that cannot be read may count as a part of the field's text. -/
def read (field : FieldPath) (fallback : DateFallback) (raw : String) : Except FilterError Part :=
  let token := OperatorToken.read raw
  match field.convert token.literal with
  | .ok value =>
    match token.operator with
    | .eq => .ok (.condition (.equals (.field field) value))
    | .ne => .ok (.condition (.notEquals (.field field) value))
    | operator => .ok (.bound operator value)
  | .error error =>
    if field.type.isTemporal ∧ fallback = .substring then
      .ok (.condition (.contains (.field field) (Unicode.foldText raw)))
    else .error error

def conditions (parts : List Part) : List Predicate :=
  parts.filterMap fun part =>
    match part with
    | .condition predicate => some predicate
    | .bound .. => none

def bounds (parts : List Part) : RangeBound :=
  parts.foldl
    (fun bound part =>
      match part with
      | .condition _ => bound
      | .bound operator value => (bound.narrow? operator value).getD bound)
    RangeBound.none

/-- The conjunction of the conditions, in order, and the range. -/
def combine (field : FieldPath) (parts : List Part) : Predicate :=
  let bound := bounds parts
  Predicate.conjunction
    (conditions parts ++
      if bound.isSet then [.range (.field field) bound.min bound.max] else [])

end RangeMerging

/-- The condition that all values of a field with bounds make together. -/
def mergeRange (field : FieldPath) (fallback : DateFallback) (values : List String) :
    Except FilterError Predicate :=
  (values.mapM (RangeMerging.read field fallback)).map (RangeMerging.combine field)

end RecordFilter
