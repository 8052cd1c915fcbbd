import RecordFilter.Filter.Predicate
import RecordFilter.Unicode.Fold
import RecordFilter.Value.Reading

/-!
# RecordFilter.Store.Evaluation

Whether a record meets a condition. A stored value is read as text and converted like a literal, so
it compares as its own text would in a request. What is missing, null or cannot be converted meets no
condition, not even an inequality.
-/

namespace RecordFilter

/-! ## Reading a record -/

namespace Json

/-- The text of a value: of a text the text itself, of null none. -/
def scalarText? : Json → Option String
  | .null => none
  | .string value => some value
  | document => some document.compact

/-- The member reached through the names, unless it is null. -/
def lookup? (record : Json) : List String → Option Json
  | [] =>
    match record with
    | .null => none
    | document => some document
  | name :: rest => (record.member? name).bind fun inside => lookup? inside rest

/-- A position in an array: digits, with or without a `+`. -/
def position? (key : String) : Option Nat :=
  match key.toList with
  | '+' :: digits => Number.readNat? digits
  | digits => Number.readNat? digits

/-- One step into a document: by name or by position. -/
def child? (key : String) : Json → Option Json
  | .object members => members.lookup key
  | .array items => (position? key).bind fun index => items[index]?
  | _ => none

def descend? (document : Json) : List String → Option Json
  | [] => some document
  | key :: rest => (document.child? key).bind fun inside => descend? inside rest

/-- The names lead through the record to the document, which may be null. -/
inductive HasAt : Json → List String → Json → Prop where
  | here {document : Json} : HasAt document [] document
  | inside {record inner document : Json} {name : String} {rest : List String}
      (found : record.member? name = some inner) (below : HasAt inner rest document) :
      HasAt record (name :: rest) document

theorem hasAt_nil_iff {record document : Json} : record.HasAt [] document ↔ record = document := by
  constructor
  · rintro ⟨⟩
    rfl
  · rintro rfl
    exact .here

theorem hasAt_cons_iff {record document : Json} {name : String} {rest : List String} :
    record.HasAt (name :: rest) document ↔
      ∃ inner, record.member? name = some inner ∧ inner.HasAt rest document := by
  constructor
  · rintro ⟨⟩
    exact ⟨_, ‹_›, ‹_›⟩
  · rintro ⟨inner, found, below⟩
    exact .inside found below

theorem scalarText?_eq_none_iff {document : Json} : document.scalarText? = none ↔ document = .null := by
  cases document <;> simp [scalarText?]

theorem eq_null_of_descend? {keys : List String} {document : Json}
    (h : Json.null.descend? keys = some document) : document = .null := by
  cases keys with
  | nil => exact (Option.some.inj h).symm
  | cons key rest => cases h

theorem lookup?_eq_some_iff {record document : Json} {names : List String} :
    record.lookup? names = some document ↔ record.HasAt names document ∧ document ≠ .null := by
  induction names generalizing record with
  | nil =>
    rw [hasAt_nil_iff]
    constructor
    · intro h
      cases record <;> cases h <;> simp
    · rintro ⟨rfl, hne⟩
      cases record with
      | null => exact absurd rfl hne
      | _ => rfl
  | cons name rest ih =>
    rw [lookup?, Option.bind_eq_some_iff, hasAt_cons_iff]
    simp only [ih]
    constructor
    · rintro ⟨inner, found, below, hne⟩
      exact ⟨⟨inner, found, below⟩, hne⟩
    · rintro ⟨⟨inner, found, below⟩, hne⟩
      exact ⟨inner, found, below, hne⟩

end Json

/-- The text at a place inside a document. -/
def JsonPath.extractText? (path : JsonPath) (document : Json) : Option String :=
  (document.descend? path.keys).bind Json.scalarText?

namespace Operand

def text? (operand : Operand) (record : Json) : Option String :=
  match operand with
  | .field path => (record.lookup? path.segments).bind Json.scalarText?
  | .json path => (record.lookup? path.column.segments).bind path.extractText?

def value? (operand : Operand) (record : Json) : Option Value :=
  match operand with
  | .field path =>
    (operand.text? record).bind fun text =>
      match path.convert text with
      | .ok value => some value
      | .error _ => none
  | .json _ => (operand.text? record).map .text

/-- The document that the operand leads to: that of a field, or one inside of it. -/
def LeadsTo (operand : Operand) (record document : Json) : Prop :=
  match operand with
  | .field path => record.HasAt path.segments document
  | .json path =>
    ∃ column, record.HasAt path.column.segments column ∧ column.descend? path.keys = some document

/-- What a text at the operand is read as: the literal of a field, inside a document the text itself. -/
def ReadsAs (operand : Operand) (text : String) (v : Value) : Prop :=
  match operand with
  | .field path => path.convert text = .ok v
  | .json _ => v = .text text

variable {operand : Operand} {record : Json} {text : String} {v : Value}

theorem text?_eq_some_iff :
    operand.text? record = some text ↔
      ∃ document, operand.LeadsTo record document ∧ document.scalarText? = some text := by
  have hnull : ∀ {document : Json}, document.scalarText? = some text → document ≠ .null := by
    rintro _ h rfl
    cases h
  cases operand with
  | field path =>
    simp only [text?, Option.bind_eq_some_iff, Json.lookup?_eq_some_iff]
    constructor
    · rintro ⟨document, ⟨hat, -⟩, htext⟩
      exact ⟨document, hat, htext⟩
    · rintro ⟨document, hat, htext⟩
      exact ⟨document, ⟨hat, hnull htext⟩, htext⟩
  | json path =>
    simp only [text?, JsonPath.extractText?, Option.bind_eq_some_iff, Json.lookup?_eq_some_iff]
    constructor
    · rintro ⟨column, ⟨hat, -⟩, document, hinside, htext⟩
      exact ⟨document, ⟨column, hat, hinside⟩, htext⟩
    · rintro ⟨document, ⟨column, hat, hinside⟩, htext⟩
      refine ⟨column, ⟨hat, ?_⟩, document, hinside, htext⟩
      rintro rfl
      exact hnull htext (Json.eq_null_of_descend? hinside)

/-- Nothing is there, or null. -/
theorem text?_eq_none_iff :
    operand.text? record = none ↔ ∀ document, operand.LeadsTo record document → document = .null := by
  simp only [Option.eq_none_iff_forall_ne_some, Ne, text?_eq_some_iff, not_exists, not_and]
  constructor
  · intro h document hleads
    exact Json.scalarText?_eq_none_iff.1 (Option.eq_none_iff_forall_ne_some.2 fun text => h text document hleads)
  · intro h text document hleads htext
    rw [h document hleads] at htext
    cases htext

theorem value?_eq_some_iff :
    operand.value? record = some v ↔ ∃ text, operand.text? record = some text ∧ operand.ReadsAs text v := by
  cases operand with
  | field path =>
    rw [value?, Option.bind_eq_some_iff]
    refine exists_congr fun text => and_congr_right fun _ => ?_
    simp only [ReadsAs]
    cases path.convert text <;> simp
  | json path =>
    rw [value?, Option.map_eq_some_iff]
    exact exists_congr fun text => and_congr_right fun _ => eq_comm

end Operand

/-! ## Conditions -/

namespace Bound

def isAbove (value : Value) (min : Bound) : Bool :=
  match value.compare? min.value with
  | some .gt => true
  | some .eq => min.inclusive
  | _ => false

def isBelow (value : Value) (max : Bound) : Bool :=
  match value.compare? max.value with
  | some .lt => true
  | some .eq => max.inclusive
  | _ => false

end Bound

namespace Predicate

/-- A missing bound does not restrict. -/
def within (value : Value) (min max : Option Bound) : Bool :=
  min.all (Bound.isAbove value) && max.all (Bound.isBelow value)

mutual

def holds (record : Json) : Predicate → Bool
  | .always => true
  | .all children => holdsAll record children
  | .any children => holdsAny record children
  | .equals operand value => (operand.value? record).any fun stored => stored.equals value
  | .notEquals operand value => (operand.value? record).any fun stored => !stored.equals value
  | .contains operand needle =>
    (operand.text? record).any fun text => Text.contains needle.toList (Unicode.fold text.toList)
  | .foldedEquals operand value =>
    (operand.text? record).any fun text => Unicode.foldText text == value
  | .range operand min max => (operand.value? record).any fun stored => within stored min max

def holdsAll (record : Json) : List Predicate → Bool
  | [] => true
  | child :: rest => holds record child && holdsAll record rest

def holdsAny (record : Json) : List Predicate → Bool
  | [] => false
  | child :: rest => holds record child || holdsAny record rest

end

end Predicate
end RecordFilter
