import RecordFilter.Number.BinaryText

/-!
# RecordFilter.Json.Value

JSON documents. An integer of at most 64 bits keeps its digits and is apart from the floating-point
number of the same value: `10` and `10.0` are two documents. Floating-point numbers are read in double
precision; one of single precision has its own shortest digits. The members of an object stand in the
order in which they are written.
-/

namespace RecordFilter

abbrev Double : Type := Number.Binary Number.binary64

abbrev Single : Type := Number.Binary Number.binary32

inductive Json where
  | null
  | bool (value : Bool)
  | integer (value : Int)
  | float (value : Double)
  | single (value : Single)
  | string (value : String)
  | array (items : List Json)
  | object (members : List (String × Json))
deriving Repr

namespace Json

instance : Inhabited Json := ⟨.null⟩

abbrev Members : Type := List (String × Json)

/-! ## Members -/

/-- The value of the first member of that name. -/
def member? (name : String) : Json → Option Json
  | .object members => members.lookup name
  | _ => none

/-- Gives the member a value, at its old place if it has one. -/
def setMember (name : String) (value : Json) : Members → Members
  | [] => [(name, value)]
  | (other, old) :: rest =>
    if other = name then (name, value) :: rest else (other, old) :: setMember name value rest

/-- Of members of one name the last value stays, at the place of the first. -/
def mergeMembers (members : Members) : Members :=
  members.foldl (fun merged (name, value) => setMember name value merged) []

mutual

/-- The document with the members of every object merged. -/
def normalize : Json → Json
  | .array items => .array (normalizeItems items)
  | .object members => .object (mergeMembers (normalizeMembers members))
  | document => document

def normalizeItems : List Json → List Json
  | [] => []
  | item :: rest => normalize item :: normalizeItems rest

def normalizeMembers : Members → Members
  | [] => []
  | (name, value) :: rest => (name, normalize value) :: normalizeMembers rest

end

/-! ## Conversions -/

def text? : Json → Option String
  | .string value => some value
  | _ => none

def bool? : Json → Option Bool
  | .bool value => some value
  | _ => none

def ofOption : Option Json → Json
  | some document => document
  | none => .null

def ofText? (value : Option String) : Json := ofOption (value.map .string)

def nat (n : Nat) : Json := .integer n

def texts (values : List String) : Json := .array (values.map .string)

end Json
end RecordFilter
