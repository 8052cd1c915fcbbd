import RecordFilter.Text.Basic

/-!
# RecordFilter.Filter.Request

A request is a list of keys with their values: the keys in the order in which they first come, the
values of a key in the order in which they come. A few keys say how to page and to order.
-/

namespace RecordFilter

structure Entry where
  key : String
  values : List String
deriving DecidableEq, Repr

structure Request where
  entries : List Entry
deriving DecidableEq, Repr

/-- What a request says about the order: the name of a field and a direction. -/
structure SortSpec where
  field : Option String
  direction : Option String
deriving DecidableEq, Repr

namespace Request

def pageKey : String := "page"

def sizeKey : String := "size"

def sortByKey : String := "sortBy"

def sortDirectionKey : String := "sortDirection"

/-- `sort=field,direction`, where there is no `sortBy`. -/
def sortKey : String := "sort"

def reservedKeys : List String := [pageKey, sizeKey, sortKey, sortByKey, sortDirectionKey]

def empty : Request := ⟨[]⟩

/-- Adds a value behind the others of its key. -/
def addTo (key value : String) : List Entry → List Entry
  | [] => [⟨key, [value]⟩]
  | entry :: rest =>
    if entry.key = key then { entry with values := entry.values ++ [value] } :: rest
    else entry :: addTo key value rest

def push (request : Request) (key value : String) : Request := ⟨addTo key value request.entries⟩

def ofPairs (pairs : List (String × String)) : Request :=
  pairs.foldl (fun request (key, value) => request.push key value) empty

def values? (request : Request) (key : String) : Option (List String) :=
  (request.entries.find? fun entry => entry.key = key).map (·.values)

def first? (request : Request) (key : String) : Option String :=
  (request.values? key).bind List.head?

def isEmpty (request : Request) : Bool := request.entries.isEmpty

/-- The entries that filter. -/
def filters (request : Request) : List Entry :=
  request.entries.filter fun entry => !reservedKeys.contains entry.key

theorem mem_filters_iff {request : Request} {entry : Entry} :
    entry ∈ request.filters ↔ entry ∈ request.entries ∧ entry.key ∉ reservedKeys := by
  simp [filters]

def trimmed (text : List Char) : String := String.ofList (Text.trim text)

def sortSpec (request : Request) : SortSpec :=
  match request.first? sortByKey with
  | some field => ⟨some field, request.first? sortDirectionKey⟩
  | none =>
    match request.first? sortKey with
    | none => ⟨none, none⟩
    | some sort =>
      match Text.splitFirst? ',' sort.toList with
      | some (field, direction) => ⟨some (trimmed field), some (trimmed direction)⟩
      | none => ⟨some (trimmed sort.toList), none⟩

end Request
end RecordFilter
