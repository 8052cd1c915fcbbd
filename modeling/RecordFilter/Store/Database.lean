import RecordFilter.Json.Reading
import RecordFilter.Store.Query

/-!
# RecordFilter.Store.Database

Stores by the name of their record type, and the texts they are loaded from.
-/

namespace RecordFilter

inductive DataError where
  | unreadable (path : String)
  | seed (record : String)
  | seedShape (record reason : String)
  | unknownRecord (record : String)
deriving DecidableEq, Repr

def DataError.message : DataError → String
  | .unreadable path => "IO error: " ++ path
  | .seed record => "Invalid seed data for '" ++ record ++ "'"
  | .seedShape record reason => "Invalid seed data for '" ++ record ++ "': " ++ reason
  | .unknownRecord record => "Unknown record type: " ++ record

namespace Json

def isObject : Json → Bool
  | .object _ => true
  | _ => false

end Json

namespace Store

/-- The rows are the objects of an array. -/
def ofJson (record : String) : Json → Except DataError Store
  | .array rows =>
    match rows.findIdx? fun row => !row.isObject with
    | some index =>
      .error (.seedShape record ("element " ++ toString index ++ " is not an object"))
    | none => .ok ⟨rows⟩
  | _ => .error (.seedShape record "expected a JSON array")

def ofText (record text : String) : Except DataError Store :=
  match Json.parse? text with
  | none => .error (.seed record)
  | some document => ofJson record document

end Store

structure Database where
  stores : List (String × Store)

namespace Database

def empty : Database := ⟨[]⟩

def store? (database : Database) (record : String) : Option Store := database.stores.lookup record

/-- A new store takes the place of the old one. -/
def insert (database : Database) (record : String) (store : Store) : Database :=
  ⟨(record, store) :: database.stores.filter fun entry => entry.1 ≠ record⟩

def recordNames (database : Database) : List String :=
  (database.stores.map (·.1)).mergeSort fun a b => Text.compareText a b != .gt

def findPage (database : Database) (record : String) (query : CompiledQuery) (page : PageRequest) :
    Except DataError RecordPage :=
  match database.store? record with
  | some store => .ok (store.query query page)
  | none => .error (.unknownRecord record)

end Database
end RecordFilter
