import RecordFilter.Json.Value

/-!
# RecordFilter.Json.Draft

JSON documents as far as the grammar goes. A draft may hold what no document can: a number beyond all
bounds, a text with one half of a surrogate pair, containers inside each other to any depth. Parts of
a draft can be dropped before it is resolved to the document that it stands for.
-/

namespace RecordFilter
namespace Json

/-- A leaf or a member name that stands for nothing is `none`. -/
inductive Draft where
  | leaf (value : Option Json)
  | array (items : List Draft)
  | object (members : List (Option String × Draft))

namespace Draft

instance : Inhabited Draft := ⟨.leaf none⟩

abbrev Members : Type := List (Option String × Draft)

mutual

/-- The document of a draft. At most `limit` containers may be inside each other, and everything in
them must stand for something. -/
def resolve? : Nat → Draft → Option Json
  | _, .leaf value => value
  | 0, _ => none
  | limit + 1, .array items => (resolveItems? limit items).map .array
  | limit + 1, .object members => (resolveMembers? limit members).map .object

def resolveItems? : Nat → List Draft → Option (List Json)
  | _, [] => some []
  | limit, item :: rest => do return (← resolve? limit item) :: (← resolveItems? limit rest)

def resolveMembers? : Nat → Members → Option Json.Members
  | _, [] => some []
  | limit, (name, value) :: rest => do
    return (← name, ← resolve? limit value) :: (← resolveMembers? limit rest)

end

/-- An object without the members whose name is readable and does not pass; another draft as it is. -/
def keepMembers (keep : String → Bool) : Draft → Draft
  | .object members => .object (members.filter fun (name, _) => name.all keep)
  | draft => draft

/-- Changes the values of an object by their names. -/
def mapMembers (change : String → Draft → Draft) : Draft → Draft
  | .object members =>
    .object (members.map fun (name, value) => (name, (name.map change).getD id value))
  | draft => draft

end Draft
end Json
end RecordFilter
