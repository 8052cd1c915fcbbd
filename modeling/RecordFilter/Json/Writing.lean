import RecordFilter.Json.Value
import RecordFilter.Text.Quoted

/-!
# RecordFilter.Json.Writing

JSON documents as text, without any space or spread over lines.
-/

namespace RecordFilter
namespace Json

/-! ## Texts -/

def escapeChar (c : Char) : List Char :=
  match c with
  | '"' => ['\\', '"']
  | '\\' => ['\\', '\\']
  | '\x08' => ['\\', 'b']
  | '\x0c' => ['\\', 'f']
  | '\n' => ['\\', 'n']
  | '\r' => ['\\', 'r']
  | '\t' => ['\\', 't']
  | _ =>
    let n := c.toNat
    if n < 0x20 then ['\\', 'u', '0', '0', Text.hexDigit (n / 16), Text.hexDigit (n % 16)] else [c]

def writeText (text : String) : List Char := '"' :: text.toList.flatMap escapeChar ++ ['"']

/-! ## Numbers -/

open Number (Binary Format digitsOf)

/-- One digit, the others behind a point, and an exponent with its sign. -/
def scientific (digits : List Char) (k : Int) : List Char :=
  let e := k + digits.length - 1
  let exponent := 'e' :: (if e < 0 then '-' else '+') :: digitsOf e.natAbs
  match digits with
  | [d] => d :: exponent
  | d :: fraction => d :: '.' :: fraction ++ exponent
  | [] => exponent

/-- The numbers that are written without an exponent, by how many places they have before the point;
below 1 the zeros right behind the point count downwards from 0. -/
structure PlainPlaces where
  above : Int
  upTo : Int
deriving DecidableEq, Repr

/-- From `10 ^ -5` up to `10 ^ 16`. -/
def doublePlaces : PlainPlaces := ⟨-5, 16⟩

/-- From `10 ^ -6` up to `10 ^ 13`. -/
def singlePlaces : PlainPlaces := ⟨-6, 13⟩

/-- The plain form always has a point; all other numbers have an exponent. -/
def layout (plain : PlainPlaces) (digits : List Char) (k : Int) : List Char :=
  let places := k + digits.length
  if plain.above < places ∧ places ≤ plain.upTo then
    if 0 ≤ k then Binary.positional digits k ++ ".0".toList else Binary.positional digits k
  else scientific digits k

/-- The shortest digits that read back; an infinite number has none. -/
def writeFloat {f : Format} (plain : PlainPlaces) : Binary f → List Char
  | .finite negative m e =>
    let (d, k) := Binary.shortest f .even m e
    (if negative then ['-'] else []) ++ if m = 0 then "0.0".toList else layout plain (digitsOf d) k
  | _ => "null".toList

/-! ## Documents -/

def brackets (inside : List Char) : List Char := '[' :: inside ++ [']']

def braces (inside : List Char) : List Char := '\x7b' :: inside ++ ['\x7d']

mutual

def write : Json → List Char
  | .null => "null".toList
  | .bool true => "true".toList
  | .bool false => "false".toList
  | .integer n => Number.writeInteger n
  | .float x => writeFloat doublePlaces x
  | .single x => writeFloat singlePlaces x
  | .string value => writeText value
  | .array [] => brackets []
  | .array (item :: rest) => brackets (write item ++ writeItems rest)
  | .object [] => braces []
  | .object ((name, value) :: rest) =>
    braces (writeText name ++ ':' :: write value ++ writeMembers rest)

def writeItems : List Json → List Char
  | [] => []
  | item :: rest => ',' :: write item ++ writeItems rest

def writeMembers : Members → List Char
  | [] => []
  | (name, value) :: rest => ',' :: writeText name ++ ':' :: write value ++ writeMembers rest

end

def compact (document : Json) : String := String.ofList (write document)

/-! ## Over several lines -/

/-- The beginning of a line inside `depth` containers, two spaces for each. -/
def newLine (depth : Nat) : List Char := '\n' :: List.replicate (2 * depth) ' '

mutual

def writePretty (depth : Nat) : Json → List Char
  | .array (item :: rest) =>
    brackets
      (newLine (depth + 1) ++ writePretty (depth + 1) item ++ prettyItems (depth + 1) rest ++
        newLine depth)
  | .object ((name, value) :: rest) =>
    braces
      (newLine (depth + 1) ++ writeText name ++ ": ".toList ++ writePretty (depth + 1) value ++
        prettyMembers (depth + 1) rest ++ newLine depth)
  | document => write document

def prettyItems (depth : Nat) : List Json → List Char
  | [] => []
  | item :: rest => ',' :: newLine depth ++ writePretty depth item ++ prettyItems depth rest

def prettyMembers (depth : Nat) : Members → List Char
  | [] => []
  | (name, value) :: rest =>
    ',' :: newLine depth ++ writeText name ++ ": ".toList ++ writePretty depth value ++
      prettyMembers depth rest

end

def pretty (document : Json) : String := String.ofList (writePretty 0 document)

/-! ## Numbers as documents -/

/-- Only a finite number is a document of its own. -/
def ofSingle : Single → Json
  | .finite negative m e => .single (.finite negative m e)
  | .infinite _ => .null
  | .nan => .null

def ofDouble : Double → Json
  | .finite negative m e => .float (.finite negative m e)
  | .infinite _ => .null
  | .nan => .null

end Json
end RecordFilter
