import RecordFilter.Text.Basic
import RecordFilter.Text.Utf8

/-!
# RecordFilter.Text.PercentEncoding

`%` and two hexadecimal digits stand for a byte. A `%` without two digits behind it stands for
itself. Form data are pairs of keys and values in this encoding, as the query of a URI holds them.
-/

namespace RecordFilter
namespace Text

def hexValue? (c : Char) : Option Nat :=
  if '0' ≤ c ∧ c ≤ '9' then some (c.toNat - 0x30)
  else if 'a' ≤ c ∧ c ≤ 'f' then some (c.toNat - 0x57)
  else if 'A' ≤ c ∧ c ≤ 'F' then some (c.toNat - 0x37)
  else none

/-- The byte of two hexadecimal digits. -/
def hexByte? (high low : Char) : Option Nat :=
  match hexValue? high, hexValue? low with
  | some a, some b => some (a * 16 + b)
  | _, _ => none

namespace PercentEncoding

/-- The bytes that a text stands for; all other characters stand for their UTF-8 bytes. -/
def bytes : List Char → List Nat
  | '%' :: a :: b :: rest =>
    match hexByte? a b with
    | some byte => byte :: bytes rest
    | none => Utf8.encodeChar '%' ++ bytes (a :: b :: rest)
  | c :: rest => Utf8.encodeChar c ++ bytes rest
  | [] => []

def decode? (text : List Char) : Option (List Char) := Utf8.decode? (bytes text)

def decodeLossy (text : List Char) : List Char := Utf8.decodeLossy (bytes text)

/-- In form data a space is written `+`. -/
def plusToSpace (text : List Char) : List Char := text.map fun c => if c = '+' then ' ' else c

end PercentEncoding
end Text

namespace Http

/-! ## Form data -/

/-- A pair without `=` has an empty value. -/
def splitPair (pair : List Char) : List Char × List Char :=
  (Text.splitFirst? '=' pair).getD (pair, [])

/-- The pairs of a query; empty ones do not count. -/
def rawPairs (query : List Char) : List (List Char × List Char) :=
  ((Text.split '&' query).filter fun pair => !pair.isEmpty).map splitPair

def decodeForm (text : List Char) : String :=
  String.ofList (Text.PercentEncoding.decodeLossy (Text.PercentEncoding.plusToSpace text))

def formPairs (query : List Char) : List (String × String) :=
  (rawPairs query).map fun (key, value) => (decodeForm key, decodeForm value)

end Http
end RecordFilter
