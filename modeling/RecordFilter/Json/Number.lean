import RecordFilter.Json.Value

/-!
# RecordFilter.Json.Number

Numbers of JSON texts. A number without fraction and exponent that 64 bits hold is an integer; all
others become floating-point numbers in at most two roundings: the significand, 64 bits of it, and
one multiplication or division by a power of ten.
-/

namespace RecordFilter
namespace Json
namespace Numeral

open Number (isDigit digitValue Binary binary64)

/-- A number as it is written; `exponent` is absent where none is written. -/
structure Written where
  negative : Bool
  whole : List Char
  fraction : List Char
  exponent : Option (Bool × List Char)
deriving DecidableEq, Repr

/-! ## Grammar -/

/-- Digits without a leading zero, except for zero itself. -/
def takeWhole? (text : List Char) : Option (List Char × List Char) :=
  match text with
  | '0' :: rest => some (['0'], rest)
  | _ =>
    match text.takeWhile isDigit with
    | [] => none
    | digits => some (digits, text.drop digits.length)

/-- The digits behind a point, none without one. -/
def takeFraction? : List Char → Option (List Char × List Char)
  | '.' :: rest =>
    match rest.takeWhile isDigit with
    | [] => none
    | digits => some (digits, rest.drop digits.length)
  | text => some ([], text)

def takeExponent? (text : List Char) : Option (Option (Bool × List Char) × List Char) :=
  match text with
  | c :: rest =>
    if c = 'e' ∨ c = 'E' then
      let (negative, rest) := Number.splitSign rest
      match rest.takeWhile isDigit with
      | [] => none
      | digits => some (some (negative, digits), rest.drop digits.length)
    else some (none, text)
  | [] => some (none, [])

/-- The number in front of a text, and the rest. -/
def take? (text : List Char) : Option (Written × List Char) := do
  let (negative, rest) := match text with
    | '-' :: rest => (true, rest)
    | _ => (false, text)
  let (whole, rest) ← takeWhole? rest
  let (fraction, rest) ← takeFraction? rest
  let (exponent, rest) ← takeExponent? rest
  return (⟨negative, whole, fraction, exponent⟩, rest)

/-! ## Significand -/

def significandLimit : Nat := 0xFFFFFFFFFFFFFFFF

/-- Significand and exponent so far, and whether a digit has found no place. -/
structure Scan where
  significand : Nat
  exponent : Int
  full : Bool

def Scan.fits (s : Scan) (c : Char) : Bool :=
  !s.full && s.significand * 10 + digitValue c ≤ significandLimit

/-- Digits before the point that find no place raise the exponent. -/
def Scan.whole (s : Scan) (c : Char) : Scan :=
  if s.fits c then { s with significand := s.significand * 10 + digitValue c }
  else { s with exponent := s.exponent + 1, full := true }

/-- Digits after the point that find no place are dropped. -/
def Scan.fraction (s : Scan) (c : Char) : Scan :=
  if s.fits c then
    { s with significand := s.significand * 10 + digitValue c, exponent := s.exponent - 1 }
  else { s with full := true }

def scanWhole (digits : List Char) : Scan := digits.foldl Scan.whole ⟨0, 0, false⟩

/-- The place is looked for anew behind the point. -/
def scan (w : Written) : Scan :=
  w.fraction.foldl Scan.fraction { scanWhole w.whole with full := false }

/-! ## Scaling -/

/-- The largest power of ten of the format. -/
def powerLimit : Nat := 308

def power (e : Nat) : Double := Binary.ofDecimal binary64 false 1 e

def negate (negative : Bool) : Double → Double
  | .finite _ m e => .finite negative m e
  | .infinite _ => .infinite negative
  | .nan => .nan

/-- Divides by the largest power until the exponent is within reach; no number lasts three steps. -/
def scaleDown : Nat → Double → Int → Double
  | 0, _, _ => Binary.zero binary64 false
  | fuel + 1, x, e =>
    if -powerLimit ≤ e then Binary.div x (power (-e).toNat)
    else scaleDown fuel (Binary.div x (power powerLimit)) (e + powerLimit)

/-- `significand * 10 ^ e`, unless it is beyond the largest number. -/
def scale? (significand : Nat) (e : Int) : Option Double :=
  let x := Binary.ofNat binary64 significand
  if significand = 0 then some x
  else if e < 0 then some (scaleDown 4 x e)
  else if powerLimit < e then none
  else
    match Binary.mul x (power e.toNat) with
    | .finite negative m e => some (.finite negative m e)
    | _ => none

/-! ## Value -/

def isInteger (w : Written) : Bool := w.fraction.isEmpty && w.exponent.isNone

def exponentLimit : Nat := 0x7FFFFFFF

/-- An exponent beyond 31 bits makes zero, or a number that is too large. -/
def float? (w : Written) : Option Double :=
  let s := scan w
  match w.exponent with
  | none => scale? s.significand s.exponent
  | some (down, digits) =>
    let e := Number.ofDigits digits
    if e ≤ exponentLimit then scale? s.significand (s.exponent + Number.signed down e)
    else if s.significand ≠ 0 ∧ !down then none
    else some (Binary.zero binary64 false)

/-- Negative zero is not an integer. -/
def integer? (w : Written) : Option Int :=
  let n := Number.ofDigits w.whole
  if !isInteger w then none
  else if w.negative then if 0 < n ∧ n ≤ 0x8000000000000000 then some (-(n : Int)) else none
  else if n ≤ significandLimit then some n
  else none

def value? (w : Written) : Option Json :=
  match integer? w with
  | some n => some (.integer n)
  | none => (float? w).map fun x => .float (negate w.negative x)

end Numeral
end Json
end RecordFilter
