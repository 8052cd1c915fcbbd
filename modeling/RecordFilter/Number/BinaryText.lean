import RecordFilter.Number.Binary
import RecordFilter.Text.Basic

/-!
# RecordFilter.Number.BinaryText

Floating-point numbers as text. Reading rounds the exact decimal number once. Writing finds the fewest
digits that read back to the same number, and of these the nearest to it.
-/

namespace RecordFilter
namespace Number
namespace Binary

variable {f : Format}

/-! ## Reading -/

/-- The nearest number to `coefficient * 10 ^ exponent`. Exponents far outside the format are settled
without computing the power. -/
def ofDecimal (f : Format) (negative : Bool) (coefficient : Nat) (exponent : Int) : Binary f :=
  let places := exponent + digitCount coefficient
  if coefficient = 0 then zero f negative
  else if f.greatest + f.precision < places then .infinite negative
  else if places < f.least then zero f negative
  else ofRatio f negative (coefficient * Nat.pow 10 exponent.toNat) (Nat.pow 10 (-exponent).toNat)

/-- Coefficient and exponent of digits with at most one point and an optional exponent. -/
def readDecimal? (text : List Char) : Option (Nat × Int) :=
  let whole := text.takeWhile isDigit
  let rest := text.drop whole.length
  let (fraction, rest) :=
    match rest with
    | '.' :: rest =>
      let fraction := rest.takeWhile isDigit
      (fraction, rest.drop fraction.length)
    | _ => ([], rest)
  let exponent? : Option Int :=
    match rest with
    | [] => some 0
    | c :: rest =>
      if c = 'e' ∨ c = 'E' then
        let (negative, digits) := splitSign rest
        (readNat? digits).map (signed negative)
      else none
  match exponent? with
  | none => none
  | some exponent =>
    if whole.isEmpty && fraction.isEmpty then none
    else some (ofDigits (whole ++ fraction), exponent - fraction.length)

/-- Sign and number, or sign and one of the words `inf`, `infinity`, `nan` in any case. -/
def read? (f : Format) (text : List Char) : Option (Binary f) :=
  let (negative, rest) := splitSign text
  if Text.isWord "inf" rest || Text.isWord "infinity" rest then some (.infinite negative)
  else if Text.isWord "nan" rest then some .nan
  else (readDecimal? rest).map fun (coefficient, exponent) =>
    ofDecimal f negative coefficient exponent

/-! ## Shortest digits -/

/-- Which of two equally near candidates is taken. -/
inductive Tie where
  | up
  | even
deriving DecidableEq, Repr

/-- The nearest multiple of `10 ^ k` that rounds to the number `m * 2 ^ e`, if there is one. The
neighbours of a number lie half a unit away, below a power of two a quarter. -/
def candidate? (f : Format) (tie : Tie) (m : Nat) (e k : Int) : Option Nat :=
  let two := Nat.pow 2 e.toNat * Nat.pow 10 (-k).toNat
  let x := 4 * m * two
  let unit := 4 * Nat.pow 10 k.toNat * Nat.pow 2 (-e).toNat
  let below := if m = Nat.pow 2 (f.precision - 1) ∧ f.least < e then two else 2 * two
  let above := 2 * two
  let d := x / unit
  let r := x % unit
  let closed := m % 2 = 0
  let lowFits := r < below ∨ (r = below ∧ closed)
  let highFits := unit - r < above ∨ (unit - r = above ∧ closed)
  let preferHigh := unit < 2 * r ∨ (unit = 2 * r ∧ (tie = .up ∨ d % 2 = 1))
  if lowFits ∧ (¬highFits ∨ ¬preferHigh) then some d
  else if highFits then some (d + 1)
  else none

/-- Tries ever smaller powers of ten. -/
def shortestFrom (f : Format) (tie : Tie) (m : Nat) (e : Int) : Nat → Int → Nat × Int
  | 0, k => (m, k)
  | fuel + 1, k =>
    match candidate? f tie m e k with
    | some d => (d, k)
    | none => shortestFrom f tie m e fuel (k - 1)

/-- Digits and exponent of the shortest decimal number that reads back to `m * 2 ^ e`. The format's
precision bounds the number of digits that are tried. -/
def shortest (f : Format) (tie : Tie) (m : Nat) (e : Int) : Nat × Int :=
  let top : Int :=
    if 0 ≤ e then digitCount (m * Nat.pow 2 e.toNat)
    else (digitCount (m * Nat.pow 10 (-e).toNat / Nat.pow 2 (-e).toNat) : Int) + e
  if m = 0 then (0, 0) else shortestFrom f tie m e (f.precision + 1) top

/-! ## Writing -/

/-- Digits without an exponent, zeros where needed, and a point where a fraction begins. -/
def positional (digits : List Char) (k : Int) : List Char :=
  let places := (-k).toNat
  if places = 0 then digits ++ List.replicate k.toNat '0'
  else
    let padded := List.replicate (places + 1 - digits.length) '0' ++ digits
    padded.take (padded.length - places) ++ '.' :: padded.drop (padded.length - places)

/-- The plain form, never with an exponent. -/
def write : Binary f → List Char
  | .nan => "NaN".toList
  | .infinite negative => (if negative then ['-'] else []) ++ "inf".toList
  | .finite negative m e =>
    let (d, k) := shortest f .up m e
    (if negative then ['-'] else []) ++ positional (digitsOf d) k

end Binary
end Number
end RecordFilter
