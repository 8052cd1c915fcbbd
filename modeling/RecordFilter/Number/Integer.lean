/-!
# RecordFilter.Number.Integer

Natural numbers as decimal digits, and integers of a fixed width or of any size, written with an optional
sign.
-/

namespace RecordFilter
namespace Number

/-! ## Digits -/

def isDigit (c : Char) : Bool := '0' ≤ c && c ≤ '9'

def digitValue (c : Char) : Nat := c.toNat - 0x30

/-- The number written by decimal digits, the most significant first. -/
def ofDigits (digits : List Char) : Nat := Nat.ofDigitChars 10 digits 0

def digitsOf (n : Nat) : List Char := Nat.toDigits 10 n

/-- One digit or more and nothing else. -/
def readNat? (text : List Char) : Option Nat :=
  if !text.isEmpty && text.all isDigit then some (ofDigits text) else none

/-- A natural number at least `width` digits long, zeros in front. -/
def padded (width n : Nat) : List Char :=
  let digits := digitsOf n
  List.replicate (width - digits.length) '0' ++ digits

/-- How many digits a number has; none for zero. -/
def digitCount (n : Nat) : Nat := if n = 0 then 0 else (digitsOf n).length

theorem ofDigits_digitsOf (n : Nat) : ofDigits (digitsOf n) = n := by
  simp [ofDigits, digitsOf]

/-! ## Integers -/

inductive IntegerWidth where
  | bits16
  | bits32
  | bits64
  | unbounded
deriving DecidableEq, Repr

/-- A width of `b` bits holds the integers from `-2 ^ (b - 1)` up to `2 ^ (b - 1) - 1`. -/
def IntegerWidth.holds : IntegerWidth → Int → Bool
  | .bits16, n => -0x8000 ≤ n && n < 0x8000
  | .bits32, n => -0x80000000 ≤ n && n < 0x80000000
  | .bits64, n => -0x8000000000000000 ≤ n && n < 0x8000000000000000
  | .unbounded, _ => true

/-- The sign and what follows it; a text without a sign is positive. -/
def splitSign : List Char → Bool × List Char
  | '-' :: rest => (true, rest)
  | '+' :: rest => (false, rest)
  | text => (false, text)

def signed (negative : Bool) (magnitude : Nat) : Int :=
  if negative then -(magnitude : Int) else magnitude

/-- Unbounded integers may have `_` between or behind the digits, not in front of them. -/
def readMagnitude? : IntegerWidth → List Char → Option Nat
  | .unbounded, '_' :: _ => none
  | .unbounded, text => readNat? (text.filter (· ≠ '_'))
  | _, text => readNat? text

def readInteger? (width : IntegerWidth) (text : List Char) : Option Int :=
  let (negative, rest) := splitSign text
  match readMagnitude? width rest with
  | none => none
  | some magnitude =>
    let n := signed negative magnitude
    if width.holds n then some n else none

def writeInteger : Int → List Char
  | .ofNat n => digitsOf n
  | .negSucc n => '-' :: digitsOf (n + 1)

end Number
end RecordFilter
