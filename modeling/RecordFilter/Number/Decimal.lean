import RecordFilter.Number.Integer
import RecordFilter.Text.Basic

/-!
# RecordFilter.Number.Decimal

Exact decimal numbers `± coefficient / 10 ^ scale` with a coefficient of 96 bits and a scale of at
most 28. The scale is part of the number as it is written: `1.50` keeps its zero, but equals `1.5`.
-/

namespace RecordFilter
namespace Number

def coefficientBound : Nat := 0x1000000000000000000000000

def scaleLimit : Nat := 28

/-- Zero may carry a sign: a negative number whose digits are all rounded away keeps it. -/
structure Decimal where
  negative : Bool
  coefficient : Nat
  scale : Nat
  coefficient_lt : coefficient < coefficientBound
  scale_le : scale ≤ scaleLimit
deriving DecidableEq

namespace Decimal

def make? (negative : Bool) (coefficient scale : Nat) : Option Decimal :=
  if h : coefficient < coefficientBound ∧ scale ≤ scaleLimit then
    some ⟨negative, coefficient, scale, h.1, h.2⟩
  else none

/-! ## Reading -/

/-- What has been read of the digits: whether the point has come, whether any digit has come, whether
a `_` behind the last place asks for one digit more, the coefficient and the scale so far. -/
structure Reading where
  point : Bool
  begun : Bool
  ahead : Bool
  coefficient : Nat
  scale : Nat

def Reading.start : Reading := ⟨false, false, false, 0, 0⟩

/-- There is no further place behind the point, so that the next character decides the rounding. -/
def Reading.isFull (r : Reading) : Bool := r.point && scaleLimit ≤ r.scale && !r.ahead

/-- The digits before the last one nearly fill 64 bits: one digit more could be too much for them, with
a margin of 255. -/
def Reading.isWide (r : Reading) : Bool := 0xFFFFFFFFFFFFFFFF / 10 - 255 ≤ r.coefficient / 10

/-- A digit takes the next place, and behind the point the scale grows with it. -/
def Reading.push (r : Reading) (digit : Nat) : Reading :=
  { r with
    begun := true
    ahead := false
    coefficient := r.coefficient * 10 + digit
    scale := if r.point then r.scale + 1 else 0 }

/-- Rounds half up by the first digit that finds no place. A coefficient that no longer fits gives up
its last digit. -/
def roundBy (digit coefficient scale : Nat) : Option (Nat × Nat) :=
  if digit < 5 then some (coefficient, scale)
  else if coefficient + 1 < coefficientBound then some (coefficient + 1, scale)
  else if scale = 0 then none
  else some ((coefficient + 1 + 4) / 10, scale - 1)

/-- Behind the digit that decides the rounding only digits and `_` may follow; they do not count. -/
def Reading.roundOff (r : Reading) (digit : Nat) (rest : List Char) : Option (Nat × Nat) :=
  if rest.all fun c => isDigit c || c == '_' then roundBy digit r.coefficient r.scale else none

/-- Coefficient and scale of unsigned digits. A `_` behind the last place is a zero there, unless the
coefficient is wide: then the next digit is still read. -/
def readDigits (r : Reading) : List Char → Option (Nat × Nat)
  | [] => if r.begun then some (r.coefficient, r.scale) else none
  | c :: rest =>
    if c = '_' then
      if !r.begun then none
      else if r.isFull && !r.isWide then r.roundOff 0 rest
      else readDigits { r with ahead := r.ahead || r.isFull } rest
    else if c = '.' then
      if r.point then none else readDigits { r with point := true } rest
    else if isDigit c then
      let pushed := r.push (digitValue c)
      if r.isFull then r.roundOff (digitValue c) rest
      else if pushed.coefficient < coefficientBound then readDigits pushed rest
      else if r.point then r.roundOff (digitValue c) rest
      else none
    else none

/-- Sign, digits and at most one point. Zero loses its sign, and a scale beyond the last one begins
again at 0. -/
def readPlain? (text : List Char) : Option Decimal :=
  let (negative, rest) := splitSign text
  match readDigits .start rest with
  | some (coefficient, scale) =>
    make? (negative && coefficient != 0) coefficient (scale % (scaleLimit + 1))
  | none => none

/-- Fewer digits after the point, the dropped part rounded half up. -/
def dropPlaces (places coefficient : Nat) : Nat :=
  (coefficient + Nat.pow 10 places / 2) / Nat.pow 10 places

/-- An exponent: an optional `+` and digits. -/
def readExponent? (text : List Char) : Option Nat :=
  match text with
  | '+' :: digits => readNat? digits
  | _ => readNat? text

/-- Moves the point to the left. What falls off behind the last possible place is rounded. -/
def shiftLeft? (d : Decimal) (e : Nat) : Option Decimal :=
  if scaleLimit < e then none
  else if d.scale + e ≤ scaleLimit then make? d.negative d.coefficient (d.scale + e)
  else make? d.negative (dropPlaces (d.scale + e - scaleLimit) d.coefficient) scaleLimit

/-- Moves the point to the right. -/
def shiftRight? (d : Decimal) (e : Nat) : Option Decimal :=
  if e ≤ d.scale then make? d.negative d.coefficient (d.scale - e)
  else if scaleLimit < e then none
  else make? d.negative (d.coefficient * Nat.pow 10 (e - d.scale)) 0

/-- Digits, `e` or `E`, and an exponent. -/
def readScientific? (text : List Char) : Option Decimal :=
  let base := text.takeWhile fun c => c ≠ 'e' ∧ c ≠ 'E'
  match text.drop base.length with
  | [] => none
  | _ :: exponent =>
    match readPlain? base with
    | none => none
    | some d =>
      match exponent with
      | '-' :: digits => (readExponent? digits).bind d.shiftLeft?
      | _ => (readExponent? exponent).bind d.shiftRight?

def read? (text : List Char) : Option Decimal :=
  match readPlain? text with
  | some d => some d
  | none => readScientific? text

/-! ## Writing -/

/-- The digits of the coefficient with the point `scale` places from the end. -/
def write (d : Decimal) : List Char :=
  let digits := padded (d.scale + 1) d.coefficient
  let whole := digits.take (digits.length - d.scale)
  let fraction := digits.drop (digits.length - d.scale)
  (if d.negative then ['-'] else []) ++ whole ++ if d.scale = 0 then [] else '.' :: fraction

/-! ## Order -/

/-- The number as a multiple of `10 ^ -28`. -/
def units (d : Decimal) : Int := signed d.negative (d.coefficient * Nat.pow 10 (scaleLimit - d.scale))

/-- The order of the numbers; the scale does not count. -/
def compareTo (a b : Decimal) : Ordering := compare a.units b.units

end Decimal
end Number
end RecordFilter
