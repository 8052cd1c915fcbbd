import RecordFilter.Number.Integer

/-!
# RecordFilter.Number.Binary

Binary floating-point numbers. A finite number is `± mantissa * 2 ^ exponent`. Rounding is to nearest,
ties to the even mantissa, and is computed exactly on quotients of natural numbers.
-/

namespace RecordFilter
namespace Number

/-- Bits of the mantissa, and the exponents of the smallest and the largest unit. -/
structure Format where
  precision : Nat
  least : Int
  greatest : Int
deriving DecidableEq, Repr

def binary32 : Format := ⟨24, -149, 104⟩

def binary64 : Format := ⟨53, -1074, 971⟩

inductive Binary (f : Format) where
  | nan
  | infinite (negative : Bool)
  | finite (negative : Bool) (mantissa : Nat) (exponent : Int)
deriving DecidableEq, Repr

namespace Binary

variable {f : Format}

def zero (f : Format) (negative : Bool) : Binary f := .finite negative 0 f.least

def isNan : Binary f → Bool
  | .nan => true
  | _ => false

/-! ## Rounding -/

/-- The nearest natural number to `n / d`, the even one of two equally near. -/
def roundQuotient (n d : Nat) : Nat :=
  let q := n / d
  let r := n % d
  if d < 2 * r ∨ (2 * r = d ∧ q % 2 = 1) then q + 1 else q

/-- `n / d / 2 ^ e` as a numerator and a denominator. -/
def scaleBy (n d : Nat) (e : Int) : Nat × Nat := (n * Nat.pow 2 (-e).toNat, d * Nat.pow 2 e.toNat)

/-- The `t` with `2 ^ t ≤ n / d < 2 ^ (t + 1)`. -/
def quotientLog (n d : Nat) : Int :=
  let t : Int := (n.log2 : Int) - (d.log2 : Int)
  let (n', d') := scaleBy n d t
  if d' ≤ n' then t else t - 1

/-- The nearest number of the format to the quotient `n / d`. -/
def ofRatio (f : Format) (negative : Bool) (n d : Nat) : Binary f :=
  if n = 0 then zero f negative
  else
    let e := max f.least (quotientLog n d - f.precision + 1)
    let (n', d') := scaleBy n d e
    let m := roundQuotient n' d'
    let (m, e) := if m = Nat.pow 2 f.precision then (Nat.pow 2 (f.precision - 1), e + 1) else (m, e)
    if f.greatest < e then .infinite negative else .finite negative m e

/-- A finite number as sign, numerator and denominator. -/
def toRatio? : Binary f → Option (Bool × Nat × Nat)
  | .finite negative m e => some (negative, m * Nat.pow 2 e.toNat, Nat.pow 2 (-e).toNat)
  | _ => none

def ofNat (f : Format) (n : Nat) : Binary f := ofRatio f false n 1

/-- The rounded product of two finite numbers. -/
def mul (a b : Binary f) : Binary f :=
  match a.toRatio?, b.toRatio? with
  | some (s, n, d), some (t, n', d') => ofRatio f (s != t) (n * n') (d * d')
  | _, _ => .nan

/-- The rounded quotient of two finite numbers, the second not zero. -/
def div (a b : Binary f) : Binary f :=
  match a.toRatio?, b.toRatio? with
  | some (s, n, d), some (t, n', d') => ofRatio f (s != t) (n * d') (d * n')
  | _, _ => .nan

/-! ## Order -/

/-- The number in units of the smallest exponent. Infinity counts as the power of two above all
finite numbers. -/
def units? : Binary f → Option Int
  | .nan => none
  | .infinite negative => some (signed negative (Nat.pow 2 (f.greatest + f.precision - f.least).toNat))
  | .finite negative m e => some (signed negative (m * Nat.pow 2 (e - f.least).toNat))

/-- The order of the numbers. Both zeros are equal, and what is not a number has no place. -/
def compare? (a b : Binary f) : Option Ordering :=
  match a.units?, b.units? with
  | some x, some y => some (compare x y)
  | _, _ => none

/-- The sign that is shown; what is not a number has none. -/
def isNegative : Binary f → Bool
  | .nan => false
  | .infinite negative => negative
  | .finite negative _ _ => negative

/-- A key for the order in which negative zero comes before positive zero. -/
def totalKey? (x : Binary f) : Option Int :=
  x.units?.map fun n => 2 * n + if x.isNegative then 0 else 1

end Binary
end Number
end RecordFilter
