import Mathlib.Tactic.Linarith
import Mathlib.Tactic.Positivity
import Mathlib.Tactic.Ring
import RecordFilter.Number.Decimal
import RecordFilter.Proofs.Json.Numerals

/-!
# RecordFilter.Proofs.Json.Decimals

Numbers of JSON texts that are read as exact decimal literals.

* `exists_decimal_of_spells`: a number with few enough digits and places keeps its value.
-/

namespace RecordFilter
namespace Json

open Number Numeral
open Decimal (Reading readDigits readPlain? readScientific?)

/-! ## Digits -/

/-- A digit that finds its place is put behind the ones before. -/
theorem readDigits_cons {c : Char} (hc : isDigit c = true) {point begun : Bool} {a s : Nat}
    (hplace : point = true → s < scaleLimit) (hfits : a * 10 + digitValue c < coefficientBound)
    (rest : List Char) :
    readDigits ⟨point, begun, false, a, s⟩ (c :: rest) =
      readDigits ⟨point, true, false, a * 10 + digitValue c, if point then s + 1 else 0⟩ rest := by
  have hfull : (Reading.mk point begun false a s).isFull = false := by
    cases point with
    | false => rfl
    | true => simp [Reading.isFull, Nat.not_le.2 (hplace rfl)]
  rw [readDigits, if_neg (ne_of_isDigit hc (by decide)), if_neg (ne_of_isDigit hc (by decide)), if_pos hc]
  dsimp only
  rw [hfull, if_neg Bool.false_ne_true]
  exact if_pos hfits

theorem mul_pow_add_ofDigits_cons (a : Nat) (c : Char) (digits : List Char) :
    a * 10 ^ (c :: digits).length + ofDigits (c :: digits) =
      (a * 10 + digitValue c) * 10 ^ digits.length + ofDigits digits := by
  rw [ofDigits_cons, List.length_cons, Nat.pow_succ]
  ring

theorem readDigits_append {digits : List Char} (hall : ∀ c ∈ digits, isDigit c = true)
    {point begun : Bool} {a s : Nat} (hstart : point = false → s = 0)
    (hplaces : point = true → s + digits.length ≤ scaleLimit)
    (hfits : a * 10 ^ digits.length + ofDigits digits < coefficientBound) (rest : List Char) :
    readDigits ⟨point, begun, false, a, s⟩ (digits ++ rest) =
      readDigits ⟨point, begun || !digits.isEmpty, false, a * 10 ^ digits.length + ofDigits digits,
        if point then s + digits.length else 0⟩ rest := by
  induction digits generalizing begun a s with
  | nil =>
    cases point with
    | true => simp [ofDigits]
    | false => simp [ofDigits, hstart rfl]
  | cons c digits ih =>
    rw [mul_pow_add_ofDigits_cons] at hfits ⊢
    have hless : a * 10 + digitValue c < coefficientBound := by
      have hpos : 0 < 10 ^ digits.length := by positivity
      exact lt_of_le_of_lt (Nat.le_add_right_of_le (Nat.le_mul_of_pos_right _ hpos)) hfits
    have hdigit := hall c List.mem_cons_self
    have hrest := fun d hd => hall d (List.mem_cons_of_mem c hd)
    rw [List.cons_append]
    cases point with
    | false =>
      obtain rfl := hstart rfl
      have hstep : readDigits ⟨false, begun, false, a, 0⟩ (c :: (digits ++ rest)) =
          readDigits ⟨false, true, false, a * 10 + digitValue c, 0⟩ (digits ++ rest) :=
        readDigits_cons hdigit (by rintro ⟨⟩) hless _
      rw [hstep, ih hrest (fun _ => rfl) (by rintro ⟨⟩) hfits]
      simp
    | true =>
      have hle := hplaces rfl
      rw [List.length_cons] at hle ⊢
      have hstep : readDigits ⟨true, begun, false, a, s⟩ (c :: (digits ++ rest)) =
          readDigits ⟨true, true, false, a * 10 + digitValue c, s + 1⟩ (digits ++ rest) :=
        readDigits_cons hdigit (fun _ => by omega) hless _
      rw [hstep, ih hrest (by rintro ⟨⟩) (fun _ => by omega) hfits]
      simp [Nat.add_assoc, Nat.add_comm 1]

/-- The coefficient and the scale of a number without an exponent. -/
theorem readDigits_of_spells {whole digits fraction : List Char} (hwhole : AreDigits whole)
    (hfraction : SpellsFraction digits fraction) (hplaces : digits.length ≤ scaleLimit)
    (hfits : ofDigits (whole ++ digits) < coefficientBound) (rest : List Char) :
    ∃ point, readDigits .start (whole ++ (fraction ++ rest)) =
      readDigits ⟨point, true, false, ofDigits (whole ++ digits), digits.length⟩ rest := by
  rw [ofDigits_append] at hfits
  have hpos : 0 < 10 ^ digits.length := by positivity
  have hless : 0 * 10 ^ whole.length + ofDigits whole < coefficientBound := by
    rw [Nat.zero_mul, Nat.zero_add]
    nlinarith
  have hbegun : (false || !whole.isEmpty) = true := by
    obtain ⟨c, inside, rfl, -⟩ := hwhole.exists_cons
    rfl
  rw [Reading.start, readDigits_append hwhole.all (fun _ => rfl) (fun h => by cases h) hless, hbegun,
    Nat.zero_mul, Nat.zero_add]
  cases hfraction with
  | absent => exact ⟨false, by simp⟩
  | behindPoint hdigits =>
    refine ⟨true, ?_⟩
    have hpoint : ∀ inside, readDigits ⟨false, true, false, ofDigits whole, 0⟩ ('.' :: inside) =
        readDigits ⟨true, true, false, ofDigits whole, 0⟩ inside := fun _ => rfl
    rw [if_neg Bool.false_ne_true, List.cons_append, hpoint,
      readDigits_append hdigits.all (fun h => by cases h) (fun _ => by omega) hfits, if_pos rfl, Nat.zero_add,
      Bool.true_or, ofDigits_append]

/-! ## Literals -/

theorem readPlain?_of_spells {w : Written} {fraction : List Char} (hwhole : AreDigits w.whole)
    (hfraction : SpellsFraction w.fraction fraction) (hplaces : w.fraction.length ≤ scaleLimit)
    (hfits : w.coefficient < coefficientBound) :
    ∃ d : Decimal, readPlain? ((if w.negative then ['-'] else []) ++ w.whole ++ fraction) = some d ∧
      d.negative = (w.negative && w.coefficient != 0) ∧ d.coefficient = w.coefficient ∧
      d.scale = w.fraction.length := by
  obtain ⟨point, hread⟩ := readDigits_of_spells hwhole hfraction hplaces hfits []
  have hscale : w.fraction.length % (scaleLimit + 1) = w.fraction.length :=
    Nat.mod_eq_of_lt (Nat.lt_succ_of_le hplaces)
  rw [List.append_nil] at hread
  rw [readPlain?, splitSign_of_negative w.negative hwhole fraction]
  dsimp only
  rw [hread, readDigits, if_pos rfl]
  dsimp only
  rw [hscale]
  exact ⟨⟨w.negative && w.coefficient != 0, w.coefficient, w.fraction.length, hfits, hplaces⟩,
    dif_pos ⟨hfits, hplaces⟩, rfl, rfl, rfl⟩

theorem readPlain?_eq_none {w : Written} {fraction : List Char} {mark : Char} (hwhole : AreDigits w.whole)
    (hfraction : SpellsFraction w.fraction fraction) (hplaces : w.fraction.length ≤ scaleLimit)
    (hfits : w.coefficient < coefficientBound) (hmark : mark = 'e' ∨ mark = 'E')
    (rest : List Char) :
    readPlain? ((if w.negative then ['-'] else []) ++ w.whole ++ (fraction ++ mark :: rest)) = none := by
  obtain ⟨point, hread⟩ := readDigits_of_spells hwhole hfraction hplaces hfits (mark :: rest)
  rw [readPlain?, splitSign_of_negative w.negative hwhole (fraction ++ mark :: rest)]
  dsimp only
  rw [hread]
  rcases hmark with rfl | rfl <;> rfl

theorem readExponent?_of_areDigits {digits : List Char} (h : AreDigits digits) :
    Decimal.readExponent? digits = some (ofDigits digits) := by
  obtain ⟨c, rest, rfl, hc⟩ := h.exists_cons
  have hplus : c ≠ '+' := ne_of_isDigit hc (by decide)
  rw [Decimal.readExponent?, readNat?_of_areDigits h]
  intro digits heq
  exact hplus (List.cons.inj heq).1

/-- What stands before the mark of an exponent is read on its own. -/
theorem readScientific?_of_mark {base : List Char} {mark : Char} (hmark : mark = 'e' ∨ mark = 'E')
    (hbase : ∀ c ∈ base, c ≠ 'e' ∧ c ≠ 'E') {d : Decimal} (hd : readPlain? base = some d) (rest : List Char) :
    readScientific? (base ++ mark :: '-' :: rest) = (Decimal.readExponent? rest).bind d.shiftLeft? := by
  have htake : (base ++ mark :: '-' :: rest).takeWhile (fun c => c ≠ 'e' ∧ c ≠ 'E') = base := by
    rw [List.takeWhile_append_of_pos (by simpa using hbase), List.takeWhile_cons_of_neg (by simp; tauto),
      List.append_nil]
  rw [readScientific?]
  simp only [htake, List.drop_left, hd]

theorem Numeral.SpellsFraction.ne_mark {digits fraction : List Char} (h : SpellsFraction digits fraction) :
    ∀ c ∈ fraction, c ≠ 'e' ∧ c ≠ 'E' := by
  cases h with
  | absent => simp
  | behindPoint hdigits =>
    intro c hc
    rcases List.mem_cons.1 hc with rfl | hc
    · decide
    · have hdigit := hdigits.all c hc
      exact ⟨ne_of_isDigit hdigit (by decide), ne_of_isDigit hdigit (by decide)⟩

theorem ne_mark_of_base {w : Written} {fraction : List Char} (hwhole : AreDigits w.whole)
    (hfraction : SpellsFraction w.fraction fraction) :
    ∀ c ∈ (if w.negative then ['-'] else []) ++ w.whole ++ fraction, c ≠ 'e' ∧ c ≠ 'E' := by
  intro c hc
  rcases List.mem_append.1 hc with hc | hc
  · rcases List.mem_append.1 hc with hc | hc
    · cases hnegative : w.negative with
      | false => simp [hnegative] at hc
      | true =>
        obtain rfl : c = '-' := by simpa [hnegative] using hc
        decide
    · have hdigit := hwhole.all c hc
      exact ⟨ne_of_isDigit hdigit (by decide), ne_of_isDigit hdigit (by decide)⟩
  · exact hfraction.ne_mark c hc

theorem units_eq {d : Decimal} {negative : Bool} {c n : Nat} (hnegative : d.negative = (negative && c != 0))
    (hc : d.coefficient = c) (hn : scaleLimit - d.scale = n) : d.units = signed negative (c * 10 ^ n) := by
  rw [Decimal.units, hnegative, hc, hn, Nat.pow_eq]
  cases c with
  | zero => cases negative <;> simp [signed]
  | succ c => simp

theorem shiftLeft?_of_le {d : Decimal} {e : Nat} (h : d.scale + e ≤ scaleLimit) :
    ∃ shifted, d.shiftLeft? e = some shifted ∧ shifted.negative = d.negative ∧
      shifted.coefficient = d.coefficient ∧ shifted.scale = d.scale + e := by
  rw [Decimal.shiftLeft?, if_neg (by omega), if_pos h]
  exact ⟨⟨d.negative, d.coefficient, d.scale + e, d.coefficient_lt, h⟩, dif_pos ⟨d.coefficient_lt, h⟩, rfl, rfl,
    rfl⟩

/-- Few enough digits and few enough places behind the point, which stands where it belongs or has been moved
to the right. -/
structure Numeral.Written.FitsDecimal (w : Written) : Prop where
  digits : w.coefficient < coefficientBound
  places : -(scaleLimit : Int) ≤ w.power
  exponent : w.exponent = none ∨ ∃ digits, w.exponent = some (true, digits)

/-- Such a number keeps its value. -/
theorem exists_decimal_of_spells {w : Written} {text : List Char} (h : w.Spells text) (hw : w.FitsDecimal) :
    ∃ d, Decimal.read? text = some d ∧
      d.units = signed w.negative (w.coefficient * 10 ^ (scaleLimit + w.power).toNat) := by
  obtain ⟨hwhole, fraction, exponent, rfl, hfraction, hspells⟩ := h
  obtain ⟨hfits, hpower, hexponent⟩ := hw
  rcases hexponent with hnone | ⟨digits, hsome⟩
  · have hpow : w.power = -(w.fraction.length : Int) := by rw [Written.power, hnone, exponentValue, zero_sub]
    have hplaces : w.fraction.length ≤ scaleLimit := by omega
    obtain ⟨d, hd, hnegative, hc, hscale⟩ := readPlain?_of_spells hwhole hfraction hplaces hfits
    rw [hnone] at hspells
    cases hspells
    rw [List.append_nil, Decimal.read?, hd]
    exact ⟨d, rfl, units_eq hnegative hc (by omega)⟩
  · have hpow : w.power = -(ofDigits digits : Int) - w.fraction.length := by
      rw [Written.power, hsome, exponentValue, signed, if_pos rfl]
    have hplaces : w.fraction.length ≤ scaleLimit := by omega
    obtain ⟨d, hd, hnegative, hc, hscale⟩ := readPlain?_of_spells hwhole hfraction hplaces hfits
    obtain ⟨shifted, hshift, hnegative', hc', hscale'⟩ :=
      @shiftLeft?_of_le d (ofDigits digits) (by omega)
    rw [hsome] at hspells
    cases hspells with
    | behindMark hmark hsign hdigits =>
      cases hsign
      have hnone := readPlain?_eq_none hwhole hfraction hplaces hfits hmark ('-' :: digits)
      have hread := readScientific?_of_mark hmark (ne_mark_of_base hwhole hfraction) hd digits
      rw [readExponent?_of_areDigits hdigits, Option.bind_some, hshift] at hread
      refine ⟨shifted, ?_, units_eq (hnegative'.trans hnegative) (hc'.trans hc) (by omega)⟩
      rw [Decimal.read?]
      simp only [List.append_assoc, List.cons_append, List.nil_append] at hnone hread ⊢
      rw [hnone]
      exact hread

end Json
end RecordFilter
