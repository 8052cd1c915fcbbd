import RecordFilter.Proofs.Json.Decimals

/-!
# RecordFilter.Proofs.Number.Writing

Numbers are read back from their written form.

* `length_padded`, `ofDigits_padded`: zeros in front fill a number up to its width and do not count.
* `readInteger?_writeInteger`: every integer that the width holds is read back.
* `Decimal.read?_write`: so is every decimal, with all its places; a zero loses its sign.
-/

namespace RecordFilter
namespace Number

open Json.Numeral (AreDigits SpellsFraction)

/-! ## Zeros in front -/

theorem areDigits_digitsOf (n : Nat) : AreDigits (digitsOf n) :=
  ⟨digitsOf_ne_nil n, fun _ => isDigit_of_mem_digitsOf⟩

theorem areDigits_padded (width n : Nat) : AreDigits (padded width n) where
  ne_nil := List.append_ne_nil_of_right_ne_nil _ (digitsOf_ne_nil n)
  all := by
    intro c hc
    rcases List.mem_append.1 hc with hc | hc
    · rw [List.eq_of_mem_replicate hc]
      decide
    · exact isDigit_of_mem_digitsOf hc

theorem ofDigits_padded (width n : Nat) : ofDigits (padded width n) = n := by
  rw [padded, ofDigits_append, ofDigits_replicate_zero, Nat.zero_mul, Nat.zero_add, ofDigits_digitsOf]

theorem length_padded_eq (width n : Nat) : (padded width n).length = max width (digitsOf n).length := by
  rw [padded, List.length_append, List.length_replicate]
  omega

theorem length_padded {width n : Nat} (hwidth : 0 < width) (h : n < 10 ^ width) :
    (padded width n).length = width := by
  have hle : (digitsOf n).length ≤ width := (Nat.length_toDigits_le_iff (by decide) hwidth).2 h
  rw [length_padded_eq, Nat.max_eq_left hle]

/-! ## Integers -/

/-- A sign and digits are the integer that they say, if the width holds it. -/
theorem readInteger?_of_areDigits {width : IntegerWidth} {digits : List Char} (negative : Bool)
    (h : AreDigits digits) (hn : width.holds (signed negative (ofDigits digits)) = true) :
    readInteger? width ((if negative then ['-'] else []) ++ digits) =
      some (signed negative (ofDigits digits)) := by
  have hsplit := Json.Numeral.splitSign_of_negative negative h []
  rw [List.append_nil, List.append_nil] at hsplit
  rw [readInteger?, hsplit]
  simp only [Json.Numeral.readMagnitude?_of_areDigits width h, hn, if_true]

theorem readInteger?_writeInteger {width : IntegerWidth} {n : Int} (h : width.holds n = true) :
    readInteger? width (writeInteger n) = some n := by
  have hdigits : ∀ (negative : Bool) (m : Nat), signed negative m = n →
      readInteger? width ((if negative then ['-'] else []) ++ digitsOf m) = some n := by
    rintro negative m rfl
    have hread := @readInteger?_of_areDigits width _ negative (areDigits_digitsOf m)
    rw [ofDigits_digitsOf] at hread
    exact hread h
  cases n with
  | ofNat n => exact hdigits false n rfl
  | negSucc n => exact hdigits true (n + 1) rfl

theorem holds_of_readInteger? {width : IntegerWidth} {text : List Char} {n : Int}
    (h : readInteger? width text = some n) : width.holds n = true := by
  simp only [readInteger?] at h
  split at h
  · cases h
  · split at h
    · cases h
      assumption
    · cases h

/-! ## Decimals -/

namespace Decimal

/-- The digits on both sides of the point: at least one in front of it, and `scale` behind. -/
theorem write_eq (d : Decimal) : ∃ whole places fraction,
    d.write = (if d.negative then ['-'] else []) ++ whole ++ fraction ∧ AreDigits whole ∧
      SpellsFraction places fraction ∧ places.length = d.scale ∧ ofDigits (whole ++ places) = d.coefficient := by
  have hall := areDigits_padded (d.scale + 1) d.coefficient
  have hlong : d.scale + 1 ≤ (padded (d.scale + 1) d.coefficient).length := by
    rw [length_padded_eq]
    exact Nat.le_max_left _ _
  have hvalue := ofDigits_padded (d.scale + 1) d.coefficient
  simp only [write]
  generalize padded (d.scale + 1) d.coefficient = digits at hall hlong hvalue ⊢
  have hplaces : (digits.drop (digits.length - d.scale)).length = d.scale := by
    rw [List.length_drop]
    omega
  have hwhole : AreDigits (digits.take (digits.length - d.scale)) := by
    refine ⟨?_, fun c hc => hall.all c (List.mem_of_mem_take hc)⟩
    rw [Ne, List.take_eq_nil_iff, not_or]
    exact ⟨by omega, hall.ne_nil⟩
  refine ⟨_, digits.drop (digits.length - d.scale), _, rfl, hwhole, ?_, hplaces, ?_⟩
  · split
    · rename_i hzero
      rw [List.length_eq_zero_iff.1 (hplaces.trans hzero)]
      exact .absent
    · rename_i hpos
      refine .behindPoint ⟨?_, fun c hc => hall.all c (List.mem_of_mem_drop hc)⟩
      exact fun hnil => hpos (hplaces.symm.trans (List.length_eq_zero_iff.2 hnil))
  · rw [List.take_append_drop, hvalue]

/-- The number as it is read: a zero has no sign. -/
def unsignZero (d : Decimal) : Decimal := { d with negative := d.negative && d.coefficient != 0 }

theorem units_unsignZero (d : Decimal) : d.unsignZero.units = d.units := Json.units_eq rfl rfl rfl

theorem read?_write (d : Decimal) : read? d.write = some d.unsignZero := by
  obtain ⟨whole, places, fraction, htext, hwhole, hfraction, hscale, hvalue⟩ := write_eq d
  obtain ⟨read, hread, hnegative, hcoefficient, hplaces⟩ :=
    Json.readPlain?_of_spells (w := ⟨d.negative, whole, places, none⟩) hwhole hfraction
      (hscale.trans_le d.scale_le) (hvalue.trans_lt d.coefficient_lt)
  have hsame : read = d.unsignZero := by
    cases read
    simp only [Json.Numeral.Written.coefficient, hvalue, hscale] at hnegative hcoefficient hplaces
    simp only [unsignZero, hnegative, hcoefficient, hplaces]
  rw [Decimal.read?, htext, hread, hsame]

end Decimal
end Number
end RecordFilter
