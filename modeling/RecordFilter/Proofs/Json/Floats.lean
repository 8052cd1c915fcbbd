import RecordFilter.Json.Writing
import RecordFilter.Proofs.Json.Numerals
import RecordFilter.Proofs.Number.Shortest

/-!
# RecordFilter.Proofs.Json.Floats

Floating-point numbers in JSON texts.

* `floatNumber_spec`: how a number is spelled, in one of three layouts.
* `read?_writeFloat`: the digits of a number are read back as that number.
* `isRegular_of_float?`: what a written number becomes is finite.
-/

namespace RecordFilter
namespace Json

open Number Numeral

/-- The number that is written, without its sign. -/
def Numeral.Written.magnitude (w : Written) : ℚ := w.coefficient * 10 ^ w.power

/-! ## Writing -/

theorem areDigits_digitsOf (n : Nat) : AreDigits (digitsOf n) :=
  ⟨digitsOf_ne_nil n, fun _ hc => isDigit_of_mem_digitsOf hc⟩

theorem areDigits_append {front back : List Char} (hfront : ∀ c ∈ front, isDigit c = true)
    (hback : AreDigits back) : AreDigits (front ++ back) := by
  refine ⟨List.append_ne_nil_of_right_ne_nil front hback.ne_nil, ?_⟩
  intro c hc
  rcases List.mem_append.1 hc with hc | hc
  · exact hfront c hc
  · exact hback.all c hc

/-- A number of whole steps, with a zero behind the point. -/
def wholeNumber (negative : Bool) (d n : Nat) : Written :=
  ⟨negative, digitsOf d ++ List.replicate n '0', ['0'], none⟩

theorem spells_wholeNumber (negative : Bool) (d n : Nat) :
    (wholeNumber negative d n).Spells
      ((if negative then ['-'] else []) ++ (Binary.positional (digitsOf d) n ++ ".0".toList)) := by
  have hzeros : ∀ c ∈ List.replicate n '0', isDigit c = true := fun c hc => (List.eq_of_mem_replicate hc) ▸ rfl
  refine ⟨⟨List.append_ne_nil_of_left_ne_nil (digitsOf_ne_nil d) _, ?_⟩, ".0".toList, [], ?_, ?_, .absent⟩
  · intro c hc
    rcases List.mem_append.1 hc with hc | hc
    · exact isDigit_of_mem_digitsOf hc
    · exact hzeros c hc
  · cases negative <;> simp [wholeNumber, Binary.positional]
  · exact .behindPoint ⟨List.cons_ne_nil _ _, fun c hc => (List.mem_singleton.1 hc) ▸ rfl⟩

theorem coefficient_wholeNumber (negative : Bool) (d n : Nat) :
    (wholeNumber negative d n).coefficient = d * 10 ^ (n + 1) := by
  rw [Written.coefficient, wholeNumber, List.append_assoc, ofDigits_append, ofDigits_digitsOf, ofDigits_append,
    ofDigits_replicate_zero, List.length_append, List.length_replicate]
  rfl

theorem power_wholeNumber (negative : Bool) (d n : Nat) : (wholeNumber negative d n).power = -1 := rfl

theorem magnitude_wholeNumber (negative : Bool) (d n : Nat) :
    (wholeNumber negative d n).magnitude = d * 10 ^ (n : Int) := by
  rw [Written.magnitude, coefficient_wholeNumber, power_wholeNumber]
  push_cast
  rw [zpow_neg_one, zpow_natCast, pow_succ]
  field_simp

/-- A number with places behind the point. -/
def pointNumber (negative : Bool) (d n : Nat) : Written :=
  let digits := List.replicate (n + 1 - (digitsOf d).length) '0' ++ digitsOf d
  ⟨negative, digits.take (digits.length - n), digits.drop (digits.length - n), none⟩

theorem spells_pointNumber (negative : Bool) (d : Nat) {n : Nat} (hn : 0 < n) :
    (pointNumber negative d n).Spells
      ((if negative then ['-'] else []) ++ Binary.positional (digitsOf d) (-(n : Int))) := by
  have hzeros : ∀ c ∈ List.replicate (n + 1 - (digitsOf d).length) '0', isDigit c = true :=
    fun c hc => (List.eq_of_mem_replicate hc) ▸ rfl
  have hdigits := areDigits_append hzeros (areDigits_digitsOf d)
  have hplaces : (- -(n : Int)).toNat = n := by omega
  rw [Binary.positional, hplaces, if_neg (Nat.ne_of_gt hn), pointNumber]
  have hlength : n + 1 ≤ (List.replicate (n + 1 - (digitsOf d).length) '0' ++ digitsOf d).length := by
    rw [List.length_append, List.length_replicate]
    omega
  generalize List.replicate (n + 1 - (digitsOf d).length) '0' ++ digitsOf d = digits at hdigits hlength ⊢
  refine ⟨⟨?_, fun c hc => hdigits.all c (List.mem_of_mem_take hc)⟩,
    '.' :: digits.drop (digits.length - n), [], ?_, .behindPoint ⟨?_, fun c hc =>
      hdigits.all c (List.mem_of_mem_drop hc)⟩, .absent⟩
  · rw [ne_eq, List.take_eq_nil_iff]
    exact not_or.2 ⟨by omega, hdigits.ne_nil⟩
  · cases negative <;> simp
  · rw [ne_eq, List.drop_eq_nil_iff]
    omega

theorem isInteger_pointNumber (negative : Bool) (d : Nat) {n : Nat} (hn : 0 < n) :
    isInteger (pointNumber negative d n) = false := by
  rw [isInteger, Bool.and_eq_false_iff, List.isEmpty_eq_false_iff]
  refine .inl ?_
  rw [pointNumber, ne_eq, List.drop_eq_nil_iff, List.length_append, List.length_replicate]
  omega

theorem coefficient_pointNumber (negative : Bool) (d n : Nat) : (pointNumber negative d n).coefficient = d := by
  rw [Written.coefficient, pointNumber, List.take_append_drop, ofDigits_append, ofDigits_replicate_zero,
    ofDigits_digitsOf, zero_mul, zero_add]

theorem power_pointNumber (negative : Bool) (d n : Nat) : (pointNumber negative d n).power = -(n : Int) := by
  simp only [pointNumber, Written.power, exponentValue, List.length_drop, List.length_append,
    List.length_replicate]
  omega

theorem magnitude_pointNumber (negative : Bool) (d n : Nat) :
    (pointNumber negative d n).magnitude = d * 10 ^ (-(n : Int)) := by
  rw [Written.magnitude, coefficient_pointNumber, power_pointNumber]

theorem spellsSign_of_neg (e : Int) : SpellsSign (decide (e < 0)) [if e < 0 then '-' else '+'] := by
  by_cases he : e < 0
  · simpa [he] using SpellsSign.minus
  · simpa [he] using SpellsSign.plus

/-- One digit before the point, and an exponent. -/
def scientificNumber (negative : Bool) (d : Nat) (k : Int) : Written :=
  let e := k + (digitsOf d).length - 1
  ⟨negative, (digitsOf d).take 1, (digitsOf d).drop 1, some (decide (e < 0), digitsOf e.natAbs)⟩

theorem spells_scientificNumber (negative : Bool) (d : Nat) (k : Int) :
    (scientificNumber negative d k).Spells
      ((if negative then ['-'] else []) ++ scientific (digitsOf d) k) := by
  have hall := (areDigits_digitsOf d).all
  obtain ⟨c, rest, hcons, hc⟩ := (areDigits_digitsOf d).exists_cons
  rw [hcons] at hall
  simp only [scientificNumber, scientific, hcons]
  generalize k + ((c :: rest).length : Int) - 1 = e
  have hexponent := SpellsExponent.behindMark (.inl rfl) (spellsSign_of_neg e) (areDigits_digitsOf e.natAbs)
  have hwhole : AreDigits [c] := ⟨List.cons_ne_nil _ _, fun d hd => (List.mem_singleton.1 hd) ▸ hc⟩
  cases rest with
  | nil => exact ⟨hwhole, [], _, by cases negative <;> simp, .absent, hexponent⟩
  | cons r rest =>
    have hfraction : AreDigits (r :: rest) :=
      ⟨List.cons_ne_nil _ _, fun d hd => hall d (List.mem_cons_of_mem c hd)⟩
    exact ⟨hwhole, '.' :: r :: rest, _, by cases negative <;> simp, .behindPoint hfraction, hexponent⟩

theorem coefficient_scientificNumber (negative : Bool) (d : Nat) (k : Int) :
    (scientificNumber negative d k).coefficient = d := by
  rw [Written.coefficient, scientificNumber, List.take_append_drop, ofDigits_digitsOf]

theorem power_scientificNumber (negative : Bool) (d : Nat) (k : Int) :
    (scientificNumber negative d k).power = k := by
  have hlength : 0 < (digitsOf d).length := List.length_pos_iff.2 (digitsOf_ne_nil d)
  simp only [scientificNumber, Written.power, exponentValue, List.length_drop, ofDigits_digitsOf, signed,
    decide_eq_true_eq]
  split <;> omega

theorem magnitude_scientificNumber (negative : Bool) (d : Nat) (k : Int) :
    (scientificNumber negative d k).magnitude = d * 10 ^ k := by
  rw [Written.magnitude, coefficient_scientificNumber, power_scientificNumber]

/-- The digits of a number in the form that its size asks for. -/
def layoutNumber (plain : PlainPlaces) (negative : Bool) (d : Nat) (k : Int) : Written :=
  let places := k + (digitsOf d).length
  if plain.above < places ∧ places ≤ plain.upTo then
    if 0 ≤ k then wholeNumber negative d k.toNat else pointNumber negative d (-k).toNat
  else scientificNumber negative d k

theorem layoutNumber_cases (plain : PlainPlaces) (negative : Bool) (d : Nat) (k : Int) :
    (∃ n : Nat, k = n ∧ layoutNumber plain negative d k = wholeNumber negative d n ∧
        layout plain (digitsOf d) k = Binary.positional (digitsOf d) n ++ ".0".toList) ∨
      (∃ n : Nat, 0 < n ∧ k = -(n : Int) ∧ layoutNumber plain negative d k = pointNumber negative d n ∧
        layout plain (digitsOf d) k = Binary.positional (digitsOf d) (-(n : Int))) ∨
      (layoutNumber plain negative d k = scientificNumber negative d k ∧
        layout plain (digitsOf d) k = scientific (digitsOf d) k ∧
        ¬ (plain.above < k + (digitsOf d).length ∧ k + (digitsOf d).length ≤ plain.upTo)) := by
  rw [layoutNumber, layout]
  split
  · split
    · rename_i hk
      obtain ⟨n, rfl⟩ := Int.eq_ofNat_of_zero_le hk
      exact .inl ⟨n, rfl, rfl, rfl⟩
    · rename_i hk
      obtain ⟨n, rfl⟩ : ∃ n : Nat, k = -(n : Int) := ⟨(-k).toNat, by omega⟩
      exact .inr (.inl ⟨n, by omega, rfl, by rw [neg_neg, Int.toNat_natCast], rfl⟩)
  · rename_i hplaces
    exact .inr (.inr ⟨rfl, rfl, hplaces⟩)

theorem layoutNumber_spec (plain : PlainPlaces) (negative : Bool) (d : Nat) (k : Int) :
    (layoutNumber plain negative d k).Spells
        ((if negative then ['-'] else []) ++ layout plain (digitsOf d) k) ∧
      (layoutNumber plain negative d k).negative = negative ∧
      isInteger (layoutNumber plain negative d k) = false ∧
      (layoutNumber plain negative d k).magnitude = d * 10 ^ k := by
  rcases layoutNumber_cases plain negative d k with ⟨n, rfl, hw, ht⟩ | ⟨n, hn, rfl, hw, ht⟩ | ⟨hw, ht, -⟩
  · rw [hw, ht]
    exact ⟨spells_wholeNumber negative d n, rfl, rfl, magnitude_wholeNumber negative d n⟩
  · rw [hw, ht]
    have hspells := spells_pointNumber negative d hn
    exact ⟨hspells, rfl, isInteger_pointNumber negative d hn, magnitude_pointNumber negative d n⟩
  · rw [hw, ht]
    exact ⟨spells_scientificNumber negative d k, rfl, Bool.and_false _, magnitude_scientificNumber negative d k⟩

/-- The digits that a number of a format is written with. -/
def floatNumber (f : Format) (plain : PlainPlaces) (negative : Bool) (m : Nat) (e : Int) : Written :=
  if m = 0 then ⟨negative, ['0'], ['0'], none⟩
  else layoutNumber plain negative (Binary.shortest f .even m e).1 (Binary.shortest f .even m e).2

variable {f : Format} {m : Nat} {e : Int}

theorem floatNumber_spec (f : Format) (plain : PlainPlaces) (negative : Bool) (m : Nat) (e : Int) :
    (floatNumber f plain negative m e).Spells (writeFloat plain (.finite negative m e : Binary f)) ∧
      (floatNumber f plain negative m e).negative = negative ∧
      isInteger (floatNumber f plain negative m e) = false := by
  have hzero : AreDigits ['0'] := ⟨List.cons_ne_nil _ _, fun c hc => (List.mem_singleton.1 hc) ▸ rfl⟩
  rw [floatNumber, writeFloat]
  split
  · exact ⟨⟨hzero, ".0".toList, [], by cases negative <;> rfl, .behindPoint hzero, .absent⟩, rfl, rfl⟩
  · obtain ⟨hspells, hnegative, hinteger, -⟩ := layoutNumber_spec plain negative
      (Binary.shortest f .even m e).1 (Binary.shortest f .even m e).2
    exact ⟨hspells, hnegative, hinteger⟩

/-- As a floating-point literal a number has the sign that is written. -/
theorem exists_isCanonical_of_spells {w : Written} {text : List Char} (hf : f.IsProper) (h : w.Spells text) :
    ∃ x, Binary.read? f text = some x ∧ Binary.IsCanonical w.negative x :=
  ⟨_, read?_of_spells f h, Binary.isCanonical_ofDecimal hf _ _ _⟩

/-- A number is read back from the digits that it is written with. -/
theorem read?_writeFloat (hf : f.IsProper) (plain : PlainPlaces) (negative : Bool)
    (hs : Binary.IsStandard f m e) :
    Binary.read? f (writeFloat plain (.finite negative m e : Binary f)) = some (.finite negative m e) := by
  obtain ⟨hspells, hnegative, -⟩ := floatNumber_spec f plain negative m e
  rw [read?_of_spells f hspells, hnegative]
  rcases Nat.eq_zero_or_pos m with rfl | hm
  · obtain rfl : e = f.least := hs.normal.resolve_right (by
      rw [Nat.le_zero_eq]
      positivity)
    rfl
  · obtain ⟨d, k, hshortest, -, hround, -⟩ := Binary.shortest_spec hf .even hs hm
    have hw : floatNumber f plain negative m e = layoutNumber plain negative d k := by
      rw [floatNumber, if_neg (Nat.ne_of_gt hm), hshortest]
    have hmagnitude := (layoutNumber_spec plain negative d k).2.2.2
    rw [Written.magnitude, ← hw] at hmagnitude
    rw [← hmagnitude] at hround
    rw [Binary.ofDecimal_of_roundsTo hf negative hs hm hround]

/-! ## Reading -/

/-- A finite number whose mantissa and exponent are the ones that stand for it. -/
def IsRegular (x : Double) : Prop := ∃ negative m e, x = .finite negative m e ∧ Binary.IsStandard binary64 m e

/-- A regular number whose size is at most `2 ^ 64`. -/
def IsSmall (x : Double) : Prop :=
  ∃ negative m e, x = .finite negative m e ∧ Binary.IsStandard binary64 m e ∧ (m * 2 ^ e : ℚ) ≤ 2 ^ (64 : Int)

theorem IsSmall.isRegular {x : Double} (h : IsSmall x) : IsRegular x := by
  obtain ⟨negative, m, e, hx, hs, -⟩ := h
  exact ⟨negative, m, e, hx, hs⟩

theorem isSmall_ofRatio (negative : Bool) {n d : Nat} (hd : 0 < d) (h : (n / d : ℚ) ≤ 2 ^ (64 : Int)) :
    IsSmall (Binary.ofRatio binary64 negative n d) := by
  obtain ⟨m, e, hx, hs, hle⟩ := Binary.ofRatio_le_two_pow isProper_binary64 negative hd (by decide) (by decide) h
  exact ⟨negative, m, e, hx, hs, hle⟩

theorem isSmall_zero (negative : Bool) : IsSmall (Binary.zero binary64 negative) := by
  refine ⟨negative, 0, binary64.least, rfl, Binary.isStandard_zero isProper_binary64, ?_⟩
  rw [Nat.cast_zero, zero_mul]
  positivity

theorem binaryRatio_eq (m : Nat) (e : Int) :
    ((m * Nat.pow 2 e.toNat : Nat) : ℚ) / (Nat.pow 2 (-e).toNat : Nat) = m * 2 ^ e := by
  have h := Binary.scaleBy_eq m Nat.one_pos (-e)
  rw [Binary.scaleBy, neg_neg, Nat.one_mul, Nat.cast_one, div_one, zpow_neg, div_inv_eq_mul] at h
  exact h

theorem pos_of_toRatio? {x : Double} {negative : Bool} {n d : Nat} (h : x.toRatio? = some (negative, n, d)) :
    0 < d := by
  cases x with
  | nan => cases h
  | infinite => cases h
  | finite =>
    cases h
    exact Nat.pow_pos Nat.zero_lt_two

theorem isRegular_of_mul {a b : Double} {negative : Bool} {m : Nat} {e : Int}
    (h : Binary.mul a b = .finite negative m e) : IsRegular (.finite negative m e) := by
  rw [Binary.mul] at h
  split at h
  · rename_i signA numA denA signB numB denB ha hb
    have hd := Nat.mul_pos (pos_of_toRatio? ha) (pos_of_toRatio? hb)
    have hcanonical := Binary.isCanonical_ofRatio isProper_binary64 (signA != signB) (numA * numB) hd
    rw [h] at hcanonical
    cases hcanonical with
    | finite hs => exact ⟨_, m, e, rfl, hs⟩
  · cases h

/-- No power of ten that is divided by is below 1. -/
theorem power_cases {k : Nat} (hk : k ≤ powerLimit) :
    ∃ n d, (power k).toRatio? = some (false, n, d) ∧ 0 < d ∧ d ≤ n := by
  have hall : ∀ k ≤ powerLimit, ((power k).toRatio?.any fun (negative, n, d) => !negative && (0 < d && d ≤ n)) =
      true := by
    decide +kernel
  obtain ⟨⟨negative, n, d⟩, hratio, hle⟩ := (Option.any_eq_true _ _).1 (hall k hk)
  simp only [Bool.and_eq_true, Bool.not_eq_true', decide_eq_true_eq] at hle
  obtain ⟨rfl, hpos, hle⟩ := hle
  exact ⟨n, d, hratio, hpos, hle⟩

theorem isSmall_div_power {x : Double} {k : Nat} (hk : k ≤ powerLimit) (h : IsSmall x) :
    IsSmall (Binary.div x (power k)) := by
  obtain ⟨negative, m, e, rfl, -, hle⟩ := h
  obtain ⟨n, d, hratio, hd, hdn⟩ := power_cases hk
  rw [Binary.div, Binary.toRatio?, hratio]
  have hn : 0 < n := hd.trans_le hdn
  have hpow : 0 < Nat.pow 2 (-e).toNat := Nat.pow_pos Nat.zero_lt_two
  refine isSmall_ofRatio _ (Nat.mul_pos hpow hn) ?_
  have hvalue : ((m * Nat.pow 2 e.toNat * d : Nat) : ℚ) / (Nat.pow 2 (-e).toNat * n : Nat) =
      m * 2 ^ e * (d / n) := by
    rw [← binaryRatio_eq, Nat.cast_mul, Nat.cast_mul (Nat.pow 2 _), mul_div_mul_comm]
  have hone : (d / n : ℚ) ≤ 1 := (div_le_one (Nat.cast_pos.2 hn)).2 (Nat.cast_le.2 hdn)
  rw [hvalue]
  have hnonneg : (0 : ℚ) ≤ m * 2 ^ e := by positivity
  nlinarith

theorem isSmall_scaleDown (fuel : Nat) {x : Double} {e : Int} (he : e ≤ 0) (h : IsSmall x) :
    IsSmall (scaleDown fuel x e) := by
  induction fuel generalizing x e with
  | zero => exact isSmall_zero false
  | succ fuel ih =>
    rw [scaleDown]
    split
    · exact isSmall_div_power (by omega) h
    · exact ih (by omega) (isSmall_div_power le_rfl h)

theorem Scan.le_of_fits {s : Scan} {c : Char} (h : s.fits c = true) :
    s.significand * 10 + digitValue c ≤ significandLimit := by
  rw [Scan.fits, Bool.and_eq_true, decide_eq_true_eq] at h
  exact h.2

theorem significand_whole_le {s : Scan} (c : Char) (h : s.significand ≤ significandLimit) :
    (s.whole c).significand ≤ significandLimit := by
  rw [Scan.whole]
  split
  · rename_i hfits
    exact Scan.le_of_fits hfits
  · exact h

theorem significand_fraction_le {s : Scan} (c : Char) (h : s.significand ≤ significandLimit) :
    (s.fraction c).significand ≤ significandLimit := by
  rw [Scan.fraction]
  split
  · rename_i hfits
    exact Scan.le_of_fits hfits
  · exact h

theorem significand_scan_le (w : Written) : (scan w).significand ≤ significandLimit := by
  have hwhole : ∀ (digits : List Char) (s : Scan), s.significand ≤ significandLimit →
      (digits.foldl Scan.whole s).significand ≤ significandLimit := by
    intro digits
    induction digits with
    | nil => exact fun s h => h
    | cons c rest ih => exact fun s h => ih _ (significand_whole_le c h)
  have hfraction : ∀ (digits : List Char) (s : Scan), s.significand ≤ significandLimit →
      (digits.foldl Scan.fraction s).significand ≤ significandLimit := by
    intro digits
    induction digits with
    | nil => exact fun s h => h
    | cons c rest ih => exact fun s h => ih _ (significand_fraction_le c h)
  exact hfraction _ _ (hwhole _ _ (Nat.zero_le _))

theorem isRegular_of_scale? {n : Nat} {k : Int} {x : Double} (hn : n ≤ significandLimit)
    (h : scale? n k = some x) : IsRegular x := by
  have hsmall : IsSmall (Binary.ofNat binary64 n) := by
    refine isSmall_ofRatio false Nat.one_pos ?_
    rw [Nat.cast_one, div_one]
    have hlimit : significandLimit ≤ 2 ^ 64 := by decide
    exact_mod_cast hn.trans hlimit
  rw [scale?] at h
  split at h
  · cases h
    exact hsmall.isRegular
  split at h
  · cases h
    exact (isSmall_scaleDown 4 (by omega) hsmall).isRegular
  split at h
  · cases h
  split at h
  · rename_i hmul
    cases h
    exact isRegular_of_mul hmul
  · cases h

/-- The number that stands for a written one is finite. -/
theorem isRegular_of_float? {w : Written} {x : Double} (h : float? w = some x) : IsRegular x := by
  have hscan := significand_scan_le w
  rw [float?] at h
  split at h
  · exact isRegular_of_scale? hscan h
  · dsimp only at h
    split at h
    · exact isRegular_of_scale? hscan h
    · split at h
      · cases h
      · cases h
        exact (isSmall_zero false).isRegular

/-- A number that is not kept as an integer has its sign as a floating-point number. -/
theorem finite_of_value? {w : Written} {x : Double} (h : value? w = some (.float x)) :
    ∃ m e, x = .finite w.negative m e ∧ Binary.IsStandard binary64 m e := by
  rcases value?_cases h with ⟨n, -, hv⟩ | ⟨y, -, hy, hv⟩
  · cases hv
  · obtain ⟨negative, m, e, rfl, hs⟩ := isRegular_of_float? hy
    cases hv
    exact ⟨m, e, rfl, hs⟩

end Json
end RecordFilter
