import RecordFilter.Proofs.Json.Decimals
import RecordFilter.Proofs.Json.Floats

/-!
# RecordFilter.Proofs.Json.ShortNumbers

Numbers of few digits. All their digits find a place in the significand, which is divided by the exact power
of ten, so that they are rounded once; and they are the shortest digits of what they are rounded to.

* `float_of_isShort`: the number that is kept is the nearest one.
* `exists_written_of_isShort`: it is written with the digits it was read from, up to zeros and the place of
  the point.
-/

namespace RecordFilter
namespace Json

open Number Numeral

/-- No exponent, up to 22 places behind the point, and digits below `2 ^ 52`, which are all numbers of 15
digits and some of 16. -/
structure Numeral.Written.IsShort (w : Written) : Prop where
  exponent : w.exponent = none
  places : w.fraction.length ≤ 22
  digits : w.coefficient < 2 ^ 52

variable {w : Written}

theorem Numeral.Written.IsShort.power_eq (h : w.IsShort) : w.power = -(w.fraction.length : Int) := by
  rw [Written.power, h.exponent, exponentValue, zero_sub]

/-! ## Significand -/

theorem scanWhole_eq {digits : List Char} (h : ofDigits digits ≤ significandLimit) :
    scanWhole digits = ⟨ofDigits digits, 0, false⟩ := by
  induction digits using List.reverseRecOn with
  | nil => rfl
  | append_singleton digits c ih =>
    rw [ofDigits_append_singleton] at h ⊢
    have hscan := ih (by omega)
    rw [scanWhole] at hscan ⊢
    rw [List.foldl_append, hscan, List.foldl_cons, List.foldl_nil, Scan.whole, if_pos]
    · rw [Nat.mul_comm]
    · simp only [Scan.fits, Bool.not_false, Bool.true_and, decide_eq_true_eq]
      omega

theorem foldl_fraction {whole digits : List Char} (h : ofDigits (whole ++ digits) ≤ significandLimit) :
    digits.foldl Scan.fraction ⟨ofDigits whole, 0, false⟩ =
      ⟨ofDigits (whole ++ digits), -(digits.length : Int), false⟩ := by
  induction digits using List.reverseRecOn with
  | nil => simp
  | append_singleton digits c ih =>
    rw [← List.append_assoc, ofDigits_append_singleton] at h ⊢
    have hscan := ih (by omega)
    rw [List.foldl_append, hscan, List.foldl_cons, List.foldl_nil, Scan.fraction, if_pos]
    · rw [Nat.mul_comm, List.length_append, List.length_singleton]
      simp only [Scan.mk.injEq, and_true, true_and]
      omega
    · simp only [Scan.fits, Bool.not_false, Bool.true_and, decide_eq_true_eq]
      omega

theorem scan_of_isShort (h : w.IsShort) : scan w = ⟨w.coefficient, w.power, false⟩ := by
  have hlimit : w.coefficient ≤ significandLimit := h.digits.le.trans (by decide)
  have hsplit := ofDigits_append w.whole w.fraction
  have hpos : 0 < 10 ^ w.fraction.length := by positivity
  have hwhole : ofDigits w.whole ≤ significandLimit := by
    rw [Written.coefficient, hsplit] at hlimit
    nlinarith
  rw [scan, scanWhole_eq hwhole, h.power_eq]
  exact foldl_fraction hlimit

/-! ## Scaling -/

/-- These powers of ten are numbers of the format. -/
theorem power_exact {n : Nat} (hn : n ≤ 22) :
    ∃ d, (power n).toRatio? = some (false, 10 ^ n * d, d) ∧ 0 < d := by
  have hall : ∀ n ≤ 22, ((power n).toRatio?.any fun (negative, a, d) => !negative && (a = 10 ^ n * d && 0 < d)) =
      true := by
    decide +kernel
  obtain ⟨⟨negative, a, d⟩, hratio, hle⟩ := (Option.any_eq_true _ _).1 (hall n hn)
  simp only [Bool.and_eq_true, Bool.not_eq_true', decide_eq_true_eq] at hle
  obtain ⟨rfl, rfl, hpos⟩ := hle
  exact ⟨d, hratio, hpos⟩

/-- So are the natural numbers of as many bits as the mantissa has. -/
theorem ofNat_exact {c : Nat} (hc : 0 < c) (hlt : c < 2 ^ 53) :
    ∃ m e, Binary.ofNat binary64 c = .finite false m e ∧ (m * 2 ^ e : ℚ) = c := by
  have hlow := Nat.log2_self_le (Nat.ne_of_gt hc)
  have hhigh := Nat.lt_log2_self (n := c)
  have hlog : c.log2 < 53 := (Nat.log2_lt (Nat.ne_of_gt hc)).2 hlt
  have hprecision : binary64.precision = 53 := rfl
  obtain ⟨k, hk⟩ : ∃ k : Nat, c.log2 + k = binary64.precision - 1 := ⟨52 - c.log2, by omega⟩
  have hvalue : ((c * 2 ^ k : Nat) * 2 ^ (-(k : Int)) : ℚ) = c := by
    rw [zpow_neg, zpow_natCast]
    push_cast
    field_simp
  have hs : Binary.IsStandard binary64 (c * 2 ^ k) (-(k : Int)) := by
    have hpos : 0 < 2 ^ k := by positivity
    have hleast : binary64.least = -1074 := rfl
    have hgreatest : binary64.greatest = 971 := rfl
    refine ⟨?_, by omega, by omega, .inr ?_⟩
    · calc c * 2 ^ k < 2 ^ (c.log2 + 1) * 2 ^ k := Nat.mul_lt_mul_of_pos_right hhigh hpos
        _ = 2 ^ binary64.precision := by
            rw [← Nat.pow_add, Nat.add_right_comm, hk]
            rfl
    · calc 2 ^ (binary64.precision - 1) = 2 ^ c.log2 * 2 ^ k := by
            rw [← Nat.pow_add, hk]
        _ ≤ c * 2 ^ k := Nat.mul_le_mul_right _ hlow
  refine ⟨c * 2 ^ k, -(k : Int), ?_, hvalue⟩
  refine Binary.ofRatio_of_roundsTo isProper_binary64 false hs (by positivity) Nat.one_pos ?_
  rw [Nat.cast_one, div_one]
  have hself := Binary.roundsTo_self binary64 (c * 2 ^ k) (-(k : Int))
  rwa [hvalue] at hself

theorem ofDecimal_of_places (negative : Bool) {c n : Nat} (hc : 0 < c) (hlt : c < 2 ^ 52) (hn : n ≤ 22) :
    Binary.ofDecimal binary64 negative c (-(n : Int)) =
      Binary.ofRatio binary64 negative (c * Nat.pow 10 (-(n : Int)).toNat) (Nat.pow 10 (- -(n : Int)).toNat) := by
  have hcount : digitCount c ≤ 16 := digitCount_le_of_lt (hlt.trans (by decide))
  have hlarge : ¬ binary64.greatest + binary64.precision < -(n : Int) + digitCount c := by
    rw [binary64]
    dsimp only
    omega
  have hsmall : ¬ -(n : Int) + digitCount c < binary64.least := by
    rw [binary64]
    dsimp only
    omega
  rw [Binary.ofDecimal]
  simp only [if_neg (Nat.ne_of_gt hc), if_neg hlarge, if_neg hsmall]

theorem scale?_of_places {c n : Nat} (hc : 0 < c) (hlt : c < 2 ^ 52) (hn : 0 < n) (hn' : n ≤ 22) :
    scale? c (-(n : Int)) = some (Binary.ofDecimal binary64 false c (-(n : Int))) := by
  obtain ⟨m, e, hnat, hvalue⟩ := ofNat_exact hc (hlt.trans (by decide))
  obtain ⟨d, hpower, hd⟩ := power_exact hn'
  have hten : 0 < Nat.pow 10 (- -(n : Int)).toNat := Nat.pow_pos (by decide)
  have htwo : 0 < Nat.pow 2 (-e).toNat := Nat.pow_pos Nat.zero_lt_two
  have hlimit : -(powerLimit : Int) ≤ -(n : Int) := by
    rw [powerLimit]
    omega
  rw [scale?, if_neg (Nat.ne_of_gt hc), if_pos (by omega), scaleDown, if_pos hlimit, hnat, neg_neg,
    Int.toNat_natCast, Binary.div, hpower, Binary.toRatio?, ofDecimal_of_places false hc hlt hn']
  refine congrArg some (Binary.ofRatio_congr binary64 false (Nat.mul_pos htwo (by positivity)) hten ?_)
  rw [Binary.decimalRatio_eq, ← hvalue, ← binaryRatio_eq, Nat.cast_mul, Nat.cast_mul (Nat.pow 2 _),
    mul_div_mul_comm, zpow_neg, zpow_natCast]
  have hd' : (d : ℚ) ≠ 0 := Nat.cast_ne_zero.2 (Nat.ne_of_gt hd)
  push_cast
  field_simp

/-! ## Value -/

theorem negate_ofRatio (negative : Bool) (n d : Nat) :
    negate negative (Binary.ofRatio binary64 false n d) = Binary.ofRatio binary64 negative n d := by
  rcases Nat.eq_zero_or_pos n with rfl | hn
  · rfl
  · rw [Binary.ofRatio_eq false hn rfl rfl, Binary.ofRatio_eq negative hn rfl rfl]
    split_ifs <;> rfl

theorem negate_ofDecimal (negative : Bool) (c : Nat) (k : Int) :
    negate negative (Binary.ofDecimal binary64 false c k) = Binary.ofDecimal binary64 negative c k := by
  rw [Binary.ofDecimal, Binary.ofDecimal]
  split_ifs
  · rfl
  · rfl
  · rfl
  · exact negate_ofRatio negative _ _

theorem integer?_ne_none (h : w.IsShort) (hc : 0 < w.coefficient) (hplaces : w.fraction = []) :
    integer? w ≠ none := by
  have hdigits := h.digits
  rw [Written.coefficient, hplaces, List.append_nil] at hc hdigits
  have hinteger : isInteger w = true := by
    rw [isInteger, hplaces, h.exponent]
    rfl
  have hsigned : ofDigits w.whole ≤ 0x8000000000000000 := hdigits.le.trans (by decide)
  have hunsigned : ofDigits w.whole ≤ significandLimit := hdigits.le.trans (by decide)
  rw [integer?]
  simp only [hinteger, Bool.not_true, Bool.false_eq_true, if_false, hc, hsigned, hunsigned, and_self, if_true]
  split <;> simp

/-- The number that is kept is the nearest one to the digits. -/
theorem float_of_isShort {x : Double} (h : w.IsShort) (hx : value? w = some (.float x)) :
    x = Binary.ofDecimal binary64 w.negative w.coefficient w.power := by
  rcases value?_cases hx with ⟨n, -, hv⟩ | ⟨y, hinteger, hy, hv⟩
  · cases hv
  · cases hv
    have hscan := scan_of_isShort h
    rw [float?, h.exponent] at hy
    simp only [hscan] at hy
    rcases Nat.eq_zero_or_pos w.coefficient with hzero | hc
    · rw [hzero] at hy ⊢
      cases hy
      rfl
    · have hn : 0 < w.fraction.length := by
        rw [List.length_pos_iff]
        exact fun hplaces => integer?_ne_none h hc hplaces hinteger
      rw [h.power_eq, scale?_of_places hc h.digits hn h.places, Option.some.injEq] at hy
      rw [← hy, ← h.power_eq, negate_ofDecimal]

/-! ## Digits -/

theorem two_pow_least_lt {k : Int} (hk : -22 ≤ k) : (2 : ℚ) ^ binary64.least < 10 ^ k :=
  calc (2 : ℚ) ^ binary64.least < 2 ^ (-88 : Int) := zpow_lt_zpow_right₀ one_lt_two (by decide)
    _ ≤ 10 ^ (-22 : Int) := by norm_num
    _ ≤ 10 ^ k := zpow_le_zpow_right₀ (by norm_num) hk

theorem magnitude_le_of_isShort (h : w.IsShort) : (w.coefficient * 10 ^ w.power : ℚ) ≤ 2 ^ (52 : Int) := by
  have hpower := h.power_eq
  have hone : (10 : ℚ) ^ w.power ≤ 1 := zpow_le_one_of_nonpos₀ (by norm_num) (by omega)
  have hdigits : (w.coefficient : ℚ) ≤ 2 ^ (52 : Int) := by exact_mod_cast h.digits.le
  have hnonneg : (0 : ℚ) ≤ w.coefficient := Nat.cast_nonneg _
  nlinarith

theorem roundsTo_of_isShort (h : w.IsShort) (hc : 0 < w.coefficient) :
    ∃ m e, Binary.ofDecimal binary64 w.negative w.coefficient w.power = .finite w.negative m e ∧
      Binary.IsStandard binary64 m e ∧ 0 < m ∧ Binary.RoundsTo binary64 m e (w.coefficient * 10 ^ w.power) := by
  have hpower := h.power_eq
  have hplaces := h.places
  have hvalue := Binary.decimalRatio_eq w.coefficient w.power
  have hten : 0 < Nat.pow 10 (-w.power).toNat := Nat.pow_pos (by decide)
  have hnum : 0 < w.coefficient * Nat.pow 10 w.power.toNat := Nat.mul_pos hc (Nat.pow_pos (by decide))
  have hdecimal : Binary.ofDecimal binary64 w.negative w.coefficient w.power =
      Binary.ofRatio binary64 w.negative (w.coefficient * Nat.pow 10 w.power.toNat)
        (Nat.pow 10 (-w.power).toNat) := by
    rw [hpower]
    exact ofDecimal_of_places w.negative hc h.digits hplaces
  obtain ⟨m, e, hfinite, hs, -⟩ := Binary.ofRatio_le_two_pow isProper_binary64 w.negative hten (by decide)
    (by decide) (hvalue ▸ magnitude_le_of_isShort h)
  have hround := Binary.roundsTo_ofRatio isProper_binary64 hnum hten hfinite
  rw [hvalue] at hround
  refine ⟨m, e, hdecimal.trans hfinite, hs, ?_, hround⟩
  -- zero is nearest only to what is below the smallest unit
  by_contra hm
  obtain rfl : m = 0 := by omega
  obtain rfl : e = binary64.least := hs.normal.resolve_right (by decide)
  have hhigh := hround.high
  have hunit : (0 : ℚ) < 2 ^ binary64.least := by positivity
  have hleast := @two_pow_least_lt w.power (by omega)
  have hone : (1 : ℚ) ≤ w.coefficient := Nat.one_le_cast.2 hc
  have hpos : (0 : ℚ) < 10 ^ w.power := by positivity
  rw [Nat.cast_zero, zero_add, div_le_iff₀ hunit] at hhigh
  nlinarith

theorem fitsDecimal_of_isShort (h : w.IsShort) : w.FitsDecimal := by
  have hplaces := h.places
  have hpower := h.power_eq
  refine ⟨h.digits.trans (by decide), ?_, .inl h.exponent⟩
  rw [scaleLimit]
  omega

/-- Digits of a number of moderate size, in the form that its size asks for. -/
theorem fitsDecimal_layoutNumber (negative : Bool) {d : Nat} {k : Int} (hd : 0 < d) (hlt : d < 2 ^ 52)
    (hk : -22 ≤ k) (hsize : (d * 10 ^ k : ℚ) ≤ 2 ^ (52 : Int)) :
    (layoutNumber doublePlaces negative d k).FitsDecimal := by
  have hdigits : d < coefficientBound := hlt.trans (by decide)
  have hlimit : -(scaleLimit : Int) ≤ -22 := by decide
  rcases layoutNumber_cases doublePlaces negative d k with ⟨n, rfl, hw, -⟩ | ⟨n, hn, rfl, hw, -⟩ | ⟨hw, -, hplaces⟩
  · rw [hw]
    refine ⟨?_, ?_, .inl rfl⟩
    · have hle : d * 10 ^ n ≤ 2 ^ 52 := by exact_mod_cast hsize
      rw [coefficient_wholeNumber, Nat.pow_succ, ← Nat.mul_assoc]
      exact (Nat.mul_le_mul_right 10 hle).trans_lt (by decide)
    · rw [power_wholeNumber]
      decide
  · rw [hw]
    refine ⟨?_, ?_, .inl rfl⟩
    · rwa [coefficient_pointNumber]
    · rw [power_pointNumber]
      omega
  · -- the form with an exponent is left for numbers below 1
    have hfrom := (Binary.decimal_bounds hd k).1.trans hsize
    have hless : (2 : ℚ) ^ (52 : Int) < 10 ^ (16 : Int) := by norm_num
    have hcount := (zpow_lt_zpow_iff_right₀ (by norm_num)).1 (hfrom.trans_lt hless)
    rw [digitCount_of_pos hd] at hcount
    have hdown : k + ((digitsOf d).length : Int) - 1 < 0 := by
      simp only [doublePlaces] at hplaces
      omega
    rw [hw]
    refine ⟨?_, ?_, .inr ⟨digitsOf (k + ((digitsOf d).length : Int) - 1).natAbs, ?_⟩⟩
    · rwa [coefficient_scientificNumber]
    · rw [power_scientificNumber]
      omega
    · rw [scientificNumber, decide_eq_true hdown]

/-- The number that is kept is written with the digits it was read from, up to zeros and the place of the
point. -/
theorem exists_written_of_isShort {x : Double} (h : w.IsShort) (hx : value? w = some (.float x)) :
    ∃ u : Written, u.Spells (writeFloat doublePlaces x) ∧ u.negative = w.negative ∧ u.magnitude = w.magnitude ∧
      u.FitsDecimal := by
  rw [float_of_isShort h hx]
  rcases Nat.eq_zero_or_pos w.coefficient with hzero | hc
  · rw [hzero]
    obtain ⟨hspells, hsign, -⟩ := floatNumber_spec binary64 doublePlaces w.negative 0 binary64.least
    have hdigits : (floatNumber binary64 doublePlaces w.negative 0 binary64.least).coefficient = 0 := rfl
    have hpower : (floatNumber binary64 doublePlaces w.negative 0 binary64.least).power = -1 := rfl
    refine ⟨floatNumber binary64 doublePlaces w.negative 0 binary64.least, hspells, hsign, ?_, ?_⟩
    · rw [Written.magnitude, Written.magnitude, hzero, hdigits, Nat.cast_zero, zero_mul, zero_mul]
    · refine ⟨?_, ?_, .inl rfl⟩
      · rw [hdigits]
        decide
      · rw [hpower]
        decide
  · obtain ⟨m, e, hfinite, hs, hm, hround⟩ := roundsTo_of_isShort h hc
    have hpower := h.power_eq
    have hplaces := h.places
    have hratio := Binary.ratio_lt_one hs hround h.digits (two_pow_least_lt (by omega))
    obtain ⟨d, j, hshortest, hd⟩ := Binary.shortest_of_roundsTo isProper_binary64 .even hs hm hratio hround
    have hw : floatNumber binary64 doublePlaces w.negative m e =
        layoutNumber doublePlaces w.negative d (w.power + j) := by
      rw [floatNumber, if_neg (Nat.ne_of_gt hm), hshortest]
    obtain ⟨hspells, hsign, -⟩ := floatNumber_spec binary64 doublePlaces w.negative m e
    have hvalue : (d * 10 ^ (w.power + j) : ℚ) = w.coefficient * 10 ^ w.power := by
      rw [zpow_add₀ (by norm_num), zpow_natCast, mul_left_comm, ← hd]
      push_cast
      ring
    rw [hfinite]
    refine ⟨_, hspells, hsign, ?_, ?_⟩
    · rw [hw, (layoutNumber_spec doublePlaces w.negative d (w.power + j)).2.2.2, hvalue]
      rfl
    · have hdpos : 0 < d := Nat.pos_of_mul_pos_right (hd.symm ▸ hc)
      have hdlt : d < 2 ^ 52 := (Nat.le_mul_of_pos_right d (by positivity)).trans_lt (hd.symm ▸ h.digits)
      rw [hw]
      exact fitsDecimal_layoutNumber w.negative hdpos hdlt (by omega) (hvalue ▸ magnitude_le_of_isShort h)

end Json
end RecordFilter
