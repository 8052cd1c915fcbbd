import RecordFilter.Number.BinaryText
import RecordFilter.Proofs.Number.Digits
import RecordFilter.Proofs.Number.Rounding

/-!
# RecordFilter.Proofs.Number.Shortest

The shortest digits of a number.

* `roundsTo_of_candidate`: what is tried at a power of ten rounds to the number.
* `shortest_spec`: something is found before the powers of ten run out, and at no larger power.
* `ofDecimal_of_roundsTo`: what is found is read as the number.
* `shortest_of_roundsTo`: few enough digits that round to a number are its shortest digits.
-/

namespace RecordFilter
namespace Number
namespace Binary

variable {f : Format} {tie : Tie} {m d : Nat} {e k : Int}

/-! ## One power of ten -/

/-- The unit of the number in terms of the power of ten. -/
def ratio (e k : Int) : ℚ := 2 ^ e / 10 ^ k

theorem ratio_pos (e k : Int) : 0 < ratio e k := by
  rw [ratio]
  positivity

theorem two_div_unit (e k : Int) :
    ((Nat.pow 2 e.toNat * Nat.pow 10 (-k).toNat : Nat) : ℚ) /
      (4 * Nat.pow 10 k.toNat * Nat.pow 2 (-e).toNat : Nat) = ratio e k / 4 := by
  rw [ratio]
  rcases Int.eq_nat_or_neg e with ⟨i, rfl | rfl⟩ <;> rcases Int.eq_nat_or_neg k with ⟨j, rfl | rfl⟩ <;>
    simp only [Nat.pow_eq, Int.toNat_natCast, Int.toNat_neg_natCast, neg_neg, pow_zero, mul_one, one_mul,
      zpow_neg, zpow_natCast, Nat.cast_mul, Nat.cast_pow, Nat.cast_ofNat, Nat.cast_one] <;>
    field_simp

/-- A multiple of `10 ^ k` that is `r` below or above the number, in terms of `10 ^ k`. -/
def FitsBelow (f : Format) (m : Nat) (e k : Int) (r : ℚ) : Prop :=
  r < gap f m e * ratio e k ∨ r = gap f m e * ratio e k ∧ m % 2 = 0

def FitsAbove (m : Nat) (e k : Int) (r : ℚ) : Prop := r < ratio e k / 2 ∨ r = ratio e k / 2 ∧ m % 2 = 0

/-- Both fit and the upper one is nearer, or as near and preferred. -/
def PrefersAbove (tie : Tie) (d : Nat) (r : ℚ) : Prop := 1 / 2 < r ∨ r = 1 / 2 ∧ (tie = .up ∨ d % 2 = 1)

/-- The choice between the two multiples of `10 ^ k` beside a number that is `r` above the lower one. -/
theorem candidate?_cases (f : Format) (tie : Tie) (m : Nat) (e k : Int) :
    ∃ (d : Nat) (r : ℚ), 0 ≤ r ∧ r < 1 ∧ m * ratio e k = d + r ∧
      ((candidate? f tie m e k = some d ∧ FitsBelow f m e k r ∧
          (¬ FitsAbove m e k (1 - r) ∨ ¬ PrefersAbove tie d r)) ∨
        (candidate? f tie m e k = some (d + 1) ∧ FitsAbove m e k (1 - r) ∧
          ¬ (FitsBelow f m e k r ∧ (¬ FitsAbove m e k (1 - r) ∨ ¬ PrefersAbove tie d r))) ∨
        (candidate? f tie m e k = none ∧ ¬ FitsAbove m e k (1 - r) ∧
          ¬ (FitsBelow f m e k r ∧ (¬ FitsAbove m e k (1 - r) ∨ ¬ PrefersAbove tie d r)))) := by
  have hscaled := two_div_unit e k
  have hunit : 0 < 4 * Nat.pow 10 k.toNat * Nat.pow 2 (-e).toNat := by
    simp only [Nat.pow_eq]
    positivity
  generalize hc : candidate? f tie m e k = c
  rw [candidate?] at hc
  generalize Nat.pow 2 e.toNat * Nat.pow 10 (-k).toNat = two at hscaled hc
  generalize 4 * Nat.pow 10 k.toNat * Nat.pow 2 (-e).toNat = unit at hscaled hunit hc
  have htwo : (two : ℚ) = ratio e k / 4 * unit := (div_eq_iff (Nat.cast_pos.2 hunit).ne').1 hscaled
  obtain ⟨r, hnonneg, hlt, hx, hr⟩ := exists_remainder (4 * m * two) hunit
  have hrest : ((unit - 4 * m * two % unit : Nat) : ℚ) = (1 - r) * unit := by
    rw [Nat.cast_sub (Nat.mod_lt _ hunit).le, hr]
    ring
  have hbelow : ((if m = Nat.pow 2 (f.precision - 1) ∧ f.least < e then two else 2 * two : Nat) : ℚ) =
      gap f m e * ratio e k * unit := by
    rw [gap]
    simp only [Nat.pow_eq]
    split_ifs <;> push_cast <;> rw [htwo] <;> ring
  have habove : ((2 * two : Nat) : ℚ) = ratio e k / 2 * unit := by
    push_cast
    rw [htwo]
    ring
  refine ⟨4 * m * two / unit, r, hnonneg, hlt, ?_, ?_⟩
  · rw [← hx]
    push_cast
    rw [mul_div_assoc, hscaled]
    ring
  · simp only [count_lt_iff hunit hr hbelow, count_eq_iff hunit hr hbelow, count_lt_iff hunit hrest habove,
      count_eq_iff hunit hrest habove, half_lt_iff hunit hr, eq_comm (a := unit), eq_half_iff hunit hr] at hc
    split_ifs at hc with hlow hhigh
    · exact .inl ⟨hc.symm, hlow⟩
    · exact .inr (.inl ⟨hc.symm, hhigh, hlow⟩)
    · exact .inr (.inr ⟨hc.symm, hhigh, hlow⟩)

theorem scaled_eq (d : Nat) (e k : Int) : (d * 10 ^ k / 2 ^ e : ℚ) = d / ratio e k := by
  rw [ratio]
  field_simp

theorem roundsTo_below_iff {r : ℚ} (h : m * ratio e k = d + r) (hr : 0 ≤ r) :
    RoundsTo f m e (d * 10 ^ k) ↔ FitsBelow f m e k r := by
  have hpos := ratio_pos e k
  have hd : (d : ℚ) = (m - r / ratio e k) * ratio e k := by
    field_simp
    linarith
  have hnonneg : 0 ≤ r / ratio e k := by positivity
  rw [RoundsTo, scaled_eq, hd, mul_div_assoc, div_self hpos.ne', mul_one, FitsBelow, ← div_lt_iff₀ hpos,
    ← div_eq_iff hpos.ne']
  constructor
  · intro hround
    rcases lt_or_eq_of_le (show r / ratio e k ≤ gap f m e by linarith [hround.low]) with hlt | heq
    · exact .inl hlt
    · exact .inr ⟨heq, hround.lowTie (by rw [heq])⟩
  · intro hfits
    refine ⟨?_, fun heq => ?_, by linarith, fun heq => by linarith⟩
    · rcases hfits with hlt | ⟨heq, -⟩ <;> linarith
    · rcases hfits with hlt | ⟨-, heven⟩
      · linarith
      · exact heven

theorem roundsTo_above_iff {r : ℚ} (h : m * ratio e k = d + r) (hr : r < 1) :
    RoundsTo f m e ((d + 1 : Nat) * 10 ^ k) ↔ FitsAbove m e k (1 - r) := by
  have hpos := ratio_pos e k
  have hd : ((d + 1 : Nat) : ℚ) = (m + (1 - r) / ratio e k) * ratio e k := by
    push_cast
    field_simp
    linarith
  have hone : 0 < (1 - r) / ratio e k := div_pos (by linarith) hpos
  have hgap := gap_pos f m e
  rw [RoundsTo, scaled_eq, hd, mul_div_assoc, div_self hpos.ne', mul_one, FitsAbove, ← one_div_mul_eq_div 2,
    ← div_lt_iff₀ hpos, ← div_eq_iff hpos.ne']
  constructor
  · intro hround
    rcases lt_or_eq_of_le (show (1 - r) / ratio e k ≤ 1 / 2 by linarith [hround.high]) with hlt | heq
    · exact .inl hlt
    · exact .inr ⟨heq, hround.highTie (by rw [heq])⟩
  · intro hfits
    refine ⟨by linarith, fun heq => by linarith, ?_, fun heq => ?_⟩
    · rcases hfits with hlt | ⟨heq, -⟩ <;> linarith
    · rcases hfits with hlt | ⟨-, heven⟩
      · linarith
      · exact heven

/-- What is tried rounds to the number. -/
theorem roundsTo_of_candidate (h : candidate? f tie m e k = some d) : RoundsTo f m e (d * 10 ^ k) := by
  obtain ⟨d', r, hr, hlt, hd, ⟨hc, hfits, -⟩ | ⟨hc, hfits, -⟩ | ⟨hc, -, -⟩⟩ := candidate?_cases f tie m e k
  · rw [h] at hc
    cases hc
    exact (roundsTo_below_iff hd hr).2 hfits
  · rw [h] at hc
    cases hc
    exact (roundsTo_above_iff hd hlt).2 hfits
  · rw [h] at hc
    cases hc

/-- A power of ten far below the unit of the number has a multiple that rounds to it. -/
theorem exists_candidate (tie : Tie) (h : 4 ≤ ratio e k) : ∃ d, candidate? f tie m e k = some d := by
  obtain ⟨d, r, hr, hlt, hd, ⟨hc, -, -⟩ | ⟨hc, -, -⟩ | ⟨hc, habove, hnot⟩⟩ := candidate?_cases f tie m e k
  · exact ⟨d, hc⟩
  · exact ⟨d + 1, hc⟩
  · have hgap : 1 / 4 ≤ gap f m e := by
      rcases gap_cases f m e with hgap | ⟨-, -, hgap⟩ <;> rw [hgap]
      norm_num
    have hbelow : r < gap f m e * ratio e k := by nlinarith
    exact absurd ⟨.inl hbelow, .inl habove⟩ hnot

/-- Where the power of ten is above the unit, at most one multiple of it rounds to the number, and it is the
one that is tried. -/
theorem candidate?_of_roundsTo (tie : Tie) (hk : ratio e k < 1) (h : RoundsTo f m e (d * 10 ^ k)) :
    candidate? f tie m e k = some d := by
  have hpos := ratio_pos e k
  have hgap := gap_le f m e
  have hsmall : gap f m e * ratio e k ≤ ratio e k / 2 := by nlinarith
  have hround := h
  rw [RoundsTo, scaled_eq] at hround
  have hlow : (m - gap f m e) * ratio e k ≤ d := (le_div_iff₀ hpos).1 hround.low
  have hhigh : d ≤ (m + 1 / 2) * ratio e k := (div_le_iff₀ hpos).1 hround.high
  obtain ⟨n, r, hr, hlt, hn, hcases⟩ := candidate?_cases f tie m e k
  have hge : n ≤ d := by
    have hcast : (n : ℚ) < (d + 1 : Nat) := by
      push_cast
      linarith
    exact Nat.le_of_lt_succ (Nat.cast_lt.1 hcast)
  have hle : d ≤ n + 1 := by
    have hcast : (d : ℚ) < (n + 2 : Nat) := by
      push_cast
      linarith
    exact Nat.le_of_lt_succ (Nat.cast_lt.1 hcast)
  rcases Nat.eq_or_lt_of_le hge with rfl | hgt
  · have hfits := (roundsTo_below_iff hn hr).1 h
    have hnot : ¬ PrefersAbove tie n r := by
      rintro (hhalf | ⟨heq, -⟩) <;> linarith
    rcases hcases with ⟨hc, -, -⟩ | ⟨-, -, hneither⟩ | ⟨-, -, hneither⟩
    · exact hc
    · exact absurd ⟨hfits, .inr hnot⟩ hneither
    · exact absurd ⟨hfits, .inr hnot⟩ hneither
  · obtain rfl : d = n + 1 := by omega
    have hfits := (roundsTo_above_iff hn hlt).1 h
    push_cast at hlow hhigh
    have hprefers : PrefersAbove tie n r := .inl (by linarith)
    rcases hcases with ⟨-, -, hneither⟩ | ⟨hc, -, -⟩ | ⟨-, hnot, -⟩
    · exact absurd hneither (not_or.2 ⟨not_not.2 hfits, not_not.2 hprefers⟩)
    · exact hc
    · exact absurd hfits hnot

/-! ## Ever smaller powers of ten -/

theorem shortestFrom_spec {fuel : Nat} (h : ∃ j : Nat, j < fuel ∧ ∃ d, candidate? f tie m e (k - j) = some d) :
    ∃ (d : Nat) (j : Nat), shortestFrom f tie m e fuel k = (d, k - j) ∧ candidate? f tie m e (k - j) = some d ∧
      ∀ i < j, candidate? f tie m e (k - i) = none := by
  induction fuel generalizing k with
  | zero =>
    obtain ⟨j, hj, -⟩ := h
    omega
  | succ fuel ih =>
    rw [shortestFrom]
    cases hk : candidate? f tie m e k with
    | some d => exact ⟨d, 0, by simp, by simpa using hk, by simp⟩
    | none =>
      have hnext : ∃ j : Nat, j < fuel ∧ ∃ d, candidate? f tie m e (k - 1 - j) = some d := by
        obtain ⟨j, hj, d, hd⟩ := h
        cases j with
        | zero => simp [hk] at hd
        | succ j =>
          refine ⟨j, by omega, d, ?_⟩
          rwa [show k - 1 - (j : Int) = k - (j + 1 : Nat) by push_cast; ring]
      obtain ⟨d, j, hresult, hd, hnone⟩ := ih hnext
      have hj : k - 1 - (j : Int) = k - (j + 1 : Nat) := by
        push_cast
        ring
      rw [hj] at hresult hd
      refine ⟨d, j + 1, hresult, hd, ?_⟩
      intro i hi
      cases i with
      | zero => simpa using hk
      | succ i =>
        have hi' := hnone i (by omega)
        rwa [show k - 1 - (i : Int) = k - (i + 1 : Nat) by push_cast; ring] at hi'

/-! ## All powers of ten -/

/-- How many digits the number has before the point; below 1 the zeros behind the point count downwards. -/
def places (m : Nat) (e : Int) : Int :=
  if 0 ≤ e then digitCount (m * 2 ^ e.toNat)
  else (digitCount (m * 10 ^ (-e).toNat / 2 ^ (-e).toNat) : Int) + e

theorem shortest_eq (f : Format) (tie : Tie) (hm : 0 < m) (e : Int) :
    shortest f tie m e = shortestFrom f tie m e (f.precision + 1) (places m e) := by
  rw [shortest, if_neg (Nat.ne_of_gt hm)]
  rfl

theorem ten_pow_digitCount {n : Nat} (hn : 0 < n) :
    (10 : ℚ) ^ ((digitCount n : Int) - 1) ≤ n ∧ (n : ℚ) < 10 ^ (digitCount n : Int) := by
  have hpos : 0 < digitCount n := by
    rw [digitCount_of_pos hn]
    exact Nat.length_toDigits_pos
  have hcast : ((digitCount n : Int) - 1) = (digitCount n - 1 : Nat) := by omega
  rw [hcast, zpow_natCast, zpow_natCast]
  exact ⟨by exact_mod_cast pow_digitCount_le hn, by exact_mod_cast lt_pow_digitCount n⟩

theorem places_spec (hm : 0 < m) (e : Int) :
    (10 : ℚ) ^ (places m e - 1) ≤ m * 2 ^ e ∧ (m * 2 ^ e : ℚ) < 10 ^ places m e := by
  rw [places]
  split_ifs with he
  · obtain ⟨n, rfl⟩ := Int.eq_ofNat_of_zero_le he
    have hspec := ten_pow_digitCount (n := m * 2 ^ n) (by positivity)
    rw [Int.toNat_natCast]
    push_cast at hspec ⊢
    exact hspec
  · obtain ⟨n, rfl⟩ : ∃ n : Nat, e = -n := ⟨(-e).toNat, by omega⟩
    have hdiv : m * 10 ^ n / 2 ^ n = m * 5 ^ n := by
      rw [show (10 : Nat) = 5 * 2 by rfl, Nat.mul_pow, ← Nat.mul_assoc, Nat.mul_div_cancel _ (by positivity)]
    have hvalue : (m * 2 ^ (-n : Int) : ℚ) = (m * 5 ^ n : Nat) * 10 ^ (-n : Int) := by
      rw [zpow_neg, zpow_neg, zpow_natCast, zpow_natCast, show (10 : ℚ) = 5 * 2 by norm_num, mul_pow]
      push_cast
      field_simp
    have hten : (0 : ℚ) < 10 ^ (-n : Int) := by positivity
    have hspec := ten_pow_digitCount (n := m * 5 ^ n) (by positivity)
    rw [neg_neg, Int.toNat_natCast, hdiv, hvalue, zpow_add₀ (by norm_num), ← sub_add_eq_add_sub,
      zpow_add₀ (by norm_num)]
    exact ⟨mul_le_mul_of_nonneg_right hspec.1 hten.le, mul_lt_mul_of_pos_right hspec.2 hten⟩

theorem two_pow_le_ten_pow {p : Nat} (h : 3 ≤ p) : 4 * 2 ^ p ≤ 10 ^ (p - 1) := by
  induction p, h using Nat.le_induction with
  | base => decide
  | succ p hp ih =>
    obtain ⟨q, rfl⟩ : ∃ q, p = q + 1 := ⟨p - 1, by omega⟩
    rw [Nat.add_sub_cancel] at ih ⊢
    rw [Nat.pow_succ 10, Nat.pow_succ 2]
    omega

/-- The last power of ten that is tried is far below the unit. -/
theorem four_le_ratio (hf : f.IsProper) (hs : IsStandard f m e) (hm : 0 < m) :
    4 ≤ ratio e (places m e - f.precision) := by
  have hp := hf.precision
  have hten : (0 : ℚ) < 10 ^ (places m e - f.precision) := by positivity
  have hunit : (0 : ℚ) < 2 ^ e := by positivity
  have hpow : (4 * 2 ^ f.precision : ℚ) ≤ 10 ^ (f.precision - 1) := by
    exact_mod_cast two_pow_le_ten_pow hp
  have hmant : (m : ℚ) ≤ 2 ^ f.precision := by exact_mod_cast hs.mantissa.le
  have hsplit : (10 : ℚ) ^ (places m e - 1) = 10 ^ (places m e - f.precision) * 10 ^ (f.precision - 1) := by
    rw [← zpow_natCast, ← zpow_add₀ (by norm_num)]
    congr 1
    omega
  have hvalue : (10 : ℚ) ^ (places m e - f.precision) * (4 * 2 ^ f.precision) ≤ 2 ^ f.precision * 2 ^ e :=
    calc (10 : ℚ) ^ (places m e - f.precision) * (4 * 2 ^ f.precision)
        ≤ 10 ^ (places m e - f.precision) * 10 ^ (f.precision - 1) := by gcongr
      _ = 10 ^ (places m e - 1) := hsplit.symm
      _ ≤ m * 2 ^ e := (places_spec hm e).1
      _ ≤ 2 ^ f.precision * 2 ^ e := by gcongr
  have htwo : (0 : ℚ) < 2 ^ f.precision := by positivity
  rw [ratio, le_div_iff₀ hten]
  nlinarith

theorem RoundsTo.coefficient_pos {c : Nat} (h : RoundsTo f m e (c * 10 ^ k)) (hm : 0 < m) : 0 < c := by
  have hten : (0 : ℚ) < 10 ^ k := by positivity
  have hpos := h.pos hm
  rw [mul_pos_iff_of_pos_right hten] at hpos
  exact Nat.cast_pos.1 hpos

/-- What is found rounds to the number, and no multiple of a larger power of ten is found. -/
theorem shortest_spec (hf : f.IsProper) (tie : Tie) (hs : IsStandard f m e) (hm : 0 < m) :
    ∃ (d : Nat) (k : Int), shortest f tie m e = (d, k) ∧ 0 < d ∧ RoundsTo f m e (d * 10 ^ k) ∧
      ∀ k', k < k' → k' ≤ places m e → candidate? f tie m e k' = none := by
  obtain ⟨d, hd⟩ := exists_candidate (f := f) (m := m) tie (four_le_ratio hf hs hm)
  obtain ⟨d, j, hresult, hd, hnone⟩ :=
    shortestFrom_spec (k := places m e) ⟨f.precision, Nat.lt_succ_self _, d, hd⟩
  have hround := roundsTo_of_candidate hd
  refine ⟨d, places m e - j, by rw [shortest_eq f tie hm, hresult], hround.coefficient_pos hm, hround, ?_⟩
  intro k' hlt hle
  have hi := hnone (places m e - k').toNat (by omega)
  rwa [show places m e - ((places m e - k').toNat : Int) = k' by omega] at hi

/-! ## Reading back -/

theorem decimalRatio_eq (c : Nat) (k : Int) :
    ((c * Nat.pow 10 k.toNat : Nat) : ℚ) / (Nat.pow 10 (-k).toNat : Nat) = c * 10 ^ k := by
  rcases Int.eq_nat_or_neg k with ⟨j, rfl | rfl⟩ <;>
    simp only [Nat.pow_eq, Int.toNat_natCast, Int.toNat_neg_natCast, neg_neg, pow_zero, mul_one, zpow_neg,
      zpow_natCast, Nat.cast_mul, Nat.cast_pow, Nat.cast_ofNat, Nat.cast_one, div_one]
  rfl

theorem decimal_bounds {c : Nat} (hc : 0 < c) (k : Int) :
    (10 : ℚ) ^ (k + digitCount c - 1) ≤ c * 10 ^ k ∧ (c * 10 ^ k : ℚ) < 10 ^ (k + digitCount c) := by
  obtain ⟨hlow, hhigh⟩ := ten_pow_digitCount hc
  have hten : (10 : ℚ) ≠ 0 := by norm_num
  rw [add_sub_assoc, zpow_add₀ hten, zpow_add₀ hten, mul_comm _ ((10 : ℚ) ^ k)]
  exact ⟨by gcongr, by gcongr⟩

theorem lt_two_pow_of_roundsTo {x : ℚ} (hs : IsStandard f m e) (h : RoundsTo f m e x) :
    x < 2 ^ (f.greatest + f.precision) := by
  have hunit : (0 : ℚ) < 2 ^ e := by positivity
  have hmant : (m : ℚ) + 1 ≤ 2 ^ (f.precision : Int) := by
    rw [zpow_natCast]
    exact_mod_cast hs.mantissa
  have hscaled : x / 2 ^ e < 2 ^ (f.precision : Int) := by linarith [h.high]
  rw [div_lt_iff₀ hunit, ← zpow_add₀ two_ne_zero] at hscaled
  refine hscaled.trans_le (zpow_le_zpow_right₀ one_le_two ?_)
  have hgreatest := hs.greatest
  omega

theorem two_pow_le_of_roundsTo {x : ℚ} (hs : IsStandard f m e) (hm : 0 < m) (h : RoundsTo f m e x) :
    2 ^ (f.least - 1) ≤ x := by
  have hunit : (0 : ℚ) < 2 ^ e := by positivity
  have hone : (1 : ℚ) ≤ m := Nat.one_le_cast.2 hm
  have hscaled : (2 : ℚ) ^ (-1 : Int) ≤ x / 2 ^ e := by
    rw [zpow_neg_one]
    linarith [h.low, gap_le f m e]
  rw [le_div_iff₀ hunit, ← zpow_add₀ two_ne_zero] at hscaled
  refine le_trans (zpow_le_zpow_right₀ one_le_two ?_) hscaled
  have hleast := hs.least
  omega

/-- A decimal number that rounds to a number of the format is read as that number. -/
theorem ofDecimal_of_roundsTo (hf : f.IsProper) (negative : Bool) {c : Nat} (hs : IsStandard f m e) (hm : 0 < m)
    (h : RoundsTo f m e (c * 10 ^ k)) : ofDecimal f negative c k = .finite negative m e := by
  have hc : 0 < c := h.coefficient_pos hm
  obtain ⟨hfrom, hto⟩ := decimal_bounds hc k
  have hlarge : ¬ f.greatest + f.precision < k + digitCount c := by
    intro hlt
    have hmono : (2 : ℚ) ^ (f.greatest + f.precision) ≤ 10 ^ (k + digitCount c - 1) :=
      calc (2 : ℚ) ^ (f.greatest + f.precision) ≤ 10 ^ (f.greatest + f.precision) := by
            refine zpow_le_zpow_left₀ ?_ (by norm_num) (by norm_num)
            have hgreatest := hf.greatest
            omega
        _ ≤ 10 ^ (k + digitCount c - 1) := zpow_le_zpow_right₀ (by norm_num) (by omega)
    linarith [lt_two_pow_of_roundsTo hs h]
  have hsmall : ¬ k + digitCount c < f.least := by
    intro hlt
    have hmono : (10 : ℚ) ^ (k + digitCount c) ≤ 2 ^ (f.least - 1) := by
      have hleast := hf.least
      calc (10 : ℚ) ^ (k + digitCount c) ≤ 10 ^ (f.least - 1) := zpow_le_zpow_right₀ (by norm_num) (by omega)
        _ ≤ 2 ^ (f.least - 1) := by
            obtain ⟨n, hn⟩ : ∃ n : Nat, f.least - 1 = -n := ⟨(1 - f.least).toNat, by omega⟩
            rw [hn, zpow_neg, zpow_neg, zpow_natCast, zpow_natCast]
            gcongr
            norm_num
    linarith [two_pow_le_of_roundsTo hs hm h]
  rw [ofDecimal]
  simp only [if_neg (Nat.ne_of_gt hc), if_neg hlarge, if_neg hsmall]
  refine ofRatio_of_roundsTo hf negative hs hm ?_ ?_
  · simp only [Nat.pow_eq]
    positivity
  · rwa [decimalRatio_eq]

/-- Only the number counts, not where its point stands. -/
theorem ofDecimal_congr (f : Format) (negative : Bool) {c c' : Nat} {k k' : Int}
    (h : (c * 10 ^ k : ℚ) = c' * 10 ^ k') : ofDecimal f negative c k = ofDecimal f negative c' k' := by
  have hvalue : ∀ (n : Nat) (j : Int), (n * 10 ^ j : ℚ) = 0 ↔ n = 0 := by
    intro n j
    have hten : (10 : ℚ) ^ j ≠ 0 := by positivity
    rw [mul_eq_zero, or_iff_left hten, Nat.cast_eq_zero]
  have hzero : c = 0 ↔ c' = 0 := by rw [← hvalue c k, h, hvalue]
  rcases Nat.eq_zero_or_pos c with rfl | hc
  · obtain rfl := hzero.1 rfl
    rfl
  · have hc' : 0 < c' := Nat.pos_of_ne_zero fun h' => Nat.ne_of_gt hc (hzero.2 h')
    have hplaces : k + digitCount c = k' + digitCount c' := by
      obtain ⟨hfrom, hto⟩ := decimal_bounds hc k
      obtain ⟨hfrom', hto'⟩ := decimal_bounds hc' k'
      rw [← h] at hfrom' hto'
      have hle := (zpow_lt_zpow_iff_right₀ (by norm_num)).1 (hfrom.trans_lt hto')
      have hge := (zpow_lt_zpow_iff_right₀ (by norm_num)).1 (hfrom'.trans_lt hto)
      omega
    have hpow : ∀ j : Int, 0 < Nat.pow 10 (-j).toNat := fun j => Nat.pow_pos (by decide)
    have hratio := ofRatio_congr f negative (hpow k) (hpow k') (by rw [decimalRatio_eq, decimalRatio_eq, h])
    rw [ofDecimal, ofDecimal]
    simp only [if_neg (Nat.ne_of_gt hc), if_neg (Nat.ne_of_gt hc'), hplaces, hratio]

theorem isCanonical_ofDecimal (hf : f.IsProper) (negative : Bool) (c : Nat) (k : Int) :
    IsCanonical negative (ofDecimal f negative c k) := by
  have hten : 0 < Nat.pow 10 (-k).toNat := Nat.pow_pos (by decide)
  rw [ofDecimal]
  split_ifs
  · exact .finite (isStandard_zero hf)
  · exact .infinite
  · exact .finite (isStandard_zero hf)
  · exact isCanonical_ofRatio hf negative _ hten

/-! ## Few digits -/

/-- The unit of a number is smaller than the last place of digits that round to it, if they are few enough. -/
theorem ratio_lt_one {c : Nat} (hs : IsStandard f m e) (h : RoundsTo f m e (c * 10 ^ k))
    (hc : c < 2 ^ (f.precision - 1)) (hk : (2 : ℚ) ^ f.least < 10 ^ k) : ratio e k < 1 := by
  have hten : (0 : ℚ) < 10 ^ k := by positivity
  have hunit : (0 : ℚ) < 2 ^ e := by positivity
  rw [ratio, div_lt_one hten]
  rcases hs.normal with rfl | hnormal
  · exact hk
  · have hlow := h.low
    rw [le_div_iff₀ hunit] at hlow
    have hgap := gap_le f m e
    have hcm : (c : ℚ) + 1 ≤ m := by exact_mod_cast hc.trans_le hnormal
    have hpos : (0 : ℚ) ≤ c := Nat.cast_nonneg c
    nlinarith

theorem le_places_of_roundsTo {c : Nat} (hm : 0 < m) (hc : 0 < c) (h : RoundsTo f m e (c * 10 ^ k)) :
    k ≤ places m e := by
  have hten : (0 : ℚ) < 10 ^ k := by positivity
  have hunit : (0 : ℚ) < 2 ^ e := by positivity
  have hone : (1 : ℚ) ≤ c := Nat.one_le_cast.2 hc
  have hone' : (1 : ℚ) ≤ m := Nat.one_le_cast.2 hm
  have hhigh := h.high
  rw [div_le_iff₀ hunit] at hhigh
  have hless := (places_spec hm e).2
  have hpower : (10 : ℚ) ^ k < 10 ^ (places m e + 1) := by
    rw [zpow_add_one₀ (by norm_num)]
    nlinarith
  have hlt := (zpow_lt_zpow_iff_right₀ (by norm_num)).1 hpower
  omega

/-- Few enough digits that round to a number are its shortest digits, up to zeros at their end. -/
theorem shortest_of_roundsTo (hf : f.IsProper) (tie : Tie) {c : Nat} (hs : IsStandard f m e) (hm : 0 < m)
    (hratio : ratio e k < 1) (h : RoundsTo f m e (c * 10 ^ k)) :
    ∃ (d j : Nat), shortest f tie m e = (d, k + j) ∧ d * 10 ^ j = c := by
  have hc : 0 < c := h.coefficient_pos hm
  have hcandidate := candidate?_of_roundsTo tie hratio h
  obtain ⟨d, k', hshortest, -, hround, hnone⟩ := shortest_spec hf tie hs hm
  have hle : k ≤ k' := by
    by_contra hlt
    have hk := hnone k (by omega) (le_places_of_roundsTo hm hc h)
    rw [hcandidate] at hk
    cases hk
  obtain ⟨j, rfl⟩ : ∃ j : Nat, k' = k + j := ⟨(k' - k).toNat, by omega⟩
  have hsame : (d * 10 ^ (k + j : Int) : ℚ) = (d * 10 ^ j : Nat) * 10 ^ k := by
    rw [zpow_add₀ (by norm_num), zpow_natCast]
    push_cast
    ring
  rw [hsame] at hround
  have hcandidate' := candidate?_of_roundsTo tie hratio hround
  rw [hcandidate] at hcandidate'
  exact ⟨d, j, hshortest, (Option.some.inj hcandidate').symm⟩

end Binary
end Number
end RecordFilter
