import Mathlib.Algebra.Order.Field.Power
import Mathlib.Data.Rat.Cast.Order
import Mathlib.Tactic.FieldSimp
import Mathlib.Tactic.Linarith
import Mathlib.Tactic.Positivity
import Mathlib.Tactic.Ring
import RecordFilter.Number.Binary

/-!
# RecordFilter.Proofs.Number.Rounding

Rounding to a format, in terms of the rational numbers that are rounded.

* `ofRatio_of_roundsTo`: every quotient next to a number of the format rounds to it.
* `isCanonical_ofRatio`: what a quotient rounds to is infinite or has the one mantissa and exponent that
  stand for it.
* `ofRatio_le_two_pow`: and it does not pass a power of two of the format that the quotient does not pass.
* `roundsTo_ofRatio`, `ofRatio_congr`: it is next to the quotient, and the same for equal quotients.
* `IsCanonical.compare?_eq_iff`: numbers of one sign are equal only if they are the same.
-/

namespace RecordFilter
namespace Number

/-- What the proofs ask of a format: a few bits, and an exponent range on both sides of 0. -/
structure Format.IsProper (f : Format) : Prop where
  precision : 3 ≤ f.precision
  least : f.least < 0
  leastLe : f.least ≤ f.greatest
  greatest : 2 ≤ f.greatest + f.precision

theorem isProper_binary32 : binary32.IsProper := ⟨by decide, by decide, by decide, by decide⟩

theorem isProper_binary64 : binary64.IsProper := ⟨by decide, by decide, by decide, by decide⟩

namespace Binary

variable {f : Format}

/-! ## Scaling -/

theorem two_pow_mul_zpow (k : Nat) (e : Int) : ((2 ^ k : Nat) * 2 ^ e : ℚ) = 2 ^ (k + e) := by
  rw [Nat.cast_pow, Nat.cast_ofNat, ← zpow_natCast, ← zpow_add₀ two_ne_zero]

theorem scaleBy_pos (n : Nat) {d : Nat} (hd : 0 < d) (e : Int) : 0 < (scaleBy n d e).2 :=
  Nat.mul_pos hd (Nat.pow_pos (Nat.zero_lt_two))

theorem scaleBy_eq (n : Nat) {d : Nat} (hd : 0 < d) (e : Int) :
    ((scaleBy n d e).1 : ℚ) / (scaleBy n d e).2 = n / d / 2 ^ e := by
  have hd' : (d : ℚ) ≠ 0 := Nat.cast_ne_zero.2 (Nat.ne_of_gt hd)
  rcases Int.eq_nat_or_neg e with ⟨k, rfl | rfl⟩
  · simp only [scaleBy, Nat.pow_eq, Int.toNat_natCast, Int.toNat_neg_natCast, pow_zero, mul_one, zpow_natCast,
      Nat.cast_mul, Nat.cast_pow, Nat.cast_ofNat]
    field_simp
  · simp only [scaleBy, Nat.pow_eq, Int.toNat_natCast, Int.toNat_neg_natCast, neg_neg, pow_zero, mul_one,
      zpow_neg, zpow_natCast, Nat.cast_mul, Nat.cast_pow, Nat.cast_ofNat]
    field_simp

theorem quotientLog_spec {n d : Nat} (hn : 0 < n) (hd : 0 < d) :
    (2 : ℚ) ^ quotientLog n d ≤ n / d ∧ (n / d : ℚ) < 2 ^ (quotientLog n d + 1) := by
  have hd' : (0 : ℚ) < d := Nat.cast_pos.2 hd
  have hlow : (2 : ℚ) ^ (n.log2 : Int) ≤ n := by exact_mod_cast Nat.log2_self_le (Nat.ne_of_gt hn)
  have hhigh : (n : ℚ) < 2 ^ ((n.log2 : Int) + 1) := by exact_mod_cast Nat.lt_log2_self (n := n)
  have hlow' : (2 : ℚ) ^ (d.log2 : Int) ≤ d := by exact_mod_cast Nat.log2_self_le (Nat.ne_of_gt hd)
  have hhigh' : (d : ℚ) < 2 ^ ((d.log2 : Int) + 1) := by exact_mod_cast Nat.lt_log2_self (n := d)
  have hupper : (n / d : ℚ) < 2 ^ ((n.log2 : Int) - d.log2 + 1) := by
    rw [div_lt_iff₀ hd']
    calc (n : ℚ) < 2 ^ ((n.log2 : Int) + 1) := hhigh
      _ = 2 ^ ((n.log2 : Int) - d.log2 + 1) * 2 ^ (d.log2 : Int) := by
        rw [← zpow_add₀ two_ne_zero]
        congr 1
        ring
      _ ≤ 2 ^ ((n.log2 : Int) - d.log2 + 1) * d := by gcongr
  have hlower : (2 : ℚ) ^ ((n.log2 : Int) - d.log2 - 1) ≤ n / d := by
    rw [le_div_iff₀ hd']
    calc (2 : ℚ) ^ ((n.log2 : Int) - d.log2 - 1) * d
        ≤ 2 ^ ((n.log2 : Int) - d.log2 - 1) * 2 ^ ((d.log2 : Int) + 1) := by gcongr
      _ = 2 ^ (n.log2 : Int) := by
        rw [← zpow_add₀ two_ne_zero]
        congr 1
        ring
      _ ≤ n := hlow
  have hpos := scaleBy_pos n hd ((n.log2 : Int) - d.log2)
  have heq := scaleBy_eq n hd ((n.log2 : Int) - d.log2)
  have hone : (scaleBy n d ((n.log2 : Int) - d.log2)).2 ≤ (scaleBy n d ((n.log2 : Int) - d.log2)).1 ↔
      (2 : ℚ) ^ ((n.log2 : Int) - d.log2) ≤ n / d := by
    rw [← one_le_div (by positivity : (0 : ℚ) < 2 ^ ((n.log2 : Int) - d.log2)), ← heq,
      one_le_div (Nat.cast_pos.2 hpos), Nat.cast_le]
  rw [quotientLog]
  dsimp only
  split_ifs with hle
  · exact ⟨hone.1 hle, hupper⟩
  · rw [hone, not_le] at hle
    exact ⟨hlower, by rwa [sub_add_cancel]⟩

/-! ## The nearest integer -/

/-- The integer that `x` is rounded to is `m`, where the next lower one begins `gap` below it. Half-way
numbers go to the even side. -/
structure RoundsAt (gap : ℚ) (m : Nat) (x : ℚ) : Prop where
  low : m - gap ≤ x
  lowTie : x = m - gap → m % 2 = 0
  high : x ≤ m + 1 / 2
  highTie : x = m + 1 / 2 → m % 2 = 0

/-- The part of a quotient that is rounded away. -/
theorem exists_remainder (n : Nat) {d : Nat} (hd : 0 < d) :
    ∃ r : ℚ, 0 ≤ r ∧ r < 1 ∧ (n / d : ℚ) = (n / d : Nat) + r ∧ ((n % d : Nat) : ℚ) = r * d := by
  have hd' : (0 : ℚ) < d := Nat.cast_pos.2 hd
  have hdiv : ((d * (n / d) + n % d : Nat) : ℚ) = n := by rw [Nat.div_add_mod]
  push_cast at hdiv
  refine ⟨(n % d : Nat) / d, by positivity, (div_lt_one hd').2 (Nat.cast_lt.2 (Nat.mod_lt n hd)), ?_, ?_⟩
  · rw [← hdiv]
    field_simp
  · field_simp

section

variable {unit a b : Nat} {x y : ℚ}

/-! Two counts of a unit compare as what they count. -/

theorem count_lt_iff (hunit : 0 < unit) (ha : (a : ℚ) = x * unit) (hb : (b : ℚ) = y * unit) :
    a < b ↔ x < y := by
  rw [← Nat.cast_lt (α := ℚ), ha, hb, mul_lt_mul_iff_of_pos_right (Nat.cast_pos.2 hunit)]

theorem count_eq_iff (hunit : 0 < unit) (ha : (a : ℚ) = x * unit) (hb : (b : ℚ) = y * unit) :
    a = b ↔ x = y := by
  rw [← Nat.cast_inj (R := ℚ), ha, hb, mul_left_inj' (Nat.cast_pos.2 hunit).ne']

theorem half_lt_iff (hunit : 0 < unit) (ha : (a : ℚ) = x * unit) : unit < 2 * a ↔ 1 / 2 < x := by
  refine count_lt_iff (Nat.mul_pos two_pos hunit) ?_ ?_ <;> push_cast
  · ring
  · rw [ha]
    ring

theorem eq_half_iff (hunit : 0 < unit) (ha : (a : ℚ) = x * unit) : 2 * a = unit ↔ x = 1 / 2 := by
  refine count_eq_iff (Nat.mul_pos two_pos hunit) ?_ ?_ <;> push_cast
  · rw [ha]
    ring
  · ring

end

/-- There is one nearest integer. -/
theorem RoundsAt.unique {m m' : Nat} {x : ℚ} (h : RoundsAt (1 / 2) m x) (h' : RoundsAt (1 / 2) m' x) :
    m = m' := by
  wlog hle : m ≤ m' generalizing m m'
  · exact (this h' h (Nat.le_of_not_le hle)).symm
  have hhigh := h.high
  have hlow := h'.low
  have hnext : m' ≤ m + 1 := by
    have hcast : (m' : ℚ) ≤ (m + 1 : Nat) := by
      push_cast
      linarith
    exact Nat.cast_le.1 hcast
  rcases Nat.eq_or_lt_of_le hle with rfl | hlt
  · rfl
  · -- half-way between two integers only the even one is taken
    obtain rfl : m' = m + 1 := Nat.le_antisymm hnext hlt
    push_cast at hlow
    have heven := h.highTie (by linarith)
    have heven' := h'.lowTie (by push_cast; linarith)
    omega

theorem roundsAt_roundQuotient (n : Nat) {d : Nat} (hd : 0 < d) :
    RoundsAt (1 / 2) (roundQuotient n d) (n / d) := by
  obtain ⟨r, hnonneg, hlt, hx, hr⟩ := exists_remainder n hd
  rw [hx, roundQuotient]
  simp only [half_lt_iff hd hr, eq_half_iff hd hr]
  generalize n / d = q
  split_ifs with hup
  · have hr : 1 / 2 ≤ r := by
      rcases hup with hup | ⟨rfl, -⟩
      · exact hup.le
      · exact le_rfl
    refine ⟨?_, fun heq => ?_, ?_, fun heq => ?_⟩ <;> push_cast at *
    · linarith
    · have hodd := (hup.resolve_left (by linarith)).2
      omega
    · linarith
    · linarith
  · rw [not_or, not_and, not_lt] at hup
    refine ⟨by linarith, fun heq => by linarith, by linarith, fun heq => ?_⟩
    have hodd := hup.2 (by linarith)
    omega

theorem roundQuotient_of_roundsAt {n d m : Nat} (hd : 0 < d) (h : RoundsAt (1 / 2) m (n / d)) :
    roundQuotient n d = m := (roundsAt_roundQuotient n hd).unique h

/-! ## The nearest number -/

/-- The mantissa and the exponent that stand for a finite number. -/
structure IsStandard (f : Format) (m : Nat) (e : Int) : Prop where
  mantissa : m < 2 ^ f.precision
  least : f.least ≤ e
  greatest : e ≤ f.greatest
  normal : e = f.least ∨ 2 ^ (f.precision - 1) ≤ m

/-- How far below `m`, in units, the numbers begin that round to `m`. -/
def gap (f : Format) (m : Nat) (e : Int) : ℚ :=
  if m = 2 ^ (f.precision - 1) ∧ f.least < e then 1 / 4 else 1 / 2

/-- `x` is nearest to the number `m * 2 ^ e` of the format. -/
def RoundsTo (f : Format) (m : Nat) (e : Int) (x : ℚ) : Prop := RoundsAt (gap f m e) m (x / 2 ^ e)

theorem gap_cases (f : Format) (m : Nat) (e : Int) :
    gap f m e = 1 / 2 ∨ (m = 2 ^ (f.precision - 1) ∧ f.least < e ∧ gap f m e = 1 / 4) := by
  rw [gap]
  split_ifs with h
  · exact .inr ⟨h.1, h.2, rfl⟩
  · exact .inl rfl

theorem gap_le (f : Format) (m : Nat) (e : Int) : gap f m e ≤ 1 / 2 := by
  rcases gap_cases f m e with hgap | ⟨-, -, hgap⟩
  · rw [hgap]
  · rw [hgap]
    norm_num

theorem gap_pos (f : Format) (m : Nat) (e : Int) : 0 < gap f m e := by
  rcases gap_cases f m e with hgap | ⟨-, -, hgap⟩ <;> rw [hgap] <;> norm_num

theorem roundsTo_self (f : Format) (m : Nat) (e : Int) : RoundsTo f m e (m * 2 ^ e) := by
  have hunit : (2 : ℚ) ^ e ≠ 0 := by positivity
  have hgap := gap_pos f m e
  rw [RoundsTo, mul_div_assoc, div_self hunit, mul_one]
  exact ⟨by linarith, fun heq => by linarith, by linarith, fun heq => by linarith⟩

theorem two_pow_precision (hf : f.IsProper) : 2 ^ f.precision = 2 * 2 ^ (f.precision - 1) := by
  have hp := hf.precision
  rw [← Nat.pow_succ']
  congr 1
  omega

/-- The unit in which a quotient is rounded. -/
theorem unit_eq (hf : f.IsProper) {n d : Nat} {e : Int} (hn : 0 < n) (hd : 0 < d) (hleast : f.least ≤ e)
    (hlow : e = f.least ∨ ((2 ^ (f.precision - 1) : Nat) : ℚ) ≤ n / d / 2 ^ e)
    (hhigh : (n / d / 2 ^ e : ℚ) < (2 ^ f.precision : Nat)) :
    max f.least (quotientLog n d - f.precision + 1) = e := by
  obtain ⟨hfrom, hto⟩ := quotientLog_spec hn hd
  have hp := hf.precision
  have hunit : (0 : ℚ) < 2 ^ e := by positivity
  rw [div_lt_iff₀ hunit, two_pow_mul_zpow] at hhigh
  have hupper := (zpow_lt_zpow_iff_right₀ one_lt_two).1 (hfrom.trans_lt hhigh)
  rcases hlow with rfl | hlow
  · omega
  · rw [le_div_iff₀ hunit, two_pow_mul_zpow] at hlow
    have hlower := (zpow_lt_zpow_iff_right₀ one_lt_two).1 (hlow.trans_lt hto)
    omega

theorem ofRatio_eq {n d m : Nat} {e : Int} (negative : Bool) (hn : 0 < n)
    (hunit : max f.least (quotientLog n d - f.precision + 1) = e)
    (hm : roundQuotient (scaleBy n d e).1 (scaleBy n d e).2 = m) :
    ofRatio f negative n d =
      if m = 2 ^ f.precision then
        if f.greatest < e + 1 then .infinite negative
        else .finite negative (2 ^ (f.precision - 1)) (e + 1)
      else if f.greatest < e then .infinite negative
      else .finite negative m e := by
  rw [ofRatio, if_neg (Nat.ne_of_gt hn)]
  simp only [hunit, hm, Nat.pow_eq]
  split_ifs <;> rfl

theorem roundQuotient_scaleBy {n d m : Nat} {e : Int} (hd : 0 < d)
    (h : RoundsAt (1 / 2) m (n / d / 2 ^ e)) : roundQuotient (scaleBy n d e).1 (scaleBy n d e).2 = m := by
  rw [← scaleBy_eq n hd] at h
  exact roundQuotient_of_roundsAt (scaleBy_pos n hd e) h

theorem RoundsTo.pos {m : Nat} {e : Int} {x : ℚ} (h : RoundsTo f m e x) (hm : 0 < m) : 0 < x := by
  have hunit : (0 : ℚ) < 2 ^ e := by positivity
  have hone : (1 : ℚ) ≤ m := Nat.one_le_cast.2 hm
  have hlow := h.low
  have hscaled : 0 < x / 2 ^ e := by linarith [gap_le f m e]
  rwa [div_pos_iff_of_pos_right hunit] at hscaled

/-- What rounds to a mantissa within a unit below the power of two rounds to the power. -/
theorem RoundsTo.mantissa_eq {m : Nat} {e : Int} {x : ℚ} (h : RoundsTo f m e x) (hs : IsStandard f m e)
    (hne : e ≠ f.least) (hx : x / 2 ^ e < (2 ^ (f.precision - 1) : Nat)) : m = 2 ^ (f.precision - 1) := by
  have hlow := h.low
  have hcast : (m : ℚ) < (2 ^ (f.precision - 1) + 1 : Nat) := by
    push_cast at hx ⊢
    linarith [gap_le f m e]
  exact Nat.le_antisymm (Nat.le_of_lt_succ (Nat.cast_lt.1 hcast)) (hs.normal.resolve_left hne)

section

variable {n d m : Nat} {e : Int}

theorem ofRatio_of_le_mantissa (hf : f.IsProper) (negative : Bool) (hs : IsStandard f m e) (hn : 0 < n)
    (hd : 0 < d) (h : RoundsTo f m e (n / d))
    (hlow : e = f.least ∨ ((2 ^ (f.precision - 1) : Nat) : ℚ) ≤ n / d / 2 ^ e) :
    ofRatio f negative n d = .finite negative m e := by
  have hhigh := h.high
  have hmant : (m : ℚ) + 1 ≤ (2 ^ f.precision : Nat) := by exact_mod_cast hs.mantissa
  have hunit := unit_eq hf hn hd hs.least hlow (by linarith)
  have hround : RoundsAt (1 / 2) m (n / d / 2 ^ e) := by
    rcases gap_cases f m e with hgap | ⟨hm, hleast, -⟩
    · rwa [RoundsTo, hgap] at h
    · have hy := hlow.resolve_left (ne_of_gt hleast)
      rw [← hm] at hy
      exact ⟨by linarith, fun heq => by linarith, h.high, h.highTie⟩
  rw [ofRatio_eq negative hn hunit (roundQuotient_scaleBy hd hround), if_neg (Nat.ne_of_lt hs.mantissa),
    if_neg (not_lt.2 hs.greatest)]

/-- Below a power of two the unit is half as large, and the quotient is rounded up to the power. -/
theorem ofRatio_of_mantissa_lt (hf : f.IsProper) (negative : Bool) (hs : IsStandard f m e) (hm : 0 < m)
    (hn : 0 < n) (hd : 0 < d) (h : RoundsTo f m e (n / d)) (hne : e ≠ f.least)
    (hx : (n / d / 2 ^ e : ℚ) < (2 ^ (f.precision - 1) : Nat)) :
    ofRatio f negative n d = .finite negative m e := by
  have hleast : f.least < e := lt_of_le_of_ne hs.least (Ne.symm hne)
  have hpower := h.mantissa_eq hs hne hx
  have hdouble : ((2 ^ f.precision : Nat) : ℚ) = 2 * m := by
    rw [two_pow_precision hf, ← hpower, Nat.cast_mul, Nat.cast_ofNat]
  have heven : 2 ^ f.precision % 2 = 0 := by
    rw [two_pow_precision hf]
    exact Nat.mul_mod_right 2 _
  have hhalf : (n / d / 2 ^ (e - 1) : ℚ) = 2 * (n / d / 2 ^ e) := by
    rw [zpow_sub_one₀ two_ne_zero]
    field_simp
  have hlow := h.low
  rw [gap, if_pos ⟨hpower, hleast⟩] at hlow
  rw [← hpower] at hx
  have hone : (1 : ℚ) ≤ m := Nat.one_le_cast.2 hm
  have hunit : max f.least (quotientLog n d - f.precision + 1) = e - 1 := by
    refine unit_eq hf hn hd (Int.le_sub_one_of_lt hleast) (.inr ?_) ?_
    · rw [hhalf, ← hpower]
      linarith
    · rw [hhalf, hdouble]
      linarith
  have hround : RoundsAt (1 / 2) (2 ^ f.precision) (n / d / 2 ^ (e - 1)) := by
    rw [hhalf]
    refine ⟨?_, fun _ => heven, ?_, fun _ => heven⟩ <;> rw [hdouble] <;> linarith
  rw [ofRatio_eq negative hn hunit (roundQuotient_scaleBy hd hround), if_pos rfl, sub_add_cancel,
    if_neg (not_lt.2 hs.greatest), hpower]

theorem ofRatio_of_roundsTo (hf : f.IsProper) (negative : Bool) (hs : IsStandard f m e) (hm : 0 < m)
    (hd : 0 < d) (h : RoundsTo f m e (n / d)) : ofRatio f negative n d = .finite negative m e := by
  have hn : 0 < n := by
    rcases Nat.eq_zero_or_pos n with rfl | hn
    · simpa using h.pos hm
    · exact hn
  by_cases hlow : e = f.least ∨ ((2 ^ (f.precision - 1) : Nat) : ℚ) ≤ n / d / 2 ^ e
  · exact ofRatio_of_le_mantissa hf negative hs hn hd h hlow
  · rw [not_or, not_le] at hlow
    exact ofRatio_of_mantissa_lt hf negative hs hm hn hd h hlow.1 hlow.2

end

/-! ## Every quotient -/

theorem roundQuotient_le {n d k : Nat} (hd : 0 < d) (h : n ≤ k * d) : roundQuotient n d ≤ k := by
  have hq : n / d ≤ k := Nat.div_le_of_le_mul (by rwa [Nat.mul_comm])
  have hdiv := Nat.div_add_mod n d
  rw [roundQuotient]
  split_ifs with hup
  · rcases Nat.lt_or_eq_of_le hq with hlt | rfl
    · exact hlt
    · rw [Nat.mul_comm d] at hdiv
      omega
  · exact hq

theorem le_roundQuotient {n d k : Nat} (hd : 0 < d) (h : k * d ≤ n) : k ≤ roundQuotient n d := by
  have hq : k ≤ n / d := (Nat.le_div_iff_mul_le hd).2 h
  rw [roundQuotient]
  split_ifs
  · exact Nat.le_succ_of_le hq
  · exact hq

theorem roundQuotient_scaleBy_le {n d k : Nat} {e : Int} (hd : 0 < d) (h : (n / d / 2 ^ e : ℚ) ≤ k) :
    roundQuotient (scaleBy n d e).1 (scaleBy n d e).2 ≤ k := by
  have hpos := scaleBy_pos n hd e
  refine roundQuotient_le hpos ?_
  rw [← scaleBy_eq n hd, div_le_iff₀ (Nat.cast_pos.2 hpos)] at h
  exact_mod_cast h

theorem le_roundQuotient_scaleBy {n d k : Nat} {e : Int} (hd : 0 < d) (h : (k : ℚ) ≤ n / d / 2 ^ e) :
    k ≤ roundQuotient (scaleBy n d e).1 (scaleBy n d e).2 := by
  have hpos := scaleBy_pos n hd e
  refine le_roundQuotient hpos ?_
  rw [← scaleBy_eq n hd, le_div_iff₀ (Nat.cast_pos.2 hpos)] at h
  exact_mod_cast h

/-- The unit and the multiple of it that a quotient is rounded to. -/
theorem rounded_spec (hf : f.IsProper) {n d : Nat} (hn : 0 < n) (hd : 0 < d) :
    ∃ e q, max f.least (quotientLog n d - f.precision + 1) = e ∧
      roundQuotient (scaleBy n d e).1 (scaleBy n d e).2 = q ∧ q ≤ 2 ^ f.precision ∧
      (e = f.least ∨ 2 ^ (f.precision - 1) ≤ q) := by
  obtain ⟨hfrom, hto⟩ := quotientLog_spec hn hd
  have hp := hf.precision
  refine ⟨_, _, rfl, rfl, ?_, ?_⟩
  · refine roundQuotient_scaleBy_le hd ?_
    rw [div_le_iff₀ (by positivity), two_pow_mul_zpow]
    refine hto.le.trans (zpow_le_zpow_right₀ one_le_two ?_)
    omega
  · rcases le_total (quotientLog n d - f.precision + 1) f.least with hle | hle
    · exact .inl (max_eq_left hle)
    · refine .inr (le_roundQuotient_scaleBy hd ?_)
      rw [max_eq_right hle, le_div_iff₀ (by positivity), two_pow_mul_zpow]
      refine le_trans (zpow_le_zpow_right₀ one_le_two ?_) hfrom
      omega

theorem isStandard_zero (hf : f.IsProper) : IsStandard f 0 f.least :=
  ⟨by positivity, le_rfl, hf.leastLe, .inl rfl⟩

/-- Infinite, or finite with a standard mantissa; with a sign. -/
inductive IsCanonical (negative : Bool) : Binary f → Prop where
  | infinite : IsCanonical negative (.infinite negative)
  | finite {m : Nat} {e : Int} (hs : IsStandard f m e) : IsCanonical negative (.finite negative m e)

theorem IsCanonical.isNan {x : Binary f} {negative : Bool} (h : IsCanonical negative x) : x.isNan = false := by
  cases h <;> rfl

theorem isCanonical_ofRatio (hf : f.IsProper) (negative : Bool) (n : Nat) {d : Nat} (hd : 0 < d) :
    IsCanonical negative (ofRatio f negative n d) := by
  rcases Nat.eq_zero_or_pos n with rfl | hn
  · exact .finite (isStandard_zero hf)
  obtain ⟨e, q, hunit, hq, hle, hge⟩ := rounded_spec hf hn hd
  have hleast : f.least ≤ e := hunit ▸ le_max_left _ _
  have hp := two_pow_precision hf
  have hpos : 0 < 2 ^ (f.precision - 1) := by positivity
  rw [ofRatio_eq negative hn hunit hq]
  split_ifs with htop hlarge hlarge
  · exact .infinite
  · exact .finite ⟨by omega, by omega, by omega, .inr le_rfl⟩
  · exact .infinite
  · exact .finite ⟨by omega, hleast, by omega, hge⟩

/-- A quotient up to a power of two of the format stays up to it. -/
theorem ofRatio_le_two_pow (hf : f.IsProper) (negative : Bool) {n d : Nat} {k : Int} (hd : 0 < d)
    (hleast : f.least ≤ k) (hgreatest : k < f.greatest + f.precision) (h : (n / d : ℚ) ≤ 2 ^ k) :
    ∃ m e, ofRatio f negative n d = .finite negative m e ∧ IsStandard f m e ∧ (m * 2 ^ e : ℚ) ≤ 2 ^ k := by
  rcases Nat.eq_zero_or_pos n with rfl | hn
  · refine ⟨0, f.least, rfl, isStandard_zero hf, ?_⟩
    rw [Nat.cast_zero, zero_mul]
    positivity
  obtain ⟨e, q, hunit, hq, hle, hge⟩ := rounded_spec hf hn hd
  have hpow := two_pow_precision hf
  have hpos : 0 < 2 ^ (f.precision - 1) := by positivity
  have hrange := hf.leastLe
  have hlog : quotientLog n d ≤ k :=
    (zpow_le_zpow_iff_right₀ one_lt_two).1 ((quotientLog_spec hn hd).1.trans h)
  have hek : e ≤ k := by
    have hp := hf.precision
    omega
  have hqk : (q * 2 ^ e : ℚ) ≤ 2 ^ k := by
    have hqle : q ≤ 2 ^ (k - e).toNat := by
      rw [← hq]
      refine roundQuotient_scaleBy_le hd ?_
      rw [div_le_iff₀ (by positivity), two_pow_mul_zpow]
      refine h.trans (zpow_le_zpow_right₀ one_le_two ?_)
      omega
    calc (q * 2 ^ e : ℚ) ≤ (2 ^ (k - e).toNat : Nat) * 2 ^ e := by gcongr
      _ = 2 ^ k := by
        rw [two_pow_mul_zpow]
        congr 1
        omega
  rw [ofRatio_eq negative hn hunit hq]
  by_cases htop : q = 2 ^ f.precision
  · have hvalue : ((2 ^ (f.precision - 1) : Nat) * 2 ^ (e + 1) : ℚ) = q * 2 ^ e := by
      rw [htop, hpow, zpow_add_one₀ two_ne_zero]
      push_cast
      ring
    have hexp : (f.precision : Int) + e ≤ k := by
      rw [htop, two_pow_mul_zpow] at hqk
      exact (zpow_le_zpow_iff_right₀ one_lt_two).1 hqk
    rw [if_pos htop, if_neg (by omega)]
    exact ⟨_, _, rfl, ⟨by omega, by omega, by omega, .inr le_rfl⟩, hvalue ▸ hqk⟩
  · rw [if_neg htop, if_neg (by omega)]
    exact ⟨_, _, rfl, ⟨by omega, by omega, by omega, hge⟩, hqk⟩

/-! ## Equal quotients -/

theorem quotientLog_congr {n d n' d' : Nat} (hn : 0 < n) (hd : 0 < d) (hn' : 0 < n') (hd' : 0 < d')
    (h : (n / d : ℚ) = n' / d') : quotientLog n d = quotientLog n' d' := by
  obtain ⟨hfrom, hto⟩ := quotientLog_spec hn hd
  obtain ⟨hfrom', hto'⟩ := quotientLog_spec hn' hd'
  rw [← h] at hfrom' hto'
  have hle := (zpow_lt_zpow_iff_right₀ one_lt_two).1 (hfrom.trans_lt hto')
  have hge := (zpow_lt_zpow_iff_right₀ one_lt_two).1 (hfrom'.trans_lt hto)
  omega

theorem roundQuotient_mul {n d k : Nat} (hk : 0 < k) : roundQuotient (k * n) (k * d) = roundQuotient n d := by
  have hleft : 2 * (k * (n % d)) = k * (2 * (n % d)) := Nat.mul_left_comm 2 k _
  have hlt : k * d < k * (2 * (n % d)) ↔ d < 2 * (n % d) := Nat.mul_lt_mul_left hk
  have heq : k * (2 * (n % d)) = k * d ↔ 2 * (n % d) = d := Nat.mul_right_inj (Nat.ne_of_gt hk)
  simp only [roundQuotient, Nat.mul_div_mul_left _ _ hk, Nat.mul_mod_mul_left, hleft, hlt, heq]

theorem roundQuotient_congr {n d n' d' : Nat} (hd : 0 < d) (hd' : 0 < d') (h : (n / d : ℚ) = n' / d') :
    roundQuotient n d = roundQuotient n' d' := by
  have hcross : d' * n = d * n' := by
    rw [div_eq_div_iff (Nat.cast_ne_zero.2 (Nat.ne_of_gt hd)) (Nat.cast_ne_zero.2 (Nat.ne_of_gt hd'))] at h
    rw [Nat.mul_comm d', Nat.mul_comm d]
    exact_mod_cast h
  rw [← roundQuotient_mul hd', hcross, Nat.mul_comm d' d, roundQuotient_mul hd]

/-- Only the quotient counts, not how it is written. -/
theorem ofRatio_congr (f : Format) (negative : Bool) {n d n' d' : Nat} (hd : 0 < d) (hd' : 0 < d')
    (h : (n / d : ℚ) = n' / d') : ofRatio f negative n d = ofRatio f negative n' d' := by
  have hzero : ∀ {a b : Nat}, 0 < b → ((a / b : ℚ) = 0 ↔ a = 0) := by
    intro a b hb
    rw [div_eq_zero_iff, Nat.cast_eq_zero, Nat.cast_eq_zero, or_iff_left (Nat.ne_of_gt hb)]
  rcases Nat.eq_zero_or_pos n with rfl | hn
  · obtain rfl : n' = 0 := (hzero hd').1 (h ▸ (hzero hd).2 rfl)
    rfl
  · have hn' : 0 < n' := Nat.pos_of_ne_zero fun h' => Nat.ne_of_gt hn ((hzero hd).1 (h.trans ((hzero hd').2 h')))
    have hround : ∀ e : Int, roundQuotient (scaleBy n' d' e).1 (scaleBy n' d' e).2 =
        roundQuotient (scaleBy n d e).1 (scaleBy n d e).2 := by
      intro e
      refine roundQuotient_congr (scaleBy_pos n' hd' e) (scaleBy_pos n hd e) ?_
      rw [scaleBy_eq n' hd', scaleBy_eq n hd, h]
    have hlog := quotientLog_congr hn' hd' hn hd h.symm
    rw [ofRatio_eq negative hn rfl rfl, ofRatio_eq negative hn' (by rw [hlog]) (hround _)]

/-! ## What was rounded -/

/-- A finite number that a quotient rounds to is nearest to it. -/
theorem roundsTo_ofRatio (hf : f.IsProper) {n d m : Nat} {e : Int} {negative sign : Bool} (hn : 0 < n)
    (hd : 0 < d) (h : ofRatio f negative n d = .finite sign m e) : RoundsTo f m e (n / d) := by
  obtain ⟨unit, q, hunit, hq, hle, hge⟩ := rounded_spec hf hn hd
  have hround : RoundsAt (1 / 2) q (n / d / 2 ^ unit) := by
    rw [← hq, ← scaleBy_eq n hd]
    exact roundsAt_roundQuotient _ (scaleBy_pos n hd unit)
  have hp := two_pow_precision hf
  have hprecision := hf.precision
  rw [ofRatio_eq negative hn hunit hq] at h
  split_ifs at h with htop hlarge hlarge
  · -- the mantissa has grown by one bit
    cases h
    have hhalf : (n / d / 2 ^ (unit + 1) : ℚ) = n / d / 2 ^ unit / 2 := by
      rw [zpow_add_one₀ two_ne_zero, div_mul_eq_div_div]
    have hq2 : (q : ℚ) = 2 * (2 ^ (f.precision - 1) : Nat) := by
      rw [htop, hp, Nat.cast_mul, Nat.cast_ofNat]
    have heven : 2 ^ (f.precision - 1) % 2 = 0 := by
      rw [show f.precision - 1 = f.precision - 2 + 1 by omega, Nat.pow_succ, Nat.mul_mod_left]
    have hgap : gap f (2 ^ (f.precision - 1)) (unit + 1) = 1 / 4 := by
      rw [gap, if_pos ⟨rfl, by omega⟩]
    have hlow := hround.low
    have hhigh := hround.high
    rw [RoundsTo, hhalf, hgap]
    exact ⟨by linarith, fun _ => heven, by linarith, fun _ => heven⟩
  · cases h
    rcases gap_cases f m e with hgap | ⟨hm, hleast, hgap⟩
    · rwa [RoundsTo, hgap]
    · -- the quotient is not below the power of two that is its mantissa
      have hexact : (m : ℚ) ≤ n / d / 2 ^ e := by
        have hlog : quotientLog n d = e + (f.precision - 1 : Nat) := by omega
        have hfrom := (quotientLog_spec hn hd).1
        rwa [hm, le_div_iff₀ (by positivity), two_pow_mul_zpow, Int.add_comm, ← hlog]
      rw [RoundsTo, hgap]
      exact ⟨by linarith, fun heq => by linarith, hround.high, hround.highTie⟩

/-! ## Order -/

/-- One number has no two standard mantissas. -/
theorem IsStandard.unique {m m' : Nat} {e e' : Int} (hf : f.IsProper) (hs : IsStandard f m e)
    (hs' : IsStandard f m' e')
    (h : m * Nat.pow 2 (e - f.least).toNat = m' * Nat.pow 2 (e' - f.least).toNat) : m = m' ∧ e = e' := by
  wlog hle : e ≤ e' generalizing m m' e e'
  · obtain ⟨rfl, rfl⟩ := this hs' hs h.symm (by omega)
    exact ⟨rfl, rfl⟩
  have hleast := hs.least
  obtain ⟨k, rfl⟩ : ∃ k : Nat, e' = e + k := ⟨(e' - e).toNat, by omega⟩
  have hsum : (e + k - f.least).toNat = k + (e - f.least).toNat := by omega
  have hpos : 0 < 2 ^ (e - f.least).toNat := by positivity
  rw [hsum, Nat.pow_eq, Nat.pow_eq, Nat.pow_add, ← Nat.mul_assoc] at h
  have hm := Nat.eq_of_mul_eq_mul_right hpos h
  cases k with
  | zero => exact ⟨by simpa using hm, by simp⟩
  | succ k =>
    -- a larger unit would make the mantissa too large for the smaller one
    have hnormal := hs'.normal.resolve_left (by omega)
    have hprecision := two_pow_precision hf
    have hmantissa := hs.mantissa
    have hone : 1 ≤ 2 ^ k := Nat.one_le_two_pow
    have hlarge : 2 ^ (f.precision - 1) * 1 ≤ m' * 2 ^ k := Nat.mul_le_mul hnormal hone
    rw [Nat.pow_succ, ← Nat.mul_assoc] at hm
    omega

theorem IsStandard.units_lt {m : Nat} {e : Int} (hs : IsStandard f m e) :
    m * Nat.pow 2 (e - f.least).toNat < Nat.pow 2 (f.greatest + f.precision - f.least).toNat := by
  have hleast := hs.least
  have hgreatest := hs.greatest
  have hpos : 0 < 2 ^ (e - f.least).toNat := by positivity
  simp only [Nat.pow_eq]
  calc m * 2 ^ (e - f.least).toNat < 2 ^ f.precision * 2 ^ (e - f.least).toNat :=
        Nat.mul_lt_mul_of_pos_right hs.mantissa hpos
    _ = 2 ^ (f.precision + (e - f.least).toNat) := (Nat.pow_add 2 _ _).symm
    _ ≤ 2 ^ (f.greatest + f.precision - f.least).toNat := Nat.pow_le_pow_right Nat.zero_lt_two (by omega)

theorem signed_inj {negative : Bool} {n n' : Nat} : signed negative n = signed negative n' ↔ n = n' := by
  cases negative <;> simp [signed]

/-- Numbers of one sign are equal only if they are the same. -/
theorem IsCanonical.compare?_eq_iff {x y : Binary f} {negative : Bool} (hf : f.IsProper)
    (hx : IsCanonical negative x) (hy : IsCanonical negative y) : x.compare? y = some .eq ↔ x = y := by
  have heq : ∀ a b : Int, some (compare a b) = some .eq ↔ a = b := by
    intro a b
    rw [Option.some.injEq, Int.compare_eq_eq]
  cases hx with
  | infinite =>
    cases hy with
    | infinite => exact iff_of_true ((heq _ _).2 rfl) rfl
    | finite hs =>
      refine iff_of_false ?_ (by simp)
      rw [compare?, units?, units?, heq, signed_inj]
      exact ne_of_gt hs.units_lt
  | finite hs =>
    cases hy with
    | infinite =>
      refine iff_of_false ?_ (by simp)
      rw [compare?, units?, units?, heq, signed_inj]
      exact ne_of_lt hs.units_lt
    | finite hs' =>
      rw [compare?, units?, units?, heq, signed_inj]
      constructor
      · intro h
        obtain ⟨rfl, rfl⟩ := hs.unique hf hs' h
        rfl
      · intro h
        cases h
        rfl

end Binary
end Number
end RecordFilter
