import Mathlib.Algebra.Ring.Int.Defs
import Mathlib.Algebra.Ring.Nat
import Mathlib.Data.List.Induction
import RecordFilter.Number.Integer
import RecordFilter.Text.Basic

/-!
# RecordFilter.Proofs.Number.Digits

A natural number has as many digits as the powers of ten around it say (`pow_digitCount_le`,
`lt_pow_digitCount`), and it is read back from its digits (`readNat?_digitsOf`).
-/

namespace RecordFilter
namespace Number

theorem isDigit_eq (c : Char) : isDigit c = c.isDigit := rfl

theorem isDigit_of_mem_digitsOf {n : Nat} {c : Char} (h : c ∈ digitsOf n) : isDigit c = true := by
  rw [isDigit_eq]
  exact Nat.isDigit_of_mem_toDigits (by decide) (by decide) h

theorem digitsOf_ne_nil (n : Nat) : digitsOf n ≠ [] := Nat.toDigits_ne_nil

theorem digitCount_of_pos {n : Nat} (h : 0 < n) : digitCount n = (digitsOf n).length :=
  if_neg (Nat.ne_of_gt h)

theorem lt_pow_digitCount (n : Nat) : n < 10 ^ digitCount n := by
  rcases Nat.eq_zero_or_pos n with rfl | hn
  · decide
  · rw [digitCount_of_pos hn]
    exact (Nat.length_toDigits_le_iff (by decide) Nat.length_toDigits_pos).1 (Nat.le_refl _)

theorem pow_digitCount_le {n : Nat} (h : 0 < n) : 10 ^ (digitCount n - 1) ≤ n := by
  rw [digitCount_of_pos h]
  have hpos : 0 < (digitsOf n).length := Nat.length_toDigits_pos
  rcases Nat.eq_zero_or_pos ((digitsOf n).length - 1) with hzero | hrest
  · rw [hzero]
    exact h
  · have hnot := mt (Nat.length_toDigits_le_iff (b := 10) (n := n) (by decide) hrest).2
    exact Nat.le_of_not_lt (hnot (by rw [digitsOf] at hpos ⊢; omega))

theorem digitCount_le_of_lt {n p : Nat} (h : n < 10 ^ p) : digitCount n ≤ p := by
  rcases Nat.eq_zero_or_pos n with rfl | hn
  · exact Nat.zero_le p
  · have hlt := (Nat.pow_lt_pow_iff_right (by decide)).1 (Nat.lt_of_le_of_lt (pow_digitCount_le hn) h)
    omega

theorem readNat?_digitsOf (n : Nat) : readNat? (digitsOf n) = some n := by
  simpa [readNat?, ofDigits_digitsOf, digitsOf_ne_nil] using fun c => isDigit_of_mem_digitsOf

theorem toNat_of_isDigit {c : Char} (h : isDigit c = true) : 0x30 ≤ c.toNat ∧ c.toNat ≤ 0x39 := by
  simp only [isDigit, Bool.and_eq_true, decide_eq_true_eq] at h
  exact ⟨UInt32.le_iff_toNat_le.1 h.1, UInt32.le_iff_toNat_le.1 h.2⟩

theorem mem_digits {c : Char} (h : isDigit c = true) : c ∈ "0123456789".toList := by
  have hrange := toNat_of_isDigit h
  have hall : ∀ n < 0x3A, 0x30 ≤ n → Char.ofNat n ∈ "0123456789".toList := by decide
  rw [← c.ofNat_toNat]
  exact hall _ (Nat.lt_succ_of_le hrange.2) hrange.1

/-- What holds of the ten digits holds of every digit. -/
theorem of_isDigit {p : Char → Prop} [DecidablePred p]
    (h : ("0123456789".toList.all fun c => decide (p c)) = true) {c : Char} (hc : isDigit c = true) : p c :=
  of_decide_eq_true (List.all_eq_true.1 h c (mem_digits hc))

theorem digitChar_digitValue {c : Char} (h : isDigit c = true) :
    digitValue c < 10 ∧ Nat.digitChar (digitValue c) = c :=
  @of_isDigit (fun c => digitValue c < 10 ∧ Nat.digitChar (digitValue c) = c) _ (by decide) c h

theorem ofDigits_append_singleton (digits : List Char) (c : Char) :
    ofDigits (digits ++ [c]) = 10 * ofDigits digits + digitValue c := by
  rw [ofDigits, Nat.ofDigitChars_append, Nat.ofDigitChars_cons, Nat.ofDigitChars_nil]
  rfl

theorem ofDigits_append (front back : List Char) :
    ofDigits (front ++ back) = ofDigits front * 10 ^ back.length + ofDigits back := by
  rw [ofDigits, Nat.ofDigitChars_append, Nat.ofDigitChars_eq_ofDigitChars_zero, Nat.mul_comm]
  rfl

theorem ofDigits_cons (c : Char) (rest : List Char) :
    ofDigits (c :: rest) = digitValue c * 10 ^ rest.length + ofDigits rest := by
  have hsingle : ofDigits [c] = digitValue c := by
    rw [← List.nil_append [c], ofDigits_append_singleton]
    exact Nat.zero_add _
  rw [← List.singleton_append, ofDigits_append, hsingle]

theorem ofDigits_replicate_zero (n : Nat) : ofDigits (List.replicate n '0') = 0 := by
  rw [ofDigits, Nat.ofDigitChars_replicate_zero, Nat.mul_zero]

theorem ofDigits_pos {digits : List Char} (h : ∃ c ∈ digits, isDigit c = true ∧ c ≠ '0') :
    0 < ofDigits digits := by
  induction digits using List.reverseRecOn with
  | nil =>
    obtain ⟨c, hc, -⟩ := h
    cases hc
  | append_singleton digits d ih =>
    obtain ⟨c, hc, hdigit, hne⟩ := h
    rw [ofDigits_append_singleton]
    rcases List.mem_append.1 hc with hc | hc
    · have hpos := ih ⟨c, hc, hdigit, hne⟩
      omega
    · obtain rfl := List.mem_singleton.1 hc
      have hpos := @of_isDigit (fun c => c ≠ '0' → 0 < digitValue c) _ (by decide) c hdigit hne
      omega

/-- Without a zero in front the digits of a number are the ones that it is read from. -/
theorem digitsOf_ofDigits {digits : List Char} (hne : digits ≠ []) (hall : ∀ c ∈ digits, isDigit c = true)
    (hfront : digits = ['0'] ∨ digits.head? ≠ some '0') : digitsOf (ofDigits digits) = digits := by
  induction digits using List.reverseRecOn with
  | nil => exact absurd rfl hne
  | append_singleton digits c ih =>
    obtain ⟨hlt, hchar⟩ := digitChar_digitValue (hall c (by simp))
    have hlast : digitsOf (digitValue c) = [c] := by rw [digitsOf, Nat.toDigits_of_lt_base hlt, hchar]
    rw [ofDigits_append_singleton]
    cases digits with
    | nil => simpa [ofDigits] using hlast
    | cons d rest =>
      have hd : d ≠ '0' := by
        rintro rfl
        rcases hfront with heq | hhead
        · simp at heq
        · exact hhead rfl
      have hrest := ih (List.cons_ne_nil _ _) (fun e he => hall e (List.mem_append_left _ he))
        (.inr fun heq => hd (Option.some.inj heq))
      have hpos : 0 < ofDigits (d :: rest) := ofDigits_pos ⟨d, List.mem_cons_self, hall d (by simp), hd⟩
      rw [digitsOf, ← Nat.toDigits_append_toDigits (by decide) hpos hlt]
      exact congrArg₂ (· ++ ·) hrest hlast

theorem ne_of_isDigit {c d : Char} (hc : isDigit c = true) (hd : isDigit d = false) : c ≠ d := by
  rintro rfl
  rw [hc] at hd
  cases hd

theorem splitSign_of_isDigit {c : Char} (h : isDigit c = true) (rest : List Char) :
    splitSign (c :: rest) = (false, c :: rest) := by
  have hminus : c ≠ '-' := ne_of_isDigit h (by decide)
  have hplus : c ≠ '+' := ne_of_isDigit h (by decide)
  simp [splitSign, hminus, hplus]

theorem not_isBlank_of_isDigit {c : Char} (h : isDigit c = true) : Text.isBlank c = false := by
  have hrange := toNat_of_isDigit h
  rw [Bool.eq_false_iff]
  intro hblank
  obtain ⟨r, hr, hfirst, hlast⟩ := (Unicode.inRanges_eq_true_iff _ _).1 hblank
  simp only [Text.blankRanges, List.mem_cons, List.not_mem_nil, or_false] at hr
  rcases hr with rfl | rfl | rfl | rfl | rfl | rfl | rfl | rfl | rfl | rfl <;> simp at hfirst hlast <;> omega

end Number

/-- White space is cut off only where there is some. -/
theorem Text.trim_of_not_blank {text : List Char} (h : ∀ c ∈ text, Text.isBlank c = false) :
    Text.trim text = text := by
  have hdrop : ∀ text : List Char, (∀ c ∈ text, isBlank c = false) → text.dropWhile isBlank = text := by
    intro text h
    cases text with
    | nil => rfl
    | cons c rest => simp [h c List.mem_cons_self]
  rw [trim, trimStart, hdrop text h, trimEnd, hdrop, List.reverse_reverse]
  intro c hc
  exact h c (List.mem_reverse.1 hc)

end RecordFilter
