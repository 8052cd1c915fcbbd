import RecordFilter.Text.Utf8

/-!
# RecordFilter.Proofs.Text.Utf8

Characters written as UTF-8 bytes are read back: `run_encodeChar` for one character in front of any bytes,
`decode?_encode` for a text.
-/

namespace RecordFilter
namespace Text
namespace Utf8

/-! ## Steps -/

section

variable {owed low high bits b : Nat}

/-- A later byte of a character, with others to come. -/
theorem run_inside (hlow : low ≤ b) (hhigh : b ≤ high) (rest : List Nat) :
    run (.inside (owed + 2) low high bits) (b :: rest) =
      run (.inside (owed + 1) 0x80 0xBF (bits * 0x40 + (b - 0x80))) rest := by
  have howed : ¬owed + 2 ≤ 1 := by omega
  rw [run, step, if_pos ⟨hlow, hhigh⟩]
  simp only [howed, if_false, List.nil_append]
  rfl

/-- The last byte of a character. -/
theorem run_last (hlow : low ≤ b) (hhigh : b ≤ high) (rest : List Nat) :
    run (.inside 1 low high bits) (b :: rest) =
      some (Char.ofNat (bits * 0x40 + (b - 0x80))) :: run .start rest := by
  rw [run, step, if_pos ⟨hlow, hhigh⟩]
  rfl

theorem run_start (rest : List Nat) : run .start (b :: rest) = (first b).1 ++ run (first b).2 rest := rfl

end

/-! ## First bytes -/

section

variable {k : Nat}

theorem first_two (hlow : 2 ≤ k) (hhigh : k < 0x20) : first (0xC0 + k) = ([], .inside 1 0x80 0xBF k) := by
  rw [first, if_neg (by omega), if_neg (by omega), if_pos (by omega), Nat.add_sub_cancel_left]

/-- What follows is bounded from below where fewer bytes would do, from above in front of the surrogates. -/
theorem first_three (h : k < 0x10) :
    first (0xE0 + k) = ([], .inside 2 (if k = 0 then 0xA0 else 0x80) (if k = 0xD then 0x9F else 0xBF) k) := by
  have hsurrogates : (0xE0 + k = 0xED) = (k = 0xD) := propext (by omega)
  rw [first, if_neg (by omega), if_neg (by omega), if_neg (by omega), if_pos (by omega), Nat.add_sub_cancel_left]
  simp only [Nat.add_eq_left, hsurrogates]

/-- What follows is bounded from above by the last character. -/
theorem first_four (h : k < 5) :
    first (0xF0 + k) = ([], .inside 3 (if k = 0 then 0x90 else 0x80) (if k = 4 then 0x8F else 0xBF) k) := by
  have hlast : (0xF0 + k = 0xF4) = (k = 4) := propext (by omega)
  rw [first, if_neg (by omega), if_neg (by omega), if_neg (by omega), if_neg (by omega), if_pos (by omega),
    Nat.add_sub_cancel_left]
  simp only [Nat.add_eq_left, hlast]

end

/-! ## Texts -/

theorem lt_of_mem_encodeChar {c : Char} {b : Nat} (h : b ∈ encodeChar c) : b < 0x100 := by
  have hvalid : c.toNat < 0xD800 ∨ (0xDFFF < c.toNat ∧ c.toNat < 0x110000) := c.valid
  unfold encodeChar at h
  dsimp only at h
  split at h
  · simp only [List.mem_singleton] at h
    omega
  all_goals
    repeat' split at h
    all_goals
      simp only [List.mem_cons, List.not_mem_nil, or_false] at h
      omega

theorem run_encodeChar (c : Char) (rest : List Nat) :
    run .start (encodeChar c ++ rest) = some c :: run .start rest := by
  have hvalid : c.toNat < 0xD800 ∨ (0xDFFF < c.toNat ∧ c.toNat < 0x110000) := c.valid
  have hback := c.ofNat_toNat
  unfold encodeChar
  generalize c.toNat = n at hvalid hback ⊢
  dsimp only
  split
  · rename_i hn
    rw [List.singleton_append, run_start, first, if_pos hn, hback]
    rfl
  split
  · have hfirst := @first_two (n / 0x40) (by omega) (by omega)
    have hvalue : n / 0x40 * 0x40 + (0x80 + n % 0x40 - 0x80) = n := by omega
    simp only [List.cons_append, List.nil_append]
    rw [run_start, hfirst, run_last (by omega) (by omega), hvalue, hback]
    rfl
  split
  · have hfirst := @first_three (n / 0x1000) (by omega)
    have hvalue : (n / 0x1000 * 0x40 + (0x80 + n / 0x40 % 0x40 - 0x80)) * 0x40 + (0x80 + n % 0x40 - 0x80) = n := by
      omega
    simp only [List.cons_append, List.nil_append]
    rw [run_start, hfirst, run_inside (by split <;> omega) (by split <;> omega), run_last (by omega) (by omega),
      hvalue, hback]
    rfl
  · have hfirst := @first_four (n / 0x40000) (by omega)
    have hvalue : ((n / 0x40000 * 0x40 + (0x80 + n / 0x1000 % 0x40 - 0x80)) * 0x40 +
        (0x80 + n / 0x40 % 0x40 - 0x80)) * 0x40 + (0x80 + n % 0x40 - 0x80) = n := by
      omega
    simp only [List.cons_append, List.nil_append]
    rw [run_start, hfirst, run_inside (by split <;> omega) (by split <;> omega), run_inside (by omega) (by omega),
      run_last (by omega) (by omega), hvalue, hback]
    rfl

theorem run_encode (text : List Char) : run .start (encode text) = text.map some := by
  induction text with
  | nil => rfl
  | cons c text ih =>
    have hrest : run .start (text.flatMap encodeChar) = text.map some := ih
    rw [encode, List.flatMap_cons, run_encodeChar, hrest, List.map_cons]

theorem decode?_encode (text : List Char) : decode? (encode text) = some text := by
  rw [decode?, run_encode, List.mapM_map]
  have hpure := List.mapM_pure (m := Option) (l := text) (f := id)
  rw [List.map_id] at hpure
  exact hpure

end Utf8
end Text
end RecordFilter
