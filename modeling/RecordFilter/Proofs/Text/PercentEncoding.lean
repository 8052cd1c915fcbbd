import RecordFilter.Proofs.Text.Utf8
import RecordFilter.Text.PercentEncoding

/-!
# RecordFilter.Proofs.Text.PercentEncoding

Texts in the form of form data. A character is spelled by itself if it is an ASCII letter or digit, by `+` if
it is a space, and in any case by its UTF-8 bytes, each of them as `%` and two hexadecimal digits. Every text
has such a spelling (`exists_spells`), none needs more than a few ASCII characters (`isFormPart_of_spells`),
and all of them are read as the text (`decode?_of_spells`).
-/

namespace RecordFilter
namespace Text

/-! ## Sequences of spellings -/

/-- The text is made of one spelling for each element, in their order. -/
inductive Sequence {α : Type} (spells : α → List Char → Prop) : List α → List Char → Prop where
  | nil : Sequence spells [] []
  | cons {x : α} {xs : List α} {front rest : List Char} (h : spells x front)
      (hrest : Sequence spells xs rest) : Sequence spells (x :: xs) (front ++ rest)

namespace Sequence

variable {α : Type} {spells : α → List Char → Prop}

theorem exists_of_forall {xs : List α} (h : ∀ x ∈ xs, ∃ text, spells x text) :
    ∃ text, Sequence spells xs text := by
  induction xs with
  | nil => exact ⟨[], .nil⟩
  | cons x xs ih =>
    obtain ⟨front, hfront⟩ := h x List.mem_cons_self
    obtain ⟨rest, hrest⟩ := ih fun y hy => h y (List.mem_cons_of_mem x hy)
    exact ⟨front ++ rest, .cons hfront hrest⟩

theorem forall_mem {xs : List α} {text : List Char} {P : Char → Prop} (h : Sequence spells xs text)
    (hspells : ∀ x part, spells x part → ∀ c ∈ part, P c) : ∀ c ∈ text, P c := by
  induction h with
  | nil => simp
  | cons hfront _ ih =>
    intro c hc
    exact (List.mem_append.1 hc).elim (hspells _ _ hfront c) (ih c)

/-- What is read of one spelling in front of any text is read of all of them. -/
theorem read_append {β : Type} {read : List Char → List β} {value : α → List β} {xs : List α}
    {text : List Char} (h : Sequence spells xs text)
    (hread : ∀ x part, spells x part → ∀ rest, read (part ++ rest) = value x ++ read rest) (rest : List Char) :
    read (text ++ rest) = xs.flatMap value ++ read rest := by
  induction h with
  | nil => rfl
  | cons hfront _ ih => rw [List.append_assoc, hread _ _ hfront, ih, List.flatMap_cons, List.append_assoc]

end Sequence

namespace PercentEncoding

/-! ## Spellings -/

/-- A hexadecimal digit, in either case. -/
def IsHexDigit (n : Nat) (c : Char) : Prop :=
  "0123456789ABCDEF".toList[n]? = some c ∨ "0123456789abcdef".toList[n]? = some c

inductive SpellsByte (b : Nat) : List Char → Prop where
  | percent {high low : Char} (hhigh : IsHexDigit (b / 16) high) (hlow : IsHexDigit (b % 16) low) :
      SpellsByte b ['%', high, low]

inductive SpellsChar : Char → List Char → Prop where
  | plain {c : Char} (h : c.isAlphanum = true) : SpellsChar c [c]
  | plus : SpellsChar ' ' ['+']
  | percent {c : Char} {text : List Char} (h : Sequence SpellsByte (Utf8.encodeChar c) text) :
      SpellsChar c text

/-- The text is spelled character by character. -/
def Spells (text written : List Char) : Prop := Sequence SpellsChar text written

/-! ## Hexadecimal digits -/

theorem IsHexDigit.spec {n : Nat} {c : Char} (h : IsHexDigit n c) :
    n < 16 ∧ hexValue? c = some n ∧ c.isAlphanum = true := by
  have hall : ∀ digits ∈ ["0123456789ABCDEF".toList, "0123456789abcdef".toList], digits.length = 16 ∧
      ∀ n < 16, (digits[n]?.all fun c => hexValue? c == some n && c.isAlphanum) = true := by decide
  have hone : ∀ digits ∈ ["0123456789ABCDEF".toList, "0123456789abcdef".toList], digits[n]? = some c →
      n < 16 ∧ hexValue? c = some n ∧ c.isAlphanum = true := by
    intro digits hdigits hc
    obtain ⟨hlength, hvalues⟩ := hall digits hdigits
    have hn : n < 16 := hlength ▸ (List.getElem?_eq_some_iff.1 hc).1
    have hvalue := hvalues n hn
    rw [hc] at hvalue
    simpa [hn] using hvalue
  exact h.elim (hone _ (by simp)) (hone _ (by simp))

theorem exists_isHexDigit {n : Nat} (h : n < 16) : ∃ c, IsHexDigit n c :=
  ⟨"0123456789ABCDEF".toList.get ⟨n, h⟩, .inl (List.getElem?_eq_getElem h)⟩

/-! ## Characters -/

/-- Letters, digits and the two marks. -/
def isFormPart (c : Char) : Bool := c.isAlphanum || c == '%' || c == '+'

theorem isFormPart_of_spellsByte {b : Nat} {text : List Char} (h : SpellsByte b text) :
    ∀ c ∈ text, isFormPart c = true := by
  cases h with
  | percent hhigh hlow => simp [isFormPart, hhigh.spec.2.2, hlow.spec.2.2]

theorem isFormPart_of_spellsChar {c : Char} {text : List Char} (h : SpellsChar c text) :
    ∀ c ∈ text, isFormPart c = true := by
  cases h with
  | plain hplain => simp [isFormPart, hplain]
  | plus => exact List.forall_mem_singleton.2 rfl
  | percent hbytes => exact hbytes.forall_mem fun _ _ => isFormPart_of_spellsByte

theorem isFormPart_of_spells {text written : List Char} (h : Spells text written) :
    ∀ c ∈ written, isFormPart c = true :=
  h.forall_mem fun _ _ => isFormPart_of_spellsChar

theorem exists_spells (text : List Char) : ∃ written, Spells text written := by
  refine Sequence.exists_of_forall fun c _ => ?_
  have hbytes : ∀ b ∈ Utf8.encodeChar c, ∃ text, SpellsByte b text := by
    intro b hb
    have hlt := Utf8.lt_of_mem_encodeChar hb
    obtain ⟨high, hhigh⟩ := @exists_isHexDigit (b / 16) (by omega)
    obtain ⟨low, hlow⟩ := @exists_isHexDigit (b % 16) (by omega)
    exact ⟨_, .percent hhigh hlow⟩
  obtain ⟨written, hwritten⟩ := Sequence.exists_of_forall hbytes
  exact ⟨written, .percent hwritten⟩

/-! ## Reading -/

theorem bytes_cons {c : Char} (h : c ≠ '%') (rest : List Char) :
    bytes (c :: rest) = Utf8.encodeChar c ++ bytes rest := by
  rw [bytes]
  intro a b rest hc
  exact absurd hc h

theorem bytes_percent {high low : Char} {b : Nat} (h : hexByte? high low = some b) (rest : List Char) :
    bytes ('%' :: high :: low :: rest) = b :: bytes rest := by
  rw [bytes, h]

theorem plusToSpace_cons {c : Char} (h : c ≠ '+') (rest : List Char) :
    plusToSpace (c :: rest) = c :: plusToSpace rest := by
  rw [plusToSpace, List.map_cons, if_neg h]
  rfl

theorem ne_of_isAlphanum {c d : Char} (hc : c.isAlphanum = true) (hd : d.isAlphanum = false) : c ≠ d := by
  rintro rfl
  rw [hc] at hd
  cases hd

/-- The bytes of form data. -/
def formBytes (text : List Char) : List Nat := bytes (plusToSpace text)

theorem formBytes_cons {c : Char} (hplus : c ≠ '+') (hpercent : c ≠ '%') (rest : List Char) :
    formBytes (c :: rest) = Utf8.encodeChar c ++ formBytes rest := by
  rw [formBytes, plusToSpace_cons hplus, bytes_cons hpercent]
  rfl

theorem formBytes_of_spellsByte {b : Nat} {part : List Char} (h : SpellsByte b part) (rest : List Char) :
    formBytes (part ++ rest) = [b] ++ formBytes rest := by
  cases h with
  | @percent high low hhigh hlow =>
    obtain ⟨-, hhighValue, hhighPlain⟩ := hhigh.spec
    obtain ⟨-, hlowValue, hlowPlain⟩ := hlow.spec
    have hbyte : hexByte? high low = some b := by
      rw [hexByte?, hhighValue, hlowValue]
      exact congrArg some (Nat.div_add_mod' b 16)
    have hplus := ne_of_isAlphanum (d := '+') hhighPlain (by decide)
    have hplus' := ne_of_isAlphanum (d := '+') hlowPlain (by decide)
    simp only [List.cons_append, List.nil_append]
    rw [formBytes, plusToSpace_cons (by decide), plusToSpace_cons hplus, plusToSpace_cons hplus',
      bytes_percent hbyte]
    rfl

theorem formBytes_of_spellsChar {c : Char} {part : List Char} (h : SpellsChar c part) (rest : List Char) :
    formBytes (part ++ rest) = Utf8.encodeChar c ++ formBytes rest := by
  cases h with
  | plain hplain =>
    exact formBytes_cons (ne_of_isAlphanum hplain (by decide)) (ne_of_isAlphanum hplain (by decide)) rest
  | plus => rfl
  | percent hbytes =>
    have hread := hbytes.read_append (fun _ _ => formBytes_of_spellsByte) rest
    simpa using hread

/-- All spellings of a text are read as the text. -/
theorem decode?_of_spells {text written : List Char} (h : Spells text written) :
    decode? (plusToSpace written) = some text := by
  have hread := h.read_append (fun _ _ => formBytes_of_spellsChar) []
  have hempty : formBytes [] = [] := rfl
  rw [List.append_nil, hempty, List.append_nil, formBytes] at hread
  rw [decode?, hread]
  exact Utf8.decode?_encode text

end PercentEncoding
end Text
end RecordFilter
