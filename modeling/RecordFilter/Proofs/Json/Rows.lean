import Mathlib.Tactic.FinCases
import RecordFilter.Json.Writing
import RecordFilter.Proofs.Json.Numerals
import RecordFilter.Store.Database

/-!
# RecordFilter.Proofs.Json.Rows

What is read from the text of one row with one number.

* `takeToken?_writeText`: a text is read back from the way it is written.
* `ofText_numberRow`: the store of the row holds the number under its name.
-/

namespace RecordFilter
namespace Json

open Number (isDigit)

/-! ## Texts -/

def Piece.StandsFor (piece : Piece) (c : Char) : Prop :=
  ∀ rest, charsOf? none (piece :: rest) = (charsOf? none rest).map fun text => c :: text

theorem Piece.standsFor_char (c : Char) : (Piece.char c).StandsFor c := fun _ => rfl

theorem Piece.standsFor_unit {c : Char} (h : c.toNat < 0x20) : (Piece.unit c.toNat).StandsFor c := by
  intro rest
  have hhigh : isHighSurrogate c.toNat = false := by
    simp only [isHighSurrogate, Bool.and_eq_false_iff, decide_eq_false_iff_not]
    omega
  have hlow : isLowSurrogate c.toNat = false := by
    simp only [isLowSurrogate, Bool.and_eq_false_iff, decide_eq_false_iff_not]
    omega
  simp [charsOf?, hhigh, hlow, Char.ofNat_toNat]

theorem hexQuad?_hexDigit {n : Nat} (hn : n < 0x20) :
    hexQuad? '0' '0' (Text.hexDigit (n / 16)) (Text.hexDigit (n % 16)) = some n := by
  have hall : ∀ n < 0x20, hexQuad? '0' '0' (Text.hexDigit (n / 16)) (Text.hexDigit (n % 16)) = some n := by
    decide
  exact hall n hn

theorem takePieces?_letter {letter c : Char} (hletter : letter ≠ 'u') (h : escaped? letter = some c)
    (rest : List Char) :
    takePieces? ('\\' :: letter :: rest) = takePieces?.put (.char c) (takePieces? rest) := by
  simp [takePieces?, hletter, h]

theorem takePieces?_char {c : Char} (hquote : c ≠ '"') (hescape : c ≠ '\\') (hcontrol : ¬ c.toNat < 0x20)
    (rest : List Char) : takePieces? (c :: rest) = takePieces?.put (.char c) (takePieces? rest) := by
  cases rest <;> simp [takePieces?, hquote, hescape, hcontrol]

/-- A character is written as one piece that stands for it. -/
theorem exists_piece (c : Char) :
    ∃ piece : Piece, piece.StandsFor c ∧
      ∀ rest, takePieces? (escapeChar c ++ rest) = takePieces?.put piece (takePieces? rest) := by
  unfold escapeChar
  split
  case h_8 hquote hescape _ _ _ _ _ =>
    dsimp only
    split
    · rename_i hcontrol
      refine ⟨.unit c.toNat, Piece.standsFor_unit hcontrol, fun rest => ?_⟩
      simp only [List.cons_append, List.nil_append, takePieces?, hexQuad?_hexDigit hcontrol]
    · rename_i hcontrol
      exact ⟨.char c, Piece.standsFor_char c, takePieces?_char hquote hescape hcontrol⟩
  all_goals exact ⟨.char _, Piece.standsFor_char _, takePieces?_letter (by decide) rfl⟩

/-- A text is read back from the way it is written. -/
theorem takePieces?_escaped (text rest : List Char) :
    ∃ pieces, takePieces? (text.flatMap escapeChar ++ '"' :: rest) = some (pieces, rest) ∧
      charsOf? none pieces = some text := by
  induction text with
  | nil => exact ⟨[], by cases rest <;> rfl, rfl⟩
  | cons c text ih =>
    obtain ⟨pieces, hpieces, hchars⟩ := ih
    obtain ⟨piece, hstands, htake⟩ := exists_piece c
    refine ⟨piece :: pieces, ?_, ?_⟩
    · rw [List.flatMap_cons, List.append_assoc, htake, hpieces]
      rfl
    · rw [hstands, hchars]
      rfl

theorem takeToken?_writeText (text : String) (rest : List Char) :
    takeToken? (writeText text ++ rest) = some (.text (some text), rest) := by
  obtain ⟨pieces, hpieces, hchars⟩ := takePieces?_escaped text.toList rest
  have hwritten : writeText text ++ rest = '"' :: (text.toList.flatMap escapeChar ++ '"' :: rest) := by
    simp [writeText]
  rw [hwritten]
  show takeText? _ = _
  rw [takeText?, hpieces, Option.map_some]
  dsimp only
  rw [hchars, Option.map_some, String.ofList_toList]

/-! ## Numbers -/

theorem Numeral.Written.Spells.exists_cons {w : Numeral.Written} {text : List Char} (h : w.Spells text) :
    ∃ c rest, text = c :: rest ∧ (c = '-' ∨ isDigit c = true) := by
  obtain ⟨hwhole, fraction, exponent, rfl, -, -⟩ := h
  obtain ⟨c, rest, hcons, hc⟩ := hwhole.exists_cons
  cases w.negative with
  | true => exact ⟨'-', _, rfl, .inl rfl⟩
  | false => exact ⟨c, rest ++ fraction ++ exponent, by simp [hcons], .inr hc⟩

theorem isSpace_of_start {c : Char} (hc : c = '-' ∨ isDigit c = true) : isSpace c = false := by
  rcases hc with rfl | hc
  · rfl
  · exact @Number.of_isDigit (fun c => isSpace c = false) _ (by decide) c hc

theorem takeToken?_of_start {c : Char} (hc : c = '-' ∨ isDigit c = true) (rest : List Char) :
    takeToken? (c :: rest) = takeNumber? (c :: rest) := by
  have hstart : ∀ d ∈ '-' :: "0123456789".toList, takeToken? (d :: rest) = takeNumber? (d :: rest) := by
    intro d hd
    fin_cases hd <;> rfl
  exact hstart c (List.mem_cons.2 (hc.imp_right Number.mem_digits))

theorem takeToken?_number {w : Numeral.Written} {text rest : List Char} (h : w.Spells text)
    (htrimmed : w.IsTrimmed) (hrest : Numeral.EndsNumber rest) :
    takeToken? (text ++ rest) = some (.plain (Numeral.value? w), rest) := by
  have htake := Numeral.take?_append h htrimmed hrest
  obtain ⟨c, inside, rfl, hc⟩ := h.exists_cons
  rw [List.cons_append, takeToken?_of_start hc, takeNumber?, ← List.cons_append, htake]
  rfl

/-! ## Rows -/

theorem tokensFrom?_of_takeToken? {text rest : List Char} {token : Token} (fuel : Nat)
    (hspace : text.head?.any isSpace = false) (h : takeToken? text = some (token, rest)) :
    tokensFrom? (fuel + 1) text = (tokensFrom? fuel rest).map fun tokens => token :: tokens := by
  cases text with
  | nil => cases h
  | cons c text =>
    have hdrop : (c :: text).dropWhile isSpace = c :: text :=
      List.dropWhile_cons_of_neg (Bool.eq_false_iff.1 hspace)
    rw [tokensFrom?, hdrop]
    simp only [h]

/-- The text of a list of one row that has one number. -/
def numberRow (key : String) (number : List Char) : List Char :=
  brackets (braces (writeText key ++ ':' :: number))

theorem tokens?_numberRow {w : Numeral.Written} {number : List Char} (key : String) (h : w.Spells number)
    (htrimmed : w.IsTrimmed) :
    tokens? (numberRow key number) =
      some [.openArray, .openObject, .text (some key), .colon, .plain (Numeral.value? w), .closeObject,
        .closeArray] := by
  have hrow : numberRow key number =
      '[' :: '\x7b' :: (writeText key ++ (':' :: (number ++ ['\x7d', ']']))) := by
    simp [numberRow, brackets, braces]
  obtain ⟨fuel, hfuel⟩ : ∃ fuel, (numberRow key number).length = fuel + 7 := by
    refine ⟨(numberRow key number).length - 7, ?_⟩
    obtain ⟨c, rest, rfl, -⟩ := h.exists_cons
    have hlength : 7 ≤ (numberRow key (c :: rest)).length := by
      simp only [numberRow, brackets, braces, writeText, List.length_append, List.length_cons, List.length_nil]
      omega
    omega
  have hends : Numeral.EndsNumber ['\x7d', ']'] := by
    intro c hc
    cases hc
    decide
  have hnumber : (number ++ ['\x7d', ']']).head?.any isSpace = false := by
    obtain ⟨c, rest, rfl, hc⟩ := h.exists_cons
    exact isSpace_of_start hc
  rw [tokens?, hfuel, hrow, tokensFrom?_of_takeToken? (fuel + 6) rfl rfl,
    tokensFrom?_of_takeToken? (fuel + 5) rfl rfl,
    tokensFrom?_of_takeToken? (fuel + 4) rfl (takeToken?_writeText key _),
    tokensFrom?_of_takeToken? (fuel + 3) rfl rfl,
    tokensFrom?_of_takeToken? (fuel + 2) hnumber (takeToken?_number h htrimmed hends),
    tokensFrom?_of_takeToken? (fuel + 1) rfl rfl, tokensFrom?_of_takeToken? fuel rfl rfl]
  cases fuel <;> rfl

/-- The store of the row holds the number under its name. -/
theorem ofText_numberRow {w : Numeral.Written} {number : List Char} {v : Json} (record key : String)
    (h : w.Spells number) (htrimmed : w.IsTrimmed) (hv : Numeral.value? w = some v) :
    Store.ofText record (String.ofList (numberRow key number)) = .ok ⟨[.object [(key, v)]]⟩ := by
  have hdraft : draft? (numberRow key number) = some (.array [.object [(some key, .leaf (some v))]]) := by
    rw [draft?, tokens?_numberRow key h htrimmed, hv]
    rfl
  have hread : read? nestingLimit (numberRow key number) = some (.array [.object [(key, v)]]) := by
    rw [read?, hdraft]
    rfl
  rw [Store.ofText, parse?, String.toList_ofList, hread]
  rcases Numeral.value?_cases hv with ⟨n, -, rfl⟩ | ⟨x, -, -, rfl⟩
  · rfl
  · rfl

end Json
end RecordFilter
