import RecordFilter.Proofs.Number.Digits
import RecordFilter.Sql.Expression
import RecordFilter.Text.Basic

/-!
# RecordFilter.Proofs.Sql.Tokens

How a database cuts SQL into tokens: words in any case of letters, names and texts between quotes in
which a doubled quote is one quote, numbers, parameters and a few signs. `readToken?` reads one token and
`Lexes` a whole text, which it does in one way only (`Lexes.deterministic`).

What is quoted comes back as one token (`readToken?_quoteIdent`, `readToken?_quoteLiteral`), whatever
stands in it.
-/

namespace RecordFilter
namespace Sql

/-- Words are in lower case. The parameters of one of the dialects have no number of their own. -/
inductive Token where
  | word (name : String)
  | ident (name : String)
  | string (text : String)
  | number (value : Nat)
  | parameter (index? : Option Nat)
  | comparison (comparison : Comparison)
  | opening
  | closing
  | comma
  | dot
  | star
  | typed
deriving DecidableEq, Repr

/-! ## One token -/

def isWordStart (c : Char) : Bool := c.isAlpha || c == '_'

def isWordPart (c : Char) : Bool := c.isAlphanum || c == '_'

/-- The text up to the closing quote, and what follows. -/
def readQuoted (quote : Char) : List Char → Option (List Char × List Char)
  | [] => none
  | [c] => if c = quote then some ([], []) else none
  | c :: d :: rest =>
    if c = quote then
      if d = quote then (readQuoted quote rest).map fun (text, after) => (quote :: text, after)
      else some ([], d :: rest)
    else (readQuoted quote (d :: rest)).map fun (text, after) => (c :: text, after)

def readWord (text : List Char) : Token × List Char :=
  (.word (String.ofList (Text.lowerAscii (text.takeWhile isWordPart))), text.dropWhile isWordPart)

/-- One digit or more, and what follows. -/
def readDigits? (text : List Char) : Option (Nat × List Char) :=
  (Number.readNat? (text.takeWhile Number.isDigit)).map fun n => (n, text.dropWhile Number.isDigit)

def readSign? : List Char → Option (Token × List Char)
  | '(' :: rest => some (.opening, rest)
  | ')' :: rest => some (.closing, rest)
  | ',' :: rest => some (.comma, rest)
  | '.' :: rest => some (.dot, rest)
  | '*' :: rest => some (.star, rest)
  | ':' :: ':' :: rest => some (.typed, rest)
  | '=' :: rest => some (.comparison .eq, rest)
  | '<' :: '>' :: rest => some (.comparison .ne, rest)
  | '<' :: '=' :: rest => some (.comparison .le, rest)
  | '<' :: rest => some (.comparison .lt, rest)
  | '>' :: '=' :: rest => some (.comparison .ge, rest)
  | '>' :: rest => some (.comparison .gt, rest)
  | '?' :: rest => some (.parameter none, rest)
  | '$' :: rest => (readDigits? rest).map fun (n, after) => (.parameter (some n), after)
  | '"' :: rest => (readQuoted '"' rest).map fun (name, after) => (.ident (String.ofList name), after)
  | '\'' :: rest => (readQuoted '\'' rest).map fun (text, after) => (.string (String.ofList text), after)
  | _ => none

def readToken? : List Char → Option (Token × List Char)
  | [] => none
  | c :: rest =>
    if isWordStart c then some (readWord (c :: rest))
    else if Number.isDigit c then (readDigits? (c :: rest)).map fun (n, after) => (.number n, after)
    else readSign? (c :: rest)

/-- What follows does not go on with a word, a number or a quoted text. -/
def Ends (rest : List Char) : Prop := ∀ c ∈ rest.head?, isWordPart c = false ∧ c ≠ '"' ∧ c ≠ '\''

theorem ends_nil : Ends [] := by simp [Ends]

theorem ends_cons {c : Char} {rest : List Char}
    (h : (!isWordPart c && c != '"' && c != '\'') = true) : Ends (c :: rest) := by
  simpa [Ends, and_assoc] using h

theorem Ends.head_ne {rest : List Char} (h : Ends rest) :
    rest.head? ≠ some '"' ∧ rest.head? ≠ some '\'' := by
  constructor <;> intro hc
  · exact (h _ hc).2.1 rfl
  · exact (h _ hc).2.2 rfl

/-! ## Quotes -/

theorem readQuoted_cons_of_ne {quote c : Char} (h : c ≠ quote) (rest : List Char) :
    readQuoted quote (c :: rest) =
      (readQuoted quote rest).map fun (text, after) => (c :: text, after) := by
  cases rest <;> simp [readQuoted, h]

/-- A text with its quotes doubled is read back up to the quote behind it. -/
theorem readQuoted_doubled {quote : Char} (text rest : List Char) (h : rest.head? ≠ some quote) :
    readQuoted quote
        ((text.flatMap fun d => if d = quote then [quote, quote] else [d]) ++ quote :: rest) =
      some (text, rest) := by
  induction text with
  | nil =>
    cases rest with
    | nil => simp [readQuoted]
    | cons c rest => simp [readQuoted, show c ≠ quote from fun hc => h (by simp [hc])]
  | cons d text ih =>
    by_cases hd : d = quote
    · simp [hd, readQuoted, ih]
    · simp [hd, readQuoted_cons_of_ne hd, ih]

theorem readToken?_quoteIdent (name : String) {rest : List Char} (h : rest.head? ≠ some '"') :
    readToken? ((quoteIdent name).toList ++ rest) = some (.ident name, rest) := by
  have hopened : ∀ text, readToken? ('"' :: text) =
      (readQuoted '"' text).map fun (name, after) => (.ident (String.ofList name), after) := fun _ => rfl
  simp only [quoteIdent, replaceChar, String.toList_append, String.toList_ofList, List.append_assoc]
  exact (hopened _).trans (by simp [readQuoted_doubled name.toList rest h])

theorem readToken?_quoteLiteral (text : String) {rest : List Char} (h : rest.head? ≠ some '\'') :
    readToken? ((quoteLiteral text).toList ++ rest) = some (.string text, rest) := by
  have hopened : ∀ text, readToken? ('\'' :: text) =
      (readQuoted '\'' text).map fun (text, after) => (.string (String.ofList text), after) := fun _ => rfl
  simp only [quoteLiteral, replaceChar, String.toList_append, String.toList_ofList, List.append_assoc]
  exact (hopened _).trans (by simp [readQuoted_doubled text.toList rest h])

/-! ## Words and numbers -/

theorem takeWhile_append_of_stop {p : Char → Bool} {text rest : List Char} (h : ∀ c ∈ text, p c = true)
    (hrest : ∀ c ∈ rest.head?, p c = false) :
    (text ++ rest).takeWhile p = text ∧ (text ++ rest).dropWhile p = rest := by
  rw [List.takeWhile_append_of_pos h, List.dropWhile_append_of_pos h]
  cases rest with
  | nil => simp
  | cons c rest => simp [hrest c (by simp)]

theorem isWordPart_of_isDigit {c : Char} (h : Number.isDigit c = true) : isWordPart c = true := by
  rw [Number.isDigit_eq] at h
  simp [isWordPart, Char.isAlphanum, h]

theorem readDigits?_digitsOf (n : Nat) {rest : List Char} (h : Ends rest) :
    readDigits? (Number.digitsOf n ++ rest) = some (n, rest) := by
  have hrest : ∀ c ∈ rest.head?, Number.isDigit c = false := by
    intro c hc
    cases hd : Number.isDigit c with
    | false => rfl
    | true => exact absurd (h c hc).1 (by simp [isWordPart_of_isDigit hd])
  obtain ⟨htake, hdrop⟩ := takeWhile_append_of_stop (fun _ => Number.isDigit_of_mem_digitsOf) hrest
  rw [readDigits?, htake, hdrop, Number.readNat?_digitsOf]
  rfl

theorem isWordStart_of_isDigit {c : Char} (h : Number.isDigit c = true) : isWordStart c = false := by
  have hle : c.val.toNat ≤ 57 := by
    have hc : c ≤ '9' := by simp [Number.isDigit] at h; exact h.2
    exact UInt32.le_iff_toNat_le.1 hc
  have hne : c ≠ '_' := by rintro rfl; exact absurd hle (by decide)
  have halpha : c.isAlpha = false := by
    rw [Bool.eq_false_iff]
    intro ha
    obtain hu | hl := Bool.or_eq_true_iff.1 ha
    · have hge := UInt32.le_iff_toNat_le.1 (of_decide_eq_true hu).1
      exact absurd (Nat.le_trans hge hle) (by decide)
    · have hge := UInt32.le_iff_toNat_le.1 (of_decide_eq_true (Bool.and_eq_true_iff.1 hl).1)
      exact absurd (Nat.le_trans hge hle) (by decide)
  simp [isWordStart, halpha, hne]

theorem readToken?_digitsOf (n : Nat) {rest : List Char} (h : Ends rest) :
    readToken? (Number.digitsOf n ++ rest) = some (.number n, rest) := by
  have hread := readDigits?_digitsOf n h
  obtain ⟨c, more, hcons⟩ := List.exists_cons_of_ne_nil (Number.digitsOf_ne_nil n)
  have hd : Number.isDigit c = true := Number.isDigit_of_mem_digitsOf (n := n) (by simp [hcons])
  rw [hcons, List.cons_append] at hread ⊢
  rw [readToken?, isWordStart_of_isDigit hd, if_neg Bool.false_ne_true, if_pos hd, hread]
  rfl

/-- A word up to the first character that is no part of one. -/
theorem readToken?_word {c : Char} {word rest : List Char} (hc : isWordStart c = true)
    (hw : (c :: word).all isWordPart = true) (hrest : Ends rest) :
    readToken? (c :: word ++ rest) =
      some (.word (String.ofList (Text.lowerAscii (c :: word))), rest) := by
  obtain ⟨htake, hdrop⟩ := takeWhile_append_of_stop (List.all_eq_true.1 hw) fun d hd => (hrest d hd).1
  rw [List.cons_append] at htake hdrop ⊢
  rw [readToken?, if_pos hc, readWord, htake, hdrop]

/-! ## All tokens -/

/-- White space between tokens does not count. -/
inductive Lexes : List Char → List Token → Prop where
  | nil : Lexes [] []
  | space {c : Char} {rest : List Char} {tokens : List Token} : c.isWhitespace = true →
      Lexes rest tokens → Lexes (c :: rest) tokens
  | token {text rest : List Char} {token : Token} {tokens : List Token} :
      readToken? text = some (token, rest) → Lexes rest tokens → Lexes text (token :: tokens)

theorem readToken?_of_isWhitespace {c : Char} (h : c.isWhitespace = true) (rest : List Char) :
    readToken? (c :: rest) = none := by
  have hcases : c = ' ' ∨ c = '\t' ∨ c = '\r' ∨ c = '\n' := by
    simpa [Char.isWhitespace, or_assoc] using h
  obtain rfl | rfl | rfl | rfl := hcases <;> rfl

/-- A text is cut into tokens in one way. -/
theorem Lexes.deterministic {text : List Char} {ts us : List Token} (ht : Lexes text ts)
    (hu : Lexes text us) : ts = us := by
  induction ht generalizing us with
  | nil =>
    cases hu with
    | nil => rfl
    | token hread _ => cases hread
  | space hc _ ih =>
    cases hu with
    | space _ hu => exact ih hu
    | token hread _ => rw [readToken?_of_isWhitespace hc] at hread; cases hread
  | token hread _ ih =>
    cases hu with
    | nil => cases hread
    | space hc _ => rw [readToken?_of_isWhitespace hc] at hread; cases hread
    | token hread' hu => rw [hread] at hread'; cases hread'; rw [ih hu]

/-- The text is cut into these tokens, and into no others. -/
def IsCutInto (text : String) (tokens : List Token) : Prop :=
  Lexes text.toList tokens ∧ ∀ other, Lexes text.toList other → other = tokens

/-! ## Parameters -/

/-- Parameters without a number of their own are counted from the left. -/
def numberFrom : Nat → List Token → List Token
  | _, [] => []
  | next, .parameter none :: rest => .parameter (some next) :: numberFrom (next + 1) rest
  | next, token :: rest => token :: numberFrom next rest

end Sql
end RecordFilter
