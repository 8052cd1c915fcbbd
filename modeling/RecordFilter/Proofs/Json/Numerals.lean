import RecordFilter.Json.Number
import RecordFilter.Proofs.Number.Digits

/-!
# RecordFilter.Proofs.Json.Numerals

How numbers are spelled in JSON texts.

* `spells_of_take?`, `take?_append`: what is taken from the front of a text is a spelling without zeros in
  front of it, and every such spelling is taken.
* `eq_writeInteger`: a number that becomes an integer is spelled as that integer is written.
* `read?_of_spells`, `readInteger?_of_spells`: what the same digits are as a literal.
* `integer?_isSome_iff`: which numbers become integers.
-/

namespace RecordFilter
namespace Json
namespace Numeral

open Number

/-! ## Spellings -/

/-- Digits, and at least one of them. -/
structure AreDigits (digits : List Char) : Prop where
  ne_nil : digits ≠ []
  all : ∀ c ∈ digits, isDigit c = true

inductive SpellsFraction : List Char → List Char → Prop where
  | absent : SpellsFraction [] []
  | behindPoint {digits : List Char} (h : AreDigits digits) : SpellsFraction digits ('.' :: digits)

inductive SpellsSign : Bool → List Char → Prop where
  | absent : SpellsSign false []
  | plus : SpellsSign false ['+']
  | minus : SpellsSign true ['-']

inductive SpellsExponent : Option (Bool × List Char) → List Char → Prop where
  | absent : SpellsExponent none []
  | behindMark {mark : Char} {down : Bool} {sign digits : List Char} (hmark : mark = 'e' ∨ mark = 'E')
      (hsign : SpellsSign down sign) (h : AreDigits digits) :
      SpellsExponent (some (down, digits)) (mark :: sign ++ digits)

/-- The text is a sign, digits, a fraction and an exponent, as they are written. -/
structure Written.Spells (w : Written) (text : List Char) : Prop where
  whole : AreDigits w.whole
  parts : ∃ fraction exponent, text = (if w.negative then ['-'] else []) ++ w.whole ++ fraction ++ exponent ∧
    SpellsFraction w.fraction fraction ∧ SpellsExponent w.exponent exponent

theorem SpellsFraction.eq_nil_or {digits text : List Char} (h : SpellsFraction digits text) :
    text = [] ∨ ∃ rest, text = '.' :: rest := by
  cases h with
  | absent => exact .inl rfl
  | behindPoint => exact .inr ⟨_, rfl⟩

theorem SpellsExponent.eq_nil_or {exponent : Option (Bool × List Char)} {text : List Char}
    (h : SpellsExponent exponent text) : text = [] ∨ ∃ rest, text = 'e' :: rest ∨ text = 'E' :: rest := by
  cases h with
  | absent => exact .inl rfl
  | behindMark hmark =>
    rcases hmark with rfl | rfl
    · exact .inr ⟨_, .inl rfl⟩
    · exact .inr ⟨_, .inr rfl⟩

/-- Behind a fraction stands no digit. -/
theorem SpellsExponent.head_ne {exponent : Option (Bool × List Char)} {text rest : List Char}
    (h : SpellsExponent exponent text) (hrest : ∀ c ∈ rest.head?, isDigit c = false ∧ c ≠ '.') :
    ∀ c ∈ (text ++ rest).head?, isDigit c = false ∧ c ≠ '.' := by
  intro c hc
  rcases h.eq_nil_or with rfl | ⟨inside, rfl | rfl⟩
  · exact hrest c hc
  · obtain rfl : 'e' = c := Option.some.inj hc
    decide
  · obtain rfl : 'E' = c := Option.some.inj hc
    decide

theorem SpellsFraction.head_ne {digits text rest : List Char} (h : SpellsFraction digits text)
    (hrest : ∀ c ∈ rest.head?, isDigit c = false ∧ c ≠ '.') :
    ∀ c ∈ (text ++ rest).head?, isDigit c = false := by
  intro c hc
  rcases h.eq_nil_or with rfl | ⟨inside, rfl⟩
  · exact (hrest c hc).1
  · obtain rfl : '.' = c := Option.some.inj hc
    rfl

/-- No zero stands in front of another digit. -/
def Written.IsTrimmed (w : Written) : Prop := w.whole = ['0'] ∨ w.whole.head? ≠ some '0'

/-- A number that stands in front of the text does not go on in it. -/
def EndsNumber (rest : List Char) : Prop :=
  ∀ c ∈ rest.head?, isDigit c = false ∧ c ≠ '.' ∧ c ≠ 'e' ∧ c ≠ 'E'

/-! ## Digits -/

theorem areDigits_takeWhile {text : List Char} (h : text.takeWhile isDigit ≠ []) :
    AreDigits (text.takeWhile isDigit) :=
  ⟨h, List.all_eq_true.1 List.all_takeWhile⟩

theorem takeWhile_isDigit {digits rest : List Char} (h : ∀ c ∈ digits, isDigit c = true)
    (hrest : ∀ c ∈ rest.head?, isDigit c = false) : (digits ++ rest).takeWhile isDigit = digits := by
  rw [List.takeWhile_append_of_pos h]
  cases rest with
  | nil => simp
  | cons c rest => simp [hrest c rfl]

theorem eq_takeWhile_append (text : List Char) :
    text = text.takeWhile isDigit ++ text.drop (text.takeWhile isDigit).length :=
  (List.prefix_iff_eq_append.1 (List.takeWhile_prefix isDigit)).symm

theorem AreDigits.exists_cons {digits : List Char} (h : AreDigits digits) :
    ∃ c rest, digits = c :: rest ∧ isDigit c = true := by
  obtain ⟨c, rest, rfl⟩ := List.exists_cons_of_ne_nil h.ne_nil
  exact ⟨c, rest, rfl, h.all c List.mem_cons_self⟩

/-! ## The parts of a number -/

theorem spells_of_takeWhole? {text digits rest : List Char} (h : takeWhole? text = some (digits, rest)) :
    text = digits ++ rest ∧ AreDigits digits ∧ (digits = ['0'] ∨ digits.head? ≠ some '0') := by
  unfold takeWhole? at h
  split at h
  · cases h
    exact ⟨rfl, ⟨List.cons_ne_nil _ _, by simp [isDigit]⟩, .inl rfl⟩
  · rename_i hzero
    split at h
    · cases h
    · rename_i hne
      cases h
      refine ⟨eq_takeWhile_append text, areDigits_takeWhile hne, .inr ?_⟩
      cases text with
      | nil => simp
      | cons c rest =>
        intro hhead
        rw [List.takeWhile_cons] at hhead
        split at hhead
        · cases hhead
          exact hzero rest rfl
        · cases hhead

theorem takeWhole?_append {digits rest : List Char} (h : AreDigits digits)
    (htrimmed : digits = ['0'] ∨ digits.head? ≠ some '0') (hrest : ∀ c ∈ rest.head?, isDigit c = false) :
    takeWhole? (digits ++ rest) = some (digits, rest) := by
  rcases htrimmed with rfl | hhead
  · rfl
  · obtain ⟨c, tail, rfl, -⟩ := h.exists_cons
    have hne : c ≠ '0' := fun heq => hhead (by rw [heq]; rfl)
    have htake := takeWhile_isDigit h.all hrest
    unfold takeWhole?
    split
    · rename_i heq
      exact absurd (List.cons.inj heq).1 hne
    · rw [htake]
      exact congrArg (fun rest => some (c :: tail, rest)) List.drop_left

theorem spells_of_takeFraction? {text digits rest : List Char} (h : takeFraction? text = some (digits, rest)) :
    ∃ front, text = front ++ rest ∧ SpellsFraction digits front := by
  unfold takeFraction? at h
  split at h
  · rename_i inside
    split at h
    · cases h
    · rename_i hne
      cases h
      exact ⟨_, congrArg (List.cons '.') (eq_takeWhile_append inside), .behindPoint (areDigits_takeWhile hne)⟩
  · cases h
    exact ⟨[], rfl, .absent⟩

theorem takeFraction?_append {digits front rest : List Char} (h : SpellsFraction digits front)
    (hrest : ∀ c ∈ rest.head?, isDigit c = false ∧ c ≠ '.') :
    takeFraction? (front ++ rest) = some (digits, rest) := by
  cases h with
  | absent =>
    cases rest with
    | nil => rfl
    | cons c rest =>
      have hc := (hrest c rfl).2
      unfold takeFraction?
      split
      · rename_i heq
        exact absurd (List.cons.inj heq).1 hc
      · rfl
  | behindPoint hdigits =>
    have hstop : ∀ c ∈ rest.head?, isDigit c = false := fun c hc => (hrest c hc).1
    obtain ⟨c, tail, rfl, -⟩ := hdigits.exists_cons
    rw [List.cons_append, takeFraction?, takeWhile_isDigit hdigits.all hstop]
    exact congrArg (fun rest => some (c :: tail, rest)) List.drop_left

theorem spellsSign_splitSign {text : List Char} {down : Bool} {rest : List Char}
    (h : splitSign text = (down, rest)) : ∃ sign, text = sign ++ rest ∧ SpellsSign down sign := by
  unfold splitSign at h
  split at h
  · cases h
    exact ⟨['-'], rfl, .minus⟩
  · cases h
    exact ⟨['+'], rfl, .plus⟩
  · cases h
    exact ⟨[], rfl, .absent⟩

theorem splitSign_of_spells {down : Bool} {sign digits : List Char} (h : SpellsSign down sign)
    (hdigits : AreDigits digits) (rest : List Char) :
    splitSign (sign ++ digits ++ rest) = (down, digits ++ rest) := by
  cases h with
  | absent =>
    obtain ⟨c, tail, rfl, hc⟩ := hdigits.exists_cons
    exact splitSign_of_isDigit hc _
  | plus => rfl
  | minus => rfl

theorem spells_of_takeExponent? {text rest : List Char} {exponent : Option (Bool × List Char)}
    (h : takeExponent? text = some (exponent, rest)) :
    ∃ front, text = front ++ rest ∧ SpellsExponent exponent front := by
  unfold takeExponent? at h
  split at h
  · rename_i mark inside
    split at h
    · rename_i hmark
      cases hsplit : splitSign inside with
      | mk down digits =>
        rw [hsplit] at h
        dsimp only at h
        split at h
        · cases h
        · rename_i hne
          cases h
          obtain ⟨sign, rfl, hsign⟩ := spellsSign_splitSign hsplit
          refine ⟨_, ?_, .behindMark hmark hsign (areDigits_takeWhile hne)⟩
          rw [List.append_assoc, List.cons_append, ← eq_takeWhile_append]
    · cases h
      exact ⟨[], rfl, .absent⟩
  · cases h
    exact ⟨[], rfl, .absent⟩

theorem takeExponent?_append {exponent : Option (Bool × List Char)} {front rest : List Char}
    (h : SpellsExponent exponent front)
    (hrest : ∀ c ∈ rest.head?, isDigit c = false ∧ c ≠ 'e' ∧ c ≠ 'E') :
    takeExponent? (front ++ rest) = some (exponent, rest) := by
  cases h with
  | absent =>
    cases rest with
    | nil => rfl
    | cons c rest =>
      obtain ⟨-, he, hE⟩ := hrest c rfl
      rw [List.nil_append, takeExponent?, if_neg (not_or.2 ⟨he, hE⟩)]
  | @behindMark mark down sign digits hmark hsign hdigits =>
    have hstop : ∀ c ∈ rest.head?, isDigit c = false := fun c hc => (hrest c hc).1
    obtain ⟨c, tail, rfl, -⟩ := hdigits.exists_cons
    rw [List.append_assoc, List.cons_append, ← List.append_assoc, takeExponent?, if_pos hmark,
      splitSign_of_spells hsign hdigits]
    dsimp only
    rw [takeWhile_isDigit hdigits.all hstop]
    exact congrArg (fun rest => some (some (down, c :: tail), rest)) List.drop_left

/-! ## Whole numbers -/

/-- A number without its sign. -/
def takeUnsigned? (negative : Bool) (text : List Char) : Option (Written × List Char) := do
  let (whole, rest) ← takeWhole? text
  let (fraction, rest) ← takeFraction? rest
  let (exponent, rest) ← takeExponent? rest
  return (⟨negative, whole, fraction, exponent⟩, rest)

theorem take?_minus (text : List Char) : take? ('-' :: text) = takeUnsigned? true text := rfl

theorem take?_of_ne {text : List Char} (h : text.head? ≠ some '-') : take? text = takeUnsigned? false text := by
  unfold take?
  split
  rename_i negative inside hmatch
  split at hmatch
  · exact absurd rfl h
  · cases hmatch
    rfl

theorem takeUnsigned?_eq_some_iff {negative : Bool} {text rest : List Char} {w : Written} :
    takeUnsigned? negative text = some (w, rest) ↔
      ∃ rest₁ rest₂, takeWhole? text = some (w.whole, rest₁) ∧ takeFraction? rest₁ = some (w.fraction, rest₂) ∧
        takeExponent? rest₂ = some (w.exponent, rest) ∧ w.negative = negative := by
  simp only [takeUnsigned?, Option.bind_eq_bind, Option.bind_eq_some_iff, Option.pure_def, Option.some.injEq,
    Prod.exists, Prod.mk.injEq]
  constructor
  · rintro ⟨whole, rest₁, hwhole, fraction, rest₂, hfraction, exponent, rest₃, hexponent, rfl, rfl⟩
    exact ⟨rest₁, rest₂, hwhole, hfraction, hexponent, rfl⟩
  · rintro ⟨rest₁, rest₂, hwhole, hfraction, hexponent, rfl⟩
    exact ⟨_, rest₁, hwhole, _, rest₂, hfraction, _, rest, hexponent, rfl, rfl⟩

theorem spells_of_takeUnsigned? {negative : Bool} {text rest : List Char} {w : Written}
    (h : takeUnsigned? negative text = some (w, rest)) :
    ∃ front, (if negative then ['-'] else []) ++ text = front ++ rest ∧ w.Spells front ∧ w.IsTrimmed := by
  obtain ⟨rest₁, rest₂, hwhole, hfraction, hexponent, rfl⟩ := takeUnsigned?_eq_some_iff.1 h
  obtain ⟨rfl, hdigits, htrimmed⟩ := spells_of_takeWhole? hwhole
  obtain ⟨front, rfl, hfront⟩ := spells_of_takeFraction? hfraction
  obtain ⟨back, rfl, hback⟩ := spells_of_takeExponent? hexponent
  exact ⟨_, by simp only [List.append_assoc], ⟨hdigits, front, back, rfl, hfront, hback⟩, htrimmed⟩

/-- A number that is taken from the front of a text is spelled there. -/
theorem spells_of_take? {text rest : List Char} {w : Written} (h : take? text = some (w, rest)) :
    ∃ front, text = front ++ rest ∧ w.Spells front ∧ w.IsTrimmed := by
  by_cases hminus : text.head? = some '-'
  · obtain ⟨inside, rfl⟩ := List.head?_eq_some_iff.1 hminus
    rw [take?_minus] at h
    exact spells_of_takeUnsigned? h
  · rw [take?_of_ne hminus] at h
    exact spells_of_takeUnsigned? h

theorem takeUnsigned?_append {w : Written} {fraction exponent rest : List Char} (hwhole : AreDigits w.whole)
    (htrimmed : w.IsTrimmed) (hfraction : SpellsFraction w.fraction fraction)
    (hexponent : SpellsExponent w.exponent exponent) (hrest : EndsNumber rest) :
    takeUnsigned? w.negative (w.whole ++ (fraction ++ (exponent ++ rest))) = some (w, rest) := by
  have hmark := hexponent.head_ne fun c hc => ⟨(hrest c hc).1, (hrest c hc).2.1⟩
  have hpoint := hfraction.head_ne hmark
  refine takeUnsigned?_eq_some_iff.2 ⟨_, _, takeWhole?_append hwhole htrimmed hpoint,
    takeFraction?_append hfraction hmark, takeExponent?_append hexponent ?_, rfl⟩
  exact fun c hc => ⟨(hrest c hc).1, (hrest c hc).2.2⟩

/-- A number that is spelled in front of a text is taken from it. -/
theorem take?_append {w : Written} {front rest : List Char} (h : w.Spells front) (htrimmed : w.IsTrimmed)
    (hrest : EndsNumber rest) : take? (front ++ rest) = some (w, rest) := by
  obtain ⟨hwhole, fraction, exponent, rfl, hfraction, hexponent⟩ := h
  have htake := takeUnsigned?_append hwhole htrimmed hfraction hexponent hrest
  simp only [List.append_assoc]
  cases hnegative : w.negative with
  | true =>
    rw [hnegative] at htake
    exact (take?_minus _).trans htake
  | false =>
    rw [hnegative] at htake
    refine (take?_of_ne ?_).trans htake
    obtain ⟨c, tail, hcons, hc⟩ := hwhole.exists_cons
    intro hhead
    rw [hcons] at hhead
    obtain rfl : c = '-' := Option.some.inj hhead
    cases hc

/-! ## Values -/

theorem value?_cases {w : Written} {v : Json} (h : value? w = some v) :
    (∃ n, integer? w = some n ∧ v = .integer n) ∨
      ∃ x, integer? w = none ∧ float? w = some x ∧ v = .float (negate w.negative x) := by
  rw [value?] at h
  split at h
  · rename_i n hn
    cases h
    exact .inl ⟨n, hn, rfl⟩
  · rename_i hn
    obtain ⟨x, hx, rfl⟩ := Option.map_eq_some_iff.1 h
    exact .inr ⟨x, hn, hx, rfl⟩

theorem eq_nil_of_isInteger {w : Written} {fraction exponent : List Char} (h : isInteger w = true)
    (hfraction : SpellsFraction w.fraction fraction) (hexponent : SpellsExponent w.exponent exponent) :
    fraction = [] ∧ exponent = [] := by
  obtain ⟨negative, whole, digits, mark⟩ := w
  rw [isInteger, Bool.and_eq_true, List.isEmpty_iff, Option.isNone_iff_eq_none] at h
  obtain ⟨rfl, rfl⟩ := h
  cases hexponent
  cases hfraction with
  | absent => exact ⟨rfl, rfl⟩
  | behindPoint hdigits => exact absurd rfl hdigits.ne_nil

theorem writeInteger_neg {n : Nat} (h : 0 < n) : writeInteger (-(n : Int)) = '-' :: digitsOf n := by
  obtain ⟨m, rfl⟩ : ∃ m, n = m + 1 := ⟨n - 1, by omega⟩
  rfl

/-- A number that becomes an integer is spelled as the integer is written. -/
theorem eq_writeInteger {w : Written} {text : List Char} {n : Int} (h : w.Spells text)
    (htrimmed : w.IsTrimmed) (hn : integer? w = some n) : text = writeInteger n := by
  obtain ⟨hwhole, fraction, exponent, rfl, hfraction, hexponent⟩ := h
  have hdigits := digitsOf_ofDigits hwhole.ne_nil hwhole.all htrimmed
  rw [integer?] at hn
  split at hn
  · cases hn
  · rename_i hinteger
    rw [Bool.not_eq_true, Bool.not_eq_false'] at hinteger
    obtain ⟨rfl, rfl⟩ := eq_nil_of_isInteger hinteger hfraction hexponent
    rw [List.append_nil, List.append_nil]
    split at hn
    · rename_i hnegative
      split at hn
      · rename_i hrange
        cases hn
        rw [writeInteger_neg hrange.1, hdigits, hnegative]
        rfl
      · cases hn
    · rename_i hnegative
      split at hn
      · cases hn
        rw [if_neg hnegative]
        exact hdigits.symm
      · cases hn

/-! ## Numbers read as literals -/

def Written.coefficient (w : Written) : Nat := ofDigits (w.whole ++ w.fraction)

def exponentValue : Option (Bool × List Char) → Int
  | none => 0
  | some (down, digits) => signed down (ofDigits digits)

/-- The power of ten that the coefficient is multiplied with. -/
def Written.power (w : Written) : Int := exponentValue w.exponent - w.fraction.length

theorem readNat?_of_areDigits {digits : List Char} (h : AreDigits digits) :
    readNat? digits = some (ofDigits digits) := by
  have hempty : digits.isEmpty = false := by
    rw [Bool.eq_false_iff]
    exact fun hempty => h.ne_nil (List.isEmpty_iff.1 hempty)
  rw [readNat?, hempty, List.all_eq_true.2 h.all]
  rfl

theorem not_isWord_of_isDigit {c : Char} (hc : isDigit c = true) (rest : List Char) {word : String}
    (hword : word.toList.head?.any isDigit = false) : Text.isWord word (c :: rest) = false := by
  have hlower := @of_isDigit (fun c => c.toLower = c) _ (by decide) c hc
  rw [Text.isWord, Bool.eq_false_iff]
  intro h
  rw [beq_iff_eq] at h
  rw [← h, Text.lowerAscii, List.map_cons, hlower, List.head?_cons, Option.any_some, hc] at hword
  cases hword

theorem splitSign_of_negative {digits : List Char} (negative : Bool) (h : AreDigits digits) (rest : List Char) :
    splitSign ((if negative then ['-'] else []) ++ digits ++ rest) = (negative, digits ++ rest) := by
  cases negative with
  | true => exact splitSign_of_spells .minus h rest
  | false => exact splitSign_of_spells .absent h rest

/-- What an exponent is read as. -/
def readExponent? : List Char → Option Int
  | [] => some 0
  | c :: rest =>
    if c = 'e' ∨ c = 'E' then (readNat? (splitSign rest).2).map (signed (splitSign rest).1) else none

theorem readExponent?_of_spells {mark : Option (Bool × List Char)} {exponent : List Char}
    (h : SpellsExponent mark exponent) : readExponent? exponent = some (exponentValue mark) := by
  cases h with
  | absent => rfl
  | behindMark hmark hsign hdigits =>
    have hsplit := splitSign_of_spells hsign hdigits []
    rw [List.append_nil, List.append_nil] at hsplit
    rw [List.cons_append, readExponent?, if_pos hmark, hsplit, readNat?_of_areDigits hdigits]
    rfl

theorem readDecimal?_of_spells {whole digits fraction exponent : List Char} {mark : Option (Bool × List Char)}
    (hwhole : AreDigits whole) (hfraction : SpellsFraction digits fraction)
    (hexponent : SpellsExponent mark exponent) :
    Binary.readDecimal? (whole ++ (fraction ++ exponent)) =
      some (ofDigits (whole ++ digits), exponentValue mark - digits.length) := by
  have hnil : ∀ c ∈ ([] : List Char).head?, isDigit c = false ∧ c ≠ '.' := by
    intro c hc
    cases hc
  have hmark := hexponent.head_ne hnil
  rw [List.append_nil] at hmark
  have hpoint := hfraction.head_ne hmark
  have hread := readExponent?_of_spells hexponent
  have hempty : whole.isEmpty = false := by
    rw [Bool.eq_false_iff]
    exact fun hempty => hwhole.ne_nil (List.isEmpty_iff.1 hempty)
  rw [Binary.readDecimal?]
  simp only [takeWhile_isDigit hwhole.all hpoint, List.drop_left, hempty, Bool.false_and, Bool.false_eq_true,
    if_false]
  cases hfraction with
  | absent =>
    rcases hexponent.eq_nil_or with rfl | ⟨inside, rfl | rfl⟩
    all_goals
      split
      · next h => cases hread.symm.trans h
      · next h =>
        cases hread.symm.trans h
        rfl
  | behindPoint hdigits =>
    simp only [List.cons_append, takeWhile_isDigit hdigits.all fun c hc => (hmark c hc).1, List.drop_left]
    split
    · next h => cases hread.symm.trans h
    · next h =>
      cases hread.symm.trans h
      rfl

/-- As a floating-point literal the number is rounded once. -/
theorem read?_of_spells {w : Written} {text : List Char} (f : Format) (h : w.Spells text) :
    Binary.read? f text = some (Binary.ofDecimal f w.negative w.coefficient w.power) := by
  obtain ⟨hwhole, fraction, exponent, rfl, hfraction, hexponent⟩ := h
  have hsplit := splitSign_of_negative w.negative hwhole (fraction ++ exponent)
  have hdecimal := readDecimal?_of_spells hwhole hfraction hexponent
  have hword : ∀ word : String, word.toList.head?.any isDigit = false →
      Text.isWord word (w.whole ++ (fraction ++ exponent)) = false := by
    intro word hhead
    obtain ⟨c, rest, hcons, hc⟩ := hwhole.exists_cons
    rw [hcons]
    exact not_isWord_of_isDigit hc _ hhead
  rw [List.append_assoc, Binary.read?, hsplit]
  dsimp only
  rw [hword "inf" rfl, hword "infinity" rfl, hword "nan" rfl, hdecimal]
  rfl

theorem readNat?_eq_none {text : List Char} {c : Char} (hc : c ∈ text) (hd : isDigit c = false) :
    readNat? text = none := by
  have hall : text.all isDigit = false := List.all_eq_false.2 ⟨c, hc, by rw [hd]; exact Bool.false_ne_true⟩
  rw [readNat?, hall, Bool.and_false, if_neg Bool.false_ne_true]

theorem readMagnitude?_eq_none {text : List Char} {c : Char} (width : IntegerWidth) (hc : c ∈ text)
    (hd : isDigit c = false) (hne : c ≠ '_') : readMagnitude? width text = none := by
  unfold readMagnitude?
  split
  · rfl
  · exact readNat?_eq_none (List.mem_filter.2 ⟨hc, by simpa using hne⟩) hd
  · exact readNat?_eq_none hc hd

theorem exists_mem_of_not_isInteger {w : Written} {fraction exponent : List Char} (hw : isInteger w = false)
    (hfraction : SpellsFraction w.fraction fraction) (hexponent : SpellsExponent w.exponent exponent) :
    ∃ c ∈ fraction ++ exponent, isDigit c = false ∧ c ≠ '_' := by
  rcases hfraction.eq_nil_or with rfl | ⟨inside, rfl⟩
  · rcases hexponent.eq_nil_or with rfl | ⟨inside, rfl | rfl⟩
    · obtain ⟨negative, whole, digits, mark⟩ := w
      cases hexponent
      cases hfraction
      cases hw
    · exact ⟨'e', by simp, by decide⟩
    · exact ⟨'E', by simp, by decide⟩
  · exact ⟨'.', by simp, by decide⟩

/-- A number with a fraction or an exponent is no integer literal. -/
theorem readInteger?_of_spells {w : Written} {text : List Char} (width : IntegerWidth) (h : w.Spells text)
    (hw : isInteger w = false) : readInteger? width text = none := by
  obtain ⟨hwhole, fraction, exponent, rfl, hfraction, hexponent⟩ := h
  obtain ⟨c, hc, hd, hne⟩ := exists_mem_of_not_isInteger hw hfraction hexponent
  have hsplit := splitSign_of_negative w.negative hwhole (fraction ++ exponent)
  have hnone := readMagnitude?_eq_none width (List.mem_append_right w.whole hc) hd hne
  rw [List.append_assoc, readInteger?, hsplit]
  dsimp only
  rw [hnone]

theorem readMagnitude?_of_areDigits {digits : List Char} (width : IntegerWidth) (h : AreDigits digits) :
    readMagnitude? width digits = some (ofDigits digits) := by
  have hplain : ∀ c ∈ digits, c ≠ '_' := fun c hc => ne_of_isDigit (h.all c hc) (by decide)
  unfold readMagnitude?
  split
  · exact absurd rfl (hplain _ List.mem_cons_self)
  · rw [List.filter_eq_self.2 (by simpa using hplain)]
    exact readNat?_of_areDigits h
  · exact readNat?_of_areDigits h

/-- An integer literal that is a JSON number has neither fraction nor exponent. -/
theorem eq_signed_of_readInteger? {w : Written} {text : List Char} {width : IntegerWidth} {n : Int}
    (h : w.Spells text) (hn : readInteger? width text = some n) :
    isInteger w = true ∧ n = signed w.negative (ofDigits w.whole) := by
  cases hw : isInteger w with
  | false =>
    rw [readInteger?_of_spells width h hw] at hn
    cases hn
  | true =>
    obtain ⟨hwhole, fraction, exponent, rfl, hfraction, hexponent⟩ := h
    obtain ⟨rfl, rfl⟩ := eq_nil_of_isInteger hw hfraction hexponent
    have hsplit := splitSign_of_negative w.negative hwhole []
    simp only [List.append_nil] at hn hsplit
    rw [readInteger?, hsplit] at hn
    simp only [readMagnitude?_of_areDigits width hwhole] at hn
    split at hn
    · exact ⟨rfl, (Option.some.inj hn).symm⟩
    · cases hn

/-- Integers are kept as far as 64 bits hold them, with or without a sign bit; negative zero is not. -/
theorem integer?_isSome_iff {w : Written} {text : List Char} (h : w.Spells text) (htrimmed : w.IsTrimmed)
    (hw : isInteger w = true) :
    (integer? w).isSome = true ↔ text ≠ "-0".toList ∧ -2 ^ 63 ≤ signed w.negative (ofDigits w.whole) ∧
      signed w.negative (ofDigits w.whole) < 2 ^ 64 := by
  obtain ⟨hwhole, fraction, exponent, rfl, hfraction, hexponent⟩ := h
  obtain ⟨rfl, rfl⟩ := eq_nil_of_isInteger hw hfraction hexponent
  have hdigits := digitsOf_ofDigits hwhole.ne_nil hwhole.all htrimmed
  have hzero : w.whole = ['0'] ↔ ofDigits w.whole = 0 := by
    constructor
    · intro heq
      rw [heq]
      rfl
    · intro heq
      rw [← hdigits, heq]
      rfl
  rw [integer?, hw]
  simp only [List.append_nil, Bool.not_true, Bool.false_eq_true, if_false]
  cases w.negative with
  | true =>
    have htext : ['-'] ++ w.whole ≠ "-0".toList ↔ ofDigits w.whole ≠ 0 := by
      rw [ne_eq, ne_eq, ← hzero]
      simp
    simp only [if_true, htext, signed]
    by_cases hrange : 0 < ofDigits w.whole ∧ ofDigits w.whole ≤ 0x8000000000000000
    · rw [if_pos hrange]
      exact iff_of_true rfl (by omega)
    · rw [if_neg hrange]
      exact iff_of_false Bool.false_ne_true (by omega)
  | false =>
    have htext : w.whole ≠ "-0".toList := by
      intro heq
      cases hwhole.all '-' (heq ▸ List.mem_cons_self)
    have hlimit : significandLimit = 2 ^ 64 - 1 := rfl
    simp only [Bool.false_eq_true, if_false, List.nil_append, htext, ne_eq, not_false_eq_true, true_and, signed]
    by_cases hrange : ofDigits w.whole ≤ significandLimit
    · rw [if_pos hrange]
      exact iff_of_true rfl (by omega)
    · rw [if_neg hrange]
      exact iff_of_false Bool.false_ne_true (by omega)

end Numeral
end Json
end RecordFilter
