import RecordFilter.Calendar.Reading

/-!
# RecordFilter.Proofs.Calendar.Reading

Every reader takes characters of its own kind from the front of the text and passes the rest on (`Takes`).
So all characters of a date are date characters (`isDatePart_of_readDate?`), a date-time without a `T` is a
date, and one with a `T` has a colon in it behind which no date-time stands any more (`readTimed?_spec`,
`readDateTime?_of_isTimePart`).
-/

namespace RecordFilter
namespace Calendar

open Number (isDigit)

/-! ## Characters -/

/-- White space may stand in front of a number. -/
def isNumberPart (c : Char) : Bool := Text.isBlank c || isDigit c

def isDatePart (c : Char) : Bool := isNumberPart c || c == '-' || c == '+'

def isTimePart (c : Char) : Bool := isNumberPart c || c == ':' || c == '.'

/-- The rest stands behind characters of the kind. -/
def Takes (kind : Char → Bool) (text rest : List Char) : Prop :=
  ∃ front, text = front ++ rest ∧ ∀ c ∈ front, kind c = true

namespace Takes

variable {kind other : Char → Bool} {text middle rest : List Char} {c : Char}

theorem refl (text : List Char) : Takes kind text text := ⟨[], rfl, by simp⟩

theorem cons (hc : kind c = true) (h : Takes kind text rest) : Takes kind (c :: text) rest := by
  obtain ⟨front, rfl, hfront⟩ := h
  exact ⟨c :: front, rfl, by simpa [hc] using hfront⟩

theorem trans (h : Takes kind text middle) (h' : Takes kind middle rest) : Takes kind text rest := by
  obtain ⟨front, rfl, hfront⟩ := h
  obtain ⟨back, rfl, hback⟩ := h'
  refine ⟨front ++ back, (List.append_assoc ..).symm, fun c hc => ?_⟩
  exact (List.mem_append.1 hc).elim (hfront c) (hback c)

theorem mono (h : Takes kind text rest) (himp : ∀ c, kind c = true → other c = true) :
    Takes other text rest := by
  obtain ⟨front, heq, hfront⟩ := h
  exact ⟨front, heq, fun c hc => himp c (hfront c hc)⟩

/-- Where nothing is left, all characters are of the kind. -/
theorem all (h : Takes kind text []) : ∀ c ∈ text, kind c = true := by
  obtain ⟨front, rfl, hfront⟩ := h
  simpa using hfront

theorem dropWhile (kind : Char → Bool) (text : List Char) : Takes kind text (text.dropWhile kind) :=
  ⟨text.takeWhile kind, List.takeWhile_append_dropWhile.symm, List.all_eq_true.1 List.all_takeWhile⟩

end Takes

theorem isDatePart_of_isNumberPart {c : Char} (h : isNumberPart c = true) : isDatePart c = true := by
  simp [isDatePart, h]

theorem isTimePart_of_isNumberPart {c : Char} (h : isNumberPart c = true) : isTimePart c = true := by
  simp [isTimePart, h]

theorem isNumberPart_of_isDigit {c : Char} (h : isDigit c = true) : isNumberPart c = true := by
  simp [isNumberPart, h]

theorem isNumberPart_of_isBlank {c : Char} (h : Text.isBlank c = true) : isNumberPart c = true := by
  simp [isNumberPart, h]

/-! ## Parts -/

section Parts

variable {limit n : Nat} {mark : Char} {text rest digits : List Char}

theorem takes_takeDigits? (h : takeDigits? limit text = some (digits, rest)) : Takes isDigit text rest := by
  unfold takeDigits? at h
  split at h
  · cases h
  · cases h
    refine ⟨_, ?_, List.all_eq_true.1 (List.all_takeWhile (p := isDigit) (l := text.take limit))⟩
    have hprefix := (List.takeWhile_prefix (l := text.take limit) isDigit).trans (List.take_prefix limit text)
    exact (List.prefix_iff_eq_append.1 hprefix).symm

theorem takes_trimStart (text : List Char) : Takes isNumberPart text (Text.trimStart text) :=
  (Takes.dropWhile Text.isBlank text).mono fun _ => isNumberPart_of_isBlank

theorem takes_takeNumber? (h : takeNumber? limit text = some (n, rest)) : Takes isNumberPart text rest := by
  obtain ⟨⟨digits, _⟩, hdigits, hpair⟩ := Option.map_eq_some_iff.1 h
  cases hpair
  exact (takes_trimStart text).trans ((takes_takeDigits? hdigits).mono fun _ => isNumberPart_of_isDigit)

theorem takeMark?_eq_some_iff : takeMark? mark text = some rest ↔ text = mark :: rest := by
  cases text with
  | nil => simp [takeMark?]
  | cons c text =>
    simp only [takeMark?, List.cons.injEq]
    split <;> simp_all

theorem takes_takeYear? {year : Int} (h : takeYear? text = some (year, rest)) :
    Takes isDatePart text rest := by
  have hfront : Takes isDatePart text (Text.trimStart text) :=
    (takes_trimStart text).mono fun _ => isDatePart_of_isNumberPart
  have hdigits : ∀ {limit : Nat} {text rest digits : List Char},
      takeDigits? limit text = some (digits, rest) → Takes isDatePart text rest :=
    fun h => (takes_takeDigits? h).mono fun _ hc => isDatePart_of_isNumberPart (isNumberPart_of_isDigit hc)
  refine hfront.trans ?_
  unfold takeYear? at h
  split at h
  all_goals
    obtain ⟨⟨digits, _⟩, htaken, hpair⟩ := Option.map_eq_some_iff.1 h
    cases hpair
  case h_1 heq => rw [heq]; exact .cons rfl (hdigits htaken)
  case h_2 heq => rw [heq]; exact .cons rfl (hdigits htaken)
  case h_3 => exact hdigits htaken

/-- A dash stands between the year and the month. -/
theorem takes_takeDate? {date : Date} (h : takeDate? text = some (date, rest)) :
    Takes isDatePart text rest ∧ '-' ∈ text := by
  obtain ⟨⟨year, afterYear⟩, hyear, h⟩ := Option.bind_eq_some_iff.1 h
  obtain ⟨month, hdash, h⟩ := Option.bind_eq_some_iff.1 h
  obtain ⟨⟨m, afterMonth⟩, hmonth, h⟩ := Option.bind_eq_some_iff.1 h
  obtain ⟨day, hdash', h⟩ := Option.bind_eq_some_iff.1 h
  obtain ⟨⟨d, afterDay⟩, hday, h⟩ := Option.bind_eq_some_iff.1 h
  obtain ⟨made, _, h⟩ := Option.bind_eq_some_iff.1 h
  cases h
  rw [takeMark?_eq_some_iff] at hdash hdash'
  subst hdash hdash'
  have hnumber : ∀ {text rest : List Char}, Takes isNumberPart text rest → Takes isDatePart text rest :=
    fun h => h.mono fun _ => isDatePart_of_isNumberPart
  constructor
  · have hmonths := hnumber (takes_takeNumber? hmonth)
    have hdays := hnumber (takes_takeNumber? hday)
    exact (takes_takeYear? hyear).trans (.cons rfl (hmonths.trans (.cons rfl hdays)))
  · obtain ⟨front, rfl, _⟩ := takes_takeYear? hyear
    simp

theorem takes_takeFraction? (h : takeFraction? text = some (n, rest)) : Takes isTimePart text rest := by
  have hdigit : ∀ c, isDigit c = true → isTimePart c = true :=
    fun _ hc => isTimePart_of_isNumberPart (isNumberPart_of_isDigit hc)
  unfold takeFraction? at h
  split at h
  · obtain ⟨⟨digits, after⟩, hdigits, hpair⟩ := Option.bind_eq_some_iff.1 h
    cases hpair
    exact .cons rfl (((takes_takeDigits? hdigits).mono hdigit).trans ((Takes.dropWhile _ _).mono hdigit))
  · cases h
    exact .refl _

theorem isTimePart_of_readSeconds? {seconds : Nat × Nat} (h : readSeconds? text = some seconds) :
    ∀ c ∈ text, isTimePart c = true := by
  obtain ⟨afterMark, hmark, h⟩ := Option.bind_eq_some_iff.1 h
  obtain ⟨⟨second, afterSecond⟩, hsecond, h⟩ := Option.bind_eq_some_iff.1 h
  obtain ⟨⟨nano, rest⟩, hfraction, h⟩ := Option.bind_eq_some_iff.1 h
  rw [takeMark?_eq_some_iff] at hmark
  subst hmark
  obtain rfl : rest = [] := by
    cases rest with
    | nil => rfl
    | cons c rest => cases h
  have hnumber := (takes_takeNumber? hsecond).mono fun _ => isTimePart_of_isNumberPart
  exact (Takes.cons rfl (hnumber.trans (takes_takeFraction? hfraction))).all

end Parts

/-! ## Whole texts -/

section Whole

variable {text : List Char}

theorem isDatePart_of_readDate? {date : Date} (h : readDate? text = some date) :
    (∀ c ∈ text, isDatePart c = true) ∧ '-' ∈ text := by
  unfold readDate? at h
  split at h
  · rename_i d htaken
    exact ⟨(takes_takeDate? htaken).1.all, (takes_takeDate? htaken).2⟩
  · cases h

/-- Date and hour stand in front of the first colon, and behind it only what belongs to the time. -/
theorem readTimed?_spec {t : DateTime} (h : readTimed? text = some t) :
    ∃ before after, text = before ++ ':' :: after ∧ ':' ∉ before ∧ ∀ c ∈ after, isTimePart c = true := by
  obtain ⟨⟨date, afterDate⟩, hdate, h⟩ := Option.bind_eq_some_iff.1 h
  obtain ⟨hourText, hmark, h⟩ := Option.bind_eq_some_iff.1 h
  obtain ⟨⟨hour, afterHour⟩, hhour, h⟩ := Option.bind_eq_some_iff.1 h
  obtain ⟨minuteText, hcolon, h⟩ := Option.bind_eq_some_iff.1 h
  obtain ⟨⟨minute, rest⟩, hminute, h⟩ := Option.bind_eq_some_iff.1 h
  have hrest : Takes isTimePart rest [] := by
    dsimp only at h
    split at h
    · rename_i hempty
      rw [List.isEmpty_iff.1 hempty]
      exact .refl []
    · obtain ⟨seconds, hseconds, _⟩ := Option.bind_eq_some_iff.1 h
      exact ⟨rest, by simp, isTimePart_of_readSeconds? hseconds⟩
  rw [takeMark?_eq_some_iff] at hmark hcolon
  subst hmark hcolon
  obtain ⟨day, rfl, hday⟩ := (takes_takeDate? hdate).1
  obtain ⟨hours, rfl, hhours⟩ := takes_takeNumber? hhour
  -- it is the first colon: neither the date in front of it nor the hour has one
  refine ⟨day ++ 'T' :: hours, minuteText, by simp, ?_, ?_⟩
  · intro hm
    rcases List.mem_append.1 hm with hm | hm
    · cases hday _ hm
    · rcases List.mem_cons.1 hm with heq | hm
      · cases heq
      · cases hhours _ hm
  · have hminutes := (takes_takeNumber? hminute).mono fun _ => isTimePart_of_isNumberPart
    exact (hminutes.trans hrest).all

/-- What belongs to a time is no date-time by itself: it has neither a `T` nor a dash. -/
theorem readDateTime?_of_isTimePart (h : ∀ c ∈ text, isTimePart c = true) : readDateTime? text = none := by
  have hmark : 'T' ∉ text := fun hm => by cases h _ hm
  have hdate : readDate? text = none := by
    rw [Option.eq_none_iff_forall_ne_some]
    intro date hread
    cases h _ (isDatePart_of_readDate? hread).2
  rw [readDateTime?, if_neg (by simpa using hmark), hdate]
  rfl

end Whole
end Calendar
end RecordFilter
