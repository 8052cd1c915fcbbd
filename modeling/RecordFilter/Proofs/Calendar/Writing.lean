import RecordFilter.Proofs.Calendar.Reading
import RecordFilter.Proofs.Number.Writing

/-!
# RecordFilter.Proofs.Calendar.Writing

Dates and date-times are read back from their written form. The reader of a part takes just its digits from
the front of the text: months, days and times have two of them, and a year ends where a mark follows.

* `takeDate?_write`: a date in front of any text.
* `readDate?_write`, `readDateTime?_write`: dates and date-times as whole texts, leap seconds included.
-/

namespace RecordFilter
namespace Calendar

open Number (isDigit ofDigits padded signed areDigits_padded length_padded ofDigits_padded)
open Json.Numeral (AreDigits)

/-! ## Parts -/

section Parts

variable {limit : Nat} {digits : List Char}

/-- Digits are taken as a whole where the limit or another character ends them. -/
theorem takeDigits?_append (h : AreDigits digits) (hlimit : digits.length ≤ limit) {rest : List Char}
    (hend : digits.length = limit ∨ ∀ c ∈ rest.head?, isDigit c = false) :
    takeDigits? limit (digits ++ rest) = some (digits, rest) := by
  have htaken : ((digits ++ rest).take limit).takeWhile isDigit = digits := by
    rw [List.take_append, List.take_of_length_le hlimit]
    refine Json.Numeral.takeWhile_isDigit h.all fun c hc => ?_
    rw [List.head?_take] at hc
    split at hc
    · cases hc
    · exact hend.resolve_left (by omega) c hc
  unfold takeDigits?
  rw [htaken]
  split
  · exact absurd rfl h.ne_nil
  · rw [List.drop_left]

theorem trimStart_digits (h : AreDigits digits) (rest : List Char) :
    Text.trimStart (digits ++ rest) = digits ++ rest := by
  obtain ⟨c, inside, rfl, hc⟩ := h.exists_cons
  rw [Text.trimStart, List.cons_append, List.dropWhile_cons_of_neg]
  simp [Number.not_isBlank_of_isDigit hc]

/-- Months, days, hours, minutes and seconds. -/
theorem takeNumber?_padded {n : Nat} (h : n < 100) (rest : List Char) :
    takeNumber? 2 (padded 2 n ++ rest) = some (n, rest) := by
  have hall := areDigits_padded 2 n
  have hlength : (padded 2 n).length = 2 := length_padded (by decide) h
  rw [takeNumber?, trimStart_digits hall, takeDigits?_append hall hlength.le (.inl hlength), Option.map_some]
  exact congrArg (fun m => some (m, rest)) (ofDigits_padded 2 n)

theorem takeMark?_cons (mark : Char) (rest : List Char) : takeMark? mark (mark :: rest) = some rest :=
  takeMark?_eq_some_iff.2 rfl

end Parts

/-! ## Dates -/

section Dates

variable {digits rest : List Char}

/-- Without a sign a year has four digits. -/
theorem takeYear?_unsigned (h : AreDigits digits) (hlength : digits.length = 4) (rest : List Char) :
    takeYear? (digits ++ rest) = some ((ofDigits digits : Int), rest) := by
  have hread : takeDigits? 4 (digits ++ rest) = some (digits, rest) :=
    takeDigits?_append h hlength.le (.inl hlength)
  obtain ⟨c, inside, rfl, hc⟩ := h.exists_cons
  unfold takeYear?
  rw [trimStart_digits h]
  split
  · rename_i heq
    cases heq
    cases hc
  · rename_i heq
    cases heq
    cases hc
  · rw [hread]
    rfl

/-- Behind a sign a year has any number of digits and ends in front of another character. -/
theorem takeYear?_signed (negative : Bool) (h : AreDigits digits)
    (hrest : ∀ c ∈ rest.head?, isDigit c = false) :
    takeYear? ((if negative then '-' else '+') :: (digits ++ rest)) =
      some (signed negative (ofDigits digits), rest) := by
  have hread : takeDigits? (digits ++ rest).length (digits ++ rest) = some (digits, rest) :=
    takeDigits?_append h (by simp) (.inr hrest)
  cases negative with
  | true =>
    have hstart : takeYear? ('-' :: (digits ++ rest)) = (takeDigits? (digits ++ rest).length (digits ++ rest)).map
        fun taken => (signed true (ofDigits taken.1), taken.2) := rfl
    rw [if_pos rfl, hstart, hread]
    rfl
  | false =>
    have hstart : takeYear? ('+' :: (digits ++ rest)) = (takeDigits? (digits ++ rest).length (digits ++ rest)).map
        fun taken => (signed false (ofDigits taken.1), taken.2) := rfl
    rw [if_neg Bool.false_ne_true, hstart, hread]
    rfl

theorem takeYear?_writeYear (year : Int) (hrest : ∀ c ∈ rest.head?, isDigit c = false) :
    takeYear? (Date.writeYear year ++ rest) = some (year, rest) := by
  unfold Date.writeYear
  split
  · rename_i hyear
    have hlength : (padded 4 year.toNat).length = 4 := length_padded (by decide) (by omega)
    rw [takeYear?_unsigned (areDigits_padded 4 _) hlength, ofDigits_padded, Int.toNat_of_nonneg hyear.1]
  · have hread := takeYear?_signed (decide (year < 0)) (areDigits_padded 4 year.natAbs) hrest
    have hvalue : signed (decide (year < 0)) year.natAbs = year := by
      rw [signed]
      split
      · rename_i hneg
        rw [decide_eq_true_eq] at hneg
        omega
      · rename_i hnonneg
        rw [decide_eq_true_eq] at hnonneg
        omega
    rw [ofDigits_padded, hvalue] at hread
    simpa using hread

theorem daysInMonth_le (year : Int) (month : Nat) : daysInMonth year month ≤ 31 := by
  unfold daysInMonth
  split
  · split <;> decide
  all_goals decide

/-- A date stands in front of any text. -/
theorem takeDate?_write (d : Date) (rest : List Char) : takeDate? (d.write ++ rest) = some (d, rest) := by
  obtain ⟨-, ⟨-, hmonth⟩, -, hday⟩ := d.isDate
  have hmonth : d.month < 100 := by omega
  have hday : d.day < 100 := Nat.lt_of_le_of_lt (hday.trans (daysInMonth_le _ _)) (by decide)
  have hyear : ∀ rest, takeYear? (Date.writeYear d.year ++ '-' :: rest) = some (d.year, '-' :: rest) := by
    intro rest
    refine takeYear?_writeYear d.year fun c hc => ?_
    obtain rfl : '-' = c := Option.some.inj hc
    rfl
  have hmake : Date.make? d.year d.month d.day = some d := dif_pos d.isDate
  simp [takeDate?, Date.write, hyear, takeMark?_cons, takeNumber?_padded hmonth, takeNumber?_padded hday, hmake]

theorem readDate?_write (d : Date) : readDate? d.write = some d := by
  have htaken := takeDate?_write d []
  rw [List.append_nil] at htaken
  rw [readDate?, htaken]

end Dates

/-! ## Date-times -/

section Times

/-- Places behind the point that the nine of a nanosecond leave out are zeros. -/
theorem takeFraction?_padded {places n : Nat} (hpos : 0 < places) (hle : places ≤ 9) (h : n < 10 ^ places) :
    takeFraction? ('.' :: padded places n) = some (n * 10 ^ (9 - places), []) := by
  have hlength : (padded places n).length = places := length_padded hpos h
  have hread : takeDigits? 9 (padded places n ++ []) = some (padded places n, []) :=
    takeDigits?_append (areDigits_padded places n) (hlength.trans_le hle) (.inr (by simp))
  rw [List.append_nil] at hread
  simp [takeFraction?, hread, ofDigits_padded, hlength]

theorem takeFraction?_writeFraction {nano : Nat} (h : nano < nanosPerSecond) :
    takeFraction? (DateTime.writeFraction nano) = some (nano, []) := by
  unfold nanosPerSecond at h
  unfold DateTime.writeFraction
  split
  · rename_i hzero
    rw [hzero]
    rfl
  split
  · rw [takeFraction?_padded (by decide) (by decide) (by omega)]
    simp only [Option.some.injEq, Prod.mk.injEq, and_true]
    omega
  split
  · rw [takeFraction?_padded (by decide) (by decide) (by omega)]
    simp only [Option.some.injEq, Prod.mk.injEq, and_true]
    omega
  · rw [takeFraction?_padded (by decide) (by decide) h]
    simp

/-- The second 60 is read as what is left of the second 59. -/
theorem readSeconds?_write {second nano : Nat} (hsecond : second < 100) (hnano : nano < nanosPerSecond) :
    readSeconds? (':' :: padded 2 second ++ DateTime.writeFraction nano) =
      some (if second = 60 then (59, nanosPerSecond + nano) else (second, nano)) := by
  simp only [readSeconds?, List.cons_append, takeMark?_cons, takeNumber?_padded hsecond,
    takeFraction?_writeFraction hnano, Option.bind_eq_bind, Option.bind_some, List.isEmpty_nil]
  split
  · rename_i hfalse
    cases hfalse
  · split <;> rfl

theorem readTimed?_write (t : DateTime) : readTimed? t.write = some t := by
  obtain ⟨⟨hhour, hminute, hsecond⟩, hnano⟩ := t.isTime
  have hshown : t.second + t.nano / nanosPerSecond < 100 := by
    unfold nanosPerSecond at hnano ⊢
    omega
  have hhour : t.hour < 100 := by omega
  have hminute : t.minute < 100 := by omega
  have hfraction : t.nano % nanosPerSecond < nanosPerSecond := Nat.mod_lt _ (by decide)
  have hmake : DateTime.make? t.date t.hour t.minute t.second t.nano = some t := dif_pos t.isTime
  have hseconds := readSeconds?_write hshown hfraction
  -- a leap second carries its whole second over from the second 59 and back
  have hback : (if t.second + t.nano / nanosPerSecond = 60 then (59, nanosPerSecond + t.nano % nanosPerSecond)
      else (t.second + t.nano / nanosPerSecond, t.nano % nanosPerSecond)) = (t.second, t.nano) := by
    unfold nanosPerSecond at hnano ⊢
    split
    · rw [Prod.mk.injEq]
      omega
    · rw [Prod.mk.injEq]
      omega
  rw [hback] at hseconds
  simp only [DateTime.write, List.append_assoc, List.cons_append] at hseconds ⊢
  simp [readTimed?, takeDate?_write, takeMark?_cons, takeNumber?_padded hhour, takeNumber?_padded hminute,
    hseconds, hmake]

theorem readDateTime?_write (t : DateTime) : readDateTime? t.write = some t := by
  have hmark : t.write.contains 'T' = true := by simp [DateTime.write]
  rw [readDateTime?, if_pos hmark, readTimed?_write]

end Times
end Calendar
end RecordFilter
