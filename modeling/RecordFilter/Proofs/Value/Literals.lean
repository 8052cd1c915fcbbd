import RecordFilter.Proofs.Calendar.Reading
import RecordFilter.Proofs.Number.Digits
import RecordFilter.Proofs.Text.Split
import RecordFilter.Value.Reading

/-!
# RecordFilter.Proofs.Value.Literals

Which literals look like an operator with its own literal, because the separator of the two stands in them.
No number does and no date; among the literals of fields with bounds it is just the date-times with a `T`
(`separator_mem_iff`). What stands behind the separator there is no date-time (`splitFirst?_of_timed`).
-/

namespace RecordFilter

/-! ## Texts -/

theorem Text.notMem_of_isWord {c : Char} {word : String} {text : List Char} (h : Text.isWord word text = true)
    (hc : c.toLower ∉ word.toList) : c ∉ text := by
  have heq : lowerAscii text = word.toList := by simpa [isWord] using h
  intro hm
  exact hc (heq ▸ List.mem_map_of_mem hm)

/-! ## Numbers -/

namespace Number

variable {text : List Char} {n : Nat}

theorem notMem_of_splitSign (h : ':' ∉ (splitSign text).2) : ':' ∉ text := by
  unfold splitSign at h
  split at h
  · simpa using h
  · simpa using h
  · exact h

theorem notMem_of_all_isDigit (h : ∀ c ∈ text, isDigit c = true) : ':' ∉ text :=
  fun hm => by cases h _ hm

theorem notMem_of_readNat? (h : readNat? text = some n) : ':' ∉ text := by
  refine notMem_of_all_isDigit ?_
  rw [readNat?] at h
  split at h
  · rename_i hall
    exact List.all_eq_true.1 (Bool.and_eq_true_iff.1 hall).2
  · cases h

theorem notMem_of_readMagnitude? {width : IntegerWidth} (h : readMagnitude? width text = some n) :
    ':' ∉ text := by
  unfold readMagnitude? at h
  split at h
  · cases h
  · intro hm
    exact notMem_of_readNat? h (List.mem_filter.2 ⟨hm, by decide⟩)
  · exact notMem_of_readNat? h

theorem notMem_of_readInteger? {width : IntegerWidth} {value : Int}
    (h : readInteger? width text = some value) : ':' ∉ text := by
  refine notMem_of_splitSign ?_
  simp only [readInteger?] at h
  split at h
  · cases h
  · rename_i magnitude hm
    exact notMem_of_readMagnitude? hm

/-- What is taken from the front by a condition and what follows make up the text. -/
theorem takeWhile_append_drop (p : Char → Bool) (text : List Char) :
    text.takeWhile p ++ text.drop (text.takeWhile p).length = text :=
  List.prefix_iff_eq_append.1 (List.takeWhile_prefix p)

theorem notMem_takeWhile_isDigit (text : List Char) : ':' ∉ text.takeWhile isDigit :=
  notMem_of_all_isDigit (List.all_eq_true.1 List.all_takeWhile)

/-- Behind the digits in front the separator would still stand. -/
theorem notMem_of_drop (h : ':' ∉ text.drop (text.takeWhile isDigit).length) : ':' ∉ text := by
  rw [← takeWhile_append_drop isDigit text, List.mem_append]
  exact fun hm => hm.elim (notMem_takeWhile_isDigit text) h

namespace Binary

/-- Behind the fraction the separator would still stand. -/
theorem notMem_of_fraction {rest after : List Char}
    (h : (match rest with
      | '.' :: rest => (rest.takeWhile isDigit, rest.drop (rest.takeWhile isDigit).length)
      | _ => ([], rest)).2 = after) (hafter : ':' ∉ after) : ':' ∉ rest := by
  subst h
  split at hafter
  · simpa using notMem_of_drop hafter
  · exact hafter

theorem notMem_of_readDecimal? {value : Nat × Int} (h : readDecimal? text = some value) : ':' ∉ text := by
  unfold readDecimal? at h
  dsimp only at h
  split at h
  · cases h
  rename_i exponent hexponent
  refine notMem_of_drop ?_
  split at hexponent
  · rename_i hrest
    exact notMem_of_fraction hrest (by simp)
  · rename_i c digits hrest
    refine notMem_of_fraction hrest ?_
    split at hexponent
    · rename_i hmark
      obtain ⟨n, hdigits, _⟩ := Option.map_eq_some_iff.1 hexponent
      have hend := notMem_of_splitSign (notMem_of_readNat? hdigits)
      rcases hmark with rfl | rfl <;> simpa using hend
    · cases hexponent

theorem notMem_of_read? {f : Format} {x : Binary f} (h : read? f text = some x) : ':' ∉ text := by
  refine notMem_of_splitSign ?_
  simp only [read?] at h
  split at h
  · rename_i hword
    rcases Bool.or_eq_true_iff.1 hword with hword | hword
    · exact Text.notMem_of_isWord hword (by decide)
    · exact Text.notMem_of_isWord hword (by decide)
  split at h
  · rename_i hword
    exact Text.notMem_of_isWord hword (by decide)
  · obtain ⟨value, hvalue, _⟩ := Option.map_eq_some_iff.1 h
    exact notMem_of_readDecimal? hvalue

end Binary

namespace Decimal

theorem notMem_of_roundOff {r : Reading} {digit : Nat} {value : Nat × Nat}
    (h : r.roundOff digit text = some value) : ':' ∉ text := by
  rw [Reading.roundOff] at h
  split at h
  · rename_i hall
    intro hm
    cases List.all_eq_true.1 hall _ hm
  · cases h

theorem notMem_of_readDigits {r : Reading} {value : Nat × Nat} (h : readDigits r text = some value) :
    ':' ∉ text := by
  -- for every state of the reading: each character that is taken is no colon
  induction text generalizing r with
  | nil => simp
  | cons c rest ih =>
    have hcons : c ≠ ':' → ':' ∉ rest → ':' ∉ c :: rest := by
      intro hc hrest
      simp [Ne.symm hc, hrest]
    rw [readDigits] at h
    by_cases hunder : c = '_'
    · rw [if_pos hunder] at h
      refine hcons (by rw [hunder]; decide) ?_
      split at h
      · cases h
      split at h
      · exact notMem_of_roundOff h
      · exact ih h
    rw [if_neg hunder] at h
    by_cases hpoint : c = '.'
    · rw [if_pos hpoint] at h
      refine hcons (by rw [hpoint]; decide) ?_
      split at h
      · cases h
      · exact ih h
    rw [if_neg hpoint] at h
    cases hdigit : isDigit c with
    | false =>
      rw [hdigit] at h
      cases h
    | true =>
      refine hcons (ne_of_isDigit hdigit (by decide)) ?_
      rw [hdigit, if_pos rfl] at h
      dsimp only at h
      split at h
      · exact notMem_of_roundOff h
      split at h
      · exact ih h
      split at h
      · exact notMem_of_roundOff h
      · cases h

theorem notMem_of_readPlain? {d : Decimal} (h : readPlain? text = some d) : ':' ∉ text := by
  refine notMem_of_splitSign ?_
  simp only [readPlain?] at h
  split at h
  · rename_i hdigits
    exact notMem_of_readDigits hdigits
  · cases h

theorem notMem_of_readExponent? (h : readExponent? text = some n) : ':' ∉ text := by
  unfold readExponent? at h
  split at h
  · simpa using notMem_of_readNat? h
  · exact notMem_of_readNat? h

/-- Between the digits and the exponent stands `e` or `E`. -/
theorem mark_of_drop {c : Char} {rest : List Char}
    (h : text.drop (text.takeWhile fun c => c ≠ 'e' ∧ c ≠ 'E').length = c :: rest) : c = 'e' ∨ c = 'E' := by
  have hwhole := takeWhile_append_drop (fun c => decide (c ≠ 'e' ∧ c ≠ 'E')) text
  have hsame : text.dropWhile (fun c => c ≠ 'e' ∧ c ≠ 'E') = c :: rest :=
    (List.append_cancel_left (hwhole.trans List.takeWhile_append_dropWhile.symm)).symm.trans h
  have hstop := List.head?_dropWhile_not (fun c => decide (c ≠ 'e' ∧ c ≠ 'E')) text
  rw [hsame] at hstop
  exact Decidable.or_iff_not_not_and_not.2 (by simpa using hstop)

theorem notMem_of_readScientific? {d : Decimal} (h : readScientific? text = some d) : ':' ∉ text := by
  unfold readScientific? at h
  dsimp only at h
  split at h
  · cases h
  rename_i c exponent hdrop
  split at h
  · cases h
  rename_i base hbase
  have hexponent : ':' ∉ exponent := by
    split at h
    · obtain ⟨n, hn, _⟩ := Option.bind_eq_some_iff.1 h
      simpa using notMem_of_readExponent? hn
    · obtain ⟨n, hn, _⟩ := Option.bind_eq_some_iff.1 h
      exact notMem_of_readExponent? hn
  have hmark := mark_of_drop hdrop
  rw [← takeWhile_append_drop (fun c => decide (c ≠ 'e' ∧ c ≠ 'E')) text, hdrop, List.mem_append]
  rintro (hm | hm)
  · exact notMem_of_readPlain? hbase hm
  · rcases List.mem_cons.1 hm with rfl | hm
    · rcases hmark with hmark | hmark <;> cases hmark
    · exact hexponent hm

theorem notMem_of_read? {d : Decimal} (h : read? text = some d) : ':' ∉ text := by
  unfold read? at h
  split at h
  · rename_i hplain
    exact notMem_of_readPlain? hplain
  · exact notMem_of_readScientific? h

end Decimal
end Number

/-! ## Literals -/

section Literals

variable {type : FieldType} {raw : String} {v : Value}

theorem notMem_of_readDate? {text : List Char} {date : Calendar.Date}
    (h : Calendar.readDate? text = some date) : ':' ∉ text :=
  fun hm => by cases (Calendar.isDatePart_of_readDate? h).1 _ hm

/-- A date-time with a `T` falls apart at the separator, and what stands behind it is no date-time. -/
theorem splitFirst?_of_timed (h : FieldType.dateTime.read? raw = some v) (ht : 'T' ∈ raw.toList) :
    ∃ before after, Text.splitFirst? operatorSeparator raw.toList = some (before, after) ∧
      FieldType.dateTime.read? (String.ofList after) = none := by
  obtain ⟨t, hread, _⟩ := Option.map_eq_some_iff.1 h
  rw [Calendar.readDateTime?, if_pos (by simpa using ht)] at hread
  obtain ⟨before, after, heq, hbefore, hafter⟩ := Calendar.readTimed?_spec hread
  refine ⟨before, after, ?_, ?_⟩
  · rw [heq]
    exact Text.splitFirst?_append hbefore after
  · simp [FieldType.read?, Calendar.readDateTime?_of_isTimePart hafter]

/-- Among the literals of fields with bounds, the separator stands in the date-times with a `T`. -/
theorem separator_mem_iff (hs : type.supportsRange = true) (h : type.read? raw = some v) :
    operatorSeparator ∈ raw.toList ↔ type = .dateTime ∧ 'T' ∈ raw.toList := by
  have hnever : ':' ∉ raw.toList → type ≠ .dateTime →
      (operatorSeparator ∈ raw.toList ↔ type = .dateTime ∧ 'T' ∈ raw.toList) :=
    fun hm hne => iff_of_false hm fun hboth => hne hboth.1
  cases type with
  | text | boolean | choice _ _ | json | other _ => cases hs
  | integer width =>
    obtain ⟨n, hread, _⟩ := Option.map_eq_some_iff.1 h
    exact hnever (Number.notMem_of_readInteger? hread) nofun
  | single =>
    obtain ⟨x, hread, _⟩ := Option.map_eq_some_iff.1 h
    exact hnever (Number.Binary.notMem_of_read? hread) nofun
  | double =>
    obtain ⟨x, hread, _⟩ := Option.map_eq_some_iff.1 h
    exact hnever (Number.Binary.notMem_of_read? hread) nofun
  | decimal =>
    obtain ⟨d, hread, _⟩ := Option.map_eq_some_iff.1 h
    exact hnever (Number.Decimal.notMem_of_read? hread) nofun
  | date =>
    obtain ⟨date, hread, _⟩ := Option.map_eq_some_iff.1 h
    exact hnever (notMem_of_readDate? hread) nofun
  | dateTime =>
    by_cases ht : 'T' ∈ raw.toList
    · obtain ⟨t, hread, _⟩ := Option.map_eq_some_iff.1 h
      rw [Calendar.readDateTime?, if_pos (by simpa using ht)] at hread
      obtain ⟨before, after, heq, _⟩ := Calendar.readTimed?_spec hread
      exact iff_of_true (by simp [heq, operatorSeparator]) ⟨rfl, ht⟩
    · obtain ⟨t, hread, _⟩ := Option.map_eq_some_iff.1 h
      rw [Calendar.readDateTime?, if_neg (by simpa using ht)] at hread
      obtain ⟨date, hdate, _⟩ := Option.map_eq_some_iff.1 hread
      exact iff_of_false (notMem_of_readDate? hdate) fun hboth => ht hboth.2

end Literals
end RecordFilter
