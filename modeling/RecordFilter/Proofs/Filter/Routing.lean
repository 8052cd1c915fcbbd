import RecordFilter.Proofs.Filter.Conditions
import RecordFilter.Proofs.Filter.Sequence

/-!
# RecordFilter.Proofs.Filter.Routing

Which way the values of a field go. Without an operator every value is converted on its own
(`field_of_not_ranged`). One operator sends all values to the merger, but the values without an operator
are converted before that: the first of them that cannot be converted makes the key fail, whatever the
merger would have made of it (`field_of_ranged`). So the merger has the last word if and only if those
values convert or it fails with the same error (`field_eq_mergeRange_iff`), and a date that cannot be read
is refused beside an operator although the merger would look for it in the text
(`field_ne_mergeRange_of_unreadable_date`).
-/

namespace RecordFilter

open Compile

namespace FieldPath

/-- The values without an operator. -/
def plainValues (values : List String) : List String :=
  values.filter fun raw => !raw.toList.contains operatorSeparator

variable {path : FieldPath} {raw : String} {values : List String}

theorem literal_of_not_ranged (h : path.isRanged values = false) (hm : raw ∈ values) :
    path.literal raw = (path.convert raw).map .typed := by
  have hraw : (raw.toList.contains operatorSeparator && path.type.supportsRange) = false := by
    rw [isRanged, Bool.and_eq_false_iff, List.any_eq_false] at h
    rw [Bool.and_eq_false_iff]
    obtain h | h := h
    · exact .inr h
    · exact .inl (by simpa using h raw hm)
  rw [literal, hraw]
  rfl

theorem errorOf?_literal (hs : path.type.supportsRange = true) (raw : String) :
    errorOf? (path.literal raw) =
      if raw.toList.contains operatorSeparator then none else errorOf? (path.convert raw) := by
  rw [literal, hs, Bool.and_true]
  split
  · rfl
  · cases path.convert raw <;> rfl

theorem firstError?_literal (hs : path.type.supportsRange = true) (values : List String) :
    firstError? path.literal values = firstError? path.convert (plainValues values) := by
  induction values with
  | nil => rfl
  | cons raw values ih =>
    rw [firstError?_cons, errorOf?_literal hs, ih]
    simp only [plainValues, List.filter_cons]
    cases raw.toList.contains operatorSeparator with
    | true => rfl
    | false => simp [firstError?_cons]

end FieldPath

namespace Compile

variable {options : CompileOptions} {path : FieldPath} {values : List String}

theorem typedLiterals_map (vs : List Value) : typedLiterals (vs.map .typed) = vs := by
  induction vs with
  | nil => rfl
  | cons v vs ih => exact congrArg (v :: ·) ih

theorem any_isRanged_map (vs : List Value) : (vs.map Literal.typed).any isRanged = false := by
  induction vs with
  | nil => rfl
  | cons v vs ih => rw [List.map_cons, List.any_cons, ih]; rfl

theorem mapM_literal_of_not_ranged (h : path.isRanged values = false) :
    values.mapM path.literal = (values.mapM path.convert).map fun vs => vs.map .typed := by
  have hall : ∀ raw ∈ values, path.literal raw = (path.convert raw).map .typed :=
    fun raw hm => path.literal_of_not_ranged h hm
  clear h
  induction values with
  | nil => rfl
  | cons raw values ih =>
    have hrest := ih fun r hr => hall r (List.mem_cons_of_mem raw hr)
    have hraw := hall raw List.mem_cons_self
    cases hc : path.convert raw with
    | error e =>
      rw [hc] at hraw
      rw [mapM_cons_of_error hraw, mapM_cons_of_error hc]; rfl
    | ok v =>
      rw [hc] at hraw
      rw [mapM_cons_of_ok hraw, mapM_cons_of_ok hc, hrest]
      cases values.mapM path.convert <;> rfl

/-- Without an operator the values are converted one by one. -/
theorem field_of_not_ranged (h : path.isRanged values = false) :
    field options path values = (values.mapM path.convert).map (typed path) := by
  rw [field, mapM_literal_of_not_ranged h]
  cases values.mapM path.convert with
  | error e => rfl
  | ok vs => simp only [Except.map, any_isRanged_map, typedLiterals_map, Bool.false_eq_true, if_false]

/-! ## One by one -/

theorem typedCondition_of_text {operand : Operand} {raw : String} {v : Value} (ht : path.type = .text)
    (h : path.convert raw = .ok v) :
    typedCondition operand v = .contains operand (Unicode.foldText raw) := by
  rw [FieldPath.convert_eq_ok_iff, ht] at h
  cases h
  rfl

theorem typedCondition_of_not_text {operand : Operand} {raw : String} {v : Value}
    (ht : path.type ≠ .text) (h : path.convert raw = .ok v) :
    typedCondition operand v = .equals operand v := by
  have hk := FieldPath.kind?_of_convert h
  unfold typedCondition
  split
  · cases htype : path.type <;> rw [htype] at hk <;> first | exact absurd htype ht | cases hk
  · rfl

theorem alternatives?_of_convert {raw : String} {v : Value} (h : path.convert raw = .ok v) :
    alternatives? v =
      if path.isAlternation [raw] then some (namesIn alternationMarker raw) else none := by
  have hk := FieldPath.kind?_of_convert h
  rw [FieldPath.convert_eq_ok_iff] at h
  unfold FieldPath.isAlternation
  cases htype : path.type <;> rw [htype] at h hk <;> first
    | (cases h; rfl)
    | (cases v <;> first | rfl | cases hk)

theorem singleton_of_isAlternation (h : path.isAlternation values = true) :
    (path.type = .text ∨ ∃ name, path.type = .other name) ∧ ∃ raw, values = [raw] := by
  unfold FieldPath.isAlternation at h
  split at h
  · rename_i raw htype; exact ⟨.inl htype, raw, rfl⟩
  · rename_i name raw htype; exact ⟨.inr ⟨name, htype⟩, raw, rfl⟩
  · cases h

/-- The alternatives of the only value are compared with the whole text of the field. -/
theorem typed_of_isAlternation {raw : String} {vs : List Value} (h : path.isAlternation [raw] = true)
    (hm : [raw].mapM path.convert = .ok vs) :
    typed path vs = Predicate.disjunction ((namesIn alternationMarker raw).map fun text =>
      .foldedEquals (.field path) (Unicode.foldText text)) := by
  obtain ⟨v, hv⟩ := exists_of_mapM_eq_ok hm raw List.mem_cons_self
  obtain rfl : [v] = vs := by
    rw [mapM_cons_of_ok hv] at hm
    cases hm; rfl
  simp only [typed, alternatives?_of_convert hv, h, if_true]

theorem typed_of_not_isAlternation {vs : List Value} (h : path.isAlternation values = false)
    (hm : values.mapM path.convert = .ok vs) :
    typed path vs = Predicate.disjunction (vs.map (typedCondition (.field path))) := by
  unfold typed
  dsimp only
  split
  · rename_i v
    obtain ⟨raw, rfl, hv⟩ := mapM_eq_ok_singleton_iff.1 hm
    simp only [alternatives?_of_convert hv, h, Bool.false_eq_true, if_false]
  · rfl

/-! ## All together -/

theorem any_isRanged_of_isRanged {literals : List Literal} (h : path.isRanged values = true)
    (hm : values.mapM path.literal = .ok literals) : literals.any isRanged = true := by
  rw [FieldPath.isRanged, Bool.and_eq_true, List.any_eq_true] at h
  obtain ⟨hs, raw, hraw, hop⟩ := h
  refine List.any_eq_true.2 ⟨.ranged raw, (mem_of_mapM_eq_ok hm _).2 ⟨raw, hraw, ?_⟩, rfl⟩
  rw [FieldPath.literal, hs, hop]
  rfl

/-- With an operator the values without one are converted first, and then all are merged. -/
theorem field_of_ranged (h : path.isRanged values = true) :
    field options path values =
      match firstError? path.convert (FieldPath.plainValues values) with
      | some error => .error error
      | none => mergeRange path options.dateFallback values := by
  have hs : path.type.supportsRange = true := (Bool.and_eq_true_iff.1 h).1
  rw [← FieldPath.firstError?_literal hs, ← errorOf?_mapM, field]
  cases hm : values.mapM path.literal with
  | error e => rfl
  | ok literals => simp [errorOf?, any_isRanged_of_isRanged h hm]

/-- A key that compiles is either merged or converted value by value. -/
theorem field_cases {p : Predicate} (h : field options path values = .ok p) :
    (path.isRanged values = true ∧ mergeRange path options.dateFallback values = .ok p) ∨
      (path.isRanged values = false ∧
        ∃ vs, values.mapM path.convert = .ok vs ∧ typed path vs = p) := by
  cases hr : path.isRanged values with
  | true =>
    rw [field_of_ranged hr] at h
    split at h
    · cases h
    · exact .inl ⟨rfl, h⟩
  | false =>
    rw [field_of_not_ranged hr] at h
    exact .inr ⟨rfl, map_eq_ok_iff.1 h⟩

theorem errorOf?_mergeRange (fallback : DateFallback) :
    errorOf? (mergeRange path fallback values) =
      firstError? (RangeMerging.read path fallback) values := by
  rw [mergeRange, ← errorOf?_mapM]
  cases values.mapM (RangeMerging.read path fallback) <;> rfl

/-- The values of a key with an operator are exactly what the merger makes of them if and only if every
value without an operator converts, or the first that does not fails as the merger does. Otherwise the
key fails with the error of that value. -/
theorem field_eq_mergeRange_iff (hs : path.type.supportsRange = true)
    (hv : ∃ raw ∈ values, operatorSeparator ∈ raw.toList) :
    (field options path values = mergeRange path options.dateFallback values ↔
      (∀ raw ∈ values, operatorSeparator ∉ raw.toList → ∃ v, path.convert raw = .ok v) ∨
        firstError? path.convert (FieldPath.plainValues values) =
          firstError? (RangeMerging.read path options.dateFallback) values) ∧
      ∀ error, firstError? path.convert (FieldPath.plainValues values) = some error →
        field options path values = .error error := by
  have hr : path.isRanged values = true := by
    rw [FieldPath.isRanged, hs, Bool.true_and, List.any_eq_true]
    simpa using hv
  have hplain : (∀ raw ∈ values, operatorSeparator ∉ raw.toList → ∃ v, path.convert raw = .ok v) ↔
      firstError? path.convert (FieldPath.plainValues values) = none := by
    simp only [firstError?_eq_none_iff, FieldPath.plainValues, List.mem_filter, and_imp]
    simp
  rw [hplain, ← errorOf?_mergeRange, field_of_ranged hr]
  cases hf : firstError? path.convert (FieldPath.plainValues values) with
  | none => simp
  | some e =>
    simp only [reduceCtorEq, false_or, Option.some.injEq]
    refine ⟨?_, fun error h => congrArg Except.error h⟩
    rw [eq_comm (a := some e), errorOf?_eq_some_iff]
    exact eq_comm

/-- Beside an operator a number counts as one more value of the merger, and a text that is no number is
refused before an unreadable literal of the operator is looked at. -/
theorem field_eq_mergeRange_iff_stock :
    field .standard ⟨["estoque"], .integer .bits32⟩ ["10", "gte:5"] =
        mergeRange ⟨["estoque"], .integer .bits32⟩ .substring ["10", "gte:5"] ∧
      field .standard ⟨["estoque"], .integer .bits32⟩ ["gte:dez", "vinte"] =
        .error (.valueConversion "estoque" "vinte" "integer32") := by
  constructor
  · refine (field_eq_mergeRange_iff rfl ⟨"gte:5", by decide, by decide⟩).1.2 (.inl ?_)
    intro raw hm ho
    obtain rfl | hm := List.mem_cons.1 hm
    · exact ⟨.integer .bits32 10, rfl⟩
    · obtain rfl := List.mem_singleton.1 hm
      exact absurd (by decide) ho
  · exact (field_eq_mergeRange_iff rfl ⟨"gte:dez", by decide, by decide⟩).2 _ rfl

/-- The merger would look for an unreadable date in the text of the field, but it does not come to that. -/
theorem field_ne_mergeRange_of_unreadable_date :
    ¬ ∀ (options : CompileOptions) (path : FieldPath) (values : List String),
      path.type.supportsRange = true → (∃ raw ∈ values, operatorSeparator ∈ raw.toList) →
        field options path values = mergeRange path options.dateFallback values := by
  intro h
  have heq := h .standard ⟨["dataCriacao"], .date⟩ ["ontem", "gte:2023-01-01"] rfl
    ⟨"gte:2023-01-01", by decide, by decide⟩
  have hfield : field .standard ⟨["dataCriacao"], .date⟩ ["ontem", "gte:2023-01-01"] =
      .error (.valueConversion "dataCriacao" "ontem" "date") := rfl
  have hmerge : ∃ p, mergeRange ⟨["dataCriacao"], .date⟩ .substring ["ontem", "gte:2023-01-01"] = .ok p :=
    ⟨_, rfl⟩
  obtain ⟨p, hp⟩ := hmerge
  rw [hfield] at heq
  cases heq.trans hp

end Compile
end RecordFilter
