import RecordFilter.Proofs.Calendar.Writing
import RecordFilter.Proofs.Value.Order

/-!
# RecordFilter.Proofs.Value.Display

The text that a value is shown as stands for the value again: `FieldPath.convert_display`, for all types but
those of floating-point numbers. Decimals keep all their places, years and leap seconds are read as they are
written; only the sign of a zero is lost, which does not count.
-/

namespace RecordFilter

namespace FieldType

/-- The value itself is read, where no sign can be lost. -/
theorem read?_display {type : FieldType} {raw : String} {v : Value} (hsingle : type ≠ .single)
    (hdouble : type ≠ .double) (hdecimal : type ≠ .decimal) (h : type.read? raw = some v) :
    type.read? v.display = some v := by
  cases type with
  | single => exact absurd rfl hsingle
  | double => exact absurd rfl hdouble
  | decimal => exact absurd rfl hdecimal
  | text | other _ =>
    cases h
    rfl
  | integer width =>
    obtain ⟨n, hread, rfl⟩ := Option.map_eq_some_iff.1 h
    have hback := Number.readInteger?_writeInteger (Number.holds_of_readInteger? hread)
    simp [read?, Value.display, hback]
  | boolean =>
    cases h
    cases Text.isWord "true" raw.toList <;> decide
  | date =>
    obtain ⟨d, -, rfl⟩ := Option.map_eq_some_iff.1 h
    simp [read?, Value.display, Calendar.readDate?_write]
  | dateTime =>
    obtain ⟨t, -, rfl⟩ := Option.map_eq_some_iff.1 h
    simp [read?, Value.display, Calendar.readDateTime?_write]
  | choice name members =>
    simp only [read?] at h
    split at h
    · rename_i hmember
      cases h
      exact if_pos hmember
    · cases h
  | json => cases h

/-- A decimal is read without the sign of a zero. -/
theorem read?_display_decimal (d : Number.Decimal) :
    FieldType.decimal.read? (Value.decimal d).display = some (.decimal d.unsignZero) := by
  simp [read?, Value.display, Number.Decimal.read?_write]

end FieldType

theorem Value.equals_unsignZero (d : Number.Decimal) :
    (Value.decimal d.unsignZero).equals (.decimal d) = true := by
  simp [equals, compare?, Number.Decimal.compareTo, Number.Decimal.units_unsignZero]

namespace FieldPath

/-- What a literal stands for is shown as a literal of the same field that stands for the same. -/
theorem convert_display {path : FieldPath} {raw : String} {v : Value} (hsingle : path.type ≠ .single)
    (hdouble : path.type ≠ .double) (h : path.convert raw = .ok v) :
    ∃ w, path.convert v.display = .ok w ∧ w.equals v = true ∧ (path.type ≠ .decimal → w = v) := by
  have hread := convert_eq_ok_iff.1 h
  by_cases hdecimal : path.type = .decimal
  · rw [hdecimal] at hread
    obtain ⟨d, -, rfl⟩ := Option.map_eq_some_iff.1 hread
    refine ⟨.decimal d.unsignZero, ?_, Value.equals_unsignZero d, absurd hdecimal⟩
    rw [convert_eq_ok_iff, hdecimal, FieldType.read?_display_decimal]
  · have hback := FieldType.read?_display hsingle hdouble hdecimal hread
    have hnumber := Value.isNan_of_read? hsingle hdouble hread
    refine ⟨v, convert_eq_ok_iff.2 hback, ?_, fun _ => rfl⟩
    rw [Value.equals, Value.compare?_self hnumber]
    rfl

theorem convert_display_negativeZero :
    ∃ v, (FieldPath.mk ["preco"] .decimal).convert "-0.4e-28" = .ok v ∧
      v.display = "-0.0000000000000000000000000000" ∧
      ∃ w, (FieldPath.mk ["preco"] .decimal).convert v.display = .ok w ∧ w.equals v = true ∧
        ((FieldPath.mk ["preco"] .decimal).type ≠ .decimal → w = v) := by
  have hread : (FieldPath.mk ["preco"] .decimal).convert "-0.4e-28" =
      .ok (.decimal ⟨true, 0, 28, by decide, by decide⟩) := rfl
  exact ⟨_, hread, by decide, convert_display (by decide) (by decide) hread⟩

end FieldPath
end RecordFilter
