import RecordFilter.Proofs.Filter.Equality
import RecordFilter.Proofs.Text.Split
import RecordFilter.Proofs.Unicode.Seams

/-!
# RecordFilter.Proofs.Filter.Containment

What a request finds that gives a field of texts one text to look for.

* `compile_text`: every record is found whose text contains the one looked for, wherever the text around it
  leaves its fold as it is.
* `compile_text_misses`: a record can be missed whose text contains the one looked for letter by letter.
-/

namespace RecordFilter

open Compile

variable {schema : Schema} {options : CompileOptions} {path : FieldPath} {key part : String}

theorem field_of_text (htype : path.type = .text) (hmarker : alternationMarker ∉ part.toList) :
    field options path [part] = .ok (.contains (.field path) (Unicode.foldText part)) := by
  have hranged : path.isRanged [part] = false := by
    rw [FieldPath.isRanged, htype]
    rfl
  have hsingle : path.isAlternation [part] = false := by simp [FieldPath.isAlternation, htype, hmarker]
  have hv : path.convert part = .ok (.text part) := by
    rw [FieldPath.convert_eq_ok_iff, htype]
    rfl
  have hm : [part].mapM path.convert = .ok [.text part] := mapM_eq_ok_singleton_iff.2 ⟨part, rfl, hv⟩
  rw [field_of_not_ranged hranged, hm, Except.map, typed_of_not_isAlternation hsingle hm, List.map_singleton,
    typedCondition_of_text htype hv]
  rfl

theorem holds_contains_of_keepsForm {operand : Operand} {record : Json} {before after : String}
    (htext : operand.text? record = some (before ++ part ++ after))
    (hform : Unicode.KeepsForm before.toList part.toList after.toList) :
    (Predicate.contains operand (Unicode.foldText part)).holds record = true := by
  have hinfix := Unicode.fold_infix hform
  rw [Predicate.holds, htext, Option.any_some, Unicode.foldText, String.toList_ofList, Text.contains_iff,
    String.toList_append, String.toList_append]
  exact hinfix

/-- A record is found whose text contains the one looked for, if the text around it changes neither the form
of a final sigma nor the order of marks that stay in the fold. -/
theorem compile_text (hreserved : key ∉ Request.reservedKeys) (hgroup : groupSeparator ∉ key.toList)
    (hresolve : schema.resolve key = .ok (.field path)) (htype : path.type = .text)
    (hmarker : alternationMarker ∉ part.toList) :
    ∃ p, compile schema options (Request.ofPairs [(key, part)]) = .ok ⟨p, none, []⟩ ∧
      ∀ (record : Json) (before after : String),
        (Operand.field path).text? record = some (before ++ part ++ after) →
          Unicode.KeepsForm before.toList part.toList after.toList → p.holds record = true := by
  have hkey : Compile.key schema options key [part] = field options path [part] := by
    rw [Compile.key, hresolve]
  refine ⟨.contains (.field path) (Unicode.foldText part), ?_, ?_⟩
  · rw [compile_ofPairs_singleton hreserved hgroup, hkey, field_of_text htype hmarker]
    rfl
  · intro record before after htext hform
    exact holds_contains_of_keepsForm htext hform

theorem compile_text_nome :
    ∃ p, compile Catalog.produtosSchema .standard (Request.ofPairs [("nome", "Brûlée")]) = .ok ⟨p, none, []⟩ ∧
      p.holds (.object [("nome", .string "Crème Brûlée Real")]) = true := by
  obtain ⟨p, hp, hholds⟩ := @compile_text Catalog.produtosSchema .standard ⟨["nome"], .text⟩ "nome" "Brûlée"
    (by decide) (by decide) rfl rfl (by decide)
  refine ⟨p, hp, hholds _ "Crème " " Real" rfl ⟨?_, ?_, ?_⟩⟩
  · intro before after heq
    have hsigma : 'Σ' ∉ "Brûlée".toList := by decide
    rw [heq] at hsigma
    exact absurd (List.mem_append_right _ List.mem_cons_self) hsigma
  · intro c _ d hd
    have hstart : Unicode.startMarks (Unicode.settled "Brûlée".toList) = [] := by decide +kernel
    rw [hstart] at hd
    cases hd
  · intro c hc
    have hend : Unicode.endMarks (Unicode.settled "Brûlée".toList) = [] := by decide +kernel
    rw [hend] at hc
    cases hc

/-- A capital sigma that ends the text looked for folds to a final sigma, and the one that the record has in
the middle of a word does not. -/
theorem compile_text_misses :
    ¬ ∀ (schema : Schema) (options : CompileOptions) (path : FieldPath) (key part : String),
      key ∉ Request.reservedKeys → groupSeparator ∉ key.toList → schema.resolve key = .ok (.field path) →
        path.type = .text → alternationMarker ∉ part.toList →
          ∃ p, compile schema options (Request.ofPairs [(key, part)]) = .ok ⟨p, none, []⟩ ∧
            ∀ (record : Json) (before after : String),
              (Operand.field path).text? record = some (before ++ part ++ after) → p.holds record = true := by
  intro h
  obtain ⟨p, hp, hholds⟩ := h Catalog.produtosSchema .standard ⟨["nome"], .text⟩ "nome" "ΑΣ" (by decide)
    (by decide) rfl rfl (by decide)
  have hcontains : compile Catalog.produtosSchema .standard (Request.ofPairs [("nome", "ΑΣ")]) =
      .ok ⟨.contains (.field ⟨["nome"], .text⟩) (Unicode.foldText "ΑΣ"), none, []⟩ := rfl
  obtain rfl : Predicate.contains (.field ⟨["nome"], .text⟩) (Unicode.foldText "ΑΣ") = p := by
    cases hcontains.symm.trans hp
    rfl
  have hmissed : (Predicate.contains (.field ⟨["nome"], .text⟩) (Unicode.foldText "ΑΣ")).holds
      (.object [("nome", .string "ΑΣΑ")]) = false := by decide +kernel
  cases hmissed.symm.trans (hholds (.object [("nome", .string "ΑΣΑ")]) "" "Α" rfl)

end RecordFilter
