import RecordFilter.Catalog.Catalog
import RecordFilter.Proofs.Filter.Compilation
import RecordFilter.Proofs.Filter.Routing
import RecordFilter.Proofs.Value.Literals

/-!
# RecordFilter.Proofs.Filter.Equality

What a request comes to that gives a field one valid literal and no operator. The field has to equal the
literal (`field_of_literal`), unless the literal is a date-time with a time of day. The colon in it counts
as the end of an operator, and behind it stands no date-time (`field_of_timed`): the field has to contain
the literal as text, or the request is refused.

* `compile_literal`: the whole request.
-/

namespace RecordFilter

open Compile

variable {schema : Schema} {options : CompileOptions} {path : FieldPath} {key raw : String} {v : Value}

/-! ## One field -/

namespace Compile

theorem typed_of_literal (htext : path.type ≠ .text) (hother : ∀ name, path.type ≠ .other name)
    (hv : path.convert raw = .ok v) : typed path [v] = .equals (.field path) v := by
  have hsingle : path.isAlternation [raw] = false := by
    rw [Bool.eq_false_iff]
    intro h
    rcases (singleton_of_isAlternation h).1 with htype | ⟨name, htype⟩
    · exact htext htype
    · exact hother name htype
  have hm : [raw].mapM path.convert = .ok [v] := mapM_eq_ok_singleton_iff.2 ⟨raw, rfl, hv⟩
  rw [typed_of_not_isAlternation hsingle hm, List.map_singleton, typedCondition_of_not_text htext hv]
  rfl

/-- Without a separator in it the literal is converted, and the field has to equal it. -/
theorem field_of_literal (htext : path.type ≠ .text) (hother : ∀ name, path.type ≠ .other name)
    (hv : path.convert raw = .ok v) (hdate : ¬ (path.type = .dateTime ∧ 'T' ∈ raw.toList)) :
    field options path [raw] = .ok (.equals (.field path) v) := by
  have hranged : path.isRanged [raw] = false := by
    cases hs : path.type.supportsRange with
    | false => simp [FieldPath.isRanged, hs]
    | true =>
      have hsep := mt (separator_mem_iff hs (FieldPath.convert_eq_ok_iff.1 hv)).1 hdate
      simp [FieldPath.isRanged, hsep]
  have hm : [raw].mapM path.convert = .ok [v] := mapM_eq_ok_singleton_iff.2 ⟨raw, rfl, hv⟩
  rw [field_of_not_ranged hranged, hm, Except.map, typed_of_literal htext hother hv]

/-- What stands behind the first colon of a date-time is converted in its place, and that fails. -/
theorem convert_literal_of_timed (htype : path.type = .dateTime) (ht : 'T' ∈ raw.toList)
    (hv : path.convert raw = .ok v) :
    path.convert (OperatorToken.read raw).literal =
      .error (.valueConversion path.key (OperatorToken.read raw).literal "datetime") := by
  rw [FieldPath.convert_eq_ok_iff, htype] at hv
  obtain ⟨before, after, hsplit, hafter⟩ := splitFirst?_of_timed hv ht
  have htoken : (OperatorToken.read raw).literal = String.ofList after := by
    rw [OperatorToken.read, hsplit]
  rw [htoken, FieldPath.convert, htype]
  simp only [hafter]
  rfl

theorem field_of_timed (htype : path.type = .dateTime) (ht : 'T' ∈ raw.toList)
    (hv : path.convert raw = .ok v) :
    field options path [raw] =
      match options.dateFallback with
      | .substring => .ok (.contains (.field path) (Unicode.foldText raw))
      | .reject => .error (.valueConversion path.key (OperatorToken.read raw).literal "datetime") := by
  have hs : path.type.supportsRange = true := by rw [htype]; rfl
  have hsep : operatorSeparator ∈ raw.toList :=
    (separator_mem_iff hs (FieldPath.convert_eq_ok_iff.1 hv)).2 ⟨htype, ht⟩
  have hranged : path.isRanged [raw] = true := by simp [FieldPath.isRanged, hs, hsep]
  -- no value is converted on its own before the merger reads this one
  have hplain : FieldPath.plainValues [raw] = [] := by simp [FieldPath.plainValues, hsep]
  have hread : RangeMerging.read path options.dateFallback raw =
      match options.dateFallback with
      | .substring => .ok (.condition (.contains (.field path) (Unicode.foldText raw)))
      | .reject => .error (.valueConversion path.key (OperatorToken.read raw).literal "datetime") := by
    rw [RangeMerging.read]
    simp only [convert_literal_of_timed htype ht hv, htype]
    cases options.dateFallback <;> rfl
  rw [field_of_ranged hranged, hplain]
  cases hf : options.dateFallback with
  | substring =>
    rw [hf] at hread
    exact congrArg (Except.map (RangeMerging.combine path)) (mapM_eq_ok_singleton_iff.2 ⟨raw, rfl, hread⟩)
  | reject =>
    rw [hf] at hread
    exact congrArg (Except.map (RangeMerging.combine path)) (mapM_cons_of_error hread [])

end Compile

/-! ## The whole request -/

theorem conditions_ofPairs_singleton (hreserved : key ∉ Request.reservedKeys) :
    (Request.ofPairs [(key, raw)]).conditions = [⟨key, [raw]⟩] := by
  have hentries : (Request.ofPairs [(key, raw)]).entries = [⟨key, [raw]⟩] := rfl
  simp [Request.conditions, Request.filters, hentries, hreserved]

/-- A key that is not reserved says nothing about the order. -/
theorem sortSpec_ofPairs_singleton (hreserved : key ∉ Request.reservedKeys) :
    (Request.ofPairs [(key, raw)]).sortSpec = ⟨none, none⟩ := by
  have hfirst : ∀ name ∈ Request.reservedKeys, (Request.ofPairs [(key, raw)]).first? name = none := by
    intro name hname
    have hne : key ≠ name := fun heq => hreserved (heq ▸ hname)
    have hentries : (Request.ofPairs [(key, raw)]).entries = [⟨key, [raw]⟩] := rfl
    simp [Request.first?, Request.values?, hentries, hne]
  rw [Request.sortSpec, hfirst Request.sortByKey (by decide), hfirst Request.sortKey (by decide)]

theorem compile_ofPairs_singleton (hreserved : key ∉ Request.reservedKeys)
    (hgroup : groupSeparator ∉ key.toList) :
    compile schema options (Request.ofPairs [(key, raw)]) =
      (Compile.key schema options key [raw]).map fun p => ⟨Predicate.conjunction [p], none, []⟩ := by
  have hplain : (Entry.mk key [raw]).isGroup = false := by simpa [Entry.isGroup] using hgroup
  have hpart := @part_of_plain schema options _ hplain
  rw [compile_eq, conditions_ofPairs_singleton hreserved, sortSpec_ofPairs_singleton hreserved]
  cases hkey : Compile.key schema options key [raw] with
  | error error =>
    rw [hkey] at hpart
    rw [mapM_cons_of_error hpart]
    rfl
  | ok p =>
    rw [hkey] at hpart
    rw [mapM_eq_ok_singleton_iff.2 ⟨_, rfl, hpart⟩]
    rfl

/-- A valid literal means equality with it, whatever the options are, unless the values of the field are
texts. Only a date-time with a time of day does not: it is looked for in the text of the field, or refused
for what stands behind its first colon. -/
theorem compile_literal (hreserved : key ∉ Request.reservedKeys) (hgroup : groupSeparator ∉ key.toList)
    (hresolve : schema.resolve key = .ok (.field path)) (htext : path.type ≠ .text)
    (hother : ∀ name, path.type ≠ .other name) (hv : path.convert raw = .ok v) :
    (¬ (path.type = .dateTime ∧ 'T' ∈ raw.toList) →
      compile schema options (Request.ofPairs [(key, raw)]) = .ok ⟨.equals (.field path) v, none, []⟩) ∧
    (path.type = .dateTime ∧ 'T' ∈ raw.toList →
      compile schema options (Request.ofPairs [(key, raw)]) =
        match options.dateFallback with
        | .substring => .ok ⟨.contains (.field path) (Unicode.foldText raw), none, []⟩
        | .reject =>
          .error (.valueConversion path.key (OperatorToken.read raw).literal "datetime")) := by
  have hkey : Compile.key schema options key [raw] = field options path [raw] := by
    rw [Compile.key, hresolve]
  rw [compile_ofPairs_singleton hreserved hgroup, hkey]
  constructor
  · intro hdate
    rw [field_of_literal htext hother hv hdate]
    rfl
  · rintro ⟨htype, ht⟩
    rw [field_of_timed htype ht hv]
    cases options.dateFallback <;> rfl

/-- A price and a day mean equality; the last second of the year is looked for as text by default and
refused where dates that cannot be read are. -/
theorem compile_literal_atualizadoEm :
    (∃ v, (FieldPath.mk ["preco"] .decimal).convert "19.90" = .ok v ∧
      compile Catalog.produtosSchema .standard (Request.ofPairs [("preco", "19.90")]) =
        .ok ⟨.equals (.field ⟨["preco"], .decimal⟩) v, none, []⟩) ∧
    (∃ v, (FieldPath.mk ["atualizadoEm"] .dateTime).convert "2023-12-31T23:59:59" = .ok v ∧
      compile Catalog.produtosSchema .standard (Request.ofPairs [("atualizadoEm", "2023-12-31T23:59:59")]) =
        .ok ⟨.contains (.field ⟨["atualizadoEm"], .dateTime⟩) (Unicode.foldText "2023-12-31T23:59:59"),
          none, []⟩ ∧
      compile Catalog.produtosSchema ⟨.skip, .or, .and, .reject⟩
          (Request.ofPairs [("atualizadoEm", "2023-12-31T23:59:59")]) =
        .error (.valueConversion "atualizadoEm" "59:59" "datetime")) := by
  have hnever : ∀ name, FieldType.dateTime ≠ .other name := by
    intro name h
    cases h
  refine ⟨⟨_, rfl, ?_⟩, _, rfl, ?_, ?_⟩
  · exact (@compile_literal Catalog.produtosSchema .standard ⟨["preco"], .decimal⟩ "preco" "19.90" _
      (by decide) (by decide) rfl (by decide) (by intro name h; cases h) rfl).1 (by decide)
  · exact (@compile_literal Catalog.produtosSchema .standard ⟨["atualizadoEm"], .dateTime⟩ "atualizadoEm"
      "2023-12-31T23:59:59" _ (by decide) (by decide) rfl (by decide) hnever rfl).2 ⟨rfl, by decide⟩
  · exact (@compile_literal Catalog.produtosSchema ⟨.skip, .or, .and, .reject⟩
      ⟨["atualizadoEm"], .dateTime⟩ "atualizadoEm" "2023-12-31T23:59:59" _ (by decide) (by decide) rfl
      (by decide) hnever rfl).2 ⟨rfl, by decide⟩

/-- Not every valid literal means equality. -/
theorem compile_literal_ne_equals :
    ¬ ∀ (schema : Schema) (options : CompileOptions) (path : FieldPath) (key raw : String) (v : Value),
      key ∉ Request.reservedKeys → groupSeparator ∉ key.toList → schema.resolve key = .ok (.field path) →
        path.type ≠ .text → path.type ≠ .json → (∀ name, path.type ≠ .other name) →
          path.convert raw = .ok v →
            compile schema options (Request.ofPairs [(key, raw)]) = .ok ⟨.equals (.field path) v, none, []⟩ := by
  intro h
  have hequals := h Catalog.produtosSchema .standard ⟨["atualizadoEm"], .dateTime⟩ "atualizadoEm"
    "2023-12-31T23:59:59" _ (by decide) (by decide) rfl (by decide) (by decide)
    (by intro name h; cases h) rfl
  have hcontains : compile Catalog.produtosSchema .standard
      (Request.ofPairs [("atualizadoEm", "2023-12-31T23:59:59")]) =
      .ok ⟨.contains (.field ⟨["atualizadoEm"], .dateTime⟩) (Unicode.foldText "2023-12-31T23:59:59"),
        none, []⟩ := rfl
  cases hcontains.symm.trans hequals

end RecordFilter
