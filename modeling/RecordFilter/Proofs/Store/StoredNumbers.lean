import RecordFilter.Proofs.Filter.Conditions
import RecordFilter.Proofs.Filter.Equality
import RecordFilter.Proofs.Json.Rows
import RecordFilter.Proofs.Json.ShortNumbers

/-!
# RecordFilter.Proofs.Store.StoredNumbers

Whether a row that holds a number is found by the literal that has the same digits.

* `query_numberRow`: it is found if the number is kept as an integer, and otherwise as far as reading it to
  a floating-point number and writing that keeps the value of the literal (`ComparesAlike`).
* `query_numberRow_misses`: an integer beyond 64 bits is not found.
-/

namespace RecordFilter

open Json (writeFloat doublePlaces numberRow)
open Json.Numeral (Written take? value?)
open Number (Binary Decimal binary32 binary64)

variable {schema : Schema} {options : CompileOptions} {type : FieldType} {key text : String} {w : Written}
  {number : Json} {value : Value}

/-- Whether a number that a store holds is equal to the literal of its digits. -/
def ComparesAlike (type : FieldType) (text : String) : Json → Prop
  | .integer _ => True
  | .float x =>
    match type with
    | .double => Binary.read? binary64 text.toList = some x
    | .single => Binary.read? binary32 (writeFloat doublePlaces x) = Binary.read? binary32 text.toList
    | .decimal => ∃ c d, Decimal.read? (writeFloat doublePlaces x) = some c ∧
        Decimal.read? text.toList = some d ∧ c.compareTo d = .eq
    | _ => False
  | _ => False

/-! ## The stored text -/

theorem compact_integer {n : Int} (hw : take? text.toList = some (w, [])) (hn : value? w = some (.integer n)) :
    (Json.integer n).compact = text := by
  obtain ⟨front, hfront, hspells, htrimmed⟩ := Json.Numeral.spells_of_take? hw
  rw [List.append_nil] at hfront
  rcases Json.Numeral.value?_cases hn with ⟨n', hn', hv⟩ | ⟨x, -, -, hv⟩
  · cases hv
    rw [Json.compact, Json.write, ← Json.Numeral.eq_writeInteger hspells htrimmed hn', ← hfront,
      String.ofList_toList]
  · cases hv

theorem spells_of_take?_all (hw : take? text.toList = some (w, [])) : w.Spells text.toList ∧ w.IsTrimmed := by
  obtain ⟨front, hfront, hspells, htrimmed⟩ := Json.Numeral.spells_of_take? hw
  rw [List.append_nil] at hfront
  exact ⟨hfront ▸ hspells, htrimmed⟩

/-- A literal that is a JSON number is a number. -/
theorem isNan_of_spells (hw : w.Spells text.toList) (hnumeric : type.isNumeric = true)
    (hvalue : type.read? text = some value) : value.isNan = false := by
  cases type with
  | integer | decimal =>
    obtain ⟨x, -, rfl⟩ := Option.map_eq_some_iff.1 hvalue
    rfl
  | single =>
    obtain ⟨x, hx, hcanonical⟩ := Json.exists_isCanonical_of_spells Number.isProper_binary32 hw
    rw [FieldType.read?, hx] at hvalue
    cases hvalue
    exact hcanonical.isNan
  | double =>
    obtain ⟨x, hx, hcanonical⟩ := Json.exists_isCanonical_of_spells Number.isProper_binary64 hw
    rw [FieldType.read?, hx] at hvalue
    cases hvalue
    exact hcanonical.isNan
  | _ => cases hnumeric

/-! ## One row -/

theorem holds_equals_row (hscalar : number.scalarText? = some number.compact) :
    (Predicate.equals (.field ⟨[key], type⟩) value).holds (.object [(key, number)]) = true ↔
      ∃ stored, type.read? number.compact = some stored ∧ stored.compare? value = some .eq := by
  have htext : (Operand.field ⟨[key], type⟩).text? (.object [(key, number)]) = some number.compact := by
    cases number with
    | null => cases hscalar
    | _ => simpa [Operand.text?, Json.lookup?, Json.member?] using hscalar
  have hvalue : ∀ stored, (Operand.field ⟨[key], type⟩).value? (.object [(key, number)]) = some stored ↔
      type.read? number.compact = some stored := by
    intro stored
    rw [Operand.value?_eq_some_iff, htext, ← @FieldPath.convert_eq_ok_iff ⟨[key], type⟩]
    simp [Operand.ReadsAs]
  simp only [Predicate.holds, Option.any_eq_true, hvalue, Value.equals, beq_iff_eq]

theorem compares_float_iff {f : Number.Format} (hf : f.IsProper) {wrap : Binary f → Value}
    {first second : List Char} (hwrap : ∀ a b, (wrap a).compare? (wrap b) = a.compare? b)
    {u : Written} (hu : u.Spells first) (hw : w.Spells second) (hsign : u.negative = w.negative)
    (hvalue : (Binary.read? f second).map wrap = some value) :
    (∃ stored, (Binary.read? f first).map wrap = some stored ∧ stored.compare? value = some .eq) ↔
      Binary.read? f first = Binary.read? f second := by
  obtain ⟨x, hx, hcx⟩ := Json.exists_isCanonical_of_spells hf hu
  obtain ⟨y, hy, hcy⟩ := Json.exists_isCanonical_of_spells hf hw
  rw [hy] at hvalue
  cases hvalue
  rw [hsign] at hcx
  simp only [hx, hy, Option.map_some, Option.some.injEq, exists_eq_left', hwrap, hcx.compare?_eq_iff hf hcy]

theorem holds_equals_iff_comparesAlike (hw : take? text.toList = some (w, []))
    (hnumber : value? w = some number) (hnumeric : type.isNumeric = true)
    (hvalue : type.read? text = some value) :
    (Predicate.equals (.field ⟨[key], type⟩) value).holds (.object [(key, number)]) = true ↔
      ComparesAlike type text number := by
  obtain ⟨hspells, -⟩ := spells_of_take?_all hw
  rcases Json.Numeral.value?_cases hnumber with ⟨n, -, rfl⟩ | ⟨y, -, -, rfl⟩
  · have hself := Value.compare?_self (isNan_of_spells hspells hnumeric hvalue)
    rw [holds_equals_row rfl, compact_integer hw hnumber, ComparesAlike]
    exact iff_of_true ⟨value, hvalue, hself⟩ trivial
  · obtain ⟨m, e, hx, hs⟩ := Json.finite_of_value? hnumber
    rw [hx]
    obtain ⟨hfloat, hsign, hinteger⟩ := Json.floatNumber_spec binary64 doublePlaces w.negative m e
    rw [holds_equals_row rfl, Json.compact, Json.write]
    cases type with
    | integer width =>
      rw [FieldType.read?, String.toList_ofList, Json.Numeral.readInteger?_of_spells width hfloat hinteger]
      exact iff_of_false (by simp) id
    | single =>
      rw [FieldType.read?, String.toList_ofList]
      exact compares_float_iff Number.isProper_binary32 (fun _ _ => rfl) hfloat hspells hsign hvalue
    | double =>
      rw [FieldType.read?, String.toList_ofList]
      rw [compares_float_iff Number.isProper_binary64 (fun _ _ => rfl) hfloat hspells hsign hvalue,
        Json.read?_writeFloat Number.isProper_binary64 doublePlaces w.negative hs]
      exact eq_comm
    | decimal =>
      obtain ⟨d, hd, rfl⟩ := Option.map_eq_some_iff.1 hvalue
      simp [FieldType.read?, ComparesAlike, hd, Value.compare?]
    | _ => cases hnumeric

/-! ## Numbers that compare alike -/

theorem comparesAlike_integer_iff {width : Number.IntegerWidth} {n : Int} (hw : take? text.toList = some (w, []))
    (hnumber : value? w = some number) (hn : Number.readInteger? width text.toList = some n) :
    ComparesAlike (.integer width) text number ↔ text ≠ "-0" ∧ -2 ^ 63 ≤ n ∧ n < 2 ^ 64 := by
  obtain ⟨hspells, htrimmed⟩ := spells_of_take?_all hw
  obtain ⟨hinteger, rfl⟩ := Json.Numeral.eq_signed_of_readInteger? hspells hn
  have htext : text ≠ "-0" ↔ text.toList ≠ "-0".toList := not_congr String.toList_inj.symm
  rw [htext, ← Json.Numeral.integer?_isSome_iff hspells htrimmed hinteger]
  rcases Json.Numeral.value?_cases hnumber with ⟨k, hk, rfl⟩ | ⟨x, hnone, -, rfl⟩
  · rw [hk]
    exact iff_of_true trivial rfl
  · rw [hnone]
    exact iff_of_false id Bool.false_ne_true

theorem units_eq_of_magnitude {u : Written} (hu : u.FitsDecimal) (hw : w.FitsDecimal)
    (h : u.magnitude = w.magnitude) :
    u.coefficient * 10 ^ (Number.scaleLimit + u.power).toNat =
      w.coefficient * 10 ^ (Number.scaleLimit + w.power).toNat := by
  have hscaled : ∀ v : Written, v.FitsDecimal →
      ((v.coefficient * 10 ^ (Number.scaleLimit + v.power).toNat : Nat) : ℚ) =
        v.magnitude * 10 ^ (Number.scaleLimit : Int) := by
    intro v hv
    have hplaces := hv.places
    rw [Written.magnitude, mul_assoc, ← zpow_add₀ (by norm_num)]
    push_cast
    rw [← zpow_natCast, Int.toNat_of_nonneg (by omega), add_comm]
  have hcast := hscaled u hu
  rw [h, ← hscaled w hw] at hcast
  exact_mod_cast hcast

/-- A short number is equal to its literal for every type that has numbers behind the point. -/
theorem comparesAlike_of_isShort (hw : take? text.toList = some (w, [])) (hnumber : value? w = some number)
    (hnumeric : type.isNumeric = true) (hinteger : ∀ width, type ≠ .integer width) (hshort : w.IsShort) :
    ComparesAlike type text number := by
  obtain ⟨hspells, -⟩ := spells_of_take?_all hw
  rcases Json.Numeral.value?_cases hnumber with ⟨n, -, rfl⟩ | ⟨y, -, -, rfl⟩
  · trivial
  · obtain ⟨u, hu, hsign, hvalue, hfits⟩ := Json.exists_written_of_isShort hshort hnumber
    cases type with
    | integer width => exact absurd rfl (hinteger width)
    | single =>
      rw [ComparesAlike, Json.Numeral.read?_of_spells _ hu, Json.Numeral.read?_of_spells _ hspells, hsign,
        Binary.ofDecimal_congr binary32 w.negative hvalue]
    | double =>
      rw [ComparesAlike, Json.Numeral.read?_of_spells _ hspells, ← Json.float_of_isShort hshort hnumber]
    | decimal =>
      obtain ⟨c, hc, hunits⟩ := Json.exists_decimal_of_spells hu hfits
      obtain ⟨d, hd, hunits'⟩ := Json.exists_decimal_of_spells hspells (Json.fitsDecimal_of_isShort hshort)
      refine ⟨c, d, hc, hd, ?_⟩
      rw [Decimal.compareTo, hunits, hunits', hsign,
        units_eq_of_magnitude hfits (Json.fitsDecimal_of_isShort hshort) hvalue, Int.compare_eq_eq]
    | _ => cases hnumeric

/-! ## The request -/

theorem rows_query_singleton (row : Json) (p : Predicate) {size : Nat} (hsize : 0 < size) :
    ((Store.mk [row]).query ⟨p, none, []⟩ ⟨0, size⟩).rows = if p.holds row = true then [row] else [] := by
  obtain ⟨size, rfl⟩ : ∃ n, size = n + 1 := ⟨size - 1, by omega⟩
  rw [Store.query, Store.ordered, Store.selected, PageRequest.offset, Nat.zero_mul, List.drop_zero]
  cases h : p.holds row <;> simp [h]

theorem compile_number (hreserved : key ∉ Request.reservedKeys) (hgroup : groupSeparator ∉ key.toList)
    (hresolve : schema.resolve key = .ok (.field ⟨[key], type⟩)) (hnumeric : type.isNumeric = true)
    (hvalue : type.read? text = some value) :
    compile schema options (Request.ofPairs [(key, text)]) =
      .ok ⟨.equals (.field ⟨[key], type⟩) value, none, []⟩ := by
  have hkey : Compile.key schema options key [text] = Compile.field options ⟨[key], type⟩ [text] := by
    rw [Compile.key, hresolve]
  have htext : type ≠ .text := by
    rintro rfl
    cases hnumeric
  have hother : ∀ name, type ≠ .other name := by
    rintro name rfl
    cases hnumeric
  have hdate : ¬ (type = .dateTime ∧ 'T' ∈ text.toList) := by
    rintro ⟨rfl, -⟩
    cases hnumeric
  have hv : (FieldPath.mk [key] type).convert text = .ok value := FieldPath.convert_eq_ok_iff.2 hvalue
  rw [compile_ofPairs_singleton hreserved hgroup, hkey, Compile.field_of_literal htext hother hv hdate]
  rfl

/-- A row that holds a number is found by the literal of the same digits just where the two compare alike.
Short numbers do, whatever the type is that has places behind the point. Integers do as far as they are
stored as integers. -/
theorem query_numberRow (record : String) (hreserved : key ∉ Request.reservedKeys)
    (hgroup : groupSeparator ∉ key.toList) (hresolve : schema.resolve key = .ok (.field ⟨[key], type⟩))
    (hnumeric : type.isNumeric = true) (hw : take? text.toList = some (w, [])) (hnumber : value? w = some number)
    (hvalue : type.read? text = some value) :
    (∃ query store, compile schema options (Request.ofPairs [(key, text)]) = .ok query ∧
      Store.ofText record (String.ofList (numberRow key text.toList)) = .ok store ∧
      store.rows = [.object [(key, number)]] ∧
      ∀ size, 0 < size →
        ((store.query query ⟨0, size⟩).rows = store.rows ↔ ComparesAlike type text number)) ∧
    ((∀ width, type ≠ .integer width) → w.IsShort → ComparesAlike type text number) ∧
    ∀ width n, value = .integer width n →
      (ComparesAlike type text number ↔ text ≠ "-0" ∧ -2 ^ 63 ≤ n ∧ n < 2 ^ 64) := by
  obtain ⟨hspells, htrimmed⟩ := spells_of_take?_all hw
  refine ⟨⟨_, _, compile_number hreserved hgroup hresolve hnumeric hvalue,
    Json.ofText_numberRow record key hspells htrimmed hnumber, rfl, ?_⟩, ?_, ?_⟩
  · intro size hsize
    have hholds := @holds_equals_iff_comparesAlike type key text w number value hw hnumber hnumeric hvalue
    rw [← hholds, rows_query_singleton _ _ hsize]
    split_ifs with h
    · exact iff_of_true rfl h
    · exact iff_of_false (by simp) h
  · exact comparesAlike_of_isShort hw hnumber hnumeric
  · rintro width n rfl
    cases type with
    | integer width' =>
      obtain ⟨n', hn, heq⟩ := Option.map_eq_some_iff.1 hvalue
      cases heq
      exact comparesAlike_integer_iff hw hnumber hn
    | single | double | decimal =>
      obtain ⟨x, -, heq⟩ := Option.map_eq_some_iff.1 hvalue
      cases heq
    | _ => cases hnumeric

/-- A price is found although it is stored as a floating-point number. -/
theorem query_numberRow_preco :
    ∃ query store, compile Catalog.produtosSchema .standard (Request.ofPairs [("preco", "19.90")]) = .ok query ∧
      Store.ofText "produtos" "[\x7b\"preco\":19.90\x7d]" = .ok store ∧ store.rows ≠ [] ∧
      (store.query query ⟨0, 20⟩).rows = store.rows := by
  obtain ⟨⟨query, store, hquery, hstore, hrows, hfound⟩, hshort, -⟩ := @query_numberRow Catalog.produtosSchema
    .standard .decimal "preco" "19.90" ⟨false, ['1', '9'], ['9', '0'], none⟩ _ _ "produtos" (by decide) (by decide)
    rfl rfl rfl rfl rfl
  refine ⟨query, store, hquery, hstore, by simp [hrows], (hfound 20 (by decide)).2 ?_⟩
  exact hshort (by simp) ⟨rfl, by decide, by decide⟩

/-- The first integer beyond 64 bits is stored as a floating-point number, whose digits are no integer. -/
theorem query_numberRow_misses :
    ¬ ∀ (schema : Schema) (options : CompileOptions) (type : FieldType) (key text record : String) (w : Written)
      (number : Json) (value : Value),
      key ∉ Request.reservedKeys → groupSeparator ∉ key.toList → pathSeparator ∉ key.toList →
        schema.resolve key = .ok (.field ⟨[key], type⟩) → type.isNumeric = true →
          take? text.toList = some (w, []) → value? w = some number → type.read? text = some value →
            ∃ query store, compile schema options (Request.ofPairs [(key, text)]) = .ok query ∧
              Store.ofText record (String.ofList (numberRow key text.toList)) = .ok store ∧ store.rows ≠ [] ∧
              (store.query query ⟨0, 1⟩).rows = store.rows := by
  intro h
  have hw : take? "18446744073709551616".toList =
      some (⟨false, "18446744073709551616".toList, [], none⟩, []) := rfl
  obtain ⟨query, store, hquery, hstore, hrows, hfound⟩ := h ((Schema.empty "x").scalar "n" (.integer .unbounded))
    .standard (.integer .unbounded) "n" "18446744073709551616" "x" _ _ _ (by decide) (by decide) (by decide) rfl
    rfl hw rfl rfl
  have hcompiled := @compile_number ((Schema.empty "x").scalar "n" (.integer .unbounded)) .standard
    (.integer .unbounded) "n" "18446744073709551616" _ (by decide) (by decide) rfl rfl rfl
  have hrow := Json.ofText_numberRow "x" "n" (spells_of_take?_all hw).1 (spells_of_take?_all hw).2 rfl
  cases hcompiled.symm.trans hquery
  cases hrow.symm.trans hstore
  rw [rows_query_singleton _ _ Nat.one_pos, if_neg (by decide +kernel)] at hfound
  cases hfound

end RecordFilter
