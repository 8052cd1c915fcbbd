import Mathlib.Data.List.TakeWhile
import RecordFilter.Command.Run
import RecordFilter.Proofs.Filter.Arrival
import RecordFilter.Proofs.Filter.Sequence
import RecordFilter.Proofs.Number.Digits
import RecordFilter.Proofs.Text.PercentEncoding
import RecordFilter.Proofs.Text.Split

/-!
# RecordFilter.Proofs.Command.QueryString

A query string spells pairs of a key and a value as form data, joined by `&`, with `=` between key and value
(`SpellsQuery`). The marks never stand in a spelling, so the string falls apart where it was joined, and it is
read as the request of its pairs (`readQuery_of_spells`), whatever characters they hold.
-/

namespace RecordFilter
namespace Command

open Text.PercentEncoding (Spells SpellsChar isFormPart isFormPart_of_spells exists_spells decode?_of_spells)

/-! ## Spellings -/

inductive SpellsPair (pair : String × String) : List Char → Prop where
  | equals {key value : List Char} (hkey : Spells pair.1.toList key) (hvalue : Spells pair.2.toList value) :
      SpellsPair pair (key ++ '=' :: value)

/-- The spellings of the pairs in their order, with `&` between them. -/
def SpellsQuery (pairs : List (String × String)) (query : String) : Prop :=
  ∃ parts, List.Forall₂ SpellsPair pairs parts ∧ query.toList = Text.join ['&'] parts

theorem exists_spellsPair (pair : String × String) : ∃ part, SpellsPair pair part := by
  obtain ⟨key, hkey⟩ := exists_spells pair.1.toList
  obtain ⟨value, hvalue⟩ := exists_spells pair.2.toList
  exact ⟨_, .equals hkey hvalue⟩

theorem exists_spellsQuery (pairs : List (String × String)) : ∃ query, SpellsQuery pairs query := by
  have hparts : ∃ parts, List.Forall₂ SpellsPair pairs parts := by
    induction pairs with
    | nil => exact ⟨[], .nil⟩
    | cons pair pairs ih =>
      obtain ⟨part, hpart⟩ := exists_spellsPair pair
      obtain ⟨parts, hparts⟩ := ih
      exact ⟨part :: parts, .cons hpart hparts⟩
  obtain ⟨parts, hparts⟩ := hparts
  exact ⟨String.ofList (Text.join ['&'] parts), parts, hparts, String.toList_ofList⟩

/-! ## Characters -/

/-- What spellings and the marks between them consist of. -/
def isQueryPart (c : Char) : Bool := isFormPart c || c == '=' || c == '&'

theorem toNat_of_isAlphanum {c : Char} (h : c.isAlphanum = true) : c.toNat < 0x80 := by
  have hranges : ((decide ('A'.val ≤ c.val ∧ c.val ≤ 'Z'.val) ||
      (decide ('a'.val ≤ c.val) && decide (c.val ≤ 'z'.val))) ||
      (decide ('0'.val ≤ c.val) && decide (c.val ≤ '9'.val))) = true := h
  simp only [Bool.or_eq_true, Bool.and_eq_true, decide_eq_true_eq] at hranges
  have hle : c.val ≤ 'z'.val := by
    obtain (⟨-, hupper⟩ | ⟨-, hlower⟩) | ⟨-, hdigit⟩ := hranges
    · exact UInt32.le_trans hupper (by decide)
    · exact hlower
    · exact UInt32.le_trans hdigit (by decide)
  exact Nat.lt_of_le_of_lt (UInt32.le_iff_toNat_le.1 hle) (by decide)

/-- Neither white space nor a question mark stands in a query string. -/
theorem isQueryPart_spec {c : Char} (h : isQueryPart c = true) : Text.isBlank c = false ∧ c ≠ '?' := by
  have hall : ∀ n < 0x80, isQueryPart (Char.ofNat n) = true →
      Text.isBlank (Char.ofNat n) = false ∧ Char.ofNat n ≠ '?' := by decide
  have hn : c.toNat < 0x80 := by
    simp only [isQueryPart, isFormPart, Bool.or_eq_true, beq_iff_eq] at h
    rcases h with (((h | rfl) | rfl) | rfl) | rfl
    · exact toNat_of_isAlphanum h
    all_goals decide
  rw [← c.ofNat_toNat] at h ⊢
  exact hall _ hn h

section Parts

variable {pair : String × String} {part : List Char}

theorem isQueryPart_of_isFormPart {c : Char} (h : isFormPart c = true) : isQueryPart c = true := by
  simp [isQueryPart, h]

theorem isQueryPart_of_spellsPair (h : SpellsPair pair part) : ∀ c ∈ part, isQueryPart c = true := by
  cases h with
  | equals hkey hvalue =>
    intro c hc
    rcases List.mem_append.1 hc with hc | hc
    · exact isQueryPart_of_isFormPart (isFormPart_of_spells hkey c hc)
    · rcases List.mem_cons.1 hc with rfl | hc
      · decide
      · exact isQueryPart_of_isFormPart (isFormPart_of_spells hvalue c hc)

theorem notMem_of_spells {mark : Char} (hmark : isFormPart mark = false) {text written : List Char}
    (h : Spells text written) : mark ∉ written := by
  intro hm
  rw [isFormPart_of_spells h mark hm] at hmark
  cases hmark

theorem notMem_of_spellsPair (h : SpellsPair pair part) : '&' ∉ part := by
  cases h with
  | equals hkey hvalue =>
    have hmark : isFormPart '&' = false := by decide
    simp [notMem_of_spells hmark hkey, notMem_of_spells hmark hvalue]

theorem ne_nil_of_spellsPair (h : SpellsPair pair part) : part ≠ [] := by
  cases h with
  | equals => simp

/-! ## Reading -/

theorem decodeComponent_of_spells {text : String} {written : List Char} (h : Spells text.toList written) :
    decodeComponent written = .ok text := by
  rw [decodeComponent, decode?_of_spells h]
  simp

/-- The first `=` is the one between key and value. -/
theorem decodePair_of_spells (h : SpellsPair pair part) : decodePair (Http.splitPair part) = .ok pair := by
  cases h with
  | @equals key value hkey hvalue =>
    have hcut : Http.splitPair (key ++ '=' :: value) = (key, value) := by
      rw [Http.splitPair, Text.splitFirst?_append (notMem_of_spells (by decide) hkey)]
      rfl
    rw [hcut, decodePair, decodeComponent_of_spells hkey, decodeComponent_of_spells hvalue]
    rfl

end Parts

section Whole

variable {pairs : List (String × String)} {parts : List (List Char)}

theorem forall_mem_of_forall₂ {P : List Char → Prop} (h : List.Forall₂ SpellsPair pairs parts)
    (hpart : ∀ pair part, SpellsPair pair part → P part) : ∀ part ∈ parts, P part := by
  induction h with
  | nil => simp
  | cons hfirst _ ih =>
    rw [List.forall_mem_cons]
    exact ⟨hpart _ _ hfirst, ih⟩

theorem mapM_decodePair (h : List.Forall₂ SpellsPair pairs parts) :
    (parts.map Http.splitPair).mapM decodePair = .ok pairs := by
  induction h with
  | nil => rfl
  | cons hfirst _ ih => exact mapM_eq_ok_cons_iff.2 ⟨_, _, rfl, decodePair_of_spells hfirst, ih⟩

/-- Without any pair there is one empty part, which does not count. -/
theorem rawPairs_join (h : List.Forall₂ SpellsPair pairs parts) :
    Http.rawPairs (Text.join ['&'] parts) = parts.map Http.splitPair := by
  cases hparts : parts with
  | nil => rfl
  | cons part rest =>
    have hmarks := forall_mem_of_forall₂ h fun _ _ => notMem_of_spellsPair
    have hnonempty := forall_mem_of_forall₂ h fun _ _ => ne_nil_of_spellsPair
    rw [hparts] at hmarks hnonempty
    rw [Http.rawPairs, Text.split_eq_splitOn, Text.join, List.splitOn_intercalate '&' hmarks (List.cons_ne_nil _ _),
      List.filter_eq_self.2 (by simpa using hnonempty)]

theorem isQueryPart_of_mem_join (h : List.Forall₂ SpellsPair pairs parts) :
    ∀ c ∈ Text.join ['&'] parts, isQueryPart c = true := by
  induction h with
  | nil => simp [Text.join]
  | @cons pair part pairs parts hfirst hrest ih =>
    have hpart := isQueryPart_of_spellsPair hfirst
    cases parts with
    | nil => simpa [Text.join] using hpart
    | cons second parts =>
      have hcons : Text.join ['&'] (part :: second :: parts) = part ++ '&' :: Text.join ['&'] (second :: parts) := by
        simp [Text.join, List.intercalate_cons_cons]
      intro c hc
      rw [hcons] at hc
      rcases List.mem_append.1 hc with hc | hc
      · exact hpart c hc
      · rcases List.mem_cons.1 hc with rfl | hc
        · decide
        · exact ih c hc

theorem readQuery_of_spellsQuery {query : String} (h : SpellsQuery pairs query) :
    readQuery query = .ok (Request.ofPairs pairs) := by
  obtain ⟨parts, hparts, hquery⟩ := h
  have hchars := isQueryPart_of_mem_join hparts
  have htrim : Text.trim query.toList = Text.join ['&'] parts := by
    rw [hquery]
    exact Text.trim_of_not_blank fun c hc => (isQueryPart_spec (hchars c hc)).1
  have hmarks : (Text.join ['&'] parts).dropWhile (· = '?') = Text.join ['&'] parts := by
    rw [List.dropWhile_eq_self_iff]
    intro hpos
    simpa using (isQueryPart_spec (hchars _ (List.getElem_mem hpos))).2
  rw [readQuery, htrim, hmarks, rawPairs_join hparts, mapM_decodePair hparts]
  rfl

/-- Every list of pairs can be spelled, and every spelling is read as the request of the pairs: the keys in the
order in which they first come, and for each key its values in the order in which they come. -/
theorem readQuery_of_spells (pairs : List (String × String)) :
    (∃ query, SpellsQuery pairs query) ∧
      (∀ query, SpellsQuery pairs query → readQuery query = .ok (Request.ofPairs pairs)) ∧
      (Request.ofPairs pairs).entries.map (·.key) = (pairs.map (·.1)).eraseDups ∧
      ∀ entry ∈ (Request.ofPairs pairs).entries, entry.values = valuesOf entry.key pairs := by
  refine ⟨exists_spellsQuery pairs, fun query => readQuery_of_spellsQuery, Request.keys_ofPairs pairs, ?_⟩
  intro entry hm
  have hvalues := Request.values?_ofPairs pairs entry.key
  rw [Request.values?, (Request.mem_iff_of_nodup (Request.distinct_ofPairs pairs) entry).1 hm] at hvalues
  split at hvalues
  · cases hvalues
  · exact Option.some.inj hvalues

theorem readQuery_of_spells_cafe :
    SpellsQuery [("é", "= "), ("", ""), ("é", "a")] "%C3%a9=%3D+&=&%C3%a9=a" ∧
      readQuery "%C3%a9=%3D+&=&%C3%a9=a" = .ok ⟨[⟨"é", ["= ", "a"]⟩, ⟨"", [""]⟩]⟩ := by
  have hletter : SpellsChar 'é' (['%', 'C', '3'] ++ (['%', 'a', '9'] ++ [])) :=
    .percent (.cons (.percent (.inl rfl) (.inl rfl)) (.cons (.percent (.inr rfl) (.inr rfl)) .nil))
  have hequals : SpellsChar '=' (['%', '3', 'D'] ++ []) :=
    .percent (.cons (.percent (.inl rfl) (.inl rfl)) .nil)
  have hkey : Spells ['é'] (_ ++ []) := .cons hletter .nil
  have hmarks : Spells ['=', ' '] (_ ++ (['+'] ++ [])) := .cons hequals (.cons .plus .nil)
  have hplain : Spells ['a'] (['a'] ++ []) := .cons (.plain (by decide)) .nil
  have hquery : SpellsQuery [("é", "= "), ("", ""), ("é", "a")] "%C3%a9=%3D+&=&%C3%a9=a" :=
    ⟨_, .cons (.equals hkey hmarks) (.cons (.equals .nil .nil) (.cons (.equals hkey hplain) .nil)), by decide⟩
  exact ⟨hquery, (readQuery_of_spells _).2.1 _ hquery⟩

end Whole
end Command
end RecordFilter
