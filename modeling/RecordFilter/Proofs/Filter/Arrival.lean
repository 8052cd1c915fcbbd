import RecordFilter.Proofs.Filter.Meaning
import RecordFilter.Proofs.Text.Order

/-!
# RecordFilter.Proofs.Filter.Arrival

The order in which the keys of a request arrive. A request built from pairs has every key once, where it first
came, with its values in the order in which they came (`keys_ofPairs`, `values?_ofPairs`), so two lists of pairs that
agree on the values of every key make requests with the same entries in another order
(`entries_perm`). A request whose entries stand in another order compiles to a condition that the same
records meet, to the same order, and to the same report in another order (`compile_of_sameEntries`).
-/

namespace RecordFilter

/-- The values that come with the key, in the order in which they come. -/
def valuesOf (key : String) (pairs : List (String × String)) : List String :=
  (pairs.filter fun pair => pair.1 = key).map (·.2)

/-- One list is the other, reordered in a way that keeps the values of every key in their order. -/
def SameValues (pairs pairs' : List (String × String)) : Prop :=
  ∀ key, valuesOf key pairs = valuesOf key pairs'

theorem count_valuesOf (key value : String) (pairs : List (String × String)) :
    (valuesOf key pairs).count value = pairs.count (key, value) := by
  induction pairs with
  | nil => rfl
  | cons pair pairs ih =>
    obtain ⟨first, second⟩ := pair
    rw [List.count_cons, ← ih]
    by_cases h : first = key
    · simp [valuesOf, h, List.count_cons]
    · simp [valuesOf, h]

/-- It is a reordering, although only the values of each key on its own are asked for. -/
theorem SameValues.perm {pairs pairs' : List (String × String)} (h : SameValues pairs pairs') :
    pairs.Perm pairs' := by
  rw [List.perm_iff_count]
  rintro ⟨key, value⟩
  rw [← count_valuesOf, ← count_valuesOf, h key]

/-! ## Grouping -/

namespace Request

/-- The values of a key, none if the key is not there. -/
def valuesAt (request : Request) (key : String) : List String := (request.values? key).getD []

theorem find?_addTo (key value : String) (entries : List Entry) (other : String) :
    ((addTo key value entries).find? fun entry => entry.key = other).map (·.values) =
      if other = key then
        some (((entries.find? fun entry => entry.key = key).map (·.values)).getD [] ++ [value])
      else (entries.find? fun entry => entry.key = other).map (·.values) := by
  induction entries with
  | nil =>
    by_cases h : other = key
    · simp [addTo, h]
    · simp [addTo, h, Ne.symm h]
  | cons entry rest ih =>
    by_cases hk : entry.key = key
    · by_cases h : other = key
      · simp [addTo, hk, h]
      · simp [addTo, hk, h, Ne.symm h]
    · by_cases h : other = key
      · subst h
        simp only [if_true] at ih
        simp [addTo, hk, ih]
      · simp only [h, if_false] at ih
        by_cases ho : entry.key = other
        · simp [addTo, ho, h]
        · simp [addTo, hk, ho, h, ih]

theorem values?_push (request : Request) (key value other : String) :
    (request.push key value).values? other =
      if other = key then some (request.valuesAt key ++ [value]) else request.values? other :=
  find?_addTo key value request.entries other

theorem valuesAt_push (request : Request) (key value other : String) :
    (request.push key value).valuesAt other =
      if other = key then request.valuesAt key ++ [value] else request.valuesAt other := by
  rw [valuesAt, values?_push]
  split <;> rfl

theorem keys_addTo (key value : String) (entries : List Entry) :
    (addTo key value entries).map (·.key) =
      if key ∈ entries.map (·.key) then entries.map (·.key) else entries.map (·.key) ++ [key] := by
  induction entries with
  | nil => simp [addTo]
  | cons entry rest ih =>
    by_cases h : entry.key = key
    · simp [addTo, h]
    · simp only [addTo, h, if_false, List.map_cons, ih, List.mem_cons, Ne.symm h, false_or]
      split <;> rfl

/-- No key comes twice. -/
def IsDistinct (request : Request) : Prop := (request.entries.map (·.key)).Nodup

theorem values?_foldl_push (pairs : List (String × String)) (request : Request) (key : String) :
    (pairs.foldl (fun request (key, value) => request.push key value) request).values? key =
      if valuesOf key pairs = [] then request.values? key
      else some (request.valuesAt key ++ valuesOf key pairs) := by
  induction pairs generalizing request with
  | nil => rfl
  | cons pair pairs ih =>
    obtain ⟨first, value⟩ := pair
    rw [List.foldl_cons, ih]
    show (if valuesOf key pairs = [] then (request.push first value).values? key
      else some ((request.push first value).valuesAt key ++ valuesOf key pairs)) = _
    rw [valuesAt_push, values?_push]
    by_cases h : first = key
    · subst h
      have hvalues : valuesOf first ((first, value) :: pairs) = value :: valuesOf first pairs := by
        simp [valuesOf]
      rw [hvalues]
      by_cases hnil : valuesOf first pairs = [] <;> simp [hnil]
    · have hvalues : valuesOf key ((first, value) :: pairs) = valuesOf key pairs := by
        simp [valuesOf, h]
      rw [hvalues, if_neg (Ne.symm h), if_neg (Ne.symm h)]

theorem values?_ofPairs (pairs : List (String × String)) (key : String) :
    (ofPairs pairs).values? key =
      if valuesOf key pairs = [] then none else some (valuesOf key pairs) :=
  values?_foldl_push pairs empty key

/-- The keys stand in the order in which they first come. -/
theorem keys_ofPairs (pairs : List (String × String)) :
    (ofPairs pairs).entries.map (·.key) = (pairs.map (·.1)).eraseDups := by
  induction pairs using List.reverseRecOn with
  | nil => rfl
  | append_singleton pairs pair ih =>
    have hlast : ofPairs (pairs ++ [pair]) = (ofPairs pairs).push pair.1 pair.2 := by
      rw [ofPairs, List.foldl_append]
      rfl
    rw [hlast, push, keys_addTo, ih, List.map_append, List.map_singleton]
    split
    · rename_i hseen
      rw [eraseDups_append_of_subset (List.forall_mem_singleton.2 (List.mem_eraseDups.1 hseen))]
    · rename_i hnew
      rw [eraseDups_concat_of_notMem (mt List.mem_eraseDups.2 hnew)]

theorem distinct_ofPairs (pairs : List (String × String)) : (ofPairs pairs).IsDistinct := by
  rw [IsDistinct, keys_ofPairs]
  exact nodup_eraseDups _

/-! ## Entries -/

theorem mem_iff_of_nodup {entries : List Entry} (h : (entries.map (·.key)).Nodup) (entry : Entry) :
    entry ∈ entries ↔
      (entries.find? fun other => other.key = entry.key).map (·.values) = some entry.values := by
  induction entries with
  | nil => simp
  | cons first rest ih =>
    rw [List.map_cons, List.nodup_cons] at h
    by_cases hk : first.key = entry.key
    · have hrest : entry ∉ rest := fun hm => h.1 (hk ▸ List.mem_map_of_mem hm)
      have hentry : entry = first ↔ first.values = entry.values := by
        obtain ⟨key, values⟩ := entry
        obtain ⟨firstKey, firstValues⟩ := first
        simp only [Entry.mk.injEq]
        exact ⟨fun heq => heq.2.symm, fun heq => ⟨hk.symm, heq.symm⟩⟩
      simp [hk, hrest, hentry]
    · have hentry : entry ≠ first := fun heq => hk (by rw [heq])
      simp only [List.mem_cons, hentry, false_or, ih h.2, List.find?_cons, hk, decide_false]

/-- The entries of two requests are the same, in whatever order. -/
structure SameEntries (request request' : Request) : Prop where
  perm : request.entries.Perm request'.entries
  values : ∀ key, request.values? key = request'.values? key

theorem entries_perm {request request' : Request} (h : request.IsDistinct) (h' : request'.IsDistinct)
    (hvalues : ∀ key, request.values? key = request'.values? key) :
    request.entries.Perm request'.entries := by
  have hnodup : ∀ {r : Request}, r.IsDistinct → r.entries.Nodup := fun hr =>
    List.Pairwise.of_map _ (fun a b hne heq => hne (by rw [heq])) hr
  rw [List.perm_ext_iff_of_nodup (hnodup h) (hnodup h')]
  intro entry
  have hentry := hvalues entry.key
  rw [mem_iff_of_nodup h, mem_iff_of_nodup h']
  unfold values? at hentry
  rw [hentry]

theorem sameEntries_ofPairs {pairs pairs' : List (String × String)} (h : SameValues pairs pairs') :
    (ofPairs pairs).SameEntries (ofPairs pairs') := by
  have hvalues : ∀ key, (ofPairs pairs).values? key = (ofPairs pairs').values? key := by
    intro key
    rw [values?_ofPairs, values?_ofPairs, h key]
  exact ⟨entries_perm (distinct_ofPairs pairs) (distinct_ofPairs pairs') hvalues, hvalues⟩

namespace SameEntries

variable {request request' : Request}

theorem symm (h : request.SameEntries request') : request'.SameEntries request :=
  ⟨h.perm.symm, fun key => (h.values key).symm⟩

theorem conditions (h : request.SameEntries request') : request.conditions.Perm request'.conditions :=
  (h.perm.filter _).filter _

theorem sortSpec (h : request.SameEntries request') : request.sortSpec = request'.sortSpec := by
  simp only [Request.sortSpec, first?, h.values]

end SameEntries
end Request

/-! ## Compilation -/

section

variable {schema : Schema} {options : CompileOptions} {record : Json}

namespace Compile

theorem plainParts_perm {parts parts' : List Part} (h : parts.Perm parts') :
    (plainParts parts).Perm (plainParts parts') := h.filterMap _

theorem groupParts_perm {parts parts' : List Part} (h : parts.Perm parts') :
    (groupParts parts).Perm (groupParts parts') := h.filterMap _

theorem skippedParts_perm {parts parts' : List Part} (h : parts.Perm parts') :
    (skippedParts parts).Perm (skippedParts parts') := h.flatMap_right _

/-- Neither the conjunction of the plain keys nor the combination of the groups depends on an order. -/
theorem holds_combine_of_perm {parts parts' : List Part} (h : parts.Perm parts') :
    (combine options parts).holds record = (combine options parts').holds record := by
  have hplain := plainParts_perm h
  have hgroups := groupParts_perm h
  have hnil : groupParts parts = [] ↔ groupParts parts' = [] :=
    ⟨fun heq => (heq ▸ hgroups).nil_eq.symm, fun heq => (heq ▸ hgroups).eq_nil⟩
  rw [Bool.eq_iff_iff, combine, combine, Predicate.holds_conjunction_iff,
    Predicate.holds_conjunction_iff]
  simp only [List.mem_append, or_imp, forall_and, holds_combineGroups_iff, hplain.mem_iff,
    hgroups.mem_iff, ne_eq, hnil]

end Compile

theorem compile_of_sameEntries {request request' : Request} {query : CompiledQuery}
    (hs : request.SameEntries request') (h : compile schema options request = .ok query) :
    ∃ query', compile schema options request' = .ok query' ∧
      (∀ record, query.predicate.holds record = query'.predicate.holds record) ∧
      query.order = query'.order ∧ query.skipped.Perm query'.skipped := by
  obtain ⟨parts, order, hm, horder, rfl⟩ := compile_eq_ok_iff.1 h
  obtain ⟨parts', hm', hparts⟩ := perm_of_mapM hs.conditions hm
  rw [hs.sortSpec] at horder
  refine ⟨⟨Compile.combine options parts', order, Compile.skippedParts parts'⟩,
    compile_eq_ok_iff.2 ⟨parts', order, hm', horder, rfl⟩, ?_, rfl, Compile.skippedParts_perm hparts⟩
  intro record
  exact Compile.holds_combine_of_perm hparts

/-- Two requests that agree on the values of every key compile or fail together. What they compile to is
met by the same records, has the same order, and reports the same branches in some order. -/
theorem compile_ofPairs_of_sameValues {pairs pairs' : List (String × String)}
    (hv : SameValues pairs pairs') (schema : Schema) (options : CompileOptions) :
    ((∃ query, compile schema options (.ofPairs pairs) = .ok query) ↔
        ∃ query, compile schema options (.ofPairs pairs') = .ok query) ∧
      ∀ query query', compile schema options (.ofPairs pairs) = .ok query →
        compile schema options (.ofPairs pairs') = .ok query' →
          (∀ record, query.predicate.holds record = query'.predicate.holds record) ∧
            query.order = query'.order ∧ query.skipped.Perm query'.skipped := by
  have hs := Request.sameEntries_ofPairs hv
  refine ⟨⟨?_, ?_⟩, ?_⟩
  · rintro ⟨query, h⟩
    obtain ⟨query', h', -⟩ := compile_of_sameEntries hs h
    exact ⟨query', h'⟩
  · rintro ⟨query', h'⟩
    obtain ⟨query, h, -⟩ := compile_of_sameEntries hs.symm h'
    exact ⟨query, h⟩
  · intro query query' h h'
    obtain ⟨other, hother, hsame⟩ := compile_of_sameEntries hs h
    cases h'.symm.trans hother
    exact hsame

/-- The bounds of the stock keep their order while the other keys move around them. -/
theorem compile_ofPairs_of_sameValues_produtos :
    ∃ query query', compile Catalog.produtosSchema .standard (.ofPairs
        [("nome!cor", "cafe"), ("estoque", "gte:10"), ("sortBy", "preco"), ("estoque", "gt:10")]) =
          .ok query ∧
      compile Catalog.produtosSchema .standard (.ofPairs
        [("sortBy", "preco"), ("estoque", "gte:10"), ("estoque", "gt:10"), ("nome!cor", "cafe")]) =
          .ok query' ∧
      (∀ record, query.predicate.holds record = query'.predicate.holds record) ∧
      query.order = query'.order ∧ query.skipped.Perm query'.skipped := by
  have hv : SameValues
      [("nome!cor", "cafe"), ("estoque", "gte:10"), ("sortBy", "preco"), ("estoque", "gt:10")]
      [("sortBy", "preco"), ("estoque", "gte:10"), ("estoque", "gt:10"), ("nome!cor", "cafe")] := by
    intro key
    by_cases hnome : "nome!cor" = key
    · subst hnome
      rfl
    by_cases hestoque : "estoque" = key
    · subst hestoque
      rfl
    simp [valuesOf, List.filter_cons, hnome, hestoque]
  obtain ⟨hcompiles, hsame⟩ := compile_ofPairs_of_sameValues hv Catalog.produtosSchema .standard
  have hfirst : ∃ query, compile Catalog.produtosSchema .standard (.ofPairs
      [("nome!cor", "cafe"), ("estoque", "gte:10"), ("sortBy", "preco"), ("estoque", "gt:10")]) =
        .ok query := ⟨_, rfl⟩
  obtain ⟨query', h'⟩ := hcompiles.1 hfirst
  obtain ⟨query, h⟩ := hfirst
  exact ⟨query, query', h, h', hsame query query' h h'⟩

end
end RecordFilter
