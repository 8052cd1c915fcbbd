import RecordFilter.Proofs.Http.Paging
import RecordFilter.Proofs.Store.Precedence

/-!
# RecordFilter.Proofs.Store.Paging

The pages of a query are the windows of one list of rows, its listing (`IsListing`): the rows that meet the
query, in the order of the query.

* `isListing_ordered`: the rows that the store puts in order are a listing.
* `flatMap_windows`: windows of one size, one after the other, are a front part of the list.
* `query_pages`: so no row is lost and none comes twice (`IsPaged`), for every page that a request can ask
  for, and its numbers fit into words (`FitsWords`).
-/

namespace RecordFilter

open Http (totalPages totalPagesWord)

namespace Store

section Listing

variable {store : Store} {query : CompiledQuery}

/-- The rows that meet the query, each as often as it is stored. Without an order they stand as they are
stored. With one no row stands behind a row that it precedes, and rows that tie stand as they are stored. -/
structure IsListing (store : Store) (query : CompiledQuery) (listing : List Json) : Prop where
  perm : listing.Perm (store.rows.filter fun row => query.predicate.holds row)
  unordered : query.order = none → listing = store.rows.filter fun row => query.predicate.holds row
  ordered : ∀ order, query.order = some order → listing.Pairwise fun a b => ¬ order.Precedes b a
  stable : ∀ order, query.order = some order → ∀ tied : List Json,
    tied.Sublist (store.rows.filter fun row => query.predicate.holds row) →
      tied.Pairwise order.Ties → tied.Sublist listing

theorem isListing_ordered (store : Store) (query : CompiledQuery) :
    store.IsListing query (store.ordered query) := by
  cases ho : query.order with
  | none =>
    have heq : store.ordered query = store.selected query := by simp [Store.ordered, ho]
    refine ⟨?_, fun _ => heq, ?_, ?_⟩
    · rw [heq]
      exact .refl _
    · intro order h
      rw [ho] at h
      cases h
    · intro order h
      rw [ho] at h
      cases h
  | some order =>
    have heq : store.ordered query = sortRows order (store.selected query) := by simp [Store.ordered, ho]
    rw [heq]
    refine ⟨perm_sortRows order _, ?_, ?_, ?_⟩
    · intro h
      rw [ho] at h
      cases h
    · intro order' h
      obtain rfl := Option.some.inj (ho.symm.trans h)
      exact pairwise_sortRows order _
    · intro order' h tied hsub htied
      obtain rfl := Option.some.inj (ho.symm.trans h)
      exact sublist_sortRows hsub htied

end Listing

/-! ## Windows -/

section Windows

variable {α : Type} {size : Nat}

theorem flatMap_windows (listing : List α) (size n : Nat) :
    (List.range n).flatMap (fun p => (listing.drop (p * size)).take size) = listing.take (n * size) := by
  induction n with
  | zero => simp
  | succ n ih =>
    rw [List.range_succ, List.flatMap_append, ih, Nat.add_mul, Nat.one_mul, List.take_add]
    simp

theorem flatMap_totalPages (hsize : 0 < size) (listing : List α) :
    (List.range (totalPages listing.length size)).flatMap
      (fun p => (listing.drop (p * size)).take size) = listing := by
  -- a page behind the counted ones would begin behind the last row
  have hend : ¬ totalPages listing.length size * size < listing.length :=
    fun h => Nat.lt_irrefl _ ((Http.lt_totalPages_iff hsize).2 h)
  rw [flatMap_windows, List.take_of_length_le (Nat.le_of_not_lt hend)]

theorem window_ne_nil_iff (hsize : 0 < size) (listing : List α) (p : Nat) :
    (listing.drop (p * size)).take size ≠ [] ↔ p < totalPages listing.length size := by
  rw [Http.lt_totalPages_iff hsize, ← List.length_pos_iff, List.length_take, List.length_drop]
  omega

end Windows

/-! ## Pages -/

/-- The page is the window of the listing at its position, and the total is the length of the listing.
Exactly the pages that are counted hold rows, and together they are the listing. -/
structure IsPaged (store : Store) (query : CompiledQuery) (listing : List Json) (page : PageRequest) :
    Prop where
  total : (store.query query page).total = listing.length
  rows : ∀ i : Nat, (store.query query page).rows[i]? =
    if i < page.size then listing[page.page * page.size + i]? else none
  filled : (store.query query page).rows ≠ [] ↔ page.page < totalPages listing.length page.size
  complete : (List.range (totalPages listing.length page.size)).flatMap
    (fun p => (store.query query ⟨p, page.size⟩).rows) = listing

/-- Position and number of pages are computed in words of 64 bits, where no step overflows and none divides
by zero. -/
structure FitsWords (listing : List Json) (page : PageRequest) : Prop where
  offset : page.offsetWord.toNat = page.page * page.size
  size : page.sizeWord ≠ 0
  pages : ∀ total : UInt64, total.toNat = listing.length →
    (totalPagesWord total page.sizeWord).toNat = totalPages listing.length page.size

section Pages

variable {page : PageRequest}

theorem isPaged_ordered (store : Store) (query : CompiledQuery) (hsize : 0 < page.size) :
    store.IsPaged query (store.ordered query) page where
  total := rfl
  rows i := by
    simp only [Store.query, List.getElem?_take, List.getElem?_drop]
    rfl
  filled := window_ne_nil_iff hsize _ page.page
  complete := flatMap_totalPages hsize _

theorem fitsWords_of_isAllowed (h : page.IsAllowed) (listing : List Json) : FitsWords listing page := by
  have hsize : 0 < page.sizeWord.toNat := by
    rw [h.toNat_sizeWord]
    exact h.2.1
  refine ⟨h.toNat_offsetWord, ?_, ?_⟩
  · intro hzero
    rw [hzero] at hsize
    exact Nat.lt_irrefl 0 hsize
  · intro total htotal
    rw [Http.toNat_totalPagesWord hsize, h.toNat_sizeWord, htotal]

/-- Every page of a number of 32 bits and a size from 1 to 500 can be asked for and no other. Whichever is
asked for, it is a page of one and the same listing. -/
theorem query_pages (store : Store) (query : CompiledQuery) :
    (∀ page : PageRequest, (∃ request, Http.pageRequest request = .ok page) ↔
      page.page < 2 ^ 32 ∧ 1 ≤ page.size ∧ page.size ≤ 500) ∧
    ∃ listing, store.IsListing query listing ∧ ∀ request page, Http.pageRequest request = .ok page →
      store.IsPaged query listing page ∧ FitsWords listing page := by
  refine ⟨fun _ => Http.exists_pageRequest_iff, store.ordered query, isListing_ordered store query, ?_⟩
  intro request page h
  have hallowed := Http.isAllowed_of_pageRequest h
  exact ⟨isPaged_ordered store query hallowed.2.1, fitsWords_of_isAllowed hallowed _⟩

/-- Prices from the highest on, two on a page: the second page has the rest of the three rows, one of which
has no price. -/
theorem query_pages_preco :
    ∃ (store : Store) (query : CompiledQuery) (listing : List Json),
      store.rows = [.object [("id", .integer 1), ("preco", .integer 5)], .object [("id", .integer 2)],
        .object [("id", .integer 3), ("preco", .string "5.0")]] ∧
      query = ⟨.always, some ⟨.field ⟨["preco"], .decimal⟩, .descending⟩, []⟩ ∧
      Http.pageRequest (.ofPairs [("page", "1"), ("size", "2")]) = .ok ⟨1, 2⟩ ∧
      store.IsListing query listing ∧ listing.length = 3 ∧ store.IsPaged query listing ⟨1, 2⟩ ∧
      FitsWords listing ⟨1, 2⟩ ∧ (store.query query ⟨1, 2⟩).rows ≠ [] := by
  obtain ⟨_, listing, hlisting, hpages⟩ := query_pages
    ⟨[.object [("id", .integer 1), ("preco", .integer 5)], .object [("id", .integer 2)],
      .object [("id", .integer 3), ("preco", .string "5.0")]]⟩
    ⟨.always, some ⟨.field ⟨["preco"], .decimal⟩, .descending⟩, []⟩
  obtain ⟨hpaged, hfits⟩ := hpages (.ofPairs [("page", "1"), ("size", "2")]) ⟨1, 2⟩ rfl
  have hlength : listing.length = 3 := hlisting.perm.length_eq
  refine ⟨_, _, listing, rfl, rfl, rfl, hlisting, hlength, hpaged, hfits, ?_⟩
  rw [hpaged.filled, hlength]
  decide

end Pages
end Store
end RecordFilter
