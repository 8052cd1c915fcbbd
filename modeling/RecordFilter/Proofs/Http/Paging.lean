import RecordFilter.Http.Paging
import RecordFilter.Proofs.Number.Writing

/-!
# RecordFilter.Proofs.Http.Paging

The pages that a request can ask for are those with a number of 32 bits and a size from 1 to 500
(`exists_pageRequest_iff`). The pages that the rows fill are those that begin before the last row
(`lt_totalPages_iff`).

Computed in words of 64 bits, the position of a page (`toNat_offsetWord`) and the number of pages
(`toNat_totalPagesWord`) are the same numbers: nothing overflows.
-/

namespace RecordFilter

namespace PageRequest

/-- The pages that can be asked for. -/
def IsAllowed (page : PageRequest) : Prop :=
  page.page < 2 ^ 32 ∧ 1 ≤ page.size ∧ page.size ≤ 500

def sizeWord (page : PageRequest) : UInt64 := UInt64.ofNat page.size

def offsetWord (page : PageRequest) : UInt64 := UInt64.ofNat page.page * page.sizeWord

variable {page : PageRequest}

theorem IsAllowed.toNat_sizeWord (h : page.IsAllowed) : page.sizeWord.toNat = page.size := by
  obtain ⟨_, _, hsize⟩ := h
  exact UInt64.toNat_ofNat_of_lt' (Nat.lt_of_le_of_lt hsize (by decide))

theorem IsAllowed.offset_lt (h : page.IsAllowed) : page.offset < 2 ^ 64 := by
  obtain ⟨hpage, _, hsize⟩ := h
  calc page.page * page.size ≤ 2 ^ 32 * 500 := Nat.mul_le_mul (Nat.le_of_lt hpage) hsize
    _ < 2 ^ 64 := by decide

theorem IsAllowed.toNat_offsetWord (h : page.IsAllowed) : page.offsetWord.toNat = page.offset := by
  have hpage : (UInt64.ofNat page.page).toNat = page.page :=
    UInt64.toNat_ofNat_of_lt' (Nat.lt_trans h.1 (by decide))
  rw [offsetWord, UInt64.toNat_mul, hpage, h.toNat_sizeWord]
  exact Nat.mod_eq_of_lt h.offset_lt

end PageRequest

namespace Http

/-! ## Requests -/

section Requests

variable {request : Request} {page : PageRequest}

theorem rangeErrors_eq_nil_iff (page size : Int) :
    rangeErrors page size = [] ↔ (0 ≤ page ∧ page ≤ maximalPage) ∧ 1 ≤ size ∧ size ≤ maximalSize := by
  rw [rangeErrors, List.append_eq_nil_iff]
  refine and_congr ?_ ?_ <;> split <;> simp_all

theorem isAllowed_of_pageRequest (h : pageRequest request = .ok page) : page.IsAllowed := by
  unfold pageRequest at h
  split at h
  · cases h
  split at h
  · cases h
  dsimp only at h
  split at h
  case h_2 => cases h
  rename_i hrange
  cases h
  obtain ⟨⟨hpage, hlast⟩, hsize, hlargest⟩ := (rangeErrors_eq_nil_iff _ _).1 hrange
  simp only [PageRequest.IsAllowed]
  simp only [maximalPage, maximalSize] at hlast hlargest
  omega

theorem readNumber?_digitsOf {key : String} {n : Nat} (code : String) (hn : n < 2 ^ 63)
    (h : request.first? key = some (String.ofList (Number.digitsOf n))) :
    readNumber? request key code = .ok (some (n : Int)) := by
  have htrim : Text.trim (Number.digitsOf n) = Number.digitsOf n :=
    Text.trim_of_not_blank fun _ hc => Number.not_isBlank_of_isDigit (Number.isDigit_of_mem_digitsOf hc)
  have hwidth : Number.IntegerWidth.bits64.holds (n : Int) = true := by
    simp only [Number.IntegerWidth.holds, Bool.and_eq_true, decide_eq_true_eq]
    omega
  have hread : Number.readInteger? .bits64 (Number.digitsOf n) = some (n : Int) :=
    Number.readInteger?_writeInteger hwidth
  simp [readNumber?, h, htrim, hread]

/-- The request that asks for a page. -/
def requestFor (page : PageRequest) : Request :=
  Request.ofPairs
    [(Request.pageKey, String.ofList (Number.digitsOf page.page)),
      (Request.sizeKey, String.ofList (Number.digitsOf page.size))]

theorem pageRequest_requestFor (h : page.IsAllowed) : pageRequest (requestFor page) = .ok page := by
  obtain ⟨hpage, hsize, hlargest⟩ := h
  have hnumber : readNumber? (requestFor page) Request.pageKey invalidPage = .ok (some (page.page : Int)) :=
    readNumber?_digitsOf _ (by omega) rfl
  have hrows : readNumber? (requestFor page) Request.sizeKey invalidSize = .ok (some (page.size : Int)) :=
    readNumber?_digitsOf _ (by omega) rfl
  have hrange : rangeErrors page.page page.size = [] := by
    rw [rangeErrors_eq_nil_iff, maximalPage, maximalSize]
    omega
  simp [pageRequest, hnumber, hrows, hrange]

theorem exists_pageRequest_iff : (∃ request, pageRequest request = .ok page) ↔ page.IsAllowed :=
  ⟨fun ⟨_, h⟩ => isAllowed_of_pageRequest h, fun h => ⟨_, pageRequest_requestFor h⟩⟩

end Requests

/-! ## The number of pages -/

section Totals

variable {p total size : Nat}

theorem lt_totalPages_iff (hsize : 0 < size) : p < totalPages total size ↔ p * size < total := by
  rw [totalPages, Nat.lt_div_iff_mul_lt hsize]
  omega

theorem totalPages_le (hsize : 0 < size) : totalPages total size ≤ total := by
  refine Nat.le_of_not_lt fun hmore => ?_
  have hbegin : total * size < total := (lt_totalPages_iff hsize).1 hmore
  exact Nat.not_lt_of_le (Nat.le_mul_of_pos_right total hsize) hbegin

/-- Rounding up by looking at the remainder. -/
theorem totalPages_eq (hsize : 0 < size) :
    totalPages total size = if total % size = 0 then total / size else total / size + 1 := by
  have hdiv := Nat.div_add_mod total size
  have hmod := Nat.mod_lt total hsize
  rw [totalPages]
  generalize total / size = q at hdiv ⊢
  generalize total % size = r at hdiv hmod ⊢
  split
  · refine Nat.div_eq_of_lt_le ?_ ?_ <;> simp only [Nat.add_mul, Nat.mul_comm q] <;> omega
  · refine Nat.div_eq_of_lt_le ?_ ?_ <;> simp only [Nat.add_mul, Nat.mul_comm q] <;> omega

end Totals

/-- The number of pages, as it is computed in words. -/
def totalPagesWord (total size : UInt64) : UInt64 :=
  if total % size = 0 then total / size else total / size + 1

theorem toNat_totalPagesWord {total size : UInt64} (hsize : 0 < size.toNat) :
    (totalPagesWord total size).toNat = totalPages total.toNat size.toNat := by
  have hle := @totalPages_le total.toNat _ hsize
  have hlt := total.toNat_lt
  have hzero : total % size = 0 ↔ total.toNat % size.toNat = 0 := by
    rw [← UInt64.toNat_inj, UInt64.toNat_mod]
    rfl
  rw [totalPages_eq hsize] at hle ⊢
  simp only [totalPagesWord, hzero]
  split
  · exact UInt64.toNat_div _ _
  · rename_i hrest
    rw [if_neg hrest] at hle
    -- one page more does not wrap around: there are no more pages than rows
    rw [UInt64.toNat_add, UInt64.toNat_div]
    exact Nat.mod_eq_of_lt (Nat.lt_of_le_of_lt hle hlt)

end Http
end RecordFilter
