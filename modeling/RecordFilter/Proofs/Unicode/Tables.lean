import Mathlib.Data.List.Chain
import Mathlib.Data.List.Nodup
import Mathlib.Data.Nat.Bitwise
import RecordFilter.Unicode.Fold

/-!
# RecordFilter.Proofs.Unicode.Tables

The tables of lower-case forms and of decompositions, checked as a whole. A set of code points is a number
whose bits are its members, so that a test for membership is arithmetic (`hasBit_bitsOf`), and one pass over
each table says all that is needed of its entries.

* `isSound_of_mem_lowercasePairs`: a lower-case form has no lower-case form of its own.
* `isSound_of_mem_page`, `isSound_of_mem_singletonEntries`: the parts of a code point do not decompose
  further, and lower-casing them gives the parts of its lower-case form.
-/

namespace RecordFilter
namespace Unicode

/-! ## Sets of code points -/

def rangeBits (first last : Nat) : Nat := (2 ^ (last + 1 - first) - 1) <<< first

def bitsOf (ranges : List (Nat × Nat)) : Nat :=
  ranges.foldr (fun range bits => rangeBits range.1 range.2 ||| bits) 0

/-- The cost of this test grows with `n` and not with the greatest member of the set. -/
def hasBit (bits n : Nat) : Bool := bits &&& 2 ^ n != 0

theorem hasBit_eq_testBit (bits n : Nat) : hasBit bits n = bits.testBit n := by
  rw [hasBit, Nat.and_two_pow]
  cases bits.testBit n <;> simp

theorem hasBit_or (a b n : Nat) : hasBit (a ||| b) n = (hasBit a n || hasBit b n) := by
  simp only [hasBit_eq_testBit, Nat.testBit_or]

theorem hasBit_of_disjoint {a b n : Nat} (h : a &&& b = 0) (ha : hasBit a n = true) : hasBit b n = false := by
  have hand : (a &&& b).testBit n = false := by rw [h, Nat.zero_testBit]
  rw [hasBit_eq_testBit] at ha ⊢
  simpa [Nat.testBit_and, ha] using hand

theorem hasBit_rangeBits (first last n : Nat) :
    hasBit (rangeBits first last) n = (decide (first ≤ n) && decide (n ≤ last)) := by
  rw [hasBit_eq_testBit, rangeBits, Nat.testBit_shiftLeft, Nat.testBit_two_pow_sub_one, Bool.eq_iff_iff]
  simp only [Bool.and_eq_true, decide_eq_true_eq, ge_iff_le]
  omega

theorem hasBit_bitsOf (ranges : List (Nat × Nat)) (n : Nat) :
    hasBit (bitsOf ranges) n = inRanges ranges n := by
  induction ranges with
  | nil => simp [bitsOf, inRanges, hasBit]
  | cons range rest ih =>
    rw [bitsOf] at ih
    rw [bitsOf, List.foldr_cons, hasBit_or, ih, hasBit_rangeBits, inRanges, inRanges, List.any_cons]

/-- The bits of the keys of a table. -/
def bitsOfKeys {α : Type} (table : List (Nat × α)) : Nat := bitsOf (table.map fun (n, _) => (n, n))

theorem hasBit_bitsOfKeys {α : Type} {table : List (Nat × α)} {n : Nat} :
    hasBit (bitsOfKeys table) n = true ↔ ∃ a, (n, a) ∈ table := by
  rw [bitsOfKeys, hasBit_bitsOf, inRanges_eq_true_iff]
  constructor
  · rintro ⟨range, hrange, hfirst, hlast⟩
    obtain ⟨⟨m, a⟩, hentry, rfl⟩ := List.mem_map.1 hrange
    have hm : m = n := Nat.le_antisymm hfirst hlast
    exact ⟨a, hm ▸ hentry⟩
  · rintro ⟨a, hentry⟩
    exact ⟨(n, n), List.mem_map.2 ⟨(n, a), hentry, rfl⟩, Nat.le_refl n, Nat.le_refl n⟩

theorem toNat_ofNat {n : Nat} (h : n.isValidChar) : (Char.ofNat n).toNat = n := by
  rw [Char.ofNat, dif_pos h]
  rfl

/-! ## Marks and context -/

/-- The canonical order moves marks past each other. All other characters are starters. -/
def isMark (c : Char) : Bool := combiningClass c != 0

def markBits : Nat := bitsOf (combiningRows.map fun (first, last, _) => (first, last))

def casedBits : Nat := bitsOf casedRanges

def ignorableBits : Nat := bitsOf caseIgnorableRanges

theorem isMark_eq (c : Char) : isMark c = hasBit markBits c.toNat := by
  have hclass : ∀ row ∈ combiningRows, row.2.2 ≠ 0 := by decide +kernel
  have hbit : hasBit markBits c.toNat =
      (combiningRows.find? fun (first, last, _) => first ≤ c.toNat && c.toNat ≤ last).isSome := by
    rw [markBits, hasBit_bitsOf, inRanges, List.any_map, List.isSome_find?]
    rfl
  rw [hbit, isMark, combiningClass]
  cases hfind : combiningRows.find? fun (first, last, _) => first ≤ c.toNat && c.toNat ≤ last with
  | none => rfl
  | some row =>
    have hrow := hclass row (List.mem_of_find?_eq_some hfind)
    simpa using hrow

theorem isCased_eq (c : Char) : isCased c = hasBit casedBits c.toNat := (hasBit_bitsOf _ _).symm

theorem isCaseIgnorable_eq (c : Char) : isCaseIgnorable c = hasBit ignorableBits c.toNat :=
  (hasBit_bitsOf _ _).symm

/-- Whether a character is cased; none where it is ignorable for case. -/
def caseOf (c : Char) : Option Bool := if isCaseIgnorable c then none else some (isCased c)

def caseOfCode (n : Nat) : Option Bool :=
  if hasBit ignorableBits n then none else some (hasBit casedBits n)

theorem caseOf_eq (c : Char) : caseOf c = caseOfCode c.toNat := by
  rw [caseOf, caseOfCode, isCaseIgnorable_eq, isCased_eq]

/-- What a sigma sees of a text: its first character that is not ignorable for case. -/
def firstCase (text : List Char) : Option Bool := text.findSome? caseOf

theorem meetsCased_eq (text : List Char) : meetsCased text = (firstCase text).getD false := by
  induction text with
  | nil => rfl
  | cons c rest ih =>
    rw [meetsCased, firstCase] at ih ⊢
    cases h : isCaseIgnorable c with
    | true => simpa [h, caseOf] using ih
    | false => simp [h, caseOf]

@[simp]
theorem firstCase_nil : firstCase [] = none := rfl

@[simp]
theorem firstCase_cons (c : Char) (text : List Char) :
    firstCase (c :: text) = (caseOf c).or (firstCase text) := by
  rw [firstCase, List.findSome?_cons]
  cases caseOf c <;> rfl

@[simp]
theorem firstCase_append (a b : List Char) : firstCase (a ++ b) = (firstCase a).or (firstCase b) :=
  List.findSome?_append

theorem firstCase_map_ofNat {codes : List Nat} (h : ∀ d ∈ codes, d.isValidChar) :
    firstCase (codes.map Char.ofNat) = codes.findSome? caseOfCode := by
  induction codes with
  | nil => rfl
  | cons d rest ih =>
    rw [List.map_cons, firstCase_cons, ih fun e he => h e (List.mem_cons_of_mem d he), caseOf_eq,
      toNat_ofNat (h d List.mem_cons_self), List.findSome?_cons]
    cases caseOfCode d <;> rfl

/-! ## Lower case -/

def CaseRun.pair (r : CaseRun) (i : Nat) : Nat × Nat :=
  let n := r.first + i * r.stride
  (n, (n + r.shift).toNat)

def CaseRun.pairs (r : CaseRun) : List (Nat × Nat) :=
  (List.range ((r.last - r.first) / r.stride + 1)).map r.pair

/-- All code points that have a simple lower-case mapping, with it. -/
def lowercasePairs : List (Nat × Nat) := lowercaseRuns.flatMap CaseRun.pairs

def uppercaseBits : Nat := bitsOfKeys lowercasePairs

/-- What `lowercaseChar` does with a code point. The runs are searched only for those that they have. -/
def lowercaseCode (n : Nat) : Nat :=
  if hasBit uppercaseBits n then
    match lowercaseRows.find? fun row =>
        Nat.ble row.1 n && Nat.ble n row.2.1 && Nat.beq ((n - row.1) % row.2.2.1) 0 with
    | some row => (n + row.2.2.2 : Int).toNat
    | none => n
  else n

theorem CaseRun.mem_pairs {r : CaseRun} {n : Nat} (h : r.contains n = true) :
    (n, (n + r.shift).toNat) ∈ r.pairs := by
  simp only [CaseRun.contains, Bool.and_eq_true, decide_eq_true_eq, beq_iff_eq] at h
  obtain ⟨⟨hfirst, hlast⟩, hstride⟩ := h
  have hn : r.first + (n - r.first) / r.stride * r.stride = n := by
    have hdiv := Nat.div_add_mod' (n - r.first) r.stride
    omega
  have hi : (n - r.first) / r.stride < (r.last - r.first) / r.stride + 1 :=
    Nat.lt_succ_of_le (Nat.div_le_div_right (Nat.sub_le_sub_right hlast r.first))
  refine List.mem_map.2 ⟨(n - r.first) / r.stride, List.mem_range.2 hi, ?_⟩
  rw [CaseRun.pair, hn]

theorem mem_lowercasePairs {n : Nat} {r : CaseRun}
    (h : (lowercaseRuns.find? fun r => r.contains n) = some r) :
    (n, (n + r.shift).toNat) ∈ lowercasePairs := by
  have hcontains : r.contains n = true := List.find?_some (p := fun r : CaseRun => r.contains n) h
  exact List.mem_flatMap.2 ⟨r, List.mem_of_find?_eq_some h, CaseRun.mem_pairs hcontains⟩

theorem lowercaseCode_of_hasBit {n : Nat} (h : hasBit uppercaseBits n = false) : lowercaseCode n = n := by
  rw [lowercaseCode, h]
  rfl

theorem lowercaseCode_eq (n : Nat) :
    lowercaseCode n = (lowercaseRuns.find? fun r => r.contains n).elim n fun r => (n + r.shift).toNat := by
  have hrows : (lowercaseRuns.find? fun r => r.contains n) =
      (lowercaseRows.find? fun row =>
        Nat.ble row.1 n && Nat.ble n row.2.1 && Nat.beq ((n - row.1) % row.2.2.1) 0).map
          fun row => ⟨row.1, row.2.1, row.2.2.1, row.2.2.2⟩ := by
    rw [lowercaseRuns, List.find?_map]
    congr 2
    funext row
    rw [Bool.eq_iff_iff]
    simp [CaseRun.contains]
  cases hfind : lowercaseRuns.find? fun r => r.contains n with
  | none =>
    rw [hfind] at hrows
    rw [lowercaseCode, Option.map_eq_none_iff.1 hrows.symm]
    exact ite_self n
  | some r =>
    have hbit : hasBit uppercaseBits n = true := hasBit_bitsOfKeys.2 ⟨_, mem_lowercasePairs hfind⟩
    rw [hfind] at hrows
    obtain ⟨row, hrow, rfl⟩ := Option.map_eq_some_iff.1 hrows.symm
    rw [lowercaseCode, if_pos hbit, hrow]
    rfl

theorem lowercaseCode_cases (n : Nat) : lowercaseCode n = n ∨ (n, lowercaseCode n) ∈ lowercasePairs := by
  rw [lowercaseCode_eq]
  cases hfind : lowercaseRuns.find? fun r => r.contains n with
  | none => exact .inl rfl
  | some r => exact .inr (mem_lowercasePairs hfind)

theorem lowercaseChar_eq {c : Char} (h : c ≠ '\u0130') :
    lowercaseChar c = [Char.ofNat (lowercaseCode c.toNat)] := by
  rw [lowercaseChar, if_neg h, lowercaseCode_eq]
  cases lowercaseRuns.find? fun r => r.contains c.toNat with
  | none => exact congrArg (fun d => [d]) c.ofNat_toNat.symm
  | some r => rfl

/-! ## Decomposition -/

def singletonEntries : List (Nat × List Nat) :=
  singletonRuns.flatMap fun (first, targets) =>
    (targets.zipIdx first).map fun (target, n) => (n, [target])

/-- All code points that decompose, without the syllables, and what they decompose to. -/
def decompositionEntries : List (Nat × List Nat) := decompositionPages.flatten ++ singletonEntries

def syllableBits : Nat := rangeBits syllableBase (syllableBase + syllableCount - 1)

def composedBits : Nat := syllableBits ||| bitsOfKeys decompositionEntries

/-- The character decomposes. -/
def isComposed (c : Char) : Bool := hasBit composedBits c.toNat

theorem mem_singletonEntries {n : Nat} {codes : List Nat} :
    (n, codes) ∈ singletonEntries ↔
      ∃ run ∈ singletonRuns, ∃ t, run.1 ≤ n ∧ run.2[n - run.1]? = some t ∧ codes = [t] := by
  rw [singletonEntries, List.mem_flatMap]
  constructor
  · rintro ⟨run, hrun, hentry⟩
    obtain ⟨⟨t, m⟩, hmem, heq⟩ := List.mem_map.1 hentry
    obtain ⟨rfl, rfl⟩ := Prod.mk.inj heq
    obtain ⟨hle, hget⟩ := List.mk_mem_zipIdx_iff_le_and_getElem?_sub.1 hmem
    exact ⟨run, hrun, t, hle, hget, rfl⟩
  · rintro ⟨run, hrun, t, hle, hget, rfl⟩
    exact ⟨run, hrun, List.mem_map.2 ⟨(t, n), List.mk_mem_zipIdx_iff_le_and_getElem?_sub.2 ⟨hle, hget⟩, rfl⟩⟩

theorem mem_singletonEntries_of_eq_some {n t : Nat} (h : singleton? n = some t) :
    (n, [t]) ∈ singletonEntries := by
  obtain ⟨run, hrun, hfirst⟩ := List.exists_of_findSome?_eq_some h
  by_cases hle : run.1 ≤ n
  · simp only [if_pos hle] at hfirst
    exact mem_singletonEntries.2 ⟨run, hrun, t, hle, hfirst, rfl⟩
  · simp [hle] at hfirst

theorem mem_entries_of_lookup {n : Nat} {codes : List Nat}
    (h : (decompositionPages.findSome? fun page => page.lookup n) = some codes) :
    (n, codes) ∈ decompositionPages.flatten := by
  obtain ⟨page, hpage, hlookup⟩ := List.exists_of_findSome?_eq_some h
  obtain ⟨front, back, heq, -⟩ := List.lookup_eq_some_iff.1 hlookup
  exact List.mem_flatten.2 ⟨page, hpage, by rw [heq]; exact List.mem_append_right _ List.mem_cons_self⟩

theorem not_mem_entries {n : Nat} (hpages : (decompositionPages.findSome? fun page => page.lookup n) = none)
    (hsingle : singleton? n = none) (codes : List Nat) : (n, codes) ∉ decompositionEntries := by
  intro hentry
  rcases List.mem_append.1 hentry with hentry | hentry
  · obtain ⟨page, hpage, hmem⟩ := List.mem_flatten.1 hentry
    have hlookup := List.lookup_eq_none_iff.1 (List.findSome?_eq_none_iff.1 hpages page hpage) _ hmem
    simp at hlookup
  · obtain ⟨run, hrun, t, hle, hget, -⟩ := mem_singletonEntries.1 hentry
    have hnone := List.findSome?_eq_none_iff.1 hsingle run hrun
    simp only [if_pos hle, hget] at hnone
    cases hnone

/-- A code point stands for itself, or it is a syllable, or the table has it. -/
theorem decomposeCode_cases (n : Nat) :
    (hasBit composedBits n = false ∧ decomposeCode n = [n]) ∨
      (hasBit syllableBits n = true ∧ decomposeCode n = decomposeSyllable n) ∨
      (n, decomposeCode n) ∈ decompositionEntries := by
  rw [decomposeCode]
  split_ifs with hlatin hsyllable
  · have hbelow : rangeBits 0 0xBF &&& composedBits = 0 := by decide +kernel
    refine .inl ⟨hasBit_of_disjoint hbelow ?_, rfl⟩
    rw [hasBit_rangeBits, Bool.and_eq_true, decide_eq_true_eq, decide_eq_true_eq]
    exact ⟨Nat.zero_le n, Nat.le_of_lt_succ hlatin⟩
  · refine .inr (.inl ⟨?_, rfl⟩)
    simp only [Bool.and_eq_true, decide_eq_true_eq] at hsyllable
    rw [syllableBits, hasBit_rangeBits, Bool.and_eq_true, decide_eq_true_eq, decide_eq_true_eq]
    exact ⟨hsyllable.1, Nat.le_sub_one_of_lt hsyllable.2⟩
  · cases hpages : decompositionPages.findSome? fun page => page.lookup n with
    | some codes => exact .inr (.inr (List.mem_append_left _ (mem_entries_of_lookup hpages)))
    | none =>
      cases hsingle : singleton? n with
      | some t => exact .inr (.inr (List.mem_append_right _ (mem_singletonEntries_of_eq_some hsingle)))
      | none =>
        refine .inl ⟨?_, rfl⟩
        rw [composedBits, hasBit_or, Bool.or_eq_false_iff]
        constructor
        · rw [syllableBits, hasBit_rangeBits, Bool.eq_false_iff, ne_eq, Bool.and_eq_true, decide_eq_true_eq,
            decide_eq_true_eq]
          rw [Bool.and_eq_true, decide_eq_true_eq, decide_eq_true_eq] at hsyllable
          have hcount : 0 < syllableCount := by decide
          omega
        · rw [Bool.eq_false_iff, ne_eq, hasBit_bitsOfKeys]
          rintro ⟨codes, hentry⟩
          exact not_mem_entries hpages hsingle codes hentry

theorem decomposeCode_of_hasBit {n : Nat} (h : hasBit composedBits n = false) : decomposeCode n = [n] := by
  rw [composedBits, hasBit_or, Bool.or_eq_false_iff] at h
  rcases decomposeCode_cases n with ⟨-, hself⟩ | ⟨hbit, -⟩ | hentry
  · exact hself
  · rw [h.1] at hbit
    cases hbit
  · rw [hasBit_bitsOfKeys.2 ⟨_, hentry⟩] at h
    cases h.2

theorem decomposeChar_of_not_isComposed {c : Char} (h : isComposed c = false) : decomposeChar c = [c] := by
  rw [decomposeChar, decomposeCode_of_hasBit h, List.map_singleton, Char.ofNat_toNat]

/-- Every code point has one entry on the pages, and none of the other cases takes it away. -/
theorem decomposeCode_of_mem {n : Nat} {codes : List Nat} (h : (n, codes) ∈ decompositionPages.flatten) :
    decomposeCode n = codes := by
  have hsorted : (decompositionPages.flatten.map Prod.fst).IsChain (· < ·) := by decide +kernel
  have hothers : ∀ entry ∈ decompositionPages.flatten,
      0xC0 ≤ entry.1 ∧ hasBit syllableBits entry.1 = false := by decide +kernel
  obtain ⟨hlatin, hsyllable⟩ := hothers _ h
  have hnot : ¬ ((decide (syllableBase ≤ n) && decide (n < syllableBase + syllableCount)) = true) := by
    rw [syllableBits, hasBit_rangeBits, Bool.and_eq_false_iff, decide_eq_false_iff_not,
      decide_eq_false_iff_not] at hsyllable
    rw [Bool.and_eq_true, decide_eq_true_eq, decide_eq_true_eq]
    have hcount : 0 < syllableCount := by decide
    omega
  rw [decomposeCode, if_neg (Nat.not_lt.2 hlatin), if_neg hnot]
  cases hpages : decompositionPages.findSome? fun page => page.lookup n with
  | none =>
    obtain ⟨page, hpage, hmem⟩ := List.mem_flatten.1 h
    have hlookup := List.lookup_eq_none_iff.1 (List.findSome?_eq_none_iff.1 hpages page hpage) _ hmem
    simp at hlookup
  | some found =>
    have hnodup : (decompositionPages.flatten.map Prod.fst).Nodup :=
      (List.isChain_iff_pairwise.1 hsorted).imp fun hlt => Nat.ne_of_lt hlt
    have heq := List.inj_on_of_nodup_map hnodup (mem_entries_of_lookup hpages) h rfl
    exact (Prod.mk.inj heq).2

/-! ## Checks -/

def isSoundPair (pair : Nat × Nat) : Bool :=
  let (n, m) := pair
  decide m.isValidChar && !hasBit uppercaseBits m && m != 0x130 &&
    (hasBit composedBits n || !hasBit composedBits m) &&
    !hasBit markBits n && !hasBit markBits m

theorem isSound_of_mem_lowercasePairs : ∀ pair ∈ lowercasePairs, isSoundPair pair = true := by
  decide +kernel

/-- Lower-casing the parts of an upper-case letter gives the parts of its lower-case form, which stands in
`page` or among the Latin letters unless it does not decompose. -/
def lowersSoundly (page : List (Nat × List Nat)) (n : Nat) (codes : List Nat) : Bool :=
  if hasBit uppercaseBits n then
    let parts := codes.map lowercaseCode
    match lowercaseCode n with
    | 0 => false
    | m + 1 =>
      (!hasBit composedBits (m + 1) && parts == [m + 1]) ||
        (page.any fun entry => Nat.beq entry.1 (m + 1) && entry.2 == parts) ||
        latinDecompositions.any fun entry => Nat.beq entry.1 (m + 1) && entry.2 == parts
  else codes.all fun d => !hasBit uppercaseBits d

def isSoundEntry (page : List (Nat × List Nat)) (entry : Nat × List Nat) : Bool :=
  let (n, codes) := entry
  (codes.all fun d =>
      decide d.isValidChar && !hasBit composedBits d && d != 0x3A3 && d != 0x3C3 && d != 0x3C2) &&
    (n == 0x130 || lowersSoundly page n codes) &&
    codes.findSome? caseOfCode == caseOfCode n && codes.reverse.findSome? caseOfCode == caseOfCode n

theorem isSound_of_mem_page : ∀ page ∈ decompositionPages, ∀ entry ∈ page, isSoundEntry page entry = true := by
  decide +kernel

theorem isSound_of_mem_singletonEntries : ∀ entry ∈ singletonEntries, isSoundEntry [] entry = true := by
  decide +kernel

end Unicode
end RecordFilter
