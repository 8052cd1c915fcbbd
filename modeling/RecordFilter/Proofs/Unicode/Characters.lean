import RecordFilter.Proofs.Unicode.Tables

/-!
# RecordFilter.Proofs.Unicode.Characters

What the tables say of a single character.

* `exists_isLowercase`: a lower-case form is not changed again, it does not begin to decompose, and it is a
  mark only where nothing has changed.
* `isDecomposition_decomposeChar`: the parts of a character do not decompose further, lower-casing them gives
  the parts of the lower-case form, and a sigma beside them sees what it sees beside the character.
-/

namespace RecordFilter
namespace Unicode

/-! ## Lower case -/

def isSigma (c : Char) : Bool := c == 'Σ' || c == 'σ' || c == 'ς'

/-- What there is to say of a character and its lower-case form. -/
structure IsLowercase (c l : Char) : Prop where
  fixed : lowercaseChar l = [l]
  composed : isComposed c = false → isComposed l = false
  mark : l = c ∨ isMark c = false ∧ isMark l = false

theorem ne_of_toNat_ne {c d : Char} (h : c.toNat ≠ d.toNat) : c ≠ d := fun heq => h (heq ▸ rfl)

theorem isLowercase_self {c : Char} (h : lowercaseChar c = [c]) : IsLowercase c c :=
  ⟨h, id, .inl rfl⟩

theorem isLowercase_of_mem {c : Char} {m : Nat} (h : (c.toNat, m) ∈ lowercasePairs) :
    IsLowercase c (Char.ofNat m) := by
  have hsound := isSound_of_mem_lowercasePairs _ h
  simp only [isSoundPair, Bool.and_eq_true, Bool.or_eq_true, Bool.not_eq_true', bne_iff_ne, ne_eq,
    decide_eq_true_eq] at hsound
  obtain ⟨⟨⟨⟨⟨hvalid, hupper⟩, hdotted⟩, hcomposed⟩, hmark⟩, hmark'⟩ := hsound
  have hm : (Char.ofNat m).toNat = m := toNat_ofNat hvalid
  refine ⟨?_, ?_, .inr ⟨?_, ?_⟩⟩
  · have hne : Char.ofNat m ≠ '\u0130' := ne_of_toNat_ne (by rw [hm]; exact hdotted)
    rw [lowercaseChar_eq hne, hm, lowercaseCode_of_hasBit hupper]
  · intro hc
    rw [isComposed] at hc ⊢
    rw [hm]
    simpa [hc] using hcomposed
  · rw [isMark_eq, hmark]
  · rw [isMark_eq, hm, hmark']

/-- Only the capital I with a dot has a lower-case form of two characters. -/
theorem exists_isLowercase {c : Char} (h : c ≠ '\u0130') : ∃ l, lowercaseChar c = [l] ∧ IsLowercase c l := by
  have hc := lowercaseChar_eq h
  rcases lowercaseCode_cases c.toNat with hself | hmem
  · rw [hself, Char.ofNat_toNat] at hc
    exact ⟨c, hc, isLowercase_self hc⟩
  · exact ⟨_, hc, isLowercase_of_mem hmem⟩

/-- The capital I with a dot comes apart. -/
theorem ne_dotted_of_not_isComposed {c : Char} (h : isComposed c = false) : c ≠ '\u0130' := by
  have hdotted : isComposed '\u0130' = true := by decide +kernel
  rintro rfl
  rw [hdotted] at h
  cases h

/-! ## Decomposition -/

/-- What there is to say of a character and its parts. -/
structure IsDecomposition (c : Char) (parts : List Char) : Prop where
  atomic : ∀ d ∈ parts, isComposed d = false
  sigma : ∀ d ∈ parts, isSigma d = true → parts = [c]
  lowercase : parts.flatMap lowercaseChar = (lowercaseChar c).flatMap decomposeChar
  forward : firstCase parts = caseOf c
  backward : firstCase parts.reverse = caseOf c

theorem flatMap_lowercaseChar {codes : List Nat}
    (h : ∀ d ∈ codes, d.isValidChar ∧ hasBit composedBits d = false) :
    (codes.map Char.ofNat).flatMap lowercaseChar = (codes.map lowercaseCode).map Char.ofNat := by
  have hdotted : hasBit composedBits 0x130 = true := by decide +kernel
  induction codes with
  | nil => rfl
  | cons d rest ih =>
    obtain ⟨hvalid, hatomic⟩ := h d List.mem_cons_self
    have hd : d ≠ 0x130 := by
      rintro rfl
      rw [hdotted] at hatomic
      cases hatomic
    have hne : Char.ofNat d ≠ '\u0130' := ne_of_toNat_ne (by rw [toNat_ofNat hvalid]; exact hd)
    rw [List.map_cons, List.flatMap_cons, ih fun e he => h e (List.mem_cons_of_mem d he),
      lowercaseChar_eq hne, toNat_ofNat hvalid]
    rfl

theorem decomposeCode_lowercaseCode {page : List (Nat × List Nat)} {n : Nat}
    (hpage : page ⊆ decompositionPages.flatten) (h : lowersSoundly page n (decomposeCode n) = true) :
    decomposeCode (lowercaseCode n) = (decomposeCode n).map lowercaseCode := by
  have hlatin : latinDecompositions ⊆ decompositionPages.flatten := by
    intro entry hentry
    exact List.mem_flatten.2 ⟨latinDecompositions, by simp [decompositionPages], hentry⟩
  have hfound : ∀ (page : List (Nat × List Nat)) (m : Nat) (parts : List Nat),
      page ⊆ decompositionPages.flatten →
        (page.any fun entry => Nat.beq entry.1 m && entry.2 == parts) = true → decomposeCode m = parts := by
    intro page m parts hpage hany
    obtain ⟨entry, hentry, hequal⟩ := List.any_eq_true.1 hany
    rw [Bool.and_eq_true, beq_iff_eq] at hequal
    have hm : entry.1 = m := Nat.eq_of_beq_eq_true hequal.1
    rw [← hm, ← hequal.2]
    exact decomposeCode_of_mem (hpage hentry)
  rw [lowersSoundly] at h
  split_ifs at h with hupper
  · cases hm : lowercaseCode n with
    | zero => simp [hm] at h
    | succ m =>
      simp only [hm, Bool.or_eq_true, Bool.and_eq_true, Bool.not_eq_true', beq_iff_eq] at h
      rcases h with (⟨hatomic, hparts⟩ | hown) | hlatinHas
      · rw [hparts, decomposeCode_of_hasBit hatomic]
      · exact hfound page _ _ hpage hown
      · exact hfound latinDecompositions _ _ hlatin hlatinHas
  · have hkept : ∀ d ∈ decomposeCode n, lowercaseCode d = id d := by
      intro d hd
      have hnot := List.all_eq_true.1 h d hd
      rw [Bool.not_eq_true'] at hnot
      exact lowercaseCode_of_hasBit hnot
    rw [lowercaseCode_of_hasBit (Bool.eq_false_iff.2 hupper), List.map_congr_left hkept, List.map_id]

theorem isDecomposition_self {c : Char} (h : isComposed c = false) : IsDecomposition c [c] := by
  obtain ⟨l, hl, hlower⟩ := exists_isLowercase (ne_dotted_of_not_isComposed h)
  refine ⟨?_, ?_, ?_, ?_, ?_⟩
  · simpa using h
  · intro d _ _
    rfl
  · simp [hl, decomposeChar_of_not_isComposed (hlower.composed h)]
  · simp [firstCase]
  · simp [firstCase]

theorem isValidChar_lowercaseCode (c : Char) : (lowercaseCode c.toNat).isValidChar := by
  rcases lowercaseCode_cases c.toNat with hself | hmem
  · rw [hself]
    exact c.valid
  · have hsound := isSound_of_mem_lowercasePairs _ hmem
    simp only [isSoundPair, Bool.and_eq_true, decide_eq_true_eq] at hsound
    exact hsound.1.1.1.1.1

theorem isDecomposition_of_isSound {page : List (Nat × List Nat)} {c : Char}
    (hpage : page ⊆ decompositionPages.flatten)
    (h : isSoundEntry page (c.toNat, decomposeCode c.toNat) = true) :
    IsDecomposition c (decomposeChar c) := by
  simp only [isSoundEntry, Bool.and_eq_true, Bool.or_eq_true, beq_iff_eq, List.all_eq_true, Bool.not_eq_true',
    decide_eq_true_eq, bne_iff_ne, ne_eq] at h
  obtain ⟨⟨⟨hcodes, hlower⟩, hforward⟩, hbackward⟩ := h
  have hvalid : ∀ d ∈ decomposeCode c.toNat, d.isValidChar := fun d hd => (hcodes d hd).1.1.1.1
  have hatomic : ∀ d ∈ decomposeCode c.toNat, hasBit composedBits d = false := fun d hd => (hcodes d hd).1.1.1.2
  refine ⟨?_, ?_, ?_, ?_, ?_⟩
  · intro d hd
    obtain ⟨n, hn, rfl⟩ := List.mem_map.1 hd
    rw [isComposed, toNat_ofNat (hvalid n hn)]
    exact hatomic n hn
  · intro d hd hsigma
    obtain ⟨n, hn, rfl⟩ := List.mem_map.1 hd
    obtain ⟨⟨⟨-, hcapital⟩, hmedial⟩, hfinal⟩ := hcodes n hn
    simp only [isSigma, Bool.or_eq_true, beq_iff_eq] at hsigma
    have hn' := toNat_ofNat (hvalid n hn)
    rcases hsigma with (heq | heq) | heq <;> rw [heq] at hn'
    · exact absurd hn'.symm hcapital
    · exact absurd hn'.symm hmedial
    · exact absurd hn'.symm hfinal
  · by_cases hc : c = '\u0130'
    · subst hc
      decide +kernel
    · have hcode : c.toNat ≠ 0x130 := fun heq => hc (Char.toNat_inj.1 heq)
      rw [decomposeChar, flatMap_lowercaseChar fun d hd => ⟨hvalid d hd, hatomic d hd⟩,
        ← decomposeCode_lowercaseCode hpage (hlower.resolve_left hcode), lowercaseChar_eq hc,
        List.flatMap_singleton, decomposeChar, toNat_ofNat (isValidChar_lowercaseCode c)]
  · rw [decomposeChar, firstCase_map_ofNat hvalid, hforward, caseOf_eq]
  · rw [decomposeChar, ← List.map_reverse, firstCase_map_ofNat fun d hd => hvalid d (List.mem_reverse.1 hd),
      hbackward, caseOf_eq]

/-! ## Syllables -/

def jamoBits : Nat := rangeBits 0x1100 0x11FF

theorem hasBit_jamoBits {n d : Nat} (h : hasBit syllableBits n = true) (hd : d ∈ decomposeSyllable n) :
    hasBit jamoBits d = true := by
  rw [syllableBits, hasBit_rangeBits, Bool.and_eq_true, decide_eq_true_eq, decide_eq_true_eq] at h
  rw [jamoBits, hasBit_rangeBits, Bool.and_eq_true, decide_eq_true_eq, decide_eq_true_eq]
  have hbase : syllableBase = 44032 := rfl
  have hcount : syllableCount = 11172 := rfl
  have hlead : leadBase = 4352 := rfl
  have hvowel : vowelBase = 4449 := rfl
  have htail : tailBase = 4519 := rfl
  have hvowels : vowelCount = 21 := rfl
  have htails : tailCount = 28 := rfl
  rw [decomposeSyllable] at hd
  simp only [hvowels, htails] at hd
  split_ifs at hd <;> simp only [List.mem_cons, List.not_mem_nil, or_false] at hd <;> omega

theorem caseOfCode_of_hasBit {n : Nat} (hignorable : hasBit ignorableBits n = false)
    (hcased : hasBit casedBits n = false) : caseOfCode n = some false := by
  rw [caseOfCode, hignorable, hcased]
  rfl

theorem findSome?_caseOfCode {codes : List Nat} (hne : codes ≠ [])
    (hall : ∀ d ∈ codes, caseOfCode d = some false) : codes.findSome? caseOfCode = some false := by
  obtain ⟨d, rest, rfl⟩ := List.exists_cons_of_ne_nil hne
  rw [List.findSome?_cons, hall d List.mem_cons_self]

theorem isSound_decomposeSyllable {n : Nat} (h : hasBit syllableBits n = true) :
    isSoundEntry [] (n, decomposeSyllable n) = true := by
  have hjamo : jamoBits &&& (composedBits ||| uppercaseBits ||| ignorableBits ||| casedBits) = 0 := by
    decide +kernel
  have hsyllable : syllableBits &&& (uppercaseBits ||| ignorableBits ||| casedBits) = 0 := by decide +kernel
  have hn := hasBit_of_disjoint hsyllable h
  have hd : ∀ d ∈ decomposeSyllable n, _ := fun d hd => hasBit_of_disjoint hjamo (hasBit_jamoBits h hd)
  simp only [hasBit_or, Bool.or_eq_false_iff] at hn hd
  have hcase : ∀ d ∈ decomposeSyllable n, caseOfCode d = some false :=
    fun d hmem => caseOfCode_of_hasBit (hd d hmem).1.2 (hd d hmem).2
  have hrange : ∀ d ∈ decomposeSyllable n, 0x1100 ≤ d ∧ d ≤ 0x11FF := by
    intro d hmem
    have hbit := hasBit_jamoBits h hmem
    rwa [jamoBits, hasBit_rangeBits, Bool.and_eq_true, decide_eq_true_eq, decide_eq_true_eq] at hbit
  have hne : decomposeSyllable n ≠ [] := by
    rw [decomposeSyllable]
    split_ifs <;> exact List.cons_ne_nil _ _
  have hcaseN : caseOfCode n = some false := caseOfCode_of_hasBit hn.1.2 hn.2
  simp only [isSoundEntry, Bool.and_eq_true, Bool.or_eq_true, beq_iff_eq, List.all_eq_true,
    Bool.not_eq_true', decide_eq_true_eq, bne_iff_ne, ne_eq]
  refine ⟨⟨⟨?_, .inr ?_⟩, ?_⟩, ?_⟩
  · intro d hmem
    have hjamo' := hrange d hmem
    exact ⟨⟨⟨⟨Or.inl (by omega), (hd d hmem).1.1.1⟩, by omega⟩, by omega⟩, by omega⟩
  · rw [lowersSoundly, hn.1.1, if_neg Bool.false_ne_true, List.all_eq_true]
    intro d hmem
    rw [(hd d hmem).1.1.2]
    rfl
  · rw [findSome?_caseOfCode hne hcase, hcaseN]
  · rw [findSome?_caseOfCode (List.reverse_ne_nil_iff.2 hne) fun d hmem => hcase d (List.mem_reverse.1 hmem),
      hcaseN]

/-! ## Every character -/

theorem isDecomposition_decomposeChar (c : Char) : IsDecomposition c (decomposeChar c) := by
  rcases decomposeCode_cases c.toNat with ⟨hatomic, -⟩ | ⟨hsyllable, heq⟩ | hentry
  · rw [decomposeChar_of_not_isComposed hatomic]
    exact isDecomposition_self hatomic
  · have hsound := isSound_decomposeSyllable hsyllable
    rw [← heq] at hsound
    exact isDecomposition_of_isSound (List.nil_subset _) hsound
  · rcases List.mem_append.1 hentry with hpages | hsingle
    · obtain ⟨page, hpage, hmem⟩ := List.mem_flatten.1 hpages
      exact isDecomposition_of_isSound (fun entry he => List.mem_flatten.2 ⟨page, hpage, he⟩)
        (isSound_of_mem_page page hpage _ hmem)
    · exact isDecomposition_of_isSound (List.nil_subset _) (isSound_of_mem_singletonEntries _ hsingle)

end Unicode
end RecordFilter
