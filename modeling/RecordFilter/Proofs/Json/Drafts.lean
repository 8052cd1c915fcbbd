import RecordFilter.Json.Reading
import RecordFilter.Proofs.Json.Numerals

/-!
# RecordFilter.Proofs.Json.Drafts

What the reader makes of a text. A token holds no container, so a draft that is an object has been written as
one (`isScalar_of_draft?`), and resolving a draft keeps the names of its members (`names_of_resolveMembers?`).
-/

namespace RecordFilter
namespace Json

/-- Has no parts. -/
def isScalar : Json → Bool
  | .array _ | .object _ => false
  | _ => true

def Token.isScalar : Token → Bool
  | .plain value => value.all Json.isScalar
  | _ => true

/-! ## Tokens -/

theorem isScalar_of_value? {w : Numeral.Written} {document : Json} (h : Numeral.value? w = some document) :
    document.isScalar = true := by
  obtain ⟨n, -, rfl⟩ | ⟨x, -, -, rfl⟩ := Numeral.value?_cases h <;> rfl

theorem isScalar_of_takeNumber? {text rest : List Char} {token : Token} (h : takeNumber? text = some (token, rest)) :
    token.isScalar = true := by
  obtain ⟨⟨w, rest⟩, -, heq⟩ := Option.map_eq_some_iff.1 h
  cases heq
  cases hvalue : Numeral.value? w with
  | none => rfl
  | some document => exact isScalar_of_value? hvalue

theorem isScalar_of_takeWord? {text rest : List Char} {token : Token} (h : takeWord? text = some (token, rest)) :
    token.isScalar = true := by
  obtain ⟨⟨word, value⟩, hword, heq⟩ := List.exists_of_findSome?_eq_some h
  obtain ⟨_, -, heq⟩ := Option.map_eq_some_iff.1 heq
  cases heq
  have hall : ∀ entry ∈ words, entry.2.isScalar = true := by decide
  exact hall _ hword

theorem isScalar_of_takeToken? {text rest : List Char} {token : Token} (h : takeToken? text = some (token, rest)) :
    token.isScalar = true := by
  unfold takeToken? at h
  split at h
  case h_7 =>
    obtain ⟨_, -, heq⟩ := Option.map_eq_some_iff.1 h
    cases heq
    rfl
  case h_8 =>
    rcases Option.or_eq_some_iff.1 h with h | ⟨-, h⟩
    · exact isScalar_of_takeWord? h
    · exact isScalar_of_takeNumber? h
  all_goals cases h; rfl

theorem isScalar_of_tokensFrom? {fuel : Nat} {text : List Char} {tokens : List Token}
    (h : tokensFrom? fuel text = some tokens) : ∀ token ∈ tokens, token.isScalar = true := by
  induction fuel generalizing text tokens with
  | zero =>
    rw [tokensFrom?] at h
    split at h
    · cases h; simp
    · cases h
  | succ fuel ih =>
    rw [tokensFrom?] at h
    split at h
    · cases h; simp
    · split at h
      · cases h
      · rename_i htoken
        obtain ⟨tokens, htokens, rfl⟩ := Option.map_eq_some_iff.1 h
        exact List.forall_mem_cons.2 ⟨isScalar_of_takeToken? htoken, ih htokens⟩

/-! ## Machine -/

theorem isScalar_of_beginValue {stack stack' : List Frame} {token : Token} {value : Option Json}
    (h : beginValue stack token = some (.after (.leaf value) stack')) (htoken : token.isScalar = true) :
    value.all isScalar = true := by
  cases token with
  | text text =>
    cases h
    cases text <;> rfl
  | plain document =>
    cases h
    exact htoken
  | _ => cases h

/-- A leaf comes from one token. -/
theorem isScalar_of_step {state : State} {token : Token} {value : Option Json} {stack : List Frame}
    (h : step state token = some (.after (.leaf value) stack)) (htoken : token.isScalar = true) :
    value.all isScalar = true := by
  unfold step at h
  split at h
  case h_1 | h_3 => exact isScalar_of_beginValue h htoken
  all_goals cases h

theorem isScalar_of_draft? {text : List Char} {value : Option Json} (h : draft? text = some (.leaf value)) :
    value.all isScalar = true := by
  rw [draft?] at h
  split at h
  · rename_i draft hrun
    cases h
    obtain ⟨tokens, htokens, hrun⟩ := Option.bind_eq_some_iff.1 hrun
    have hscalar := isScalar_of_tokensFrom? htokens
    cases tokens using List.reverseRecOn with
    | nil => cases hrun
    | append_singleton tokens token =>
      rw [run, List.foldlM_append] at hrun
      obtain ⟨state, -, hlast⟩ := Option.bind_eq_some_iff.1 hrun
      rw [List.foldlM_cons] at hlast
      obtain ⟨_, hstep, hend⟩ := Option.bind_eq_some_iff.1 hlast
      cases hend
      exact isScalar_of_step hstep (hscalar token (by simp))
  · cases h

/-! ## Member names -/

namespace Draft

theorem names_of_resolveMembers? {limit : Nat} {members : Members} {documents : Json.Members}
    (h : resolveMembers? limit members = some documents) :
    members.map (·.1) = documents.map fun member => some member.1 := by
  induction members generalizing documents with
  | nil =>
    rw [resolveMembers?] at h
    cases h
    rfl
  | cons member members ih =>
    obtain ⟨name, value⟩ := member
    rw [resolveMembers?] at h
    simp only [bind, Option.bind_eq_some_iff] at h
    obtain ⟨name, rfl, document, -, documents, hrest, h⟩ := h
    cases h
    rw [List.map_cons, List.map_cons, ih hrest]

theorem exists_of_resolve?_object {limit : Nat} {draft : Draft} {documents : Json.Members}
    (hleaf : ∀ value, draft = .leaf value → value.all isScalar = true)
    (h : draft.resolve? limit = some (.object documents)) :
    ∃ members, draft = .object members ∧ members.map (·.1) = documents.map fun member => some member.1 := by
  cases draft with
  | leaf value =>
    rw [resolve?] at h
    have hscalar := hleaf value rfl
    rw [h] at hscalar
    cases hscalar
  | array items =>
    cases limit with
    | zero => cases h
    | succ limit =>
      rw [resolve?] at h
      obtain ⟨_, -, heq⟩ := Option.map_eq_some_iff.1 h
      cases heq
  | object members =>
    cases limit with
    | zero => cases h
    | succ limit =>
      rw [resolve?] at h
      obtain ⟨_, hmembers, heq⟩ := Option.map_eq_some_iff.1 h
      cases heq
      exact ⟨members, rfl, names_of_resolveMembers? hmembers⟩

theorem eq_leaf_of_mapMembers {change : String → Draft → Draft} {draft : Draft} {value : Option Json}
    (h : draft.mapMembers change = .leaf value) : draft = .leaf value := by
  cases draft with
  | object => cases h
  | leaf | array => exact h

theorem exists_of_mapMembers_object {change : String → Draft → Draft} {draft : Draft} {changed : Members}
    (h : draft.mapMembers change = .object changed) :
    ∃ members, draft = .object members ∧ members.map (·.1) = changed.map (·.1) := by
  cases draft with
  | object members =>
    rw [mapMembers] at h
    cases h
    exact ⟨members, rfl, by simp⟩
  | leaf | array => cases h

end Draft
end Json
end RecordFilter
