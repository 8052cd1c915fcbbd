/-!
# RecordFilter.Proofs.Filter.Sequence

A list whose elements are converted one after the other, each of which may fail. The first failure is
the failure of the whole (`mapM_eq_error_iff`); without one the results are those of the elements
(`mem_of_mapM_eq_ok`), also where the elements stand in another order (`perm_of_mapM`).
-/

namespace RecordFilter

section Sequence

variable {α β ε : Type} {f : α → Except ε β}

def errorOf? : Except ε β → Option ε
  | .ok _ => none
  | .error e => some e

/-- The failure of the first element that fails. -/
def firstError? (f : α → Except ε β) (l : List α) : Option ε := l.findSome? fun x => errorOf? (f x)

theorem errorOf?_eq_some_iff {r : Except ε β} {e : ε} : errorOf? r = some e ↔ r = .error e := by
  cases r <;> simp [errorOf?]

theorem errorOf?_eq_none_iff {r : Except ε β} : errorOf? r = none ↔ ∃ y, r = .ok y := by
  cases r <;> simp [errorOf?]

theorem errorOf?_map {γ : Type} (k : β → γ) (r : Except ε β) : errorOf? (r.map k) = errorOf? r := by
  cases r <;> rfl

theorem map_eq_ok_iff {γ : Type} {k : β → γ} {r : Except ε β} {z : γ} :
    r.map k = .ok z ↔ ∃ y, r = .ok y ∧ k y = z := by
  cases r <;> simp [Except.map]

theorem firstError?_cons (f : α → Except ε β) (x : α) (l : List α) :
    firstError? f (x :: l) = (errorOf? (f x)).or (firstError? f l) := by
  rw [firstError?, List.findSome?_cons]
  cases errorOf? (f x) <;> rfl

theorem firstError?_eq_none_iff {l : List α} :
    firstError? f l = none ↔ ∀ x ∈ l, ∃ y, f x = .ok y := by
  simp only [firstError?, List.findSome?_eq_none_iff, errorOf?_eq_none_iff]

theorem mapM_cons_of_ok {x : α} {y : β} (h : f x = .ok y) (l : List α) :
    (x :: l).mapM f = (l.mapM f).map (y :: ·) := by
  rw [List.mapM_cons, h]
  cases l.mapM f <;> rfl

theorem mapM_cons_of_error {x : α} {e : ε} (h : f x = .error e) (l : List α) :
    (x :: l).mapM f = .error e := by
  rw [List.mapM_cons, h]
  rfl

/-- What a list that converts as a whole says about its first element and about the others. -/
theorem mapM_cons_eq_ok_iff {x : α} {l : List α} {ys : List β} :
    (x :: l).mapM f = .ok ys ↔ ∃ y rest, f x = .ok y ∧ l.mapM f = .ok rest ∧ y :: rest = ys := by
  cases hx : f x with
  | error e => simp [mapM_cons_of_error hx]
  | ok y => simp [mapM_cons_of_ok hx, map_eq_ok_iff]

theorem mapM_eq_error_iff {l : List α} {e : ε} :
    l.mapM f = .error e ↔ firstError? f l = some e := by
  induction l with
  | nil => simp [firstError?, pure, Except.pure]
  | cons x l ih =>
    rw [firstError?_cons]
    cases hx : f x with
    | error e' => rw [mapM_cons_of_error hx]; simp [errorOf?]
    | ok y =>
      rw [mapM_cons_of_ok hx]
      cases hl : l.mapM f with
      | error e' => rw [hl] at ih; simpa [errorOf?, Except.map] using ih
      | ok ys => rw [hl] at ih; simpa [errorOf?, Except.map] using ih

theorem errorOf?_mapM (f : α → Except ε β) (l : List α) : errorOf? (l.mapM f) = firstError? f l := by
  apply Option.ext
  intro e
  rw [errorOf?_eq_some_iff, mapM_eq_error_iff]

theorem exists_of_mapM_eq_ok {l : List α} {ys : List β} (h : l.mapM f = .ok ys) :
    ∀ x ∈ l, ∃ y, f x = .ok y := by
  rw [← firstError?_eq_none_iff, ← errorOf?_mapM, h]
  rfl

theorem mem_of_mapM_eq_ok {l : List α} {ys : List β} (h : l.mapM f = .ok ys) (y : β) :
    y ∈ ys ↔ ∃ x ∈ l, f x = .ok y := by
  induction l generalizing ys with
  | nil => cases h; simp
  | cons x l ih =>
    obtain ⟨z, zs, hx, hl, rfl⟩ := mapM_cons_eq_ok_iff.1 h
    simp [ih hl, hx, eq_comm]

/-- What the elements say one by one is what their results say. -/
theorem forall_mem_iff_of_mapM {P : β → Prop} {Q : α → Prop} {l : List α} {ys : List β}
    (h : l.mapM f = .ok ys) (hiff : ∀ x ∈ l, ∀ y, f x = .ok y → (P y ↔ Q x)) :
    (∀ y ∈ ys, P y) ↔ ∀ x ∈ l, Q x := by
  constructor
  · intro hall x hx
    obtain ⟨y, hy⟩ := exists_of_mapM_eq_ok h x hx
    exact (hiff x hx y hy).1 (hall y ((mem_of_mapM_eq_ok h y).2 ⟨x, hx, hy⟩))
  · intro hall y hy
    obtain ⟨x, hx, hf⟩ := (mem_of_mapM_eq_ok h y).1 hy
    exact (hiff x hx y hf).2 (hall x hx)

theorem exists_mem_iff_of_mapM {P : β → Prop} {Q : α → Prop} {l : List α} {ys : List β}
    (h : l.mapM f = .ok ys) (hiff : ∀ x ∈ l, ∀ y, f x = .ok y → (P y ↔ Q x)) :
    (∃ y ∈ ys, P y) ↔ ∃ x ∈ l, Q x := by
  constructor
  · rintro ⟨y, hy, hp⟩
    obtain ⟨x, hx, hf⟩ := (mem_of_mapM_eq_ok h y).1 hy
    exact ⟨x, hx, (hiff x hx y hf).1 hp⟩
  · rintro ⟨x, hx, hq⟩
    obtain ⟨y, hy⟩ := exists_of_mapM_eq_ok h x hx
    exact ⟨y, (mem_of_mapM_eq_ok h y).2 ⟨x, hx, hy⟩, (hiff x hx y hy).2 hq⟩

theorem mapM_eq_ok_cons_iff {l : List α} {y : β} {ys : List β} :
    l.mapM f = .ok (y :: ys) ↔ ∃ x rest, l = x :: rest ∧ f x = .ok y ∧ rest.mapM f = .ok ys := by
  constructor
  · intro h
    cases l with
    | nil => cases h
    | cons x l =>
      obtain ⟨_, _, hx, hl, heq⟩ := mapM_cons_eq_ok_iff.1 h
      cases heq
      exact ⟨x, l, rfl, hx, hl⟩
  · rintro ⟨x, rest, rfl, hx, hrest⟩
    exact mapM_cons_eq_ok_iff.2 ⟨y, ys, hx, hrest, rfl⟩

theorem mapM_eq_ok_nil_iff {l : List α} : l.mapM f = .ok [] ↔ l = [] := by
  constructor
  · intro h
    cases l with
    | nil => rfl
    | cons x l =>
      obtain ⟨y, hy⟩ := exists_of_mapM_eq_ok h x List.mem_cons_self
      exact absurd ((mem_of_mapM_eq_ok h y).2 ⟨x, List.mem_cons_self, hy⟩) List.not_mem_nil
  · rintro rfl
    rfl

theorem mapM_eq_ok_singleton_iff {l : List α} {y : β} :
    l.mapM f = .ok [y] ↔ ∃ x, l = [x] ∧ f x = .ok y := by
  simp [mapM_eq_ok_cons_iff, mapM_eq_ok_nil_iff]

theorem mapM_ok (g : α → β) (l : List α) :
    l.mapM (fun x => (.ok (g x) : Except ε β)) = .ok (l.map g) := List.mapM_pure

/-- A stricter conversion succeeds if the other one does and all its results are good. -/
theorem mapM_eq_ok_iff_of_stricter {g : α → Except ε β} {P : β → Prop}
    (h : ∀ x y, f x = .ok y ↔ g x = .ok y ∧ P y) {l : List α} {ys : List β} :
    l.mapM f = .ok ys ↔ l.mapM g = .ok ys ∧ ∀ y ∈ ys, P y := by
  induction ys generalizing l with
  | nil => simp [mapM_eq_ok_nil_iff]
  | cons y ys ih =>
    simp only [mapM_eq_ok_cons_iff, h, ih, List.forall_mem_cons]
    constructor
    · rintro ⟨x, rest, rfl, ⟨hx, hy⟩, hrest, hys⟩
      exact ⟨⟨x, rest, rfl, hx, hrest⟩, hy, hys⟩
    · rintro ⟨⟨x, rest, rfl, hx, hrest⟩, hy, hys⟩
      exact ⟨x, rest, rfl, ⟨hx, hy⟩, hrest, hys⟩

/-- What is collected from the results in turn can be collected from the elements in turn. -/
theorem flatMap_of_mapM {γ : Type} {k : β → List γ} {k' : α → List γ} {l : List α} {ys : List β}
    (h : l.mapM f = .ok ys) (hk : ∀ x ∈ l, ∀ y, f x = .ok y → k y = k' x) :
    ys.flatMap k = l.flatMap k' := by
  induction ys generalizing l with
  | nil =>
    obtain rfl := mapM_eq_ok_nil_iff.1 h
    rfl
  | cons y ys ih =>
    obtain ⟨x, rest, rfl, hx, hrest⟩ := mapM_eq_ok_cons_iff.1 h
    rw [List.forall_mem_cons] at hk
    rw [List.flatMap_cons, List.flatMap_cons, hk.1 y hx, ih hrest hk.2]

/-- Elements that cannot fail can be left out. -/
theorem firstError?_filter {p : α → Bool} {l : List α}
    (h : ∀ x ∈ l, p x = false → errorOf? (f x) = none) :
    firstError? f (l.filter p) = firstError? f l := by
  induction l with
  | nil => rfl
  | cons x l ih =>
    rw [List.forall_mem_cons] at h
    rw [List.filter_cons, firstError?_cons f x l, ← ih h.2]
    cases hp : p x with
    | true => exact firstError?_cons f x _
    | false =>
      rw [h.1 hp]
      rfl

theorem firstError?_congr {γ : Type} {g : α → Except ε γ} {l : List α}
    (h : ∀ x ∈ l, errorOf? (f x) = errorOf? (g x)) : firstError? f l = firstError? g l := by
  induction l with
  | nil => rfl
  | cons x l ih =>
    rw [List.forall_mem_cons] at h
    rw [firstError?_cons, firstError?_cons, h.1, ih h.2]

/-- In another order the same elements are converted. -/
theorem perm_of_mapM {l l' : List α} (hl : l.Perm l') {ys : List β} (h : l.mapM f = .ok ys) :
    ∃ ys', l'.mapM f = .ok ys' ∧ ys.Perm ys' := by
  induction hl generalizing ys with
  | nil => exact ⟨ys, h, .refl ys⟩
  | cons x _ ih =>
    cases ys with
    | nil => cases mapM_eq_ok_nil_iff.1 h
    | cons y ys =>
      obtain ⟨_, rest, heq, hx, hrest⟩ := mapM_eq_ok_cons_iff.1 h
      cases heq
      obtain ⟨ys', hm, hp⟩ := ih hrest
      exact ⟨y :: ys', mapM_eq_ok_cons_iff.2 ⟨x, _, rfl, hx, hm⟩, hp.cons y⟩
  | swap x z l =>
    cases ys with
    | nil => cases mapM_eq_ok_nil_iff.1 h
    | cons y ys =>
      obtain ⟨_, _, heq, hy, hrest⟩ := mapM_eq_ok_cons_iff.1 h
      cases heq
      cases ys with
      | nil => cases mapM_eq_ok_nil_iff.1 hrest
      | cons y' ys =>
        obtain ⟨_, _, heq, hy', hrest⟩ := mapM_eq_ok_cons_iff.1 hrest
        cases heq
        have hswapped : (z :: l).mapM f = .ok (y :: ys) :=
          mapM_eq_ok_cons_iff.2 ⟨z, l, rfl, hy, hrest⟩
        exact ⟨y' :: y :: ys, mapM_eq_ok_cons_iff.2 ⟨x, _, rfl, hy', hswapped⟩, .swap y' y ys⟩
  | trans _ _ ih₁ ih₂ =>
    obtain ⟨ys', hm, hp⟩ := ih₁ h
    obtain ⟨ys'', hm', hp'⟩ := ih₂ hm
    exact ⟨ys'', hm', hp.trans hp'⟩

/-- Each element stands for several, of which the first that fails counts. -/
theorem firstError?_flatMap {γ δ : Type} {g : γ → Except ε δ} {k : α → List γ} {l : List α}
    (h : ∀ x ∈ l, errorOf? (f x) = firstError? g (k x)) :
    firstError? f l = firstError? g (l.flatMap k) := by
  induction l with
  | nil => rfl
  | cons x l ih =>
    rw [List.forall_mem_cons] at h
    have happend : firstError? g (k x ++ l.flatMap k) =
        (firstError? g (k x)).or (firstError? g (l.flatMap k)) := List.findSome?_append
    rw [List.flatMap_cons, happend, firstError?_cons, h.1, ih h.2]

end Sequence
end RecordFilter
