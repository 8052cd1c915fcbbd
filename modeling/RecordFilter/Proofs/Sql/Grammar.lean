import RecordFilter.Proofs.Sql.Tokens

/-!
# RecordFilter.Proofs.Sql.Grammar

The expressions of SQL that a condition is written in, with the usual precedence: `OR` binds weakest, then
`AND`, then comparisons, `LIKE` and `BETWEEN`, then casts. A chain of `AND` or `OR` is read from left to
right. Each rule is a relation on what may stand in parentheses; `Reads` ties the knot.

A list of tokens is read in one way at most (`Reads.unique`). The argument is the same for every rule: what
is read ends where the next token binds less strongly than anything that could go on with it
(`Unambiguous`).
-/

namespace RecordFilter
namespace Sql

inductive Expr where
  | column (column : Column)
  | parameter (index : Nat)
  | string (text : String)
  | number (value : Nat)
  | call (name : String) (arguments : List Expr)
  | cast (inner : Expr)
  | compare (left : Expr) (comparison : Comparison) (right : Expr)
  | like (left pattern : Expr)
  | likeEscape (left pattern escape : Expr)
  | between (inner low high : Expr)
  | and (left right : Expr)
  | or (left right : Expr)

def keywords : List String := ["and", "or", "like", "escape", "between", "cast", "as"]

/-! ## Rules -/

section

variable {α : Type}

/-- One item or more with the separator between them. -/
inductive Chain (item : List Token → α → Prop) (separator : Token) : List Token → List α → Prop where
  | one {tokens : List Token} {x : α} : item tokens x → Chain item separator tokens [x]
  | more {first rest : List Token} {x : α} {xs : List α} : item first x →
      Chain item separator rest xs → Chain item separator (first ++ separator :: rest) (x :: xs)

end

section

variable (inner : List Token → Expr → Prop)

inductive Primary : List Token → Expr → Prop where
  | column {name : String} : Primary [.ident name] (.column ⟨none, name⟩)
  | qualified {table name : String} :
      Primary [.ident table, .dot, .ident name] (.column ⟨some table, name⟩)
  | parameter {index : Nat} : Primary [.parameter (some index)] (.parameter index)
  | string {text : String} : Primary [.string text] (.string text)
  | number {value : Nat} : Primary [.number value] (.number value)
  | call {name : String} {tokens : List Token} {arguments : List Expr} : name ∉ keywords →
      Chain inner .comma tokens arguments →
      Primary (.word name :: .opening :: (tokens ++ [.closing])) (.call name arguments)
  | cast {tokens : List Token} {e : Expr} : inner tokens e →
      Primary (.word "cast" :: .opening :: (tokens ++ [.word "as", .word "text", .closing])) (.cast e)
  | parens {tokens : List Token} {e : Expr} : inner tokens e →
      Primary (.opening :: (tokens ++ [.closing])) e

/-- Casts behind an expression. -/
inductive Casts : List Token → (Expr → Expr) → Prop where
  | none : Casts [] id
  | more {tokens : List Token} {f : Expr → Expr} : Casts tokens f →
      Casts (.typed :: .word "text" :: tokens) fun e => f (.cast e)

inductive Operated : List Token → Expr → Prop where
  | intro {tokens casts : List Token} {e : Expr} {f : Expr → Expr} : Primary inner tokens e →
      Casts casts f → Operated (tokens ++ casts) (f e)

/-- What an expression is compared with. -/
inductive Comparand : List Token → (Expr → Expr) → Prop where
  | none : Comparand [] id
  | compare {comparison : Comparison} {tokens : List Token} {right : Expr} :
      Operated inner tokens right →
      Comparand (.comparison comparison :: tokens) fun left => .compare left comparison right
  | like {tokens : List Token} {pattern : Expr} : Operated inner tokens pattern →
      Comparand (.word "like" :: tokens) fun left => .like left pattern
  | likeEscape {first rest : List Token} {pattern escape : Expr} : Operated inner first pattern →
      Operated inner rest escape →
      Comparand (.word "like" :: (first ++ .word "escape" :: rest)) fun left =>
        .likeEscape left pattern escape
  | between {first rest : List Token} {low high : Expr} : Operated inner first low →
      Operated inner rest high →
      Comparand (.word "between" :: (first ++ .word "and" :: rest)) fun e => .between e low high

inductive Compared : List Token → Expr → Prop where
  | intro {first rest : List Token} {e : Expr} {f : Expr → Expr} : Operated inner first e →
      Comparand inner rest f → Compared (first ++ rest) (f e)

inductive Conjunction : List Token → Expr → Prop where
  | intro {tokens : List Token} {e : Expr} {es : List Expr} :
      Chain (Compared inner) (.word "and") tokens (e :: es) → Conjunction tokens (es.foldl .and e)

inductive Disjunction : List Token → Expr → Prop where
  | intro {tokens : List Token} {e : Expr} {es : List Expr} :
      Chain (Conjunction inner) (.word "or") tokens (e :: es) → Disjunction tokens (es.foldl .or e)

end

/-- With parentheses at most so deep. -/
def ReadsWithin : Nat → List Token → Expr → Prop
  | 0, _, _ => False
  | depth + 1, tokens, e => Disjunction (ReadsWithin depth) tokens e

def Reads (tokens : List Token) (e : Expr) : Prop := ∃ depth, ReadsWithin depth tokens e

/-! ## Precedence -/

/-- How strongly a token goes on with what stands before it. -/
def Token.power : Token → Nat
  | .dot => 6
  | .typed => 5
  | .comparison _ => 4
  | .word name =>
    if name = "like" ∨ name = "between" ∨ name = "escape" then 4
    else if name = "and" then 3
    else if name = "or" then 2
    else 0
  | .comma => 1
  | _ => 0

/-- The next token, if there is one, binds less strongly. -/
def Stops (power : Nat) (rest : List Token) : Prop := ∀ token ∈ rest.head?, token.power < power

theorem stops_nil (power : Nat) : Stops power [] := by simp [Stops]

theorem stops_cons {power : Nat} {token : Token} {rest : List Token} (h : token.power < power) :
    Stops power (token :: rest) := by simpa [Stops] using h

theorem Stops.mono {low high : Nat} {rest : List Token} (h : Stops low rest) (hle : low ≤ high) :
    Stops high rest := fun token ht => Nat.lt_of_lt_of_le (h token ht) hle

theorem Stops.power_lt {power : Nat} {token : Token} {rest : List Token}
    (h : Stops power (token :: rest)) : token.power < power := h token (by simp)

/-- Nothing goes on with a closing parenthesis. -/
theorem stops_closing {power : Nat} (rest : List Token) : Stops (power + 1) (.closing :: rest) :=
  stops_cons (Nat.succ_pos power)

theorem stops_as {power : Nat} (rest : List Token) : Stops (power + 1) (.word "as" :: rest) :=
  stops_cons (Nat.succ_pos power)

/-- The second operand of `LIKE` ends before `ESCAPE`. -/
theorem stops_escape (rest : List Token) : Stops 5 (.word "escape" :: rest) := stops_cons (by decide)

/-- The second operand of `BETWEEN` ends before its `AND`. -/
theorem stops_and (rest : List Token) : Stops 5 (.word "and" :: rest) := stops_cons (by decide)

/-- Where it ends before a token that binds less strongly, a text is read in one way. -/
def Unambiguous {α : Type} (power : Nat) (rule : List Token → α → Prop) : Prop :=
  ∀ ⦃tokens x rest tokens' x' rest'⦄, rule tokens x → rule tokens' x' →
    tokens ++ rest = tokens' ++ rest' → Stops power rest → Stops power rest' → x = x' ∧ rest = rest'

section

variable {inner : List Token → Expr → Prop}

theorem Chain.unambiguous {α : Type} {item : List Token → α → Prop} {power : Nat} (separator : Token)
    (hi : Unambiguous power item) (hs : separator.power < power) :
    Unambiguous separator.power (Chain item separator) := by
  intro tokens xs rest tokens' xs' rest' h h' heq hr hr'
  induction h generalizing tokens' xs' with
  | one hx =>
    cases h' with
    | one hx' =>
      obtain ⟨rfl, rfl⟩ := hi hx hx' heq (hr.mono (Nat.le_of_lt hs)) (hr'.mono (Nat.le_of_lt hs))
      exact ⟨rfl, rfl⟩
    | more hx' hxs' =>
      rw [List.append_assoc, List.cons_append] at heq
      obtain ⟨_, rfl⟩ := hi hx hx' heq (hr.mono (Nat.le_of_lt hs)) (stops_cons hs)
      exact absurd hr.power_lt (Nat.lt_irrefl _)
  | more hx hxs ih =>
    rw [List.append_assoc, List.cons_append] at heq
    cases h' with
    | one hx' =>
      obtain ⟨_, rfl⟩ := hi hx hx' heq (stops_cons hs) (hr'.mono (Nat.le_of_lt hs))
      exact absurd hr'.power_lt (Nat.lt_irrefl _)
    | more hx' hxs' =>
      rw [List.append_assoc, List.cons_append] at heq
      obtain ⟨rfl, heq⟩ := hi hx hx' heq (stops_cons hs) (stops_cons hs)
      obtain ⟨rfl, rfl⟩ := ih hxs' (List.cons.inj heq).2
      exact ⟨rfl, rfl⟩

theorem Primary.unambiguous (hinner : Unambiguous 2 inner) : Unambiguous 6 (Primary inner) := by
  intro tokens e rest tokens' e' rest' h h' heq hr hr'
  -- The first token tells most rules apart.
  cases h <;> cases h' <;> simp at heq
  case column.column => simp [heq]
  case column.qualified =>
    rw [heq.2] at hr
    exact absurd hr.power_lt (by decide)
  case qualified.column =>
    rw [← heq.2] at hr'
    exact absurd hr'.power_lt (by decide)
  case qualified.qualified => simp [heq]
  case parameter.parameter => simp [heq]
  case string.string => simp [heq]
  case number.number => simp [heq]
  case call.call ha _ _ _ _ ha' =>
    have hargs := Chain.unambiguous .comma hinner (by decide)
    obtain ⟨rfl, hrest⟩ := hargs ha ha' heq.2 (stops_closing _) (stops_closing _)
    simp_all
  case call.cast hn _ _ _ _ => exact absurd heq.1 (by rintro rfl; exact hn (by decide))
  case cast.call hn _ => exact absurd heq.1 (by rintro rfl; exact hn (by decide))
  case cast.cast he _ _ he' =>
    obtain ⟨rfl, hrest⟩ := hinner he he' heq (stops_as _) (stops_as _)
    simpa using hrest
  case parens.parens he _ he' =>
    obtain ⟨rfl, hrest⟩ := hinner he he' heq (stops_closing _) (stops_closing _)
    simpa using hrest

theorem Casts.unambiguous : Unambiguous 5 Casts := by
  intro tokens f rest tokens' f' rest' h h' heq hr hr'
  induction h generalizing tokens' f' with
  | none =>
    cases h' with
    | none => exact ⟨rfl, heq⟩
    | more _ =>
      rw [List.nil_append] at heq
      subst heq
      exact absurd hr.power_lt (by decide)
  | more _ ih =>
    cases h' with
    | none =>
      rw [List.nil_append] at heq
      subst heq
      exact absurd hr'.power_lt (by decide)
    | more hc =>
      obtain ⟨rfl, rfl⟩ := ih hc (by simpa using heq)
      exact ⟨rfl, rfl⟩

theorem Casts.stops {casts rest : List Token} {f : Expr → Expr} (h : Casts casts f)
    (hr : Stops 5 rest) : Stops 6 (casts ++ rest) := by
  cases h with
  | none => exact hr.mono (by omega)
  | more _ => exact stops_cons (by decide)

theorem Operated.unambiguous (hinner : Unambiguous 2 inner) : Unambiguous 5 (Operated inner) := by
  rintro _ _ rest _ _ rest' ⟨hp, hc⟩ ⟨hp', hc'⟩ heq hr hr'
  rw [List.append_assoc, List.append_assoc] at heq
  obtain ⟨rfl, heq⟩ := Primary.unambiguous hinner hp hp' heq (hc.stops hr) (hc'.stops hr')
  obtain ⟨rfl, rfl⟩ := Casts.unambiguous hc hc' heq hr hr'
  exact ⟨rfl, rfl⟩

theorem Comparand.unambiguous (hinner : Unambiguous 2 inner) : Unambiguous 4 (Comparand inner) := by
  have ho := Operated.unambiguous hinner
  intro tokens f rest tokens' f' rest' h h' heq hr hr'
  have hr5 := hr.mono (show 4 ≤ 5 by omega)
  have hr5' := hr'.mono (show 4 ≤ 5 by omega)
  cases h <;> cases h' <;> simp at heq
  case none.none => exact ⟨rfl, heq⟩
  case none.compare | none.like | none.likeEscape | none.between =>
    subst heq
    exact absurd hr.power_lt (by simp [Token.power])
  case compare.none | like.none | likeEscape.none | between.none =>
    subst heq
    exact absurd hr'.power_lt (by simp [Token.power])
  case compare.compare hb _ _ _ hb' =>
    obtain ⟨rfl, rfl⟩ := ho hb hb' heq.2 hr5 hr5'
    exact ⟨by rw [heq.1], rfl⟩
  case like.like hp _ _ hp' =>
    obtain ⟨rfl, rfl⟩ := ho hp hp' heq hr5 hr5'
    exact ⟨rfl, rfl⟩
  case like.likeEscape hp _ _ _ _ hp' _ =>
    obtain ⟨_, rfl⟩ := ho hp hp' heq hr5 (stops_escape _)
    exact absurd hr.power_lt (by decide)
  case likeEscape.like hp _ _ _ hp' =>
    obtain ⟨_, rfl⟩ := ho hp hp' heq (stops_escape _) hr5'
    exact absurd hr'.power_lt (by decide)
  case likeEscape.likeEscape hp he _ _ _ _ hp' he' =>
    obtain ⟨rfl, heq⟩ := ho hp hp' heq (stops_escape _) (stops_escape _)
    obtain ⟨rfl, rfl⟩ := ho he he' (List.cons.inj heq).2 hr5 hr5'
    exact ⟨rfl, rfl⟩
  case between.between hl hh _ _ _ _ hl' hh' =>
    obtain ⟨rfl, heq⟩ := ho hl hl' heq (stops_and _) (stops_and _)
    obtain ⟨rfl, rfl⟩ := ho hh hh' (List.cons.inj heq).2 hr5 hr5'
    exact ⟨rfl, rfl⟩

theorem Comparand.stops {tokens rest : List Token} {f : Expr → Expr} (h : Comparand inner tokens f)
    (hr : Stops 4 rest) : Stops 5 (tokens ++ rest) := by
  cases h with
  | none => exact hr.mono (by omega)
  | compare _ => exact stops_cons (by simp [Token.power])
  | like _ => exact stops_cons (by decide)
  | likeEscape _ _ => exact stops_cons (by decide)
  | between _ _ => exact stops_cons (by decide)

theorem Compared.unambiguous (hinner : Unambiguous 2 inner) : Unambiguous 4 (Compared inner) := by
  rintro _ _ rest _ _ rest' ⟨ho, hc⟩ ⟨ho', hc'⟩ heq hr hr'
  rw [List.append_assoc, List.append_assoc] at heq
  obtain ⟨rfl, heq⟩ := Operated.unambiguous hinner ho ho' heq (hc.stops hr) (hc'.stops hr')
  obtain ⟨rfl, rfl⟩ := Comparand.unambiguous hinner hc hc' heq hr hr'
  exact ⟨rfl, rfl⟩

theorem Conjunction.unambiguous (hinner : Unambiguous 2 inner) : Unambiguous 3 (Conjunction inner) := by
  rintro _ _ rest _ _ rest' ⟨hc⟩ ⟨hc'⟩ heq hr hr'
  obtain ⟨hlist, rfl⟩ := Chain.unambiguous (.word "and") (Compared.unambiguous hinner)
    (by decide) hc hc' heq hr hr'
  cases hlist
  exact ⟨rfl, rfl⟩

theorem Disjunction.unambiguous (hinner : Unambiguous 2 inner) : Unambiguous 2 (Disjunction inner) := by
  rintro _ _ rest _ _ rest' ⟨hc⟩ ⟨hc'⟩ heq hr hr'
  obtain ⟨hlist, rfl⟩ := Chain.unambiguous (.word "or") (Conjunction.unambiguous hinner)
    (by decide) hc hc' heq hr hr'
  cases hlist
  exact ⟨rfl, rfl⟩

theorem ReadsWithin.unambiguous (depth : Nat) : Unambiguous 2 (ReadsWithin depth) := by
  induction depth with
  | zero => rintro _ _ _ _ _ _ h; exact h.elim
  | succ depth ih => exact Disjunction.unambiguous ih

end

/-! ## Depth -/

/-- What is read at one depth is read at every greater one. -/
def Grows (family : Nat → List Token → Expr → Prop) : Prop :=
  ∀ {low high : Nat}, low ≤ high → ∀ {tokens e}, family low tokens e → family high tokens e

theorem Chain.mono {α : Type} {item item' : List Token → α → Prop} {separator : Token}
    (h : ∀ {tokens x}, item tokens x → item' tokens x) {tokens : List Token} {xs : List α}
    (hc : Chain item separator tokens xs) : Chain item' separator tokens xs := by
  induction hc with
  | one hx => exact .one (h hx)
  | more hx _ ih => exact .more (h hx) ih

/-- A rule only asks for more to be read inside, and never for more than some depth of it. -/
structure IsRule {α : Type} (rule : (List Token → Expr → Prop) → List Token → α → Prop) : Prop where
  mono : ∀ {inner outer : List Token → Expr → Prop}, (∀ {tokens e}, inner tokens e → outer tokens e) →
    ∀ {tokens x}, rule inner tokens x → rule outer tokens x
  bounded : ∀ {family : Nat → List Token → Expr → Prop}, Grows family →
    ∀ {tokens x}, rule (fun tokens e => ∃ depth, family depth tokens e) tokens x →
      ∃ depth, rule (family depth) tokens x

namespace IsRule

variable {α β : Type} {rule : (List Token → Expr → Prop) → List Token → α → Prop}
  {rule' : (List Token → Expr → Prop) → List Token → β → Prop}

theorem both (hrule : IsRule rule) (hrule' : IsRule rule') {family : Nat → List Token → Expr → Prop}
    (hf : Grows family) {tokens tokens' : List Token} {x : α} {y : β}
    (h : rule (fun tokens e => ∃ depth, family depth tokens e) tokens x)
    (h' : rule' (fun tokens e => ∃ depth, family depth tokens e) tokens' y) :
    ∃ depth, rule (family depth) tokens x ∧ rule' (family depth) tokens' y := by
  obtain ⟨m, hm⟩ := hrule.bounded hf h
  obtain ⟨n, hn⟩ := hrule'.bounded hf h'
  exact ⟨max m n, hrule.mono (hf (Nat.le_max_left m n)) hm, hrule'.mono (hf (Nat.le_max_right m n)) hn⟩

theorem inside : IsRule fun inner => inner := ⟨fun h => h, fun {_} _ {_ _} h => h⟩

theorem chain (hrule : IsRule rule) (separator : Token) :
    IsRule fun inner => Chain (rule inner) separator := by
  constructor
  · intro inner outer h tokens xs hc
    exact hc.mono (hrule.mono h)
  · intro family hf tokens xs hc
    induction hc with
    | one hx =>
      obtain ⟨depth, hx⟩ := hrule.bounded hf hx
      exact ⟨depth, .one hx⟩
    | more hx _ ih =>
      obtain ⟨m, hx⟩ := hrule.bounded hf hx
      obtain ⟨n, hxs⟩ := ih
      exact ⟨max m n, .more (hrule.mono (hf (Nat.le_max_left m n)) hx)
        (hxs.mono (hrule.mono (hf (Nat.le_max_right m n))))⟩

theorem primary : IsRule Primary := by
  constructor
  · intro inner outer h tokens e hp
    cases hp with
    | column => exact .column
    | qualified => exact .qualified
    | parameter => exact .parameter
    | string => exact .string
    | number => exact .number
    | call hn ha => exact .call hn ((chain inside .comma).mono h ha)
    | cast he => exact .cast (h he)
    | parens he => exact .parens (h he)
  · intro family hf tokens e hp
    cases hp with
    | column => exact ⟨0, .column⟩
    | qualified => exact ⟨0, .qualified⟩
    | parameter => exact ⟨0, .parameter⟩
    | string => exact ⟨0, .string⟩
    | number => exact ⟨0, .number⟩
    | call hn ha =>
      obtain ⟨depth, ha⟩ := (chain inside .comma).bounded hf ha
      exact ⟨depth, .call hn ha⟩
    | cast he =>
      obtain ⟨depth, he⟩ := he
      exact ⟨depth, .cast he⟩
    | parens he =>
      obtain ⟨depth, he⟩ := he
      exact ⟨depth, .parens he⟩

theorem operated : IsRule Operated := by
  constructor
  · rintro inner outer h _ _ ⟨hp, hc⟩
    exact ⟨primary.mono h hp, hc⟩
  · rintro family hf _ _ ⟨hp, hc⟩
    obtain ⟨depth, hp⟩ := primary.bounded hf hp
    exact ⟨depth, hp, hc⟩

theorem comparand : IsRule Comparand := by
  constructor
  · intro inner outer h tokens f hc
    have ho : ∀ {tokens e}, Operated inner tokens e → Operated outer tokens e := operated.mono h
    cases hc with
    | none => exact .none
    | compare hb => exact .compare (ho hb)
    | like hp => exact .like (ho hp)
    | likeEscape hp he => exact .likeEscape (ho hp) (ho he)
    | between hl hh => exact .between (ho hl) (ho hh)
  · intro family hf tokens f hc
    cases hc with
    | none => exact ⟨0, .none⟩
    | compare hb =>
      obtain ⟨depth, hb⟩ := operated.bounded hf hb
      exact ⟨depth, .compare hb⟩
    | like hp =>
      obtain ⟨depth, hp⟩ := operated.bounded hf hp
      exact ⟨depth, .like hp⟩
    | likeEscape hp he =>
      obtain ⟨depth, hp, he⟩ := operated.both operated hf hp he
      exact ⟨depth, .likeEscape hp he⟩
    | between hl hh =>
      obtain ⟨depth, hl, hh⟩ := operated.both operated hf hl hh
      exact ⟨depth, .between hl hh⟩

theorem compared : IsRule Compared := by
  constructor
  · rintro inner outer h _ _ ⟨ho, hc⟩
    exact ⟨operated.mono h ho, comparand.mono h hc⟩
  · rintro family hf _ _ ⟨ho, hc⟩
    obtain ⟨depth, ho, hc⟩ := operated.both comparand hf ho hc
    exact ⟨depth, ho, hc⟩

theorem conjunction : IsRule Conjunction := by
  have hchain := chain compared (.word "and")
  constructor
  · rintro inner outer h _ _ ⟨hc⟩
    exact ⟨hchain.mono h hc⟩
  · rintro family hf _ _ ⟨hc⟩
    obtain ⟨depth, hc⟩ := hchain.bounded hf hc
    exact ⟨depth, ⟨hc⟩⟩

theorem disjunction : IsRule Disjunction := by
  have hchain := chain conjunction (.word "or")
  constructor
  · rintro inner outer h _ _ ⟨hc⟩
    exact ⟨hchain.mono h hc⟩
  · rintro family hf _ _ ⟨hc⟩
    obtain ⟨depth, hc⟩ := hchain.bounded hf hc
    exact ⟨depth, ⟨hc⟩⟩

end IsRule

theorem ReadsWithin.succ {depth : Nat} {tokens : List Token} {e : Expr}
    (h : ReadsWithin depth tokens e) : ReadsWithin (depth + 1) tokens e := by
  induction depth generalizing tokens e with
  | zero => exact h.elim
  | succ depth ih => exact IsRule.disjunction.mono ih h

theorem ReadsWithin.grows : Grows ReadsWithin := by
  intro low high hle tokens e h
  induction hle with
  | refl => exact h
  | step _ ih => exact ih.succ

/-- What the rules read, with what they read in parentheses, is read. -/
theorem Reads.intro {tokens : List Token} {e : Expr} (h : Disjunction Reads tokens e) :
    Reads tokens e := by
  obtain ⟨depth, h⟩ := IsRule.disjunction.bounded ReadsWithin.grows h
  exact ⟨depth + 1, h⟩

/-- Tokens are read as one expression at most. -/
theorem Reads.unique {tokens : List Token} {e e' : Expr} (h : Reads tokens e) (h' : Reads tokens e') :
    e = e' := by
  obtain ⟨depth, h, h'⟩ := IsRule.inside.both IsRule.inside ReadsWithin.grows h h'
  exact (ReadsWithin.unambiguous depth h h' rfl (stops_nil 2) (stops_nil 2)).1

/-! ## From stronger to weaker rules -/

section

variable {inner : List Token → Expr → Prop} {tokens : List Token} {e : Expr}

theorem Primary.operated (h : Primary inner tokens e) : Operated inner tokens e := by
  simpa using Operated.intro h .none

theorem Operated.compared (h : Operated inner tokens e) : Compared inner tokens e := by
  simpa using Compared.intro h .none

theorem Operated.compare {us : List Token} {right : Expr} {comparison : Comparison}
    (h : Operated inner tokens e) (hright : Operated inner us right) :
    Compared inner (tokens ++ .comparison comparison :: us) (.compare e comparison right) :=
  Compared.intro (f := fun left => .compare left comparison right) h (.compare hright)

theorem Operated.likeEscape {us vs : List Token} {pattern escape : Expr} (h : Operated inner tokens e)
    (hpattern : Operated inner us pattern) (hescape : Operated inner vs escape) :
    Compared inner (tokens ++ .word "like" :: (us ++ .word "escape" :: vs))
      (.likeEscape e pattern escape) :=
  Compared.intro (f := fun left => .likeEscape left pattern escape) h (.likeEscape hpattern hescape)

theorem Operated.between {us vs : List Token} {low high : Expr} (h : Operated inner tokens e)
    (hlow : Operated inner us low) (hhigh : Operated inner vs high) :
    Compared inner (tokens ++ .word "between" :: (us ++ .word "and" :: vs)) (.between e low high) :=
  Compared.intro (f := fun x => .between x low high) h (.between hlow hhigh)

theorem Compared.conjunction (h : Compared inner tokens e) : Conjunction inner tokens e :=
  ⟨.one h⟩

theorem Conjunction.disjunction (h : Conjunction inner tokens e) : Disjunction inner tokens e :=
  ⟨.one h⟩

theorem Compared.reads (h : Compared Reads tokens e) : Reads tokens e :=
  Reads.intro h.conjunction.disjunction

end

/-- A cast behind all others is the outermost. -/
theorem Casts.snoc {casts : List Token} {f : Expr → Expr} (h : Casts casts f) :
    Casts (casts ++ [.typed, .word "text"]) fun e => .cast (f e) := by
  induction h with
  | none => exact .more .none
  | more _ ih => exact .more ih

theorem Operated.cast {inner : List Token → Expr → Prop} {tokens : List Token} {e : Expr}
    (h : Operated inner tokens e) : Operated inner (tokens ++ [.typed, .word "text"]) (.cast e) := by
  cases h with
  | intro hp hc =>
    rw [List.append_assoc]
    exact Operated.intro (f := fun e => .cast _) hp hc.snoc

theorem Chain.of_list {α β : Type} {item : List Token → α → Prop} {tokens : List Token} {x : α}
    {tokensOf : β → List Token} {f : β → α} {rest : List β} (separator : Token)
    (hx : item tokens x) (hrest : ∀ y ∈ rest, item (tokensOf y) (f y)) :
    Chain item separator (tokens ++ rest.flatMap fun y => separator :: tokensOf y) (x :: rest.map f) := by
  induction rest generalizing tokens x with
  | nil =>
    have hone : Chain item separator tokens [x] := .one hx
    simpa using hone
  | cons y rest ih =>
    exact .more hx (ih (hrest y List.mem_cons_self) fun z hz => hrest z (List.mem_cons_of_mem y hz))

/-! ## Texts -/

/-- The text is written for the expression. -/
def Denotes (text : String) (e : Expr) : Prop :=
  ∃ tokens, Lexes text.toList tokens ∧ Reads (numberFrom 1 tokens) e

theorem Denotes.unique {text : String} {e e' : Expr} (h : Denotes text e) (h' : Denotes text e') :
    e = e' := by
  obtain ⟨tokens, hl, hr⟩ := h
  obtain ⟨tokens', hl', hr'⟩ := h'
  rw [← hl.deterministic hl'] at hr'
  exact hr.unique hr'

end Sql
end RecordFilter
