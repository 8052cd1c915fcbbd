import RecordFilter.Proofs.Sql.Shape
import RecordFilter.Proofs.Sql.Writing

/-!
# RecordFilter.Proofs.Sql.Clauses

What stands around a condition: the table, the order and the page. A statement is put together of phrases
that are cut into tokens on their own, because each ends the one before it (`Separator`, `Clause`). So a
whole statement is cut into its tokens (`render_written`), whatever stands in its names and keys.
-/

namespace RecordFilter
namespace Sql

variable {dialect : Dialect}

/-! ## Phrases -/

/-- Words that a phrase begins with. Anything may follow. -/
def Opening (dialect : Dialect) (text : String) (tokens : List Token) : Prop :=
  ∀ ⦃rest ts⦄, Lexes rest ts → Lexes (text.toList ++ rest) (tokens.map dialect.shown ++ ts)

/-- Words that end what stands before them. -/
structure Separator (dialect : Dialect) (text : String) (tokens : List Token) : Prop where
  ends : ∀ rest, Ends (text.toList ++ rest)
  opening : Opening dialect text tokens

/-- A phrase that ends what stands before it, and has to be ended itself. -/
structure Clause (dialect : Dialect) (text : String) (tokens : List Token) : Prop where
  ends : ∀ {rest}, Ends rest → Ends (text.toList ++ rest)
  written : Written dialect text tokens

theorem Clause.missing : Clause dialect "" [] := ⟨fun hr => hr, fun _ _ _ h => h⟩

section

variable {first second separator : String} {ts us vs : List Token}

theorem Opening.append (hfirst : Opening dialect first ts) (hsecond : Written dialect second us) :
    Written dialect (first ++ second) (ts ++ us) := by
  intro rest after hr h
  rw [String.toList_append, List.map_append, List.append_assoc, List.append_assoc]
  exact hfirst (hsecond hr h)

theorem Separator.clause (hseparator : Separator dialect separator us)
    (hsecond : Written dialect second vs) : Clause dialect (separator ++ second) (us ++ vs) := by
  refine ⟨fun {rest} _ => ?_, hseparator.opening.append hsecond⟩
  rw [String.toList_append, List.append_assoc]
  exact hseparator.ends _

theorem Written.append (hfirst : Written dialect first ts) (hsecond : Clause dialect second us) :
    Written dialect (first ++ second) (ts ++ us) := by
  intro rest after hr h
  rw [String.toList_append, List.map_append, List.append_assoc, List.append_assoc]
  exact hfirst (hsecond.ends hr) (hsecond.written hr h)

theorem Written.separated (hfirst : Written dialect first ts)
    (hseparator : Separator dialect separator us) (hsecond : Written dialect second vs) :
    Written dialect (first ++ separator ++ second) (ts ++ (us ++ vs)) := by
  rw [String.append_assoc]
  exact hfirst.append (hseparator.clause hsecond)

end

theorem number_written (n : Nat) : Written dialect (toString n) [.number n] := by
  intro rest ts hr h
  rw [toList_toString]
  exact .token (readToken?_digitsOf n hr) h

theorem space_separator : Separator dialect " " [] :=
  ⟨fun _ => ends_cons rfl, fun _ _ h => .space rfl h⟩

/-! ## Orders -/

namespace Dialect

def directionToken (descending : Bool) : Token := .word (if descending then "desc" else "asc")

/-- Missing values come last, in words or by a key of their own. -/
def orderTokens (dialect : Dialect) (tokens : List Token) (descending : Bool) : List Token :=
  match dialect with
  | .postgres => tokens ++ [directionToken descending] ++ [.word "nulls", .word "last"]
  | .sqlite =>
    [.word "case", .word "when"] ++ tokens ++ ([.word "is", .word "null", .word "then"] ++
      [.number 1, .word "else", .number 0]) ++ ([.word "end", .comma] ++ tokens) ++
        [directionToken descending]

theorem direction_written (descending : Bool) :
    Written dialect (direction descending) [directionToken descending] := by
  cases descending <;> exact fun _ _ hr h => .token (readToken?_word rfl rfl hr) h

theorem nullsLast_clause : Clause dialect " NULLS LAST" [.word "nulls", .word "last"] := by
  refine ⟨fun _ => ends_cons rfl, fun rest ts hr h => ?_⟩
  have hlast : Lexes ("LAST".toList ++ rest) (.word "last" :: ts) :=
    .token (readToken?_word rfl rfl hr) h
  exact .space rfl (.token rfl (.space rfl hlast))

theorem caseWhen_opening : Opening dialect "CASE WHEN " [.word "case", .word "when"] :=
  fun _ _ h => .token rfl (.space rfl (.token rfl (.space rfl h)))

theorem isNullThen_separator :
    Separator dialect " IS NULL THEN " [.word "is", .word "null", .word "then"] := by
  refine ⟨fun _ => ends_cons rfl, fun _ _ h => .space rfl (.token rfl (.space rfl ?_))⟩
  exact .token rfl (.space rfl (.token rfl (.space rfl h)))

theorem else_separator : Separator dialect " ELSE " [.word "else"] :=
  ⟨fun _ => ends_cons rfl, fun _ _ h => .space rfl (.token rfl (.space rfl h))⟩

theorem end_separator : Separator dialect " END, " [.word "end", .comma] :=
  ⟨fun _ => ends_cons rfl, fun _ _ h => .space rfl (.token rfl (.token rfl (.space rfl h)))⟩

theorem orderBy_written {text : String} {tokens : List Token} (ht : Written dialect text tokens)
    (descending : Bool) :
    Written dialect (dialect.orderBy text descending true) (dialect.orderTokens tokens descending) := by
  have hdirection : Written dialect _ _ := direction_written descending
  cases dialect with
  | postgres => exact (ht.separated space_separator hdirection).append nullsLast_clause
  | sqlite =>
    have hlast : Written .sqlite "1 ELSE 0" _ :=
      (number_written 1).separated else_separator (number_written 0)
    have hmissing := (caseWhen_opening.append ht).separated isNullThen_separator hlast
    exact (hmissing.separated end_separator ht).separated space_separator hdirection

end Dialect

/-! ## Clauses on their own -/

/-- The tokens of the condition, each placeholder with the number of the value that was bound for it. -/
def boundTokens (dialect : Dialect) (query : CompiledQuery) : List Token :=
  (bindPredicate dialect query.predicate Binding.empty).1.tokens dialect

theorem whereClause_isCutInto (table : String) (query : CompiledQuery) (page : Option (Nat × Nat)) :
    IsCutInto (render dialect table query page).whereClause
      ((boundTokens dialect query).map dialect.shown) :=
  (bindPredicate dialect query.predicate Binding.empty).1.written.isCutInto

/-- The tokens of the order, if there is one. -/
def orderedTokens (dialect : Dialect) (query : CompiledQuery) : List Token :=
  match query.order with
  | none => []
  | some order =>
    dialect.orderTokens
      ((bindOrder dialect order (bindPredicate dialect query.predicate Binding.empty).2).1.tokens dialect)
      order.direction.isDescending

theorem orderBy_isCutInto (table : String) (query : CompiledQuery) (page : Option (Nat × Nat)) :
    IsCutInto ((render dialect table query page).orderBy.getD "")
      ((orderedTokens dialect query).map dialect.shown) := by
  obtain ⟨predicate, order?, skipped⟩ := query
  cases order? with
  | none => exact Clause.missing.written.isCutInto
  | some order =>
    let b := (bindPredicate dialect predicate Binding.empty).2
    have hwritten : Written dialect _ _ :=
      dialect.orderBy_written (bindOrder dialect order b).1.written order.direction.isDescending
    exact hwritten.isCutInto

/-! ## Statements -/

def orderByTokens (dialect : Dialect) (order? : Option OrderClause) (b : Binding) : List Token :=
  match order? with
  | none => []
  | some order =>
    .word "order" :: .word "by" ::
      dialect.orderTokens ((bindOrder dialect order b).1.tokens dialect) order.direction.isDescending

def pageTokens : Option (Nat × Nat) → List Token
  | none => []
  | some (limit, offset) => [.word "limit", .number limit, .word "offset", .number offset]

def statementTokens (dialect : Dialect) (table : String) (query : CompiledQuery)
    (page : Option (Nat × Nat)) : List Token :=
  let condition := bindPredicate dialect query.predicate Binding.empty
  .word "select" :: .star :: .word "from" :: .ident table :: .word "where" ::
    (condition.1.tokens dialect ++ orderByTokens dialect query.order condition.2 ++ pageTokens page)

theorem orderBy_separator : Separator dialect " ORDER BY " [.word "order", .word "by"] :=
  ⟨fun _ => ends_cons rfl, fun _ _ h =>
    .space rfl (.token rfl (.space rfl (.token rfl (.space rfl h))))⟩

theorem orderBy_clause (order? : Option OrderClause) (b : Binding) :
    Clause dialect
      (match (bindOrderBy dialect order? b).1 with
        | some order => " ORDER BY " ++ order
        | none => "")
      (orderByTokens dialect order? b) := by
  cases order? with
  | none => exact .missing
  | some order =>
    have hwritten : Written dialect _ _ :=
      dialect.orderBy_written (bindOrder dialect order b).1.written order.direction.isDescending
    exact orderBy_separator.clause hwritten

theorem limit_opening : Opening dialect "LIMIT " [.word "limit"] :=
  fun _ _ h => .token rfl (.space rfl h)

theorem offset_separator : Separator dialect " OFFSET " [.word "offset"] :=
  ⟨fun _ => ends_cons rfl, fun _ _ h => .space rfl (.token rfl (.space rfl h))⟩

theorem page_clause (page : Option (Nat × Nat)) :
    Clause dialect
      (match page with
        | some (limit, offset) => " " ++ limitOffset limit offset
        | none => "")
      (pageTokens page) := by
  cases page with
  | none => exact .missing
  | some page =>
    have hlimit : Written dialect _ _ := limit_opening.append (number_written page.1)
    exact space_separator.clause (hlimit.separated offset_separator (number_written page.2))

theorem selectFrom_opening :
    Opening dialect "SELECT * FROM " [.word "select", .star, .word "from"] :=
  fun _ _ h => .token rfl (.space rfl (.token rfl (.space rfl (.token rfl (.space rfl h)))))

theorem where_separator : Separator dialect " WHERE " [.word "where"] :=
  ⟨fun _ => ends_cons rfl, fun _ _ h => .space rfl (.token rfl (.space rfl h))⟩

/-- A statement is cut into its tokens, whatever stands in its names and keys. -/
theorem render_written (table : String) (query : CompiledQuery) (page : Option (Nat × Nat)) :
    Written dialect (render dialect table query page).text
      (statementTokens dialect table query page) := by
  have htable : Written dialect _ _ := selectFrom_opening.append (quoteIdent_written table)
  have hwhere := htable.separated where_separator
    (bindPredicate dialect query.predicate Binding.empty).1.written
  exact (hwhere.append (orderBy_clause query.order _)).append (page_clause page)

end Sql
end RecordFilter
