import RecordFilter.Proofs.Sql.Grammar

/-!
# RecordFilter.Proofs.Sql.Writing

What is written is read back. Terms and conditions have their tokens (`Term.tokens`, `Condition.tokens`)
and their expressions (`Term.expr`, `Condition.expr`). The written text is cut into the tokens
(`Condition.written`), except that one of the dialects does not show the numbers of the parameters, and
the tokens are read as the expression (`Condition.reads`).
-/

namespace RecordFilter
namespace Sql

/-! ## Terms and conditions -/

@[elab_as_elim]
theorem Term.induction {motive : Term → Prop} (column : ∀ source, motive (.column source))
    (parameter : ∀ index, motive (.parameter index)) (literal : ∀ text, motive (.literal text))
    (cast : ∀ term, motive term → motive (.cast term))
    (fold : ∀ term, motive term → motive (.fold term))
    (jsonText : ∀ source keys, (∀ key ∈ keys, motive key) → motive (.jsonText source keys)) :
    ∀ term, motive term
  | .column source => column source
  | .parameter index => parameter index
  | .literal text => literal text
  | .cast term => cast term (Term.induction column parameter literal cast fold jsonText term)
  | .fold term => fold term (Term.induction column parameter literal cast fold jsonText term)
  | .jsonText source keys => jsonText source keys fun key _ =>
      Term.induction column parameter literal cast fold jsonText key

@[elab_as_elim]
theorem Condition.induction {motive : Condition → Prop}
    (all : ∀ children, (∀ child ∈ children, motive child) → motive (.all children))
    (any : ∀ children, (∀ child ∈ children, motive child) → motive (.any children))
    (compare : ∀ left comparison right, motive (.compare left comparison right))
    (like : ∀ left pattern, motive (.like left pattern))
    (between : ∀ term low high, motive (.between term low high)) : ∀ condition, motive condition
  | .all children => all children fun child _ =>
      Condition.induction all any compare like between child
  | .any children => any children fun child _ =>
      Condition.induction all any compare like between child
  | .compare left comparison right => compare left comparison right
  | .like left pattern => like left pattern
  | .between term low high => between term low high

mutual

/-- Every place inside a document has a key. -/
def Term.IsProper : Term → Prop
  | .column _ | .parameter _ | .literal _ => True
  | .cast term => term.IsProper
  | .fold term => term.IsProper
  | .jsonText _ keys => keys ≠ [] ∧ Term.AreProper keys

def Term.AreProper : List Term → Prop
  | [] => True
  | term :: rest => term.IsProper ∧ Term.AreProper rest

end

theorem Term.areProper_iff {terms : List Term} : Term.AreProper terms ↔ ∀ term ∈ terms, term.IsProper := by
  induction terms with
  | nil => simp [Term.AreProper]
  | cons term terms ih => simp [Term.AreProper, ih]

mutual

def Condition.IsProper : Condition → Prop
  | .all children => Condition.AreProper children
  | .any children => Condition.AreProper children
  | .compare left _ right => left.IsProper ∧ right.IsProper
  | .like left pattern => left.IsProper ∧ pattern.IsProper
  | .between term low high => term.IsProper ∧ low.IsProper ∧ high.IsProper

def Condition.AreProper : List Condition → Prop
  | [] => True
  | condition :: rest => condition.IsProper ∧ Condition.AreProper rest

end

theorem Condition.areProper_iff {conditions : List Condition} :
    Condition.AreProper conditions ↔ ∀ condition ∈ conditions, condition.IsProper := by
  induction conditions with
  | nil => simp [Condition.AreProper]
  | cons condition conditions ih => simp [Condition.AreProper, ih]

/-! ## Tokens -/

def Column.tokens (column : Column) : List Token :=
  match column.alias? with
  | none => [.ident column.name]
  | some table => [.ident table, .dot, .ident column.name]

namespace Dialect

def castTokens (dialect : Dialect) (tokens : List Token) : List Token :=
  match dialect with
  | .postgres => tokens ++ [.typed, .word "text"]
  | .sqlite => .word "cast" :: .opening :: (tokens ++ [.word "as", .word "text", .closing])

def jsonTokens (dialect : Dialect) (tokens : List Token) : List Token :=
  match dialect with
  | .postgres => .word "jsonb_extract_path_text" :: .opening :: (tokens ++ [.closing])
  | .sqlite => castTokens .sqlite (.word "json_extract" :: .opening :: (tokens ++ [.closing]))

/-- One of the dialects does not show the number of a parameter. -/
def shown (dialect : Dialect) : Token → Token
  | .parameter (some index) =>
    match dialect with
    | .postgres => .parameter (some index)
    | .sqlite => .parameter none
  | token => token

end Dialect

mutual

def Term.tokens (dialect : Dialect) : Term → List Token
  | .column source => source.tokens
  | .parameter index => [.parameter (some index)]
  | .literal text => [.string text]
  | .cast term => dialect.castTokens (Term.tokens dialect term)
  | .fold term =>
    .word "unaccent" :: .opening ::
      (.word "lower" :: .opening :: (Term.tokens dialect term ++ [.closing]) ++ [.closing])
  | .jsonText source keys =>
    dialect.jsonTokens (source.tokens ++ if keys.isEmpty then [.comma] else Term.tokensOf dialect keys)

/-- The tokens of further arguments. -/
def Term.tokensOf (dialect : Dialect) : List Term → List Token
  | [] => []
  | term :: rest => .comma :: (Term.tokens dialect term ++ Term.tokensOf dialect rest)

end

mutual

def Condition.tokens (dialect : Dialect) : Condition → List Token
  | .all [] => [.number 1, .comparison .eq, .number 1]
  | .all (child :: rest) =>
    .opening :: (Condition.tokens dialect child ++ Condition.tokensOf dialect (.word "and") rest ++
      [.closing])
  | .any [] => [.number 1, .comparison .eq, .number 0]
  | .any (child :: rest) =>
    .opening :: (Condition.tokens dialect child ++ Condition.tokensOf dialect (.word "or") rest ++
      [.closing])
  | .compare left comparison right =>
    left.tokens dialect ++ .comparison comparison :: right.tokens dialect
  | .like left pattern =>
    left.tokens dialect ++ .word "like" :: (pattern.tokens dialect ++ [.word "escape", .string "\\"])
  | .between term low high =>
    term.tokens dialect ++ .word "between" :: (low.tokens dialect ++ .word "and" :: high.tokens dialect)

/-- The tokens of further links of a chain. -/
def Condition.tokensOf (dialect : Dialect) (separator : Token) : List Condition → List Token
  | [] => []
  | child :: rest =>
    separator :: (Condition.tokens dialect child ++ Condition.tokensOf dialect separator rest)

end

/-! ## Expressions -/

namespace Dialect

def jsonExpr (dialect : Dialect) (arguments : List Expr) : Expr :=
  match dialect with
  | .postgres => .call "jsonb_extract_path_text" arguments
  | .sqlite => .cast (.call "json_extract" arguments)

end Dialect

mutual

def Term.expr (dialect : Dialect) : Term → Expr
  | .column source => .column source
  | .parameter index => .parameter index
  | .literal text => .string text
  | .cast term => .cast (Term.expr dialect term)
  | .fold term => .call "unaccent" [.call "lower" [Term.expr dialect term]]
  | .jsonText source keys => dialect.jsonExpr (.column source :: Term.exprs dialect keys)

def Term.exprs (dialect : Dialect) : List Term → List Expr
  | [] => []
  | term :: rest => Term.expr dialect term :: Term.exprs dialect rest

end

mutual

def Condition.expr (dialect : Dialect) : Condition → Expr
  | .all [] => .compare (.number 1) .eq (.number 1)
  | .all (child :: rest) => (Condition.exprs dialect rest).foldl .and (Condition.expr dialect child)
  | .any [] => .compare (.number 1) .eq (.number 0)
  | .any (child :: rest) => (Condition.exprs dialect rest).foldl .or (Condition.expr dialect child)
  | .compare left comparison right => .compare (left.expr dialect) comparison (right.expr dialect)
  | .like left pattern => .likeEscape (left.expr dialect) (pattern.expr dialect) (.string "\\")
  | .between term low high => .between (term.expr dialect) (low.expr dialect) (high.expr dialect)

def Condition.exprs (dialect : Dialect) : List Condition → List Expr
  | [] => []
  | child :: rest => Condition.expr dialect child :: Condition.exprs dialect rest

end

section

variable (dialect : Dialect)

theorem Term.tokensOf_eq (terms : List Term) :
    Term.tokensOf dialect terms = terms.flatMap fun term => .comma :: term.tokens dialect := by
  induction terms with
  | nil => rfl
  | cons term terms ih => rw [Term.tokensOf, ih]; rfl

/-- The comma behind the column is there also where no key follows. -/
theorem Term.tokens_jsonText_of_ne_nil {keys : List Term} (h : keys ≠ []) (source : Column) :
    (Term.jsonText source keys).tokens dialect =
      dialect.jsonTokens (source.tokens ++ Term.tokensOf dialect keys) := by
  rw [Term.tokens, if_neg (by simpa using h)]

theorem Term.exprs_eq (terms : List Term) :
    Term.exprs dialect terms = terms.map (Term.expr dialect) := by
  induction terms with
  | nil => rfl
  | cons term terms ih => rw [Term.exprs, ih]; rfl

theorem Condition.tokensOf_eq (separator : Token) (conditions : List Condition) :
    Condition.tokensOf dialect separator conditions =
      conditions.flatMap fun condition => separator :: condition.tokens dialect := by
  induction conditions with
  | nil => rfl
  | cons condition conditions ih => rw [Condition.tokensOf, ih]; rfl

theorem Condition.exprs_eq (conditions : List Condition) :
    Condition.exprs dialect conditions = conditions.map (Condition.expr dialect) := by
  induction conditions with
  | nil => rfl
  | cons condition conditions ih => rw [Condition.exprs, ih]; rfl

end

/-! ## Cutting -/

/-- The text is cut into the tokens, as the dialect shows them, and what follows is cut on its own. -/
def Written (dialect : Dialect) (text : String) (tokens : List Token) : Prop :=
  ∀ ⦃rest ts⦄, Ends rest → Lexes rest ts →
    Lexes (text.toList ++ rest) (tokens.map dialect.shown ++ ts)

section

variable {dialect : Dialect}

theorem Written.isCutInto {text : String} {tokens : List Token} (h : Written dialect text tokens) :
    IsCutInto text (tokens.map dialect.shown) := by
  have hlexes := h ends_nil Lexes.nil
  rw [List.append_nil, List.append_nil] at hlexes
  exact ⟨hlexes, fun _ hother => hother.deterministic hlexes⟩

theorem lexes_text {rest : List Char} {ts : List Token} (hr : Ends rest) (h : Lexes rest ts) :
    Lexes ("TEXT".toList ++ rest) (.word "text" :: ts) :=
  .token (readToken?_word rfl rfl hr) h

theorem quoteIdent_written (name : String) : Written dialect (quoteIdent name) [.ident name] :=
  fun _ _ hr h => .token (readToken?_quoteIdent name hr.head_ne.1) h

theorem quoteLiteral_written (text : String) : Written dialect (quoteLiteral text) [.string text] :=
  fun _ _ hr h => .token (readToken?_quoteLiteral text hr.head_ne.2) h

theorem Column.written (column : Column) : Written dialect column.write column.tokens := by
  obtain ⟨alias?, name⟩ := column
  cases alias? with
  | none => exact quoteIdent_written name
  | some table =>
    intro rest ts hr h
    have hname : Lexes ((quoteIdent name).toList ++ rest) (.ident name :: ts) :=
      .token (readToken?_quoteIdent name hr.head_ne.1) h
    simp only [write, String.toList_append, List.append_assoc]
    -- What the name is written as stays closed, so that only the dot is evaluated.
    generalize (quoteIdent name).toList ++ rest = text at hname ⊢
    exact quoteIdent_written table (ends_cons rfl) (.token rfl hname)

theorem toList_toString (n : Nat) : (toString n).toList = Number.digitsOf n := by
  simp [Number.digitsOf]

theorem Dialect.placeholder_written (index : Nat) :
    Written dialect (dialect.placeholder index) [.parameter (some index)] := by
  intro rest ts hr h
  cases dialect with
  | postgres =>
    have hread : readToken? ('$' :: (Number.digitsOf index ++ rest)) =
        some (.parameter (some index), rest) := by
      change (readDigits? (Number.digitsOf index ++ rest)).map _ = _
      rw [readDigits?_digitsOf index hr]
      rfl
    rw [placeholder, String.toList_append, toList_toString]
    exact .token hread h
  | sqlite =>
    rw [placeholder]
    exact .token rfl h

theorem Dialect.castToString_written {text : String} {tokens : List Token}
    (ht : Written dialect text tokens) :
    Written dialect (dialect.castToString text) (dialect.castTokens tokens) := by
  intro rest ts hr h
  cases dialect with
  | postgres =>
    simp only [castToString, castTokens, String.toList_append, List.append_assoc, List.map_append]
    exact ht (ends_cons rfl) (.token rfl (lexes_text hr h))
  | sqlite =>
    simp only [castToString, castTokens, String.toList_append, List.append_assoc, List.map_cons,
      List.map_append, List.cons_append]
    refine .token rfl (.token rfl (ht (ends_cons rfl) (.space rfl (.token rfl (.space rfl ?_)))))
    exact .token rfl (.token rfl h)

theorem foldText_written {text : String} {tokens : List Token} (ht : Written dialect text tokens) :
    Written dialect (foldText text)
      (.word "unaccent" :: .opening :: (.word "lower" :: .opening :: (tokens ++ [.closing]) ++
        [.closing])) := by
  intro rest ts hr h
  have htext : foldText text = "unaccent(lower(" ++ text ++ "))" := rfl
  simp only [htext, String.toList_append, List.append_assoc, List.map_cons, List.map_append,
    List.cons_append]
  refine .token rfl (.token rfl (.token rfl (.token rfl (ht (ends_cons rfl) ?_))))
  exact .token rfl (.token rfl h)

/-- Each further link of a chain is the separator and an item. -/
theorem chain_written {β : Type} {write : β → String} {tokensOf : β → List Token} (separator : String)
    (token : Token) (hends : ∀ rest, Ends (separator.toList ++ rest))
    (hseparator : ∀ rest ts, Lexes rest ts →
      Lexes (separator.toList ++ rest) (dialect.shown token :: ts))
    {items : List β} (h : ∀ y ∈ items, Written dialect (write y) (tokensOf y)) {rest : List Char}
    {ts : List Token} (hr : Ends rest) (hl : Lexes rest ts) :
    Ends ((items.flatMap fun y => separator.toList ++ (write y).toList) ++ rest) ∧
      Lexes ((items.flatMap fun y => separator.toList ++ (write y).toList) ++ rest)
        ((items.flatMap fun y => token :: tokensOf y).map dialect.shown ++ ts) := by
  induction items with
  | nil => exact ⟨hr, hl⟩
  | cons y items ih =>
    obtain ⟨hends', hlexes'⟩ := ih fun z hz => h z (List.mem_cons_of_mem y hz)
    simp only [List.flatMap_cons, List.append_assoc, List.map_append, List.cons_append, List.map_cons]
    exact ⟨hends _, hseparator _ _ (h y List.mem_cons_self hends' hlexes')⟩

theorem joined_cons (separator first : String) (rest : List String) :
    (Text.joined separator (first :: rest)).toList =
      first.toList ++ rest.flatMap fun text => separator.toList ++ text.toList := by
  rw [Text.joined, String.toList_ofList, List.map_cons]
  induction rest generalizing first with
  | nil => simp
  | cons second rest ih =>
    rw [List.map_cons, List.intercalate_cons_cons, ih, List.flatMap_cons]
    simp only [List.append_assoc]

theorem Term.writeAll_eq (terms : List Term) :
    Term.writeAll dialect terms = terms.map (Term.write dialect) := by
  induction terms with
  | nil => rfl
  | cons term terms ih => rw [Term.writeAll, ih]; rfl

/-- The arguments are the column and, each behind a comma, the keys. -/
theorem arguments_written (column : Column) {keys : List Term}
    (h : ∀ key ∈ keys, Written dialect (key.write dialect) (key.tokens dialect)) :
    Written dialect (column.write ++ ", " ++ Text.joined ", " (Term.writeAll dialect keys))
      (column.tokens ++ if keys.isEmpty then [.comma] else Term.tokensOf dialect keys) := by
  intro rest ts hr hl
  rw [String.append_assoc, String.toList_append, List.map_append, List.append_assoc, List.append_assoc]
  cases keys with
  | nil =>
    have htext : (", " ++ Text.joined ", " (Term.writeAll dialect [])).toList = [',', ' '] := by
      simp [Term.writeAll, Text.joined]
    rw [htext]
    exact column.written (ends_cons rfl) (.token rfl (.space rfl hl))
  | cons key keys =>
    have htext : (", " ++ Text.joined ", " (Term.writeAll dialect (key :: keys))).toList =
        (key :: keys).flatMap fun key => ", ".toList ++ (key.write dialect).toList := by
      rw [Term.writeAll_eq, String.toList_append, List.map_cons, joined_cons, List.flatMap_cons,
        List.flatMap_map, List.append_assoc]
    obtain ⟨hends, hlexes⟩ := chain_written ", " .comma (fun _ => ends_cons rfl)
      (fun _ _ hl => .token rfl (.space rfl hl)) h hr hl
    rw [htext, if_neg (by simp), Term.tokensOf_eq]
    exact column.written hends hlexes

theorem Dialect.jsonExtractText_written {column : Column} {keys : List Term}
    (h : ∀ key ∈ keys, Written dialect (key.write dialect) (key.tokens dialect)) :
    Written dialect (dialect.jsonExtractText column.write (Term.writeAll dialect keys))
      ((Term.jsonText column keys).tokens dialect) := by
  have harguments := arguments_written column h
  rw [Term.tokens]
  unfold jsonExtractText
  generalize column.write ++ ", " ++ Text.joined ", " (Term.writeAll dialect keys) = text at harguments ⊢
  generalize column.tokens ++ (if keys.isEmpty then [.comma] else Term.tokensOf dialect keys) = tokens
    at harguments ⊢
  intro rest ts hr hl
  cases dialect with
  | postgres =>
    simp only [jsonTokens, String.toList_append, List.append_assoc, List.map_cons, List.cons_append,
      List.map_append]
    exact .token rfl (.token rfl (harguments (ends_cons rfl) (.token rfl hl)))
  | sqlite =>
    simp only [jsonTokens, castTokens, String.toList_append, List.append_assoc, List.map_cons,
      List.cons_append, List.map_append]
    refine .token rfl (.token rfl (.token rfl (.token rfl (harguments (ends_cons rfl) ?_))))
    exact .token rfl (.space rfl (.token rfl (.space rfl (.token rfl (.token rfl hl)))))

theorem Term.written (term : Term) : Written dialect (term.write dialect) (term.tokens dialect) := by
  induction term using Term.induction with
  | column source => exact source.written
  | parameter index => exact dialect.placeholder_written index
  | literal text => exact quoteLiteral_written text
  | cast term ih => exact dialect.castToString_written ih
  | fold term ih => exact foldText_written ih
  | jsonText source keys ih => exact dialect.jsonExtractText_written ih

theorem Comparison.written (comparison : Comparison) {rest : List Char} {ts : List Token}
    (h : Lexes rest ts) :
    Lexes ((" " ++ comparison.write ++ " ").toList ++ rest) (.comparison comparison :: ts) := by
  cases comparison <;> exact .space rfl (.token rfl (.space rfl h))

theorem numbers_written {text : String} {m n : Nat}
    (ht : text.toList = Number.digitsOf m ++ '=' :: Number.digitsOf n) :
    Written dialect text [.number m, .comparison .eq, .number n] := by
  intro rest ts hr hl
  rw [ht, List.append_assoc, List.cons_append]
  refine .token (readToken?_digitsOf m (ends_cons rfl)) (.token rfl ?_)
  exact .token (readToken?_digitsOf n hr) hl

theorem Condition.writeRest_toList (separator : String) (conditions : List Condition) :
    (Condition.writeRest dialect separator conditions).toList =
      conditions.flatMap fun condition => separator.toList ++ (condition.write dialect).toList := by
  induction conditions with
  | nil => rfl
  | cons condition conditions ih =>
    rw [Condition.writeRest, String.toList_append, String.toList_append, ih]; rfl

/-- A chain in parentheses. -/
theorem Condition.parens_written {separator : String} {token : Token} {child : Condition}
    {rest : List Condition} (hends : ∀ after, Ends (separator.toList ++ after))
    (hseparator : ∀ after ts, Lexes after ts →
      Lexes (separator.toList ++ after) (dialect.shown token :: ts))
    (h : ∀ c ∈ child :: rest, Written dialect (c.write dialect) (c.tokens dialect)) :
    Written dialect ("(" ++ child.write dialect ++ Condition.writeRest dialect separator rest ++ ")")
      (.opening :: (child.tokens dialect ++ Condition.tokensOf dialect token rest ++ [.closing])) := by
  intro after ts hr hl
  have hclosing : Lexes (")".toList ++ after) (.closing :: ts) := .token rfl hl
  obtain ⟨hends', hlexes⟩ := chain_written separator token hends hseparator
    (fun c hc => h c (List.mem_cons_of_mem child hc)) (ends_cons rfl) hclosing
  simp only [String.toList_append, List.append_assoc, Condition.writeRest_toList,
    Condition.tokensOf_eq, List.map_cons, List.map_append, List.cons_append]
  exact .token rfl (h child List.mem_cons_self hends' hlexes)

theorem compare_written {left right : String} {ls rs : List Token} (comparison : Comparison)
    (hleft : Written dialect left ls) (hright : Written dialect right rs) :
    Written dialect (left ++ " " ++ comparison.write ++ " " ++ right)
      (ls ++ .comparison comparison :: rs) := by
  intro rest ts hr hl
  have hboth := comparison.written (hright hr hl)
  simp only [String.toList_append, List.append_assoc, List.map_append, List.map_cons,
    List.cons_append] at hboth ⊢
  exact hleft (ends_cons rfl) hboth

theorem like_written {left pattern : String} {ls ps : List Token} (hleft : Written dialect left ls)
    (hpattern : Written dialect pattern ps) :
    Written dialect (left ++ " LIKE " ++ pattern ++ " ESCAPE '\\'")
      (ls ++ .word "like" :: (ps ++ [.word "escape", .string "\\"])) := by
  intro rest ts hr hl
  have hliteral : Written dialect (quoteLiteral "\\") _ := quoteLiteral_written "\\"
  have hescape : Lexes (" ESCAPE '\\'".toList ++ rest) (.word "escape" :: .string "\\" :: ts) :=
    .space rfl (.token rfl (.space rfl (hliteral hr hl)))
  simp only [String.toList_append, List.append_assoc, List.map_append, List.map_cons,
    List.cons_append]
  refine hleft (ends_cons rfl) (.space rfl (.token rfl (.space rfl ?_)))
  exact hpattern (ends_cons rfl) hescape

theorem between_written {text low high : String} {ts ls hs : List Token}
    (htext : Written dialect text ts) (hlow : Written dialect low ls)
    (hhigh : Written dialect high hs) :
    Written dialect (text ++ " BETWEEN " ++ low ++ " AND " ++ high)
      (ts ++ .word "between" :: (ls ++ .word "and" :: hs)) := by
  intro rest after hr hl
  simp only [String.toList_append, List.append_assoc, List.map_append, List.map_cons,
    List.cons_append]
  refine htext (ends_cons rfl) (.space rfl (.token rfl (.space rfl ?_)))
  refine hlow (ends_cons rfl) (.space rfl (.token rfl (.space rfl ?_)))
  exact hhigh hr hl

theorem Condition.written (condition : Condition) :
    Written dialect (condition.write dialect) (condition.tokens dialect) := by
  induction condition using Condition.induction with
  | all children ih =>
    cases children with
    | nil =>
      have hnumbers : Written dialect "1=1" [.number 1, .comparison .eq, .number 1] :=
        numbers_written (by decide)
      exact hnumbers
    | cons child rest =>
      exact Condition.parens_written (fun _ => ends_cons rfl)
        (fun _ _ hl => .space rfl (.token rfl (.space rfl hl))) ih
  | any children ih =>
    cases children with
    | nil =>
      have hnumbers : Written dialect "1=0" [.number 1, .comparison .eq, .number 0] :=
        numbers_written (by decide)
      exact hnumbers
    | cons child rest =>
      exact Condition.parens_written (fun _ => ends_cons rfl)
        (fun _ _ hl => .space rfl (.token rfl (.space rfl hl))) ih
  | compare left comparison right =>
    exact compare_written comparison left.written right.written
  | like left pattern => exact like_written left.written pattern.written
  | between term low high => exact between_written term.written low.written high.written

end

/-! ## Reading -/

section

variable (dialect : Dialect)

theorem Column.reads (column : Column) : Operated Reads column.tokens (.column column) := by
  obtain ⟨alias?, name⟩ := column
  cases alias? with
  | none => exact Primary.column.operated
  | some table => exact Primary.qualified.operated

theorem Dialect.castTokens_reads {tokens : List Token} {e : Expr} (h : Operated Reads tokens e) :
    Operated Reads (dialect.castTokens tokens) (.cast e) := by
  cases dialect with
  | postgres => exact h.cast
  | sqlite => exact (Primary.cast h.compared.reads).operated

theorem Dialect.jsonTokens_reads {tokens : List Token} {arguments : List Expr}
    (h : Chain Reads .comma tokens arguments) :
    Operated Reads (dialect.jsonTokens tokens) (dialect.jsonExpr arguments) := by
  cases dialect with
  | postgres => exact (Primary.call (by decide) h).operated
  | sqlite => exact castTokens_reads .sqlite (Primary.call (by decide) h).operated

theorem Term.reads (term : Term) (ht : term.IsProper) :
    Operated Reads (term.tokens dialect) (term.expr dialect) := by
  induction term using Term.induction with
  | column source => exact source.reads
  | parameter index => exact Primary.parameter.operated
  | literal text => exact Primary.string.operated
  | cast term ih => exact dialect.castTokens_reads (ih ht)
  | fold term ih =>
    have hlower : Reads (.word "lower" :: .opening :: (term.tokens dialect ++ [.closing]))
        (.call "lower" [term.expr dialect]) :=
      (Primary.call (by decide) (.one (ih ht).compared.reads)).operated.compared.reads
    exact (Primary.call (by decide) (.one hlower)).operated
  | jsonText source keys ih =>
    rw [Term.tokens_jsonText_of_ne_nil dialect ht.1, Term.tokensOf_eq, Term.expr, Term.exprs_eq]
    refine dialect.jsonTokens_reads (.of_list .comma source.reads.compared.reads fun key hk => ?_)
    exact (ih key hk (Term.areProper_iff.1 ht.2 key hk)).compared.reads

theorem Condition.reads (condition : Condition) (hc : condition.IsProper) :
    Compared Reads (condition.tokens dialect) (condition.expr dialect) := by
  induction condition using Condition.induction with
  | all children ih =>
    cases children with
    | nil => exact Primary.number.operated.compare Primary.number.operated
    | cons child rest =>
      have hall := Condition.areProper_iff.1 hc
      have hread : ∀ c ∈ child :: rest, Compared Reads (c.tokens dialect) (c.expr dialect) :=
        fun c hm => ih c hm (hall c hm)
      have hchain := Chain.of_list (.word "and") (hread child List.mem_cons_self)
        fun c hm => hread c (List.mem_cons_of_mem child hm)
      rw [Condition.tokens, Condition.tokensOf_eq, Condition.expr, Condition.exprs_eq]
      exact (Primary.parens (Reads.intro (Conjunction.intro hchain).disjunction)).operated.compared
  | any children ih =>
    cases children with
    | nil => exact Primary.number.operated.compare Primary.number.operated
    | cons child rest =>
      have hall := Condition.areProper_iff.1 hc
      have hread : ∀ c ∈ child :: rest, Conjunction Reads (c.tokens dialect) (c.expr dialect) :=
        fun c hm => (ih c hm (hall c hm)).conjunction
      have hchain := Chain.of_list (.word "or") (hread child List.mem_cons_self)
        fun c hm => hread c (List.mem_cons_of_mem child hm)
      rw [Condition.tokens, Condition.tokensOf_eq, Condition.expr, Condition.exprs_eq]
      exact (Primary.parens (Reads.intro (Disjunction.intro hchain))).operated.compared
  | compare left comparison right =>
    exact (left.reads dialect hc.1).compare (right.reads dialect hc.2)
  | like left pattern =>
    exact (left.reads dialect hc.1).likeEscape (pattern.reads dialect hc.2) Primary.string.operated
  | between term low high =>
    exact (term.reads dialect hc.1).between (low.reads dialect hc.2.1) (high.reads dialect hc.2.2)

end

end Sql
end RecordFilter
