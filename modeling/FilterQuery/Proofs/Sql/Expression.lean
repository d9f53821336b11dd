import FilterQuery.Proofs.Sql.Token

/-!
# Boolean expressions

Conditions as trees: a test compares a column with a placeholder or a literal, and tests are put
together by `and`, `or` and parentheses.

**Grammar.** A factor is a test or a disjunction in parentheses; factors joined by `and` are a
conjunction; conjunctions joined by `or` are a disjunction.  Hence `and` binds tighter than `or`
(`Formed`).

**Results.**
* `ofText_text`: the text of an expression falls into its tokens.
* `conjuncts_all`: factors that are joined by `and` are found again as its conjuncts.
-/

namespace FilterQuery
namespace Sql

/-- What a test compares its column with; a literal stands as it is written. -/
inductive Operand where
  | placeholder
  | literal (s : String)
deriving DecidableEq

inductive Expression where
  | test (column symbol : String) (operand : Operand)
  | group (e : Expression)
  | and (e f : Expression)
  | or (e f : Expression)
deriving DecidableEq

namespace Operand

def text : Operand → String
  | .placeholder => "?"
  | .literal s => s

def token : Operand → Token
  | .placeholder => .placeholder
  | .literal s => if s.toList.head? = some '\'' then .quoted s else .word s

/-- Whether an operand is one token. -/
def Legible : Operand → Prop
  | .placeholder => True
  | .literal s => Token.IsWord s ∨ Token.IsQuoted s

/-- The token of an operand is read back from its text. -/
theorem ofText_text
    {o : Operand} {s : List Char}
    (ho : o.Legible)
    (hs : Token.Separated s) :
    Token.ofText (o.text.toList ++ s) = o.token :: Token.ofText s := by
  cases o with
  | placeholder =>
      rfl
  | literal u =>
      rcases ho with hu | hu
      · have hhead : u.toList.head? ≠ some '\'' := by
          intro h
          have hmem : '\'' ∈ u.toList := List.mem_of_mem_head? h
          exact absurd (List.all_eq_true.1 hu.2.1 '\'' hmem) (by decide)
        rw [text, token, if_neg hhead, Token.ofText_append_word hu hs]
      · have hhead : u.toList.head? = some '\'' := by
          obtain ⟨content, -, hu⟩ := hu
          simp [hu]
        rw [text, token, if_pos hhead, Token.ofText_append_quoted hu hs]

end Operand

namespace Expression

def text : Expression → String
  | .test column symbol operand => column ++ " " ++ symbol ++ " " ++ operand.text
  | .group e => "( " ++ e.text ++ " )"
  | .and e f => e.text ++ " and " ++ f.text
  | .or e f => e.text ++ " or " ++ f.text

def tokens : Expression → List Token
  | .test column symbol operand => [.word column, .word symbol, operand.token]
  | .group e => .opening :: (e.tokens ++ [.closing])
  | .and e f => e.tokens ++ .and :: f.tokens
  | .or e f => e.tokens ++ .or :: f.tokens

/-- Whether columns, symbols and operands are one token each. -/
def Legible : Expression → Prop
  | .test column symbol operand => Token.IsWord column ∧ Token.IsWord symbol ∧ operand.Legible
  | .group e => e.Legible
  | .and e f => e.Legible ∧ f.Legible
  | .or e f => e.Legible ∧ f.Legible

/-- The three levels of the grammar. -/
inductive Level where
  | factor
  | conjunction
  | disjunction

/-- The grammar of expressions. -/
inductive Formed : Level → Expression → Prop
  | test (column symbol : String) (operand : Operand) :
      Formed .factor (.test column symbol operand)
  | group {e : Expression} :
      Formed .disjunction e → Formed .factor (.group e)
  | factor {e : Expression} :
      Formed .factor e → Formed .conjunction e
  | and {e f : Expression} :
      Formed .factor e → Formed .conjunction f → Formed .conjunction (.and e f)
  | conjunction {e : Expression} :
      Formed .conjunction e → Formed .disjunction e
  | or {e f : Expression} :
      Formed .conjunction e → Formed .disjunction f → Formed .disjunction (.or e f)

/-- An expression and others behind it, all of which must hold. -/
def all (e : Expression) : List Expression → Expression
  | [] => e
  | f :: fs => .and e (all f fs)

/-- An expression and others behind it, one of which must hold. -/
def any (e : Expression) : List Expression → Expression
  | [] => e
  | f :: fs => .or e (any f fs)

theorem formed_all
    {e : Expression} {es : List Expression}
    (h : ∀ f ∈ e :: es, Formed .factor f) :
    Formed .conjunction (all e es) := by
  induction es generalizing e with
  | nil =>
      exact .factor (h e (by simp))
  | cons f fs ih =>
      rw [List.forall_mem_cons] at h
      exact .and h.1 (ih h.2)

theorem formed_any
    {e : Expression} {es : List Expression}
    (h : ∀ f ∈ e :: es, Formed .conjunction f) :
    Formed .disjunction (any e es) := by
  induction es generalizing e with
  | nil =>
      exact .conjunction (h e (by simp))
  | cons f fs ih =>
      rw [List.forall_mem_cons] at h
      exact .or h.1 (ih h.2)

theorem legible_all
    {e : Expression} {es : List Expression}
    (h : ∀ f ∈ e :: es, f.Legible) :
    (all e es).Legible := by
  induction es generalizing e with
  | nil =>
      exact h e (by simp)
  | cons f fs ih =>
      rw [List.forall_mem_cons] at h
      exact ⟨h.1, ih h.2⟩

theorem legible_any
    {e : Expression} {es : List Expression}
    (h : ∀ f ∈ e :: es, f.Legible) :
    (any e es).Legible := by
  induction es generalizing e with
  | nil =>
      exact h e (by simp)
  | cons f fs ih =>
      rw [List.forall_mem_cons] at h
      exact ⟨h.1, ih h.2⟩

/-- Expressions that must all hold are written with `and` between each two. -/
theorem text_all (e : Expression) (es : List Expression) :
    (all e es).text = " and ".intercalate ((e :: es).map text) := by
  induction es generalizing e with
  | nil =>
      simp [all]
  | cons f fs ih =>
      simp [all, text, ih]

/-- The text of a conjunction has `and` behind its first part. -/
theorem text_all_cons (e f : Expression) (fs : List Expression) :
    (all e (f :: fs)).text = e.text ++ " and " ++ (all f fs).text := by
  rfl

/-- Further expressions that must hold are written behind the others. -/
theorem text_all_append (e : Expression) (es fs : List Expression) :
    (all e (es ++ fs)).text =
      (all e es).text ++ String.join (fs.map fun f => " and " ++ f.text) := by
  induction es generalizing e with
  | nil =>
      rw [List.nil_append, all]
      induction fs generalizing e with
      | nil =>
          simp [all]
      | cons f fs ih =>
          rw [text_all_cons, ih f, List.map_cons, String.join_cons]
          simp only [String.append_assoc]
  | cons g es ih =>
      rw [List.cons_append, text_all_cons, ih g, text_all_cons]
      simp only [String.append_assoc]

/-- Expressions one of which must hold are written with `or` between each two. -/
theorem text_any (e : Expression) (es : List Expression) :
    (any e es).text = " or ".intercalate ((e :: es).map text) := by
  induction es generalizing e with
  | nil =>
      simp [any]
  | cons f fs ih =>
      simp [any, text, ih]

/-- The tokens of expressions that must all hold stand between the connectives. -/
theorem tokens_all (e : Expression) (es : List Expression) :
    (all e es).tokens = [Token.and].intercalate ((e :: es).map tokens) := by
  induction es generalizing e with
  | nil =>
      simp [all]
  | cons f fs ih =>
      rw [all, tokens, ih, List.map_cons, List.map_cons, List.map_cons,
        List.intercalate_cons_cons]
      simp

/-- The expressions that are joined by `and` on the outside of an expression. -/
def conjuncts : Expression → List Expression
  | .and e f => e.conjuncts ++ f.conjuncts
  | e => [e]

theorem conjuncts_of_factor
    {e : Expression}
    (h : Formed .factor e) :
    e.conjuncts = [e] := by
  cases h with
  | test column symbol operand =>
      rfl
  | group he =>
      rfl

/-- Factors that are joined by `and` are its conjuncts. -/
theorem conjuncts_all
    {e : Expression} {es : List Expression}
    (h : ∀ f ∈ e :: es, Formed .factor f) :
    (all e es).conjuncts = e :: es := by
  induction es generalizing e with
  | nil =>
      exact conjuncts_of_factor (h e (by simp))
  | cons f fs ih =>
      rw [List.forall_mem_cons] at h
      rw [all, conjuncts, conjuncts_of_factor h.1, ih h.2]
      rfl

theorem ofText_text
    {e : Expression} {s : List Char}
    (he : e.Legible)
    (hs : Token.Separated s) :
    Token.ofText (e.text.toList ++ s) = e.tokens ++ Token.ofText s := by
  induction e generalizing s with
  | test column symbol operand =>
      obtain ⟨hcolumn, hsymbol, hoperand⟩ := he
      simp only [text, String.toList_append, List.append_assoc]
      change Token.ofText
        (column.toList ++ ' ' :: (symbol.toList ++ ' ' :: (operand.text.toList ++ s))) = _
      rw [Token.ofText_append_word hcolumn (Token.separated_cons _), Token.ofText_blank,
        Token.ofText_append_word hsymbol (Token.separated_cons _), Token.ofText_blank,
        Operand.ofText_text hoperand hs]
      rfl
  | group e ih =>
      simp only [text, String.toList_append, List.append_assoc]
      change Token.ofText ('(' :: ' ' :: (e.text.toList ++ ' ' :: ')' :: s)) = _
      rw [Token.ofText_opening, Token.ofText_blank, ih he (Token.separated_cons _),
        Token.ofText_blank, Token.ofText_closing]
      simp [tokens]
  | and e f ihe ihf =>
      simp only [text, String.toList_append, List.append_assoc]
      change Token.ofText
        (e.text.toList ++ ' ' :: (['a', 'n', 'd'] ++ ' ' :: (f.text.toList ++ s))) = _
      rw [ihe he.1 (Token.separated_cons _)]
      change e.tokens ++ .and :: Token.ofText (f.text.toList ++ s) = _
      rw [ihf he.2 hs]
      simp [tokens]
  | or e f ihe ihf =>
      simp only [text, String.toList_append, List.append_assoc]
      change Token.ofText
        (e.text.toList ++ ' ' :: (['o', 'r'] ++ ' ' :: (f.text.toList ++ s))) = _
      rw [ihe he.1 (Token.separated_cons _)]
      change e.tokens ++ .or :: Token.ofText (f.text.toList ++ s) = _
      rw [ihf he.2 hs]
      simp [tokens]

end Expression
end Sql
end FilterQuery
