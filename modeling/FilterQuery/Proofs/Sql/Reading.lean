import FilterQuery.Proofs.Sql.Expression

/-!
# Reading expressions

A reader of boolean expressions by descent: a disjunction is read as conjunctions with `or` between
them, a conjunction as factors with `and` between them, and a factor is a test or a disjunction in
parentheses.

**Bounds.** `separated` is given the number of items that it may read, `factor` the number of
parentheses that may be open; neither exceeds the number of tokens.

**Results.**
* `read?_tokens`: every expression of the grammar is read from its tokens.
* `read?_text`: every legible one is read from its text.
* `text_injective`: legible expressions are told apart by their texts.
-/

namespace FilterQuery
namespace Sql
namespace Expression

/-- A reader takes the tokens that are left and returns what it read with the tokens behind it. -/
abbrev Reader := List Token → Option (Expression × List Token)

/-- Reads items with a separator between each two. -/
def separated (separator : Token) (join : Expression → Expression → Expression) (item : Reader) :
    Nat → Reader
  | 0, _ => none
  | bound + 1, ts =>
      match item ts with
      | none => none
      | some (e, rest) =>
          match rest with
          | [] => some (e, [])
          | t :: r =>
              if t = separator then
                match separated separator join item bound r with
                | some (f, r) => some (join e f, r)
                | none => none
              else some (e, t :: r)

/-- Reads factors with `and` between each two. -/
def conjunction (factor : Reader) : Reader :=
  fun ts => separated .and .and factor ts.length ts

/-- Reads conjunctions with `or` between each two. -/
def disjunction (factor : Reader) : Reader :=
  fun ts => separated .or .or (conjunction factor) ts.length ts

/-- Reads a test, or a disjunction in parentheses. -/
def factor : Nat → Reader
  | depth + 1, .opening :: ts =>
      match disjunction (factor depth) ts with
      | some (e, .closing :: r) => some (.group e, r)
      | _ => none
  | _, .word column :: .word symbol :: .placeholder :: ts =>
      some (.test column symbol .placeholder, ts)
  | _, .word column :: .word symbol :: .word s :: ts =>
      some (.test column symbol (.literal s), ts)
  | _, .word column :: .word symbol :: .quoted s :: ts =>
      some (.test column symbol (.literal s), ts)
  | _, _ => none

/-- Reads an expression that the tokens hold and nothing else. -/
def read? (ts : List Token) : Option Expression :=
  match disjunction (factor ts.length) ts with
  | some (e, []) => some e
  | _ => none

/-- What a level of the grammar is read by, within bounds on parentheses and items. -/
def Level.reader (depth bound : Nat) : Level → Reader
  | .factor => Expression.factor depth
  | .conjunction => separated .and .and (Expression.factor depth) bound
  | .disjunction => separated .or .or (Expression.conjunction (Expression.factor depth)) bound

/-- Whether a token would continue an expression of a level. -/
def Level.Continues : Level → Token → Prop
  | .factor, _ => False
  | .conjunction, t => t = .and
  | .disjunction, t => t = .and ∨ t = .or

theorem length_tokens_pos (e : Expression) :
    0 < e.tokens.length := by
  cases e with
  | test column symbol operand =>
      simp [tokens]
  | group e =>
      simp [tokens]
  | and e f =>
      rw [tokens, List.length_append, List.length_cons]
      omega
  | or e f =>
      rw [tokens, List.length_append, List.length_cons]
      omega

/-- An item with nothing behind it that continues the list is the last one. -/
theorem separated_last
    {separator : Token} {join : Expression → Expression → Expression} {item : Reader}
    {bound : Nat} {ts rest : List Token} {e : Expression}
    (hbound : 0 < bound)
    (hitem : item ts = some (e, rest))
    (hrest : ∀ t ∈ rest.head?, t ≠ separator) :
    separated separator join item bound ts = some (e, rest) := by
  cases bound with
  | zero =>
      omega
  | succ bound =>
      rw [separated, hitem]
      cases rest with
      | nil =>
          rfl
      | cons t rest =>
          have ht : t ≠ separator := hrest t rfl
          simp [ht]

/-- An item with a separator behind it is joined with the items that follow. -/
theorem separated_more
    {separator : Token} {join : Expression → Expression → Expression} {item : Reader}
    {bound : Nat} {ts us rest : List Token} {e f : Expression}
    (hitem : item ts = some (e, separator :: us))
    (hmore : separated separator join item bound us = some (f, rest)) :
    separated separator join item (bound + 1) ts = some (join e f, rest) := by
  rw [separated, hitem]
  simp [hmore]

theorem factor_test
    (depth : Nat) (column symbol : String) (operand : Operand) (rest : List Token) :
    factor depth ((test column symbol operand).tokens ++ rest) =
      some (test column symbol operand, rest) := by
  cases operand with
  | placeholder =>
      cases depth <;> rfl
  | literal s =>
      by_cases hs : s.toList.head? = some '\''
      · simp only [tokens, Operand.token, if_pos hs, List.cons_append, List.nil_append]
        cases depth <;> rfl
      · simp only [tokens, Operand.token, if_neg hs, List.cons_append, List.nil_append]
        cases depth <;> rfl

/-- Every level reads its expressions, whatever follows that does not continue them. -/
theorem reader_tokens
    {level : Level} {e : Expression}
    (he : Formed level e)
    {depth bound : Nat} {rest : List Token}
    (hdepth : e.tokens.length ≤ depth)
    (hbound : e.tokens.length ≤ bound)
    (hrest : ∀ t ∈ rest.head?, ¬ level.Continues t) :
    level.reader depth bound (e.tokens ++ rest) = some (e, rest) := by
  induction he generalizing depth bound rest with
  | test column symbol operand =>
      exact factor_test depth column symbol operand rest
  | @group e he ih =>
      simp only [tokens, List.length_cons, List.length_append, List.length_nil] at hdepth
      obtain ⟨depth, rfl⟩ : ∃ d, depth = d + 1 := ⟨depth - 1, by omega⟩
      have hinner : disjunction (factor depth) (e.tokens ++ .closing :: rest) =
          some (e, .closing :: rest) := by
        refine ih (by omega) (by simp) ?_
        intro t ht
        obtain rfl : .closing = t := by simpa using ht
        simp [Level.Continues]
      have htokens : (group e).tokens ++ rest = .opening :: (e.tokens ++ .closing :: rest) := by
        simp [tokens]
      rw [htokens, Level.reader, factor, hinner]
  | @factor e he ih =>
      have hpos := length_tokens_pos e
      have hitem : Level.reader depth bound .factor (e.tokens ++ rest) = some (e, rest) :=
        ih hdepth hbound fun _ _ h => h
      exact separated_last (by omega) hitem hrest
  | @and e f he hf ihe ihf =>
      simp only [tokens, List.length_cons, List.length_append] at hdepth hbound
      obtain ⟨bound, rfl⟩ : ∃ b, bound = b + 1 := ⟨bound - 1, by omega⟩
      have hitem : Level.reader depth (bound + 1) .factor (e.tokens ++ .and :: (f.tokens ++ rest)) =
          some (e, .and :: (f.tokens ++ rest)) :=
        ihe (by omega) (by omega) fun _ _ h => h
      have htokens : (and e f).tokens ++ rest = e.tokens ++ .and :: (f.tokens ++ rest) := by
        simp [tokens]
      rw [htokens]
      exact separated_more hitem (ihf (by omega) (by omega) hrest)
  | @conjunction e he ih =>
      have hpos := length_tokens_pos e
      have hitem : conjunction (factor depth) (e.tokens ++ rest) =
          some (e, rest) :=
        ih hdepth (by simp) fun t ht h => hrest t ht (Or.inl h)
      exact separated_last (by omega) hitem fun t ht h => hrest t ht (Or.inr h)
  | @or e f he hf ihe ihf =>
      simp only [tokens, List.length_cons, List.length_append] at hdepth hbound
      obtain ⟨bound, rfl⟩ : ∃ b, bound = b + 1 := ⟨bound - 1, by omega⟩
      have hitem : conjunction (factor depth)
          (e.tokens ++ .or :: (f.tokens ++ rest)) = some (e, .or :: (f.tokens ++ rest)) := by
        refine ihe (by omega) (by simp) ?_
        intro t ht
        obtain rfl : .or = t := by simpa using ht
        simp [Level.Continues]
      have htokens : (or e f).tokens ++ rest = e.tokens ++ .or :: (f.tokens ++ rest) := by
        simp [tokens]
      rw [htokens]
      exact separated_more hitem (ihf (by omega) (by omega) hrest)

/-- An expression is read back from its tokens. -/
theorem read?_tokens
    {e : Expression}
    (he : Formed .disjunction e) :
    read? e.tokens = some e := by
  have h : Level.reader e.tokens.length e.tokens.length .disjunction (e.tokens ++ []) =
      some (e, []) :=
    reader_tokens he (Nat.le_refl _) (Nat.le_refl _) (by simp)
  rw [List.append_nil] at h
  change disjunction (factor e.tokens.length) e.tokens = some (e, []) at h
  rw [read?, h]

/-- An expression of the grammar is read from its text. -/
theorem read?_text
    {e : Expression}
    (hformed : Formed .disjunction e)
    (hlegible : e.Legible) :
    read? (Token.ofText e.text.toList) = some e := by
  have h := ofText_text hlegible Token.separated_nil
  simp only [List.append_nil, Token.ofText, Token.outside, Token.endWord, if_true] at h
  rw [Token.ofText, h, read?_tokens hformed]

theorem read?_nil :
    read? [] = none := by
  rfl

/-- No expression begins with a connective. -/
theorem read?_and_cons (ts : List Token) :
    read? (.and :: ts) = none := by
  rfl

/-- Different expressions have different texts. -/
theorem text_injective
    {e f : Expression}
    (he : Formed .disjunction e)
    (hle : e.Legible)
    (hf : Formed .disjunction f)
    (hlf : f.Legible)
    (h : e.text = f.text) :
    e = f := by
  have hread : some e = some f := by
    rw [← read?_text he hle, h, read?_text hf hlf]
  exact Option.some.inj hread

end Expression
end Sql
end FilterQuery
