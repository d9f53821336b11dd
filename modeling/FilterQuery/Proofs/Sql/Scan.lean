import FilterQuery.Proofs.Sql.Token
import FilterQuery.Sql.Placeholder
import Mathlib.Algebra.Ring.Parity

/-!
# Scans and literals

A scan for placeholders switches at every quote.  The division into tokens looks ahead instead: two
quotes inside a literal are one quote of its text, and only a single one ends it.

**Method.** Between the quotes of a doubled one the scan is outside of literals, the division into
tokens is not.  The two are compared at the steps of the division, which passes a doubled quote in
one step; the scan switches twice in it.

**Results.**
* `placeholders_append`: a text decides how a scan goes on behind it by the parity of its quotes.
* `placeholders_lexed`: a scan counts the placeholders among the tokens.
-/

namespace FilterQuery
namespace Sql

namespace Scan

/-- A scan adds to its count what it finds from where it is. -/
theorem count_foldl_next (s : List Char) (scan : Scan) :
    (s.foldl next scan).count = scan.count + placeholders scan.inLiteral s := by
  induction s generalizing scan with
  | nil =>
      rfl
  | cons c s ih =>
      have hstep : scan.next c =
          ⟨(next ⟨scan.inLiteral, 0⟩ c).inLiteral,
            scan.count + (next ⟨scan.inLiteral, 0⟩ c).count⟩ := by
        simp only [next]
        split
        · rfl
        · split <;> rfl
      rw [placeholders, List.foldl_cons, List.foldl_cons, ih, ih (next ⟨scan.inLiteral, 0⟩ c),
        hstep, Nat.add_assoc]

/-- A scan is on the other side of a quote behind an odd number of them. -/
theorem inLiteral_foldl_next (s : List Char) (scan : Scan) :
    (s.foldl next scan).inLiteral = (scan.inLiteral ^^ decide (Odd (s.count '\''))) := by
  induction s generalizing scan with
  | nil =>
      simp
  | cons c s ih =>
      rw [List.foldl_cons, ih]
      by_cases hc : c = '\''
      · subst c
        have hside : (scan.next '\'').inLiteral = !scan.inLiteral := rfl
        rw [hside, List.count_cons_self, decide_eq_decide.2 Nat.odd_add_one, decide_not,
          Bool.not_xor, Bool.xor_not]
      · have hside : (scan.next c).inLiteral = scan.inLiteral := by
          rw [next, if_neg hc]
          split <;> rfl
        rw [hside, List.count_cons_of_ne hc]

end Scan

/-- A character counts where the scan stands, and moves it on. -/
theorem placeholders_cons (inLiteral : Bool) (c : Char) (s : List Char) :
    placeholders inLiteral (c :: s) =
      (Scan.next ⟨inLiteral, 0⟩ c).count + placeholders (Scan.next ⟨inLiteral, 0⟩ c).inLiteral s :=
  Scan.count_foldl_next s _

@[simp] theorem placeholders_nil (inLiteral : Bool) :
    placeholders inLiteral [] = 0 := by
  rfl

@[simp] theorem placeholders_quote (inLiteral : Bool) (s : List Char) :
    placeholders inLiteral ('\'' :: s) = placeholders (!inLiteral) s := by
  simp [placeholders_cons, Scan.next]

@[simp] theorem placeholders_mark (s : List Char) :
    placeholders false ('?' :: s) = placeholders false s + 1 := by
  simp [placeholders_cons, Scan.next, Nat.add_comm]

theorem placeholders_of_ne
    {inLiteral : Bool} {c : Char}
    (hquote : c ≠ '\'')
    (hmark : inLiteral = false → c ≠ '?')
    (s : List Char) :
    placeholders inLiteral (c :: s) = placeholders inLiteral s := by
  have hnext : Scan.next ⟨inLiteral, 0⟩ c = ⟨inLiteral, 0⟩ := by
    rw [Scan.next, if_neg hquote, if_neg (fun h => hmark h.2 h.1)]
  rw [placeholders_cons, hnext, Nat.zero_add]

/-- Whether the second part begins inside a literal is told by the quotes of the first. -/
theorem placeholders_append (inLiteral : Bool) (s t : List Char) :
    placeholders inLiteral (s ++ t) =
      placeholders inLiteral s + placeholders (inLiteral ^^ decide (Odd (s.count '\''))) t := by
  rw [placeholders, List.foldl_append, Scan.count_foldl_next, Scan.inLiteral_foldl_next]
  rfl

/-- Behind an even number of quotes the counts add up. -/
theorem countPlaceholders_append_of_even
    {a b : String}
    (ha : Even (a.toList.count '\'')) :
    countPlaceholders (a ++ b) = countPlaceholders a + countPlaceholders b := by
  rw [countPlaceholders, String.toList_append, placeholders_append,
    decide_eq_false (Nat.not_odd_iff_even.2 ha)]
  rfl

/-- Behind an odd number of quotes the second part begins inside a literal. -/
theorem countPlaceholders_append_of_odd
    {a b : String}
    (ha : Odd (a.toList.count '\'')) :
    countPlaceholders (a ++ b) = countPlaceholders a + placeholders true b.toList := by
  rw [countPlaceholders, String.toList_append, placeholders_append, decide_eq_true ha]
  rfl

namespace Token

/-- The end of a word is no placeholder. -/
@[simp] theorem count_endWord (word : List Char) (ts : List Token) :
    (endWord word ts).count .placeholder = ts.count .placeholder := by
  have hword : ∀ s, ofWord s ≠ .placeholder := by
    intro s
    rw [ofWord]
    split
    · exact Token.noConfusion
    · split <;> exact Token.noConfusion
  rw [endWord]
  split
  · rfl
  · rw [List.count_cons_of_ne (hword _)]

/-- From outside and from inside a literal, the tokens hold the placeholders of a scan that starts
there. -/
theorem count_placeholder :
    (∀ word s, (outside word s).count .placeholder = placeholders false s) ∧
      ∀ literal s, (inside literal s).count .placeholder = placeholders true s := by
  apply outside.mutual_induct
  case case1 =>
    intro word
    simp [outside]
  -- A character between words.
  case case2 | case3 | case4 =>
    intro word s ih
    simp [outside, ih, placeholders_of_ne]
  -- A placeholder, and a quote at which both enter a literal.
  case case5 | case6 =>
    intro word s ih
    simp [outside, ih]
  -- Any other character of a word.
  case case7 =>
    intro word c s hblank hopening hclosing hmark hquote ih
    have hplain : isPlain c := by
      rw [isPlain, decide_eq_true_eq]
      exact ⟨hblank, hopening, hclosing, hmark, hquote⟩
    rw [outside_cons_of_isPlain hplain, ih, placeholders_of_ne hquote fun _ => hmark]
  -- A literal without an end.
  case case8 =>
    intro literal
    simp [inside]
  -- A doubled quote, at which the scan switches twice.
  case case9 =>
    intro literal s ih
    simp [inside, ih]
  -- A single quote, at which both leave the literal.
  case case10 =>
    intro literal s hsingle ih
    rw [inside, List.count_cons_of_ne (by simp), ih, placeholders_quote, Bool.not_true]
    exact hsingle
  case case11 =>
    intro literal c s hdoubled hquote ih
    rw [inside, ih, placeholders_of_ne hquote (by simp)]
    · exact hdoubled
    · exact hquote

end Token

/-- A scan counts the placeholders among the tokens, from outside of literals and from inside.
Behind quotes that are balanced it goes on as at the start of a text, behind others as inside a
literal. -/
theorem placeholders_lexed :
    (∀ sql : String,
      countPlaceholders sql = (Token.ofText sql.toList).count .placeholder) ∧
    (∀ literal s : List Char,
      placeholders true s = (Token.inside literal s).count .placeholder) ∧
    ∀ a b : String,
      (Even (a.toList.count '\'') →
        countPlaceholders (a ++ b) = countPlaceholders a + countPlaceholders b) ∧
      (Odd (a.toList.count '\'') →
        countPlaceholders (a ++ b) = countPlaceholders a + placeholders true b.toList) := by
  obtain ⟨houtside, hinside⟩ := Token.count_placeholder
  refine ⟨?_, ?_, ?_⟩
  · intro sql
    exact (houtside [] sql.toList).symm
  · intro literal s
    exact (hinside literal s).symm
  · intro a b
    exact ⟨countPlaceholders_append_of_even, countPlaceholders_append_of_odd⟩

/-- A text that is cut between the quotes of a doubled one, and behind them. -/
theorem placeholders_lexed_doubled :
    countPlaceholders "size <> 'it''s ?' and year = ? and model = '?" = 1 ∧
    placeholders true "'s ?' and year = ?".toList = 1 ∧
    Even ("size <> 'it'".toList.count '\'') ∧
    countPlaceholders ("size <> 'it'" ++ "'s ?' and year = ?") = 1 ∧
    Odd ("size <> 'it''".toList.count '\'') ∧
    countPlaceholders ("size <> 'it''" ++ "s ?' and year = ?") = 1 := by
  obtain ⟨hcount, hinside, happend⟩ := placeholders_lexed
  have heven : Even ("size <> 'it'".toList.count '\'') := by
    decide
  have hodd : Odd ("size <> 'it''".toList.count '\'') := by
    decide
  refine ⟨?_, ?_, heven, ?_, hodd, ?_⟩
  · rw [hcount]
    decide
  · rw [hinside []]
    decide
  · rw [(happend _ _).1 heven]
    decide
  · rw [(happend _ _).2 hodd]
    decide

end Sql
end FilterQuery
