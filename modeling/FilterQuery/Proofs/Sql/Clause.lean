import FilterQuery.Proofs.Sql.Placeholder
import FilterQuery.Proofs.Sql.Reading
import FilterQuery.Sql.Statement
import Mathlib.Data.List.Basic

/-!
# The condition of a statement

The condition stands between the first ` where ` and the last ` order by ` of a statement.  It is
read as a boolean expression, and its first placeholder has the number of the placeholders in front
of it.

**Results.**
* `condition?_eq`: the condition of a statement that is put together from a front, a condition and
  an end.
* `condition?_eq_some`: a condition of the grammar is read as its expression.
-/

namespace FilterQuery
namespace Sql

/-- What stands before and behind the first place of a mark. -/
def cutFirst (mark : List Char) : List Char → Option (List Char × List Char)
  | [] => none
  | c :: s =>
      if mark.isPrefixOf (c :: s) then some ([], (c :: s).drop mark.length)
      else
        match cutFirst mark s with
        | some (front, rest) => some (c :: front, rest)
        | none => none

/-- What stands before and behind the last place of a mark. -/
def cutLast (mark : List Char) : List Char → Option (List Char × List Char)
  | [] => none
  | c :: s =>
      match cutLast mark s with
      | some (front, rest) => some (c :: front, rest)
      | none => if mark.isPrefixOf (c :: s) then some ([], (c :: s).drop mark.length) else none

/-- The condition of a statement, with the number of its first placeholder. -/
def Statement.condition? (s : Statement) : Option (Expression × Nat) :=
  match cutFirst " where ".toList s.sql.toList with
  | none => none
  | some (front, rest) =>
      match cutLast " order by ".toList rest with
      | none => none
      | some (condition, _) =>
          match Expression.read? (Token.ofText condition) with
          | some e => some (e, Sql.placeholders false front)
          | none => none

/-- Whether a text can stand in front of a condition: it has neither quotes nor placeholders, and no
letter that tells ` where ` from what stands in front of it. -/
def IsFront (s : String) : Prop :=
  Unmarked s ∧ 'w' ∉ s.toList

instance (s : String) : Decidable (IsFront s) :=
  inferInstanceAs (Decidable (_ ∧ _))

theorem isFront_append
    {s t : String}
    (hs : IsFront s)
    (ht : IsFront t) :
    IsFront (s ++ t) := by
  refine ⟨unmarked_append hs.1 ht.1, ?_⟩
  rw [String.toList_append, List.mem_append, not_or]
  exact ⟨hs.2, ht.2⟩

/-- A mark is found in its first place if a letter of it stands nowhere in front of that place. -/
theorem cutFirst_append
    {c : Char} {mark before behind front : List Char}
    (hmark : mark = before ++ c :: behind)
    (hbefore : c ∉ before)
    (hfront : c ∉ front)
    (rest : List Char) :
    cutFirst mark (front ++ (mark ++ rest)) = some (front, rest) := by
  induction front with
  | nil =>
      have hprefix : mark <+: mark ++ rest := List.prefix_append mark rest
      obtain ⟨d, s, hs⟩ : ∃ d s, mark ++ rest = d :: s :=
        List.exists_cons_of_ne_nil (by simp [hmark])
      rw [List.nil_append, hs, cutFirst, if_pos (List.isPrefixOf_iff_prefix.2 (hs ▸ hprefix)), ← hs,
        List.drop_left]
  | cons d front ih =>
      have hno : ¬ mark <+: d :: front ++ (mark ++ rest) := by
        rintro ⟨t, ht⟩
        have hindex := congrArg (List.idxOf c) ht
        rw [hmark, List.append_assoc, List.append_assoc, List.idxOf_append_of_notMem hbefore,
          List.idxOf_append_of_notMem hfront, List.idxOf_append_of_notMem hbefore] at hindex
        simp only [List.cons_append, List.idxOf_cons_self, List.length_cons] at hindex
        omega
      rw [List.mem_cons, not_or] at hfront
      rw [List.cons_append, cutFirst, if_neg (by rwa [List.isPrefixOf_iff_prefix]), ih hfront.2]

/-- A last place is found whatever stands in front. -/
theorem cutLast_append
    {mark t front rest : List Char}
    (h : cutLast mark t = some (front, rest))
    (s : List Char) :
    cutLast mark (s ++ t) = some (s ++ front, rest) := by
  induction s with
  | nil =>
      exact h
  | cons c s ih =>
      rw [List.cons_append, cutLast, ih]
      rfl

/-- What stands between the two marks is read, whatever it is. -/
theorem condition?_eq
    {s : Statement} {front condition tail : String}
    (hsql : s.sql = front ++ " where " ++ condition ++ " order by " ++ tail)
    (hfront : IsFront front)
    (htail : cutLast " order by ".toList (" order by " ++ tail).toList =
      some ([], tail.toList)) :
    s.condition? = (Expression.read? (Token.ofText condition.toList)).map fun e => (e, 0) := by
  have hlist : s.sql.toList =
      front.toList ++
        (" where ".toList ++ (condition.toList ++ (" order by " ++ tail).toList)) := by
    simp [hsql, String.toList_append]
  have hfirst := cutFirst_append (show " where ".toList = [' '] ++ 'w' :: "here ".toList by decide)
    (by decide) hfront.2 (condition.toList ++ (" order by " ++ tail).toList)
  have hlast := cutLast_append htail condition.toList
  rw [List.append_nil] at hlast
  have hcount : placeholders false front.toList = 0 := by
    rw [placeholders, foldl_next_of_unmarked hfront.1]
  rw [Statement.condition?, hlist, hfirst]
  simp only [hlast, hcount]
  cases Expression.read? (Token.ofText condition.toList) <;> rfl

/-- The condition is read back when the front has no `where` of its own. -/
theorem condition?_eq_some
    {s : Statement} {front tail : String} {e : Expression}
    (hsql : s.sql = front ++ " where " ++ e.text ++ " order by " ++ tail)
    (hfront : IsFront front)
    (htail : cutLast " order by ".toList (" order by " ++ tail).toList = some ([], tail.toList))
    (hformed : Expression.Formed .disjunction e)
    (hlegible : e.Legible) :
    s.condition? = some (e, 0) := by
  rw [condition?_eq hsql hfront htail, Expression.read?_text hformed hlegible]
  rfl

end Sql
end FilterQuery
