import FilterQuery.Proofs.Query.Placeholders
import FilterQuery.Proofs.Query.Scope
import FilterQuery.Proofs.Sql.Layout

/-!
# The layout of a query

The text of every accepted query is in lower case and single-spaced, its parentheses hold nothing
but alternatives for one column, and its quotes are those of the excluded values.

**Method.** A statement is fixed texts and expressions with a blank between each two.  Every one of
them is neat in itself, hence the whole is (`neat_statement`).

**A condition without tests.** When no criterion has a test there is nothing between `where` and
`order by`, and two blanks meet there.  The interpretation of a filter map refuses such criteria.

**Results.**
* `statements_laid_out`: the layout of the statements under criteria and for filter maps.
-/

namespace FilterQuery

open Sql (Expression Fragment Join Neat Operand QuotesWithin Statement alternatives)

namespace Sql
namespace Expression

theorem neat_test
    {column symbol : String} {operand : Operand}
    (hcolumn : Neat column.toList)
    (hsymbol : Neat symbol.toList)
    (hoperand : Neat operand.text.toList) :
    Neat (Expression.test column symbol operand).text.toList := by
  simpa [text] using hcolumn.append (hsymbol.append hoperand)

theorem neat_all
    {e : Expression} {es : List Expression}
    (h : ∀ f ∈ e :: es, Neat f.text.toList) :
    Neat (all e es).text.toList := by
  induction es generalizing e with
  | nil =>
      exact h e List.mem_cons_self
  | cons f fs ih =>
      have hand : Neat "and".toList :=
        neat_of_plain (by decide)
      rw [List.forall_mem_cons] at h
      rw [text_all_cons]
      simpa using h.1.append (hand.append (ih h.2))

end Expression

/-- The from clause of a plan is neat behind its blank. -/
theorem Join.neat_text
    {joins : List Join}
    (h : joins = [shops] ∨ joins = search) :
    Neat (text joins).toList := by
  rcases h with rfl | rfl
  · exact neat_of_plain (by decide +kernel)
  · exact neat_of_plain (by decide +kernel)

end Sql

namespace Column

theorem neat_qualified (column : Column) :
    Neat column.qualified.toList := by
  cases column <;> exact Sql.neat_of_plain (by decide)

theorem neat_of_mem_exclusions
    {column : Column} {literals : List String} {e : Expression}
    (h : column.excluded? = some literals)
    (he : e ∈ column.exclusions literals) :
    Neat e.text.toList := by
  obtain ⟨l, hl, rfl⟩ := List.mem_map.1 he
  refine Expression.neat_test ?_ (Sql.neat_of_plain (by decide)) ?_
  · cases column <;> exact Sql.neat_of_plain (by decide)
  · have hmem := mem_of_excluded?_eq_some h hl
    simp only [List.mem_cons, List.not_mem_nil, or_false] at hmem
    rcases hmem with rfl | rfl | rfl | rfl <;> exact Sql.neat_of_plain (by decide)

theorem unquoted_qualified (column : Column) :
    '\'' ∉ column.qualified.toList :=
  Sql.not_mem_of_unmarked (column.legible_placeholder .eq).1.unmarked

/-- Excluded texts are quoted on both sides. -/
theorem even_exclusion
    {column : Column} {text : String}
    (h : column.exclusion = .ok text) :
    Even (text.toList.count '\'') := by
  cases column <;> cases h <;> decide

end Column

namespace Test

/-- A test for any of several values is written as a group. -/
theorem text_expression_anyOf (column : Column) (values : List String) :
    (expression column ⟨.anyOf, values⟩).text =
      "(" ++ alternatives column (values.length - 1) ++ ")" := by
  have hplaceholder : (column.placeholder Comparison.eq.symbol).text =
      column.qualified ++ " = ?" := by
    simp only [Column.placeholder, Expression.text, String.append_assoc]
    rfl
  have hopening : "(" ++ " " = "( " := rfl
  have hclosing : " " ++ ")" = " )" := rfl
  rw [expression, Expression.text, Expression.text_any, ← List.replicate_succ, List.map_replicate,
    hplaceholder, alternatives, ← hopening, ← hclosing]
  simp only [String.append_assoc]

/-- What a test is written as is neat. -/
theorem neat_expression (column : Column) (t : Test) :
    Neat (t.expression column).text.toList := by
  obtain ⟨operator, values⟩ := t
  cases operator with
  | compare c =>
      refine Expression.neat_test column.neat_qualified ?_ (Sql.neat_of_plain (by decide))
      cases c <;> exact Sql.neat_of_plain (by decide)
  | anyOf =>
      rw [text_expression_anyOf]
      exact Sql.neat_group column _

theorem unquoted_expression (column : Column) (t : Test) :
    '\'' ∉ (t.expression column).text.toList := by
  obtain ⟨operator, values⟩ := t
  cases operator with
  | compare c =>
      obtain ⟨hcolumn, hsymbol, -⟩ := column.legible_placeholder c
      simp [expression, Column.placeholder, Expression.text, Operand.text,
        Sql.not_mem_of_unmarked hcolumn.unmarked, Sql.not_mem_of_unmarked hsymbol.unmarked]
  | anyOf =>
      have halternatives : '\'' ∉ (alternatives column (values.length - 1)).toList :=
        Sql.not_mem_alternatives (by decide) column _ (by cases column <;> decide)
      rw [text_expression_anyOf]
      simpa using halternatives

end Test

namespace Criteria

variable {criteria : List Criterion} {f : Fragment}

/-- A condition has no quote. -/
theorem unquoted_condition
    (h : condition criteria = .ok f) :
    '\'' ∉ f.sql.toList := by
  rw [(of_condition_eq_ok h).1, String.toList_intercalate]
  refine Sql.not_mem_intercalate (by decide) ?_
  intro l hl
  obtain ⟨u, hu, rfl⟩ := List.mem_map.1 hl
  obtain ⟨e, he, rfl⟩ := List.mem_map.1 hu
  obtain ⟨⟨column, t⟩, -, rfl⟩ := List.mem_map.1 he
  exact t.unquoted_expression column

end Criteria

namespace Query

variable {criteria : List Criterion} {f : Fragment} {s : Statement}

/-- A statement whose criteria have a test is neat. -/
theorem neat_statement
    {xs : List Expression} {front tail : String}
    (hf : Criteria.condition criteria = .ok f)
    (htests : ∃ c ∈ criteria, c.tests ≠ [])
    (hxs : ∀ x ∈ xs, Neat x.text.toList)
    (hfront : Neat front.toList)
    (htail : Neat tail.toList)
    (hsql : s.sql = front ++ " where " ++ f.sql ++ String.join (xs.map fun x => " and " ++ x.text)
      ++ " order by " ++ tail) :
    Neat s.sql.toList := by
  obtain ⟨e, es, hes⟩ := List.exists_cons_of_ne_nil (Criteria.expressions_ne_nil htests)
  have htext : f.sql ++ String.join (xs.map fun x => " and " ++ x.text) =
      (Expression.all e (es ++ xs)).text := by
    rw [(Criteria.of_condition_eq_ok hf).1, hes, ← Expression.text_all, Expression.text_all_append]
  have hcondition : Neat (Expression.all e (es ++ xs)).text.toList := by
    refine Expression.neat_all ?_
    rw [← List.cons_append, ← hes, List.forall_mem_append]
    refine ⟨?_, hxs⟩
    intro x hx
    obtain ⟨⟨column, t⟩, -, rfl⟩ := List.mem_map.1 hx
    exact t.neat_expression column
  have hwhere : Neat "where".toList :=
    Sql.neat_of_plain (by decide)
  have horder : Neat "order by".toList :=
    Sql.neat_of_plain (by decide)
  have hsql' : s.sql =
      front ++ " where " ++ (Expression.all e (es ++ xs)).text ++ " order by " ++ tail := by
    rw [hsql, ← htext]
    simp only [String.append_assoc]
  rw [hsql']
  simpa using hfront.append (hwhere.append (hcondition.append (horder.append htail)))

theorem neat_distinctFront (criteria : List Criterion) (column : Column) :
    Neat (distinctFront criteria column).toList := by
  have hselect : Neat "select distinct".toList :=
    Sql.neat_of_plain (by decide)
  have hfrom : Neat "from".toList :=
    Sql.neat_of_plain (by decide)
  have htables := Join.neat_text (Join.plan_cases criteria (some column))
  rw [distinctFront_eq, Join.fromClause_eq]
  simpa using hselect.append (column.neat_qualified.append (hfrom.append htables))

theorem neat_searchFront :
    Neat searchFront.toList := by
  have hselect : Neat "select".toList :=
    Sql.neat_of_plain (by decide)
  have hprojection : Neat projection.toList :=
    Sql.neat_of_plain (by decide +kernel)
  have hfrom : Neat "from".toList :=
    Sql.neat_of_plain (by decide)
  have htables := Join.neat_text (.inr rfl)
  rw [searchFront, Join.fromClause_eq]
  simpa using hselect.append (hprojection.append (hfrom.append htables))

/-- The text for distinct values is neat, and its quotes are those of the excluded values. -/
theorem distinctOf_laid_out
    {column : Column}
    (htests : ∃ c ∈ criteria, c.tests ≠ [])
    (h : distinctOf criteria column = .ok s) :
    Neat s.sql.toList ∧
      ∃ exclusion, column.exclusion = .ok exclusion ∧ QuotesWithin exclusion s.sql := by
  obtain ⟨literals, f, -, hliterals, hf, hsql, -⟩ := distinctOf_eq_ok_iff.1 h
  have htests' : ∃ c ∈ Criteria.byPriority criteria, c.tests ≠ [] := by
    simpa using htests
  have hexclusion := Column.exclusion_eq_ok_iff.2 ⟨literals, hliterals, rfl⟩
  refine ⟨neat_statement hf htests' (fun _ hx => Column.neat_of_mem_exclusions hliterals hx)
    (neat_distinctFront _ column) column.neat_qualified hsql, _, hexclusion, ?_⟩
  rw [hsql, String.append_assoc]
  refine Sql.quotesWithin_append ?_ (column.even_exclusion hexclusion) ?_
  · have hfront := Sql.not_mem_of_unmarked
      (isFront_distinctFront (Criteria.byPriority criteria) column).1
    simpa using ⟨hfront, Criteria.unquoted_condition hf⟩
  · simpa using column.unquoted_qualified

/-- The text of a search is neat and has no quote. -/
theorem searchOf_laid_out
    {rows page : UInt32}
    (htests : ∃ c ∈ criteria, c.tests ≠ [])
    (h : searchOf rows criteria page = .ok s) :
    Neat s.sql.toList ∧ '\'' ∉ s.sql.toList := by
  obtain ⟨l, o, f, -, -, -, hf, hsql, -⟩ := searchOf_eq_ok_iff.1 h
  have htests' : ∃ c ∈ Criteria.byPriority criteria, c.tests ≠ [] := by
    simpa using htests
  constructor
  · rw [search_text_eq] at hsql
    exact neat_statement hf htests' (by simp) neat_searchFront (Sql.neat_of_plain (by decide)) hsql
  · have hfront := Sql.not_mem_of_unmarked isFront_searchFront.1
    rw [hsql]
    simpa using ⟨hfront, Criteria.unquoted_condition hf⟩

/-- Every accepted statement with a test is neat.  A search has no quotes, and those of a list of
distinct values are balanced and stand in the exclusions of its column. -/
theorem statements_laid_out :
    (∀ (criteria : List Criterion) (column : Column) (s : Statement),
      (∃ c ∈ criteria, c.tests ≠ []) → distinctOf criteria column = .ok s →
        Neat s.sql.toList ∧
          ∃ exclusion, column.exclusion = .ok exclusion ∧ QuotesWithin exclusion s.sql) ∧
    (∀ (rows : UInt32) (criteria : List Criterion) (page : UInt32) (s : Statement),
      (∃ c ∈ criteria, c.tests ≠ []) → searchOf rows criteria page = .ok s →
        Neat s.sql.toList ∧ '\'' ∉ s.sql.toList) ∧
    (∀ (filters : FilterMap) (name : String) (s : Statement),
      distinct filters name = .ok s →
        Neat s.sql.toList ∧
          ∃ column exclusion, Column.ofName? name = some column ∧
            column.exclusion = .ok exclusion ∧ QuotesWithin exclusion s.sql) ∧
    ∀ (rows : UInt32) (filters : FilterMap) (page : UInt32) (s : Statement),
      search rows filters page = .ok s → Neat s.sql.toList ∧ '\'' ∉ s.sql.toList := by
  refine ⟨?_, ?_, ?_, ?_⟩
  · intro criteria column s htests h
    exact distinctOf_laid_out htests h
  · intro rows criteria page s htests h
    exact searchOf_laid_out htests h
  · intro filters name s h
    obtain ⟨criteria, hcriteria, h⟩ := bind_eq_ok_iff.1 h
    obtain ⟨column, hcolumn, h⟩ := bind_eq_ok_iff.1 h
    obtain ⟨hneat, exclusion, hquotes⟩ :=
      distinctOf_laid_out (FilterMap.exists_tests_ne_nil hcriteria) h
    exact ⟨hneat, column, exclusion, Column.resolve_eq_ok_iff.1 hcolumn, hquotes⟩
  · intro rows filters page s h
    obtain ⟨criteria, hcriteria, h⟩ := bind_eq_ok_iff.1 h
    exact searchOf_laid_out (FilterMap.exists_tests_ne_nil hcriteria) h

theorem statements_laid_out_scattered :
    ∃ s t u v,
      distinctOf scattered .version = .ok s ∧ searchOf 20 scattered 3 = .ok t ∧
      distinct FilterMap.recentCars "size" = .ok u ∧
      search 20 FilterMap.recentCars 0 = .ok v ∧
      (Neat s.sql.toList ∧
        ∃ exclusion, Column.version.exclusion = .ok exclusion ∧ QuotesWithin exclusion s.sql) ∧
      (Neat t.sql.toList ∧ '\'' ∉ t.sql.toList) ∧
      (Neat u.sql.toList ∧
        ∃ column exclusion, Column.ofName? "size" = some column ∧
          column.exclusion = .ok exclusion ∧ QuotesWithin exclusion u.sql) ∧
      (Neat v.sql.toList ∧ '\'' ∉ v.sql.toList) := by
  obtain ⟨hdistinctOf, hsearchOf, hdistinct, hsearch⟩ := statements_laid_out
  obtain ⟨s, hs⟩ : ∃ s, distinctOf scattered .version = .ok s :=
    exists_distinctOf_iff.2 rfl
  obtain ⟨t, ht⟩ : ∃ t, searchOf 20 scattered 3 = .ok t :=
    exists_searchOf_iff.2 rfl
  obtain ⟨u, hu⟩ : ∃ u, distinct FilterMap.recentCars "size" = .ok u :=
    exists_distinct_iff.2 (by decide)
  obtain ⟨v, hv⟩ : ∃ v, search 20 FilterMap.recentCars 0 = .ok v :=
    exists_search_iff.2 (by decide)
  have htests : ∃ c ∈ scattered, c.tests ≠ [] := by
    decide
  exact ⟨s, t, u, v, hs, ht, hu, hv, hdistinctOf _ _ _ htests hs, hsearchOf _ _ _ _ htests ht,
    hdistinct _ _ _ hu, hsearch _ _ _ _ hv⟩

end Query
end FilterQuery
