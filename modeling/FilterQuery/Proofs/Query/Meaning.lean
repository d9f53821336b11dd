import FilterQuery.Proofs.Criterion.Meaning
import FilterQuery.Proofs.FilterMap.Criteria
import FilterQuery.Proofs.Query.Problems

/-!
# The meaning of a query

The condition of a statement, read back from its text, demands of a row what the filters demand that
the statement was built from.

**Method.** The text of an accepted query is a front, the text of an expression of the grammar and
an end.  The reader of conditions gives that expression back, and its meaning is that of the
criteria, which in turn is that of the filters.

**Results.**
* `condition_means_filters`: the condition of a search means its filters, that of a list of distinct
  values means its filters and the exclusions of its column.
-/

namespace FilterQuery
namespace Query

open Sql (Expression Fragment Interpretation Statement)

/-- The condition of a statement is read as the expressions of its criteria and those behind
them. -/
theorem condition?_eq_some
    {criteria : List Criterion} {f : Fragment} {e : Expression} {es xs : List Expression}
    {s : Statement} {front tail : String}
    (hf : Criteria.condition criteria = .ok f)
    (hes : Criteria.expressions criteria = e :: es)
    (hformed : ∀ x ∈ xs, Expression.Formed .factor x)
    (hlegible : ∀ x ∈ xs, x.Legible)
    (hsql : s.sql = front ++ " where " ++ f.sql ++ String.join (xs.map fun x => " and " ++ x.text)
      ++ " order by " ++ tail)
    (hfront : Sql.IsFront front)
    (htail : Sql.cutLast " order by ".toList (" order by " ++ tail).toList =
      some ([], tail.toList)) :
    s.condition? = some (.all e (es ++ xs), 0) := by
  have htext : f.sql ++ String.join (xs.map fun x => " and " ++ x.text) =
      (Expression.all e (es ++ xs)).text := by
    rw [(Criteria.of_condition_eq_ok hf).1, hes, ← Expression.text_all, Expression.text_all_append]
  have hmem : ∀ x ∈ e :: (es ++ xs), x ∈ Criteria.expressions criteria ∨ x ∈ xs := by
    intro x hx
    rwa [← List.cons_append, ← hes, List.mem_append] at hx
  refine Sql.condition?_eq_some ?_ hfront htail (.conjunction (Expression.formed_all ?_))
    (Expression.legible_all ?_)
  · rw [hsql, ← htext]
    simp only [String.append_assoc]
  · intro x hx
    rcases hmem x hx with hx | hx
    · exact Criteria.formed_of_mem_expressions hx
    · exact hformed x hx
  · intro x hx
    rcases hmem x hx with hx | hx
    · exact Criteria.legible_of_mem_expressions hx
    · exact hlegible x hx

/-- The condition of a search means its filters. -/
theorem search_condition
    {rows page : UInt32} {filters : FilterMap} {s : Statement}
    (h : search rows filters page = .ok s) :
    ∃ e, s.condition? = some (e, 0) ∧
      ∀ I : Interpretation, e.Holds I s.parameters 0 ↔ filters.Holds I := by
  obtain ⟨criteria, hcriteria, h⟩ := bind_eq_ok_iff.1 h
  obtain ⟨l, o, f, -, -, -, hf, hsql, hparameters⟩ := searchOf_eq_ok_iff.1 h
  rw [(FilterMap.ordered_criteria hcriteria).2] at hf
  obtain ⟨e, es, hes⟩ := List.exists_cons_of_ne_nil (FilterMap.expressions_ne_nil hcriteria)
  rw [search_text_eq] at hsql
  refine ⟨.all e (es ++ []), ?_, ?_⟩
  · exact condition?_eq_some hf hes (by simp) (by simp) hsql isFront_searchFront (by decide)
  · intro I
    rw [hparameters, Criteria.holds_condition hf hes (by simp) [.integer l, .integer o],
      FilterMap.forall_tests_iff hcriteria]
    simp

/-- The condition for distinct values means the filters and the exclusions of the column. -/
theorem distinct_condition
    {filters : FilterMap} {name : String} {s : Statement}
    (h : distinct filters name = .ok s) :
    ∃ e column literals, s.condition? = some (e, 0) ∧ Column.ofName? name = some column ∧
      column.excluded? = some literals ∧
      ∀ I : Interpretation, e.Holds I s.parameters 0 ↔
        filters.Holds I ∧ ∀ l ∈ literals, I column.name "<>" (.literal l) := by
  obtain ⟨criteria, hcriteria, h⟩ := bind_eq_ok_iff.1 h
  obtain ⟨column, hcolumn, h⟩ := bind_eq_ok_iff.1 h
  obtain ⟨literals, f, -, hliterals, hf, hsql, hparameters⟩ := distinctOf_eq_ok_iff.1 h
  rw [(FilterMap.ordered_criteria hcriteria).2] at hf
  obtain ⟨e, es, hes⟩ := List.exists_cons_of_ne_nil (FilterMap.expressions_ne_nil hcriteria)
  have hplaceholders : ∀ x ∈ column.exclusions literals, x.placeholders = 0 := by
    intro x hx
    obtain ⟨l, -, rfl⟩ := List.mem_map.1 hx
    rfl
  refine ⟨.all e (es ++ column.exclusions literals), column, literals, ?_,
    Column.resolve_eq_ok_iff.1 hcolumn, hliterals, ?_⟩
  · exact condition?_eq_some hf hes (fun _ hx => Column.formed_of_mem_exclusions hx)
      (fun _ hx => Column.legible_of_mem_exclusions hliterals hx) hsql
      (isFront_distinctFront _ column) column.cutLast_qualified
  · intro I
    have hholds := Criteria.holds_condition (I := I) hf hes hplaceholders []
    rw [List.append_nil] at hholds
    rw [hparameters, hholds, FilterMap.forall_tests_iff hcriteria]
    simp [Column.exclusions, Expression.Holds]

/-- The condition of an accepted query means its filters, each entry as it was given; that of a list
of distinct values leaves out the excluded values besides, and nothing else. -/
theorem condition_means_filters :
    (∀ (rows page : UInt32) (filters : FilterMap) (s : Statement),
      search rows filters page = .ok s →
        ∃ e, s.condition? = some (e, 0) ∧
          ∀ I : Interpretation, e.Holds I s.parameters 0 ↔ filters.Holds I) ∧
    ∀ (filters : FilterMap) (name : String) (s : Statement),
      distinct filters name = .ok s →
        ∃ e column literals, s.condition? = some (e, 0) ∧ Column.ofName? name = some column ∧
          column.excluded? = some literals ∧
          ∀ I : Interpretation, e.Holds I s.parameters 0 ↔
            filters.Holds I ∧ ∀ l ∈ literals, I column.name "<>" (.literal l) := by
  constructor
  · intro rows page filters s h
    exact search_condition h
  · intro filters name s h
    exact distinct_condition h

theorem condition_means_filters_recentCars :
    ∃ s t, search 20 FilterMap.recentCars 0 = .ok s ∧
      distinct FilterMap.recentCars "version" = .ok t ∧
      (∃ e, s.condition? = some (e, 0) ∧
        ∀ I : Interpretation, e.Holds I s.parameters 0 ↔ FilterMap.recentCars.Holds I) ∧
      ∃ e column literals, t.condition? = some (e, 0) ∧
        Column.ofName? "version" = some column ∧ column.excluded? = some literals ∧
        ∀ I : Interpretation, e.Holds I t.parameters 0 ↔
          FilterMap.recentCars.Holds I ∧ ∀ l ∈ literals, I column.name "<>" (.literal l) := by
  obtain ⟨s, hs⟩ : ∃ s, search 20 FilterMap.recentCars 0 = .ok s :=
    exists_search_iff.2 (by decide)
  obtain ⟨t, ht⟩ : ∃ t, distinct FilterMap.recentCars "version" = .ok t :=
    exists_distinct_iff.2 (by decide)
  exact ⟨s, t, hs, ht, condition_means_filters.1 20 0 FilterMap.recentCars s hs,
    condition_means_filters.2 FilterMap.recentCars "version" t ht⟩

end Query
end FilterQuery
