import FilterQuery.Proofs.Query.Meaning

/-!
# The mandatory restriction

A statement is restricted to a category and a country when its condition begins with tests of the
one and goes on with tests of the other.

**Model.** The condition is the one that is read back from the text of the statement, and its
conjuncts are looked at from the left.  A test is on the column that is written in it.

**A gap.** Mandatory columns are checked by their criteria, while conditions are written from the
tests of the criteria.  A mandatory criterion without tests passes the check and restricts nothing.
The interpretation of a filter map refuses such a criterion; the queries under criteria do not.

**Results.**
* `restricted_iff_demanding`: an accepted statement is restricted exactly when there is a test on
  each mandatory column, and so every statement for a filter map is.
* `not_restricted_untested`: a search and a list of distinct values that are accepted without the
  restriction.
-/

namespace FilterQuery

open Sql (Expression Fragment Statement)

namespace Sql

/-- Whether all tests of an expression are on the column of a name. -/
def Expression.IsOn (name : String) : Expression → Prop
  | .test column _ _ => column = name
  | .group e => e.IsOn name
  | .and e f => e.IsOn name ∧ f.IsOn name
  | .or e f => e.IsOn name ∧ f.IsOn name

/-- Whether expressions begin with some on a first column and go on with some on a second one. -/
def Expression.StartOn (first second : String) (es : List Expression) : Prop :=
  ∃ xs ys zs, es = xs ++ ys ++ zs ∧ xs ≠ [] ∧ ys ≠ [] ∧
    (∀ x ∈ xs, x.IsOn first) ∧ ∀ y ∈ ys, y.IsOn second

/-- Whether the condition of a statement begins with tests of the category and of the country. -/
def Statement.Restricted (s : Statement) : Prop :=
  ∃ e n, s.condition? = some (e, n) ∧
    Expression.StartOn "p.category" "s.country" e.conjuncts

/-- Whether a statement is restricted is told by its condition. -/
theorem Statement.restricted_iff_of_condition?
    {s : Statement} {e : Expression} {n : Nat}
    (h : s.condition? = some (e, n)) :
    s.Restricted ↔ Expression.StartOn "p.category" "s.country" e.conjuncts := by
  constructor
  · rintro ⟨e', n', h', hstart⟩
    obtain ⟨rfl, rfl⟩ : e = e' ∧ n = n' := by simpa [h] using h'
    exact hstart
  · intro hstart
    exact ⟨e, n, h, hstart⟩

end Sql

namespace Test

theorem isOn_expression_iff
    {column : Column} {t : Test} {name : String} :
    (t.expression column).IsOn name ↔ column.qualified = name := by
  obtain ⟨operator, values⟩ := t
  cases operator with
  | compare c =>
      exact Iff.rfl
  | anyOf =>
      rw [expression, Expression.IsOn]
      induction values.length - 1 with
      | zero =>
          exact Iff.rfl
      | succ n ih =>
          rw [List.replicate_succ, Expression.any, Expression.IsOn, ih]
          exact and_self_iff

end Test

namespace Column

/-- Only the full names of columns have a point. -/
theorem name_ne_qualified (column column' : Column) :
    column.name ≠ column'.qualified := by
  have hname : '.' ∉ column.name.toList := by
    cases column <;> decide
  have hqualified : '.' ∈ column'.qualified.toList := by
    cases column' <;> decide
  intro h
  exact hname (h ▸ hqualified)

/-- Exclusions leave out the alias, so they are on no column of a criterion. -/
theorem not_isOn_of_mem_exclusions
    {column column' : Column} {literals : List String} {e : Expression}
    (he : e ∈ column.exclusions literals) :
    ¬ e.IsOn column'.qualified := by
  obtain ⟨l, -, rfl⟩ := List.mem_map.1 he
  exact name_ne_qualified column column'

end Column

namespace Criteria

/-- Whether there is a test on each mandatory column. -/
def Demanding (criteria : List Criterion) : Prop :=
  ∀ column ∈ Column.mandatory, ∃ c ∈ criteria, c.column = column ∧ c.tests ≠ []

instance (criteria : List Criterion) : Decidable (Demanding criteria) :=
  inferInstanceAs (Decidable (∀ _ ∈ _, _))

variable {criteria : List Criterion} {column : Column}

theorem expressions_append (xs ys : List Criterion) :
    expressions (xs ++ ys) = expressions xs ++ expressions ys := by
  rw [expressions, tests, List.flatMap_append, List.map_append]
  rfl

/-- The tests on a column are those of the criteria on it. -/
theorem exists_isOn_iff :
    (∃ e ∈ expressions criteria, e.IsOn column.qualified) ↔
      ∃ c ∈ criteria, c.column = column ∧ c.tests ≠ [] := by
  constructor
  · rintro ⟨e, he, hon⟩
    obtain ⟨⟨column', t⟩, ht, rfl⟩ := List.mem_map.1 he
    obtain rfl := Column.qualified_injective (Test.isOn_expression_iff.1 hon)
    obtain ⟨c, hc, hcolumn, hct⟩ := mem_tests.1 ht
    exact ⟨c, hc, hcolumn, List.ne_nil_of_mem hct⟩
  · rintro ⟨c, hc, rfl, htests⟩
    obtain ⟨t, ht⟩ := List.exists_mem_of_ne_nil c.tests htests
    have hmem : (c.column, t) ∈ tests criteria := mem_tests.2 ⟨c, hc, rfl, ht⟩
    exact ⟨_, List.mem_map_of_mem hmem, Test.isOn_expression_iff.2 rfl⟩

/-- The expressions of criteria on a column are on that column. -/
theorem isOn_of_mem_expressions_on
    {e : Expression}
    (he : e ∈ expressions (on column criteria)) :
    e.IsOn column.qualified := by
  obtain ⟨⟨column', t⟩, ht, rfl⟩ := List.mem_map.1 he
  obtain ⟨c, hc, rfl, -⟩ := mem_tests.1 ht
  rw [Test.isOn_expression_iff, (mem_on.1 hc).2]

theorem expressions_on_ne_nil
    (h : ∃ c ∈ criteria, c.column = column ∧ c.tests ≠ []) :
    expressions (on column criteria) ≠ [] := by
  obtain ⟨c, hc, hcolumn, htests⟩ := h
  have hon : ∃ d ∈ on column criteria, d.column = column ∧ d.tests ≠ [] :=
    ⟨c, mem_on.2 ⟨hc, hcolumn⟩, hcolumn, htests⟩
  obtain ⟨e, he, -⟩ := exists_isOn_iff.2 hon
  exact List.ne_nil_of_mem he

/-- Category and country stand in front of the other columns. -/
theorem exists_expressions_byPriority (criteria : List Criterion) :
    ∃ es, expressions (byPriority criteria) =
      expressions (on .category criteria) ++ expressions (on .country criteria) ++ es := by
  refine ⟨expressions ((Column.all.drop 2).flatMap fun column => on column criteria), ?_⟩
  rw [← expressions_append, ← expressions_append, byPriority_eq]

/-- What is written for criteria in order begins with the mandatory columns when there are tests on
them, whatever stands behind without an alias. -/
theorem startOn_iff_demanding
    {xs : List Expression}
    (hxs : ∀ x ∈ xs, ∀ column : Column, ¬ x.IsOn column.qualified) :
    Expression.StartOn "p.category" "s.country" (expressions (byPriority criteria) ++ xs) ↔
      Demanding criteria := by
  have hcategory : Column.category.qualified = "p.category" := by decide
  have hcountry : Column.country.qualified = "s.country" := by decide
  rw [← hcategory, ← hcountry]
  constructor
  · rintro ⟨cs, ds, zs, hes, hcs, hds, hcategories, hcountries⟩
    have htest : ∀ column : Column,
        (∃ e ∈ expressions (byPriority criteria) ++ xs, e.IsOn column.qualified) →
          ∃ c ∈ criteria, c.column = column ∧ c.tests ≠ [] := by
      rintro column ⟨e, he, hon⟩
      have he' : e ∈ expressions (byPriority criteria) :=
        (List.mem_append.1 he).resolve_right fun hx => hxs e hx column hon
      simpa using exists_isOn_iff.1 ⟨e, he', hon⟩
    obtain ⟨c, hc⟩ := List.exists_mem_of_ne_nil cs hcs
    obtain ⟨d, hd⟩ := List.exists_mem_of_ne_nil ds hds
    intro column hcolumn
    simp only [Column.mandatory, List.mem_cons, List.not_mem_nil, or_false] at hcolumn
    rcases hcolumn with rfl | rfl
    · exact htest _ ⟨c, by simp [hes, hc], hcategories c hc⟩
    · exact htest _ ⟨d, by simp [hes, hd], hcountries d hd⟩
  · intro h
    obtain ⟨es, hes⟩ := exists_expressions_byPriority criteria
    refine ⟨expressions (on .category criteria), expressions (on .country criteria), es ++ xs, ?_,
      expressions_on_ne_nil (h _ (by decide)), expressions_on_ne_nil (h _ (by decide)), ?_, ?_⟩
    · rw [hes, List.append_assoc]
    · intro x hx
      exact isOn_of_mem_expressions_on hx
    · intro y hy
      exact isOn_of_mem_expressions_on hy

end Criteria

/-- The criteria of an accepted map have tests on the mandatory columns. -/
theorem FilterMap.demanding
    {m : FilterMap} {criteria : List Criterion}
    (h : m.criteria = .ok criteria) :
    Criteria.Demanding criteria := by
  intro column hcolumn
  obtain ⟨c, hc, hon⟩ :=
    Criteria.missing?_eq_none_iff.1 (FilterMap.ordered_criteria h).1 column hcolumn
  exact ⟨c, hc, hon, FilterMap.tests_ne_nil h c hc⟩

namespace Query

section Condition

variable {criteria : List Criterion} {f : Fragment} {xs : List Expression} {s : Statement}
variable {front tail : String}

/-- Without tests nothing is read, since the condition is empty or begins with a connective. -/
theorem condition?_eq_none
    (hf : Criteria.condition criteria = .ok f)
    (hes : Criteria.expressions criteria = [])
    (hsql : s.sql = front ++ " where " ++ f.sql ++ String.join (xs.map fun x => " and " ++ x.text)
      ++ " order by " ++ tail)
    (hfront : Sql.IsFront front)
    (htail : Sql.cutLast " order by ".toList (" order by " ++ tail).toList =
      some ([], tail.toList)) :
    s.condition? = none := by
  have hempty : f.sql = "" := by
    rw [(Criteria.of_condition_eq_ok hf).1, hes]
    rfl
  rw [hempty, String.append_empty] at hsql
  rw [Sql.condition?_eq hsql hfront htail]
  cases xs with
  | nil =>
      exact congrArg (Option.map _) Expression.read?_nil
  | cons x xs =>
      rw [List.map_cons, String.join_cons, String.append_assoc, String.toList_append]
      exact congrArg (Option.map _) (Expression.read?_and_cons _)

/-- A statement whose condition is that of criteria is restricted when they demand both columns. -/
theorem restricted_iff
    (hf : Criteria.condition (Criteria.byPriority criteria) = .ok f)
    (hformed : ∀ x ∈ xs, Expression.Formed .factor x)
    (hlegible : ∀ x ∈ xs, x.Legible)
    (hxs : ∀ x ∈ xs, ∀ column : Column, ¬ x.IsOn column.qualified)
    (hsql : s.sql = front ++ " where " ++ f.sql ++ String.join (xs.map fun x => " and " ++ x.text)
      ++ " order by " ++ tail)
    (hfront : Sql.IsFront front)
    (htail : Sql.cutLast " order by ".toList (" order by " ++ tail).toList =
      some ([], tail.toList)) :
    s.Restricted ↔ Criteria.Demanding criteria := by
  rw [← Criteria.startOn_iff_demanding hxs]
  cases hes : Criteria.expressions (Criteria.byPriority criteria) with
  | nil =>
      rw [Statement.Restricted, condition?_eq_none hf hes hsql hfront htail]
      simp only [reduceCtorEq, false_and, exists_false, List.nil_append, false_iff]
      rintro ⟨cs, ds, zs, rfl, hcs, -, hcategories, -⟩
      obtain ⟨c, hc⟩ := List.exists_mem_of_ne_nil cs hcs
      exact hxs c (by simp [hc]) .category (hcategories c hc)
  | cons e es =>
      have hfactors : ∀ x ∈ e :: (es ++ xs), Expression.Formed .factor x := by
        rw [← List.cons_append, ← hes]
        intro x hx
        rcases List.mem_append.1 hx with hx | hx
        · exact Criteria.formed_of_mem_expressions hx
        · exact hformed x hx
      rw [Statement.restricted_iff_of_condition?
        (condition?_eq_some hf hes hformed hlegible hsql hfront htail),
        Expression.conjuncts_all hfactors, List.cons_append]

end Condition

/-- A search is restricted when both mandatory columns have a test. -/
theorem searchOf_restricted_iff
    {rows page : UInt32} {criteria : List Criterion} {s : Statement}
    (h : searchOf rows criteria page = .ok s) :
    s.Restricted ↔ Criteria.Demanding criteria := by
  obtain ⟨l, o, f, -, -, -, hf, hsql, -⟩ := searchOf_eq_ok_iff.1 h
  rw [search_text_eq] at hsql
  exact restricted_iff hf (by simp) (by simp) (by simp) hsql isFront_searchFront (by decide)

/-- A list of distinct values is restricted when both mandatory columns have a test. -/
theorem distinctOf_restricted_iff
    {criteria : List Criterion} {column : Column} {s : Statement}
    (h : distinctOf criteria column = .ok s) :
    s.Restricted ↔ Criteria.Demanding criteria := by
  obtain ⟨literals, f, -, hliterals, hf, hsql, -⟩ := distinctOf_eq_ok_iff.1 h
  exact restricted_iff hf (fun _ hx => Column.formed_of_mem_exclusions hx)
    (fun _ hx => Column.legible_of_mem_exclusions hliterals hx)
    (fun _ hx _ => Column.not_isOn_of_mem_exclusions hx) hsql (isFront_distinctFront _ column)
    column.cutLast_qualified

/-- An accepted statement under criteria is restricted exactly when there is a test on each
mandatory column.  For a filter map there always is. -/
theorem restricted_iff_demanding (criteria : List Criterion) (filters : FilterMap) :
    (∀ (rows page : UInt32) (s : Statement),
      searchOf rows criteria page = .ok s → (s.Restricted ↔ Criteria.Demanding criteria)) ∧
    (∀ (column : Column) (s : Statement),
      distinctOf criteria column = .ok s → (s.Restricted ↔ Criteria.Demanding criteria)) ∧
    (∀ (rows page : UInt32) (s : Statement),
      search rows filters page = .ok s → s.Restricted) ∧
    ∀ (name : String) (s : Statement),
      distinct filters name = .ok s → s.Restricted := by
  refine ⟨?_, ?_, ?_, ?_⟩
  · intro rows page s h
    exact searchOf_restricted_iff h
  · intro column s h
    exact distinctOf_restricted_iff h
  · intro rows page s h
    obtain ⟨xs, hxs, h⟩ := bind_eq_ok_iff.1 h
    exact (searchOf_restricted_iff h).2 (FilterMap.demanding hxs)
  · intro name s h
    obtain ⟨xs, hxs, h⟩ := bind_eq_ok_iff.1 h
    obtain ⟨column, -, h⟩ := bind_eq_ok_iff.1 h
    exact (distinctOf_restricted_iff h).2 (FilterMap.demanding hxs)

/-- Criteria on both mandatory columns, one of which comes without tests besides. -/
def repeatedCategory : List Criterion := [
  ⟨.category, []⟩,
  ⟨.version, [⟨.compare .ne, ["2019"]⟩]⟩,
  ⟨.country, [⟨.anyOf, ["lv", "ee"]⟩]⟩,
  ⟨.category, [⟨.compare .eq, ["car"]⟩]⟩]

theorem restricted_iff_demanding_repeatedCategory :
    ∃ s t u v,
      searchOf 20 repeatedCategory 3 = .ok s ∧ distinctOf repeatedCategory .year = .ok t ∧
      search 20 FilterMap.recentCars 0 = .ok u ∧
      distinct FilterMap.recentCars "version" = .ok v ∧
      s.Restricted ∧ t.Restricted ∧ u.Restricted ∧ v.Restricted := by
  obtain ⟨hsearchOf, hdistinctOf, hsearch, hdistinct⟩ :=
    restricted_iff_demanding repeatedCategory FilterMap.recentCars
  have hdemanding : Criteria.Demanding repeatedCategory := by
    decide
  obtain ⟨s, hs⟩ : ∃ s, searchOf 20 repeatedCategory 3 = .ok s :=
    exists_searchOf_iff.2 rfl
  obtain ⟨t, ht⟩ : ∃ t, distinctOf repeatedCategory .year = .ok t :=
    exists_distinctOf_iff.2 rfl
  obtain ⟨u, hu⟩ : ∃ u, search 20 FilterMap.recentCars 0 = .ok u :=
    exists_search_iff.2 (by decide)
  obtain ⟨v, hv⟩ : ∃ v, distinct FilterMap.recentCars "version" = .ok v :=
    exists_distinct_iff.2 (by decide)
  exact ⟨s, t, u, v, hs, ht, hu, hv, (hsearchOf _ _ _ hs).2 hdemanding,
    (hdistinctOf _ _ ht).2 hdemanding, hsearch _ _ _ hu, hdistinct _ _ hv⟩

/-- Criteria whose mandatory ones have no tests. -/
def untested : List Criterion := [
  ⟨.category, []⟩,
  ⟨.country, []⟩,
  ⟨.brand, [⟨.compare .eq, ["north"]⟩]⟩]

/-- Nothing is refused here, and products of all categories and countries pass. -/
theorem not_restricted_untested :
    ∃ s t, searchOf 20 untested 0 = .ok s ∧ distinctOf untested .brand = .ok t ∧
      ¬ s.Restricted ∧ ¬ t.Restricted := by
  have hdemanding : ¬ Criteria.Demanding untested := by
    decide
  obtain ⟨s, hs⟩ : ∃ s, searchOf 20 untested 0 = .ok s :=
    exists_searchOf_iff.2 rfl
  obtain ⟨t, ht⟩ : ∃ t, distinctOf untested .brand = .ok t :=
    exists_distinctOf_iff.2 rfl
  exact ⟨s, t, hs, ht, (searchOf_restricted_iff hs).not.2 hdemanding,
    (distinctOf_restricted_iff ht).not.2 hdemanding⟩

end Query
end FilterQuery
