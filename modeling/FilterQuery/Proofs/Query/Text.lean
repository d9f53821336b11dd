import FilterQuery.Proofs.Criterion.Order
import FilterQuery.Proofs.Criterion.Predicate
import FilterQuery.Proofs.Criterion.Spelling
import FilterQuery.Proofs.Sql.Clause
import FilterQuery.Query.Distinct
import FilterQuery.Query.Search

/-!
# The text of a query

What the two queries are put together from when they are accepted: a front that depends on the
tables alone, the condition of the ordered criteria, and an end.

**Results.**
* `distinctOf_eq_ok_iff`, `searchOf_eq_ok_iff`: when a query under criteria is accepted, and what
  its statement is.
* `isFront_distinctFront`, `isFront_searchFront`: neither front has a placeholder or a quote.
-/

namespace FilterQuery

open Sql (Expression Fragment Parameter Statement)

namespace Column

/-- The tests that leave out values of a column, which stands without the alias of its table. -/
def exclusions (column : Column) (literals : List String) : List Expression :=
  literals.map fun l => .test column.name "<>" (.literal l)

/-- The text of an exclusion is that of the tests that leave values out. -/
theorem exclusion_eq_ok_iff
    {column : Column} {text : String} :
    column.exclusion = .ok text ↔
      ∃ literals, column.excluded? = some literals ∧
        text = String.join ((column.exclusions literals).map fun e => " and " ++ e.text) := by
  have hmap : ∀ literals : List String,
      ((column.exclusions literals).map fun e => " and " ++ e.text) =
        literals.map fun l => " and " ++ column.name ++ " <> " ++ l := by
    intro literals
    rw [exclusions, List.map_map]
    refine List.map_congr_left ?_
    intro l _
    simp only [Function.comp_apply, Expression.text, Sql.Operand.text, String.append_assoc]
    rfl
  simp only [hmap]
  rw [exclusion]
  cases column.excluded? <;> simp [eq_comm]

/-- The values that are ever left out. -/
theorem mem_of_excluded?_eq_some
    {column : Column} {literals : List String}
    (h : column.excluded? = some literals) :
    literals ⊆ ["-1", "-2", "'unknown'", "'not needed'"] := by
  cases column <;> simp only [excluded?, Option.some.injEq, reduceCtorEq] at h <;>
    subst h <;> simp

theorem formed_of_mem_exclusions
    {column : Column} {literals : List String} {e : Expression}
    (he : e ∈ column.exclusions literals) :
    Expression.Formed .factor e := by
  obtain ⟨l, -, rfl⟩ := List.mem_map.1 he
  exact .test _ _ _

/-- Column names are words, and excluded literals are words or quoted. -/
theorem legible_of_mem_exclusions
    {column : Column} {literals : List String} {e : Expression}
    (h : column.excluded? = some literals)
    (he : e ∈ column.exclusions literals) :
    e.Legible := by
  obtain ⟨l, hl, rfl⟩ := List.mem_map.1 he
  have hname : Sql.Token.IsWord column.name := by
    cases column <;> decide
  have hliteral : Sql.Operand.Legible (.literal l) := by
    have hmem := mem_of_excluded?_eq_some h hl
    simp only [List.mem_cons, List.not_mem_nil, or_false] at hmem
    rcases hmem with rfl | rfl | rfl | rfl
    · exact Or.inl (by decide)
    · exact Or.inl (by decide)
    · exact Or.inr ⟨"unknown".toList, by decide, by decide⟩
    · exact Or.inr ⟨"not needed".toList, by decide, by decide⟩
  exact ⟨hname, by decide, hliteral⟩

/-- The order by a column is the last one. -/
theorem cutLast_qualified (column : Column) :
    Sql.cutLast " order by ".toList (" order by " ++ column.qualified).toList =
      some ([], column.qualified.toList) := by
  cases column <;> decide

end Column

namespace Sql

/-- A from clause has no placeholder and no quote when its joins have none. -/
theorem isFront_fromClause
    {joins : List Join}
    (h : ∀ j ∈ joins, IsFront j.sql) :
    IsFront (Join.fromClause joins) := by
  refine isFront_append (by decide) ?_
  induction joins with
  | nil =>
      decide
  | cons j joins ih =>
      rw [List.map_cons, String.join_cons]
      rw [List.forall_mem_cons] at h
      exact isFront_append (isFront_append (by decide) h.1) (ih h.2)

theorem isFront_sql_of_mem_search :
    ∀ j ∈ Join.search, IsFront j.sql := by
  decide +kernel

/-- No plan joins more than a search does. -/
theorem Join.plan_subset_search
    (criteria : List Criterion) (projected : Option Column) :
    plan criteria projected ⊆ search := by
  rw [plan]
  split
  · exact List.Subset.refl search
  · simp [search]

end Sql

namespace Query

/-- What stands in front of the condition of a list of distinct values. -/
def distinctFront (criteria : List Criterion) (column : Column) : String :=
  "select distinct " ++ column.qualified
    ++ Sql.Join.fromClause (Sql.Join.plan criteria (some column))

/-- What stands in front of the condition of a search. -/
def searchFront : String :=
  "select " ++ projection ++ Sql.Join.fromClause Sql.Join.search

theorem distinctFront_eq
    (criteria : List Criterion) (column : Column) :
    distinctFront criteria column =
      "select distinct " ++ (column.qualified
        ++ Sql.Join.fromClause (Sql.Join.plan criteria (some column))) :=
  String.append_assoc

theorem isFront_distinctFront (criteria : List Criterion) (column : Column) :
    Sql.IsFront (distinctFront criteria column) := by
  rw [distinctFront_eq]
  refine Sql.isFront_append (by decide) (Sql.isFront_append ?_ (Sql.isFront_fromClause ?_))
  · cases column <;> decide
  · intro j hj
    exact Sql.isFront_sql_of_mem_search j (Sql.Join.plan_subset_search criteria (some column) hj)

theorem isFront_searchFront :
    Sql.IsFront searchFront :=
  Sql.isFront_append (by decide) (Sql.isFront_fromClause Sql.isFront_sql_of_mem_search)

/-- The text of a search is that of a list of distinct values without exclusions. -/
theorem search_text_eq (front condition : String) :
    front ++ " where " ++ condition ++ " order by a.price limit ? offset ?" =
      front ++ " where " ++ condition
        ++ String.join (([] : List Expression).map fun e => " and " ++ e.text)
        ++ " order by " ++ "a.price limit ? offset ?" := by
  simp [String.append_assoc]

/-- When there is a statement for distinct values, and which one. -/
theorem distinctOf_eq_ok_iff
    {criteria : List Criterion} {column : Column} {s : Statement} :
    distinctOf criteria column = .ok s ↔
      ∃ literals f, Criteria.missing? criteria = none ∧ column.excluded? = some literals ∧
        Criteria.condition (Criteria.byPriority criteria) = .ok f ∧
        s.sql = distinctFront (Criteria.byPriority criteria) column ++ " where " ++ f.sql
          ++ String.join ((column.exclusions literals).map fun e => " and " ++ e.text)
          ++ " order by " ++ column.qualified ∧
        s.parameters = f.parameters := by
  rw [distinctOf, bind_eq_ok_iff]
  simp only [bind_eq_ok_iff, Criteria.order_eq_ok_iff, Column.exclusion_eq_ok_iff,
    Criteria.whereClause]
  constructor
  · rintro ⟨_, ⟨hmissing, rfl⟩, _, ⟨literals, hliterals, rfl⟩, _, ⟨f, hf, hwhere⟩, hs⟩
    cases hwhere
    cases hs
    refine ⟨literals, f, hmissing, hliterals, hf, ?_, ?_⟩
    · simp [distinctFront_eq, String.append_assoc]
    · simp
  · rintro ⟨literals, f, hmissing, hliterals, hf, hsql, hparameters⟩
    refine ⟨_, ⟨hmissing, rfl⟩, _, ⟨literals, hliterals, rfl⟩, _, ⟨f, hf, rfl⟩, ?_⟩
    obtain ⟨sql, parameters⟩ := s
    simp only at hsql hparameters
    subst hsql hparameters
    simp [distinctFront_eq, String.append_assoc, pure, Except.pure]

/-- When there is a search, and which one. -/
theorem searchOf_eq_ok_iff
    {rows page : UInt32} {criteria : List Criterion} {s : Statement} :
    searchOf rows criteria page = .ok s ↔
      ∃ l o f, Criteria.missing? criteria = none ∧
        l.toInt = (limit rows : Int) ∧ o.toInt = (offset rows page : Int) ∧
        Criteria.condition (Criteria.byPriority criteria) = .ok f ∧
        s.sql = searchFront ++ " where " ++ f.sql ++ " order by a.price limit ? offset ?" ∧
        s.parameters = f.parameters ++ [.integer l, .integer o] := by
  rw [searchOf, bind_eq_ok_iff]
  simp only [Criteria.order_eq_ok_iff]
  cases hl : Parameter.ofInt? (limit rows) with
  | none =>
      simp [throw, throwThe, MonadExceptOf.throw, Parameter.ofInt?_eq_none_iff.1 hl]
  | some p =>
      obtain ⟨l, rfl, hlimit⟩ := Parameter.ofInt?_eq_some_iff.1 hl
      cases ho : Parameter.ofInt? (offset rows page) with
      | none =>
          simp [throw, throwThe, MonadExceptOf.throw, Parameter.ofInt?_eq_none_iff.1 ho]
      | some q =>
          obtain ⟨o, rfl, hoffset⟩ := Parameter.ofInt?_eq_some_iff.1 ho
          simp only [Criteria.whereClause, bind_eq_ok_iff]
          constructor
          · rintro ⟨_, ⟨hmissing, rfl⟩, _, ⟨f, hf, hwhere⟩, hs⟩
            cases hwhere
            cases hs
            refine ⟨l, o, f, hmissing, hlimit, hoffset, hf, ?_, ?_⟩
            · simp [searchFront, String.append_assoc]
            · simp
          · rintro ⟨l', o', f, hmissing, hlimit', hoffset', hf, hsql, hparameters⟩
            obtain rfl := Int64.toInt_inj.1 (hlimit'.trans hlimit.symm)
            obtain rfl := Int64.toInt_inj.1 (hoffset'.trans hoffset.symm)
            refine ⟨_, ⟨hmissing, rfl⟩, _, ⟨f, hf, rfl⟩, ?_⟩
            obtain ⟨sql, parameters⟩ := s
            simp only at hsql hparameters
            subst hsql hparameters
            simp [searchFront, String.append_assoc, pure, Except.pure]

end Query
end FilterQuery
