import FilterQuery.Proofs.Criterion.Predicate
import FilterQuery.Proofs.Sql.Fragment

/-!
# Conditions of lists

The condition of a list of criteria is put together from those of its parts, and so is its failure.

**Method.** A condition is a join of the predicates of all tests, whichever criteria they belong to.
Predicates are never empty, so a part without a text is one without tests.

**Errors.** `Test.Fails` says how a test fails by itself; the first test that does so decides.

**Results.**
* `condition_append`: the condition of two lists in terms of theirs.
* `condition_eq_error_iff`: the error is that of the first test that fails.
* `conditions_compose`: both, with when a condition is empty and how criteria may be split.
-/

namespace FilterQuery

open Sql (Expression Fragment)

namespace Sql

/-- Two texts with `and` between them, or one of them if the other is empty. -/
def conjoined (s t : String) : String :=
  if s = "" then t
  else if t = "" then s
  else s ++ " and " ++ t

theorem Expression.text_ne_empty (e : Expression) :
    e.text ≠ "" := by
  cases e <;> simp [text]

namespace Fragment

/-- A join of fragments with a text is empty only if there are none. -/
theorem sql_join_eq_empty_iff
    {fs : List Fragment}
    (hfs : ∀ f ∈ fs, f.sql ≠ "")
    (separator : String) :
    (join separator fs).sql = "" ↔ fs = [] := by
  match fs with
  | [] =>
      simp
  | [f] =>
      simpa using hfs f (by simp)
  | f :: g :: fs =>
      have hf := hfs f (by simp)
      simp [join_cons_cons, hf]

/-- The conditions of two lists are joined by `and`, except where one of them is empty. -/
theorem join_append_conjoined
    {fs gs : List Fragment}
    (hfs : ∀ f ∈ fs, f.sql ≠ "")
    (hgs : ∀ f ∈ gs, f.sql ≠ "") :
    join " and " (fs ++ gs) =
      ⟨conjoined (join " and " fs).sql (join " and " gs).sql,
        (join " and " fs).parameters ++ (join " and " gs).parameters⟩ := by
  have hfsEmpty := sql_join_eq_empty_iff hfs " and "
  have hgsEmpty := sql_join_eq_empty_iff hgs " and "
  by_cases hf : fs = []
  · subst fs
    simp [conjoined, join_eq]
  · rw [conjoined, if_neg (hfsEmpty.not.2 hf)]
    by_cases hg : gs = []
    · subst gs
      simp [join_eq]
    · rw [if_neg (hgsEmpty.not.2 hg), join_append hf hg]
      ext1
      · rfl
      · simp

end Fragment
end Sql

/-- How a test on a column fails: for the number of its values, or for the first of them that the
column does not accept. -/
inductive Test.Fails (column : Column) : Test → QueryError → Prop
  | empty (operator : Operator) :
      Fails column ⟨operator, []⟩ (.emptyFilter column.name)
  | count {c : Comparison} {values : List String} :
      2 ≤ values.length →
      Fails column ⟨.compare c, values⟩ (.valueCount column (.compare c) values.length)
  | comparison {c : Comparison} {value : String} {e : QueryError} :
      column.cast value = .error e →
      Fails column ⟨.compare c, [value]⟩ e
  | anyOf {front rest : List String} {value : String} {e : QueryError} :
      (∀ v ∈ front, ∃ p, column.cast v = .ok p) →
      column.cast value = .error e →
      Fails column ⟨.anyOf, front ++ value :: rest⟩ e

namespace Column

variable {column : Column} {symbol value : String}

/-- A comparison fails only for its value. -/
theorem failure?_comparison_eq :
    failure? (column.comparison symbol value) = failure? (column.cast value) :=
  failure?_bind_pure _ _

/-- A comparison fails only for its value. -/
theorem comparison_eq_error_iff
    {e : QueryError} :
    column.comparison symbol value = .error e ↔ column.cast value = .error e := by
  rw [← failure?_eq_some_iff, failure?_comparison_eq, failure?_eq_some_iff]

theorem exists_comparison_iff :
    (∃ f, column.comparison symbol value = .ok f) ↔ ∃ p, column.cast value = .ok p := by
  rw [← failure?_eq_none_iff, failure?_comparison_eq, failure?_eq_none_iff]

end Column

namespace Test

/-- Alternatives fail for the first value that is not accepted. -/
theorem alternatives_eq_error_iff
    {column : Column} {values : List String} {e : QueryError} :
    values.mapM (column.comparison Comparison.eq.symbol) = .error e ↔
      ∃ front value rest, values = front ++ value :: rest ∧
        (∀ v ∈ front, ∃ p, column.cast v = .ok p) ∧ column.cast value = .error e := by
  simp only [mapM_eq_error_iff, Column.comparison_eq_error_iff, Column.exists_comparison_iff]

theorem predicate_anyOf_eq_error_iff
    {column : Column} {values : List String} {e : QueryError}
    (hvalues : values ≠ []) :
    predicate column ⟨.anyOf, values⟩ = .error e ↔
      values.mapM (column.comparison Comparison.eq.symbol) = .error e := by
  obtain ⟨v, values, rfl⟩ := List.exists_cons_of_ne_nil hvalues
  have hfailure : failure? (predicate column ⟨.anyOf, v :: values⟩) =
      failure? ((v :: values).mapM (column.comparison Comparison.eq.symbol)) :=
    failure?_bind_pure _ _
  rw [← failure?_eq_some_iff, hfailure, failure?_eq_some_iff]

/-- When the predicate of a test fails, and how. -/
theorem predicate_eq_error_iff
    {column : Column} {t : Test} {e : QueryError} :
    t.predicate column = .error e ↔ t.Fails column e := by
  constructor
  · intro h
    obtain ⟨operator, values⟩ := t
    cases operator with
    | compare c =>
        match values with
        | [] =>
            cases h
            exact .empty _
        | [value] =>
            exact .comparison (Column.comparison_eq_error_iff.1 h)
        | v :: w :: values =>
            cases h
            exact .count (by simp)
    | anyOf =>
        by_cases hvalues : values = []
        · subst values
          cases h
          exact .empty _
        · rw [predicate_anyOf_eq_error_iff hvalues, alternatives_eq_error_iff] at h
          obtain ⟨front, value, rest, rfl, hfront, hvalue⟩ := h
          exact .anyOf hfront hvalue
  · intro h
    cases h with
    | empty operator =>
        cases operator <;> rfl
    | @count c values hlength =>
        match values with
        | v :: w :: values =>
            rfl
    | comparison hvalue =>
        exact Column.comparison_eq_error_iff.2 hvalue
    | anyOf hfront hvalue =>
        rw [predicate_anyOf_eq_error_iff (by simp), alternatives_eq_error_iff]
        exact ⟨_, _, _, rfl, hfront, hvalue⟩

theorem exists_predicate_iff
    {column : Column} {t : Test} :
    (∃ f, t.predicate column = .ok f) ↔ ∀ e, ¬ t.Fails column e := by
  simp only [← predicate_eq_error_iff]
  rw [← not_exists, exists_error_iff, not_not]

end Test

namespace Criteria

variable {xs ys : List Criterion}

theorem tests_eq_nil_iff :
    tests xs = [] ↔ ∀ c ∈ xs, c.tests = [] := by
  simp [tests, List.flatMap_eq_nil_iff]

/-- Criteria on one column have the tests of all of them. -/
theorem tests_map_mk (column : Column) (parts : List (List Test)) :
    tests (parts.map (Criterion.mk column)) = parts.flatten.map fun t => (column, t) := by
  rw [tests, List.flatMap_map, List.map_flatten, List.flatMap_def]

/-- A condition depends on the tests, not on how criteria group them. -/
theorem condition_congr
    (h : tests xs = tests ys) :
    condition xs = condition ys := by
  rw [condition_eq, condition_eq, h]

/-- The predicates of tests are not empty. -/
theorem sql_ne_empty_of_mapM
    {ts : List (Column × Test)} {fs : List Fragment}
    (h : (ts.mapM fun t => t.2.predicate t.1) = .ok fs) :
    ∀ f ∈ fs, f.sql ≠ "" := by
  refine forall_mem_of_forall₂ (mapM_eq_ok_iff.1 h).flip ?_
  intro f t hf
  rw [(Test.of_predicate_eq_ok hf).2.1]
  exact Expression.text_ne_empty _

/-- The condition of two lists, the first of which decides the error. -/
theorem condition_append (xs ys : List Criterion) :
    condition (xs ++ ys) = (do
      let f ← condition xs
      let g ← condition ys
      return ⟨Sql.conjoined f.sql g.sql, f.parameters ++ g.parameters⟩) := by
  simp only [condition_eq, tests_append, List.mapM_append]
  cases hfs : (tests xs).mapM fun t => t.2.predicate t.1 with
  | error e =>
      rfl
  | ok fs =>
      cases hgs : (tests ys).mapM fun t => t.2.predicate t.1 with
      | error e =>
          rfl
      | ok gs =>
          exact congrArg Except.ok
            (Fragment.join_append_conjoined (sql_ne_empty_of_mapM hfs) (sql_ne_empty_of_mapM hgs))

/-- A condition is empty only if there is no test. -/
theorem exists_condition_empty_iff :
    (∃ f, condition xs = .ok f ∧ f.sql = "") ↔ ∀ c ∈ xs, c.tests = [] := by
  rw [← tests_eq_nil_iff, condition_eq]
  constructor
  · rintro ⟨f, hf, hsql⟩
    obtain ⟨fs, hfs, hjoin⟩ := bind_eq_ok_iff.1 hf
    cases hjoin
    rw [Fragment.sql_join_eq_empty_iff (sql_ne_empty_of_mapM hfs)] at hsql
    subst fs
    exact List.forall₂_nil_right_iff.1 (mapM_eq_ok_iff.1 hfs)
  · intro hxs
    rw [hxs]
    exact ⟨_, rfl, rfl⟩

/-- The tests of a criterion may be distributed over several on its column. -/
theorem condition_split (xs ys : List Criterion) (column : Column) (parts : List (List Test)) :
    condition (xs ++ parts.map (Criterion.mk column) ++ ys) =
      condition (xs ++ ⟨column, parts.flatten⟩ :: ys) := by
  refine condition_congr ?_
  rw [tests_append, tests_append, tests_append, tests_cons, tests_map_mk, List.append_assoc]

/-- A condition fails for its first test that fails. -/
theorem condition_eq_error_iff
    {e : QueryError} :
    condition xs = .error e ↔
      ∃ front t rest, tests xs = front ++ t :: rest ∧
        (∀ u ∈ front, ∀ e', ¬ u.2.Fails u.1 e') ∧ t.2.Fails t.1 e := by
  rw [← failure?_eq_some_iff, failure?_condition, ← failure?_mapM, failure?_eq_some_iff,
    mapM_eq_error_iff]
  simp only [Test.predicate_eq_error_iff, Test.exists_predicate_iff]

/-- The condition of two lists is put together from theirs, or else its error is that of the first
of them that fails.  It has no text exactly when there is no test.  The tests of a criterion may be
distributed over several on its column.  The error is that of the first test that fails. -/
theorem conditions_compose :
    (∀ xs ys : List Criterion,
      condition (xs ++ ys) = (do
        let f ← condition xs
        let g ← condition ys
        return ⟨Sql.conjoined f.sql g.sql, f.parameters ++ g.parameters⟩)) ∧
    (∀ xs : List Criterion,
      (∃ f, condition xs = .ok f ∧ f.sql = "") ↔ ∀ c ∈ xs, c.tests = []) ∧
    (∀ (xs ys : List Criterion) (column : Column) (parts : List (List Test)),
      condition (xs ++ parts.map (Criterion.mk column) ++ ys) =
        condition (xs ++ ⟨column, parts.flatten⟩ :: ys)) ∧
    ∀ (xs : List Criterion) (e : QueryError),
      condition xs = .error e ↔
        ∃ front t rest, tests xs = front ++ t :: rest ∧
          (∀ u ∈ front, ∀ e', ¬ u.2.Fails u.1 e') ∧ t.2.Fails t.1 e :=
  ⟨condition_append, fun _ => exists_condition_empty_iff, condition_split,
    fun _ _ => condition_eq_error_iff⟩

end Criteria
end FilterQuery
