import FilterQuery.Criterion.Predicate
import FilterQuery.Proofs.Sql.Meaning
import FilterQuery.Proofs.Traversal

/-!
# The condition of criteria

What is written for a list of criteria: one expression for each test, all of them joined by `and`,
with the values of the tests, cast to the types of their columns, as parameters in the same order.

**Results.**
* `Test.of_predicate_eq_ok`: the text and the parameters of the predicate of a test.
* `condition_eq_ok_iff`: the condition of criteria consists of the predicates of their tests.
-/

namespace FilterQuery

open Sql (Expression Fragment Parameter)

/-- A value of a filter with the place that it is given: a column and a symbol in front of it. -/
structure Place where
  column : Column
  symbol : String
  value : String

namespace Place

/-- The text directly in front of the placeholder of a value. -/
def lead (p : Place) : String :=
  p.column.qualified ++ " " ++ p.symbol ++ " "

/-- Whether a parameter is what the value of a place is cast to. -/
def Casts (p : Place) (parameter : Parameter) : Prop :=
  p.column.cast p.value = .ok parameter

end Place

namespace Column

def placeholder (column : Column) (symbol : String) : Expression :=
  .test column.qualified symbol .placeholder

/-- The names of columns and the symbols of comparisons are words. -/
theorem legible_placeholder
    (column : Column) (c : Comparison) :
    (column.placeholder c.symbol).Legible := by
  refine ⟨?_, ?_, trivial⟩
  · cases column <;> decide
  · cases c <;> decide

/-- A comparison is its text and the parameter that its value is cast to. -/
theorem comparison_eq_ok_iff
    {column : Column} {symbol value : String} {f : Fragment} :
    column.comparison symbol value = .ok f ↔
      f.sql = (column.placeholder symbol).text ∧
        ∃ p, column.cast value = .ok p ∧ f.parameters = [p] := by
  have htext : (column.placeholder symbol).text = column.qualified ++ " " ++ symbol ++ " ?" := by
    rw [placeholder, Expression.text, Sql.Operand.text, String.append_assoc]
    rfl
  rw [comparison, bind_eq_ok_iff, htext]
  constructor
  · rintro ⟨p, hp, hf⟩
    cases hf
    exact ⟨rfl, p, hp, rfl⟩
  · rintro ⟨hsql, p, hp, hparameters⟩
    refine ⟨p, hp, ?_⟩
    cases f
    simp_all [Fragment.bound, pure, Except.pure]

end Column

namespace Test

/-- Whether a test has as many values as its operator takes. -/
def Admissible (t : Test) : Prop :=
  t.values ≠ [] ∧ (t.operator ≠ .anyOf → t.values.length = 1)

def symbol (t : Test) : String :=
  t.operator.symbol?.getD Comparison.eq.symbol

/-- The places of the values of a test. -/
def places (column : Column) (t : Test) : List Place :=
  t.values.map fun value => ⟨column, t.symbol, value⟩

/-- What a test on a column is written as. -/
def expression (column : Column) (t : Test) : Expression :=
  match t.operator with
  | .compare c => column.placeholder c.symbol
  | .anyOf =>
      .group (.any (column.placeholder Comparison.eq.symbol)
        (List.replicate (t.values.length - 1) (column.placeholder Comparison.eq.symbol)))

/-- The texts of equations are the same for all values, and their parameters are those of the
values. -/
theorem equations_of_forall₂
    {column : Column} {symbol : String} {values : List String} {fs : List Fragment}
    (h : List.Forall₂ (fun value f => column.comparison symbol value = .ok f) values fs) :
    fs.map Fragment.sql = List.replicate values.length (column.placeholder symbol).text ∧
      List.Forall₂ (fun value p => column.cast value = .ok p) values
        (fs.flatMap Fragment.parameters) := by
  induction h with
  | nil =>
      exact ⟨rfl, .nil⟩
  | @cons value f values fs hf hfs ih =>
      obtain ⟨hsql, p, hp, hparameters⟩ := Column.comparison_eq_ok_iff.1 hf
      constructor
      · simp [hsql, ih.1, List.replicate_succ]
      · rw [List.flatMap_cons, hparameters]
        exact .cons hp ih.2

/-- A predicate is the text of its test, with the parameters that the values are cast to. -/
theorem of_predicate_eq_ok
    {column : Column} {t : Test} {f : Fragment}
    (h : t.predicate column = .ok f) :
    t.Admissible ∧ f.sql = (t.expression column).text ∧
      List.Forall₂ (fun value p => column.cast value = .ok p) t.values f.parameters := by
  obtain ⟨operator, values⟩ := t
  cases operator with
  | compare c =>
      match values with
      | [] =>
          simp [predicate] at h
      | [value] =>
          obtain ⟨hsql, p, hp, hparameters⟩ := Column.comparison_eq_ok_iff.1 h
          refine ⟨by simp [Admissible], hsql, ?_⟩
          rw [hparameters]
          exact .cons hp .nil
      | v :: w :: values =>
          simp [predicate] at h
  | anyOf =>
      cases values with
      | nil =>
          simp [predicate] at h
      | cons v values =>
          simp only [predicate] at h
          obtain ⟨fs, hfs, hf⟩ := bind_eq_ok_iff.1 h
          obtain ⟨hsql, hparameters⟩ := equations_of_forall₂ (mapM_eq_ok_iff.1 hfs)
          cases hf
          refine ⟨by simp [Admissible], ?_, ?_⟩
          · simp [Fragment.parenthesized, hsql, expression, Expression.text, Expression.text_any,
              List.replicate_succ, String.append_assoc]
          · simpa [Fragment.parenthesized] using hparameters

theorem formed_expression
    (column : Column) (t : Test) :
    Expression.Formed .factor (t.expression column) := by
  obtain ⟨operator, values⟩ := t
  cases operator with
  | compare c =>
      exact .test _ _ _
  | anyOf =>
      refine .group (Expression.formed_any ?_)
      intro e he
      rw [← List.replicate_succ] at he
      rw [List.eq_of_mem_replicate he]
      exact .factor (.test _ _ _)

theorem legible_expression
    (column : Column) (t : Test) :
    (t.expression column).Legible := by
  obtain ⟨operator, values⟩ := t
  cases operator with
  | compare c =>
      exact column.legible_placeholder c
  | anyOf =>
      refine Expression.legible_any ?_
      intro e he
      rw [← List.replicate_succ] at he
      rw [List.eq_of_mem_replicate he]
      exact column.legible_placeholder .eq

end Test

namespace Criteria

/-- The tests of criteria with the columns that they are made on, in order. -/
def tests (criteria : List Criterion) : List (Column × Test) :=
  criteria.flatMap fun c => c.tests.map fun t => (c.column, t)

/-- The places of the values of criteria, in order. -/
def places (criteria : List Criterion) : List Place :=
  (tests criteria).flatMap fun t => t.2.places t.1

/-- What the tests of criteria are written as, in order. -/
def expressions (criteria : List Criterion) : List Expression :=
  (tests criteria).map fun t => t.2.expression t.1

/-- The tests of a list are those of its criteria, each with the column. -/
theorem mem_tests
    {criteria : List Criterion} {column : Column} {t : Test} :
    (column, t) ∈ tests criteria ↔ ∃ c ∈ criteria, c.column = column ∧ t ∈ c.tests := by
  simp only [tests, List.mem_flatMap, List.mem_map, Prod.mk.injEq]
  constructor
  · rintro ⟨c, hc, t', ht', rfl, rfl⟩
    exact ⟨c, hc, rfl, ht'⟩
  · rintro ⟨c, hc, rfl, ht⟩
    exact ⟨c, hc, t, ht, rfl, rfl⟩

theorem tests_cons (c : Criterion) (criteria : List Criterion) :
    tests (c :: criteria) = (c.tests.map fun t => (c.column, t)) ++ tests criteria :=
  List.flatMap_cons

theorem tests_append (xs ys : List Criterion) :
    tests (xs ++ ys) = tests xs ++ tests ys :=
  List.flatMap_append

/-- Criteria with a test are written as something. -/
theorem expressions_ne_nil
    {criteria : List Criterion}
    (h : ∃ c ∈ criteria, c.tests ≠ []) :
    expressions criteria ≠ [] := by
  obtain ⟨c, hc, htests⟩ := h
  obtain ⟨t, ht⟩ := List.exists_mem_of_ne_nil c.tests htests
  have hmem : (c.column, t) ∈ tests criteria :=
    mem_tests.2 ⟨c, hc, rfl, ht⟩
  exact List.ne_nil_of_mem (List.mem_map_of_mem hmem)

/-- The condition of criteria joins the predicates of their tests. -/
theorem condition_eq (criteria : List Criterion) :
    condition criteria = (do
      let fs ← (tests criteria).mapM fun t => t.2.predicate t.1
      return Fragment.join " and " fs) := by
  have hcriterion : (fun c : Criterion =>
      (c.tests.map fun t => (c.column, t)).mapM fun t => t.2.predicate t.1) =
        Criterion.predicates := by
    funext c
    rw [List.mapM_map, Criterion.predicates]
    rfl
  rw [condition, tests, mapM_flatMap, hcriterion]
  cases criteria.mapM Criterion.predicates <;> rfl

/-- A condition is the predicates of all tests, joined. -/
theorem condition_eq_ok_iff
    {criteria : List Criterion} {f : Fragment} :
    condition criteria = .ok f ↔
      ∃ fs, List.Forall₂ (fun t f => t.2.predicate t.1 = .ok f) (tests criteria) fs ∧
        Fragment.join " and " fs = f := by
  rw [condition_eq, bind_eq_ok_iff]
  simp [mapM_eq_ok_iff, pure, Except.pure]

/-- A condition has no test with the wrong number of values. -/
theorem admissible_of_condition_eq_ok
    {criteria : List Criterion} {f : Fragment}
    (h : condition criteria = .ok f) :
    ∀ t ∈ tests criteria, t.2.Admissible := by
  obtain ⟨fs, hfs, -⟩ := condition_eq_ok_iff.1 h
  exact forall_mem_of_forall₂ hfs fun _ _ hf => (Test.of_predicate_eq_ok hf).1

/-- The condition of criteria fails with the error of the first test that fails. -/
theorem failure?_condition (criteria : List Criterion) :
    failure? (condition criteria) =
      (tests criteria).findSome? fun t => failure? (t.2.predicate t.1) := by
  rw [condition_eq, failure?_bind, ← failure?_mapM]
  cases (tests criteria).mapM fun t => t.2.predicate t.1 <;> rfl

/-- The predicates of tests: their texts, and their parameters in the order of their places. -/
theorem predicates_of_forall₂
    {ts : List (Column × Test)} {fs : List Fragment}
    (h : List.Forall₂ (fun t f => t.2.predicate t.1 = .ok f) ts fs) :
    fs.map Fragment.sql = ts.map (fun t => (t.2.expression t.1).text) ∧
      List.Forall₂ Place.Casts (ts.flatMap fun t => t.2.places t.1)
        (fs.flatMap Fragment.parameters) := by
  induction h with
  | nil =>
      exact ⟨rfl, .nil⟩
  | @cons t f ts fs hf hfs ih =>
      obtain ⟨-, hsql, hcasts⟩ := Test.of_predicate_eq_ok hf
      have hplaces : List.Forall₂ Place.Casts (t.2.places t.1) f.parameters := by
        rw [Test.places, List.forall₂_map_left_iff]
        exact hcasts
      constructor
      · rw [List.map_cons, List.map_cons, hsql, ih.1]
      · rw [List.flatMap_cons, List.flatMap_cons]
        exact List.rel_append hplaces ih.2

/-- The text of a condition is that of its expressions, and its parameters are cast place by place.
-/
theorem of_condition_eq_ok
    {criteria : List Criterion} {f : Fragment}
    (h : condition criteria = .ok f) :
    f.sql = " and ".intercalate ((expressions criteria).map Expression.text) ∧
      List.Forall₂ Place.Casts (places criteria) f.parameters := by
  obtain ⟨fs, hfs, rfl⟩ := condition_eq_ok_iff.1 h
  obtain ⟨hsql, hparameters⟩ := predicates_of_forall₂ hfs
  constructor
  · rw [Fragment.sql_join, hsql, expressions, List.map_map]
    rfl
  · rw [Fragment.parameters_join]
    exact hparameters

theorem formed_of_mem_expressions
    {criteria : List Criterion} {e : Expression}
    (he : e ∈ expressions criteria) :
    Expression.Formed .factor e := by
  obtain ⟨t, -, rfl⟩ := List.mem_map.1 he
  exact Test.formed_expression t.1 t.2

theorem legible_of_mem_expressions
    {criteria : List Criterion} {e : Expression}
    (he : e ∈ expressions criteria) :
    e.Legible := by
  obtain ⟨t, -, rfl⟩ := List.mem_map.1 he
  exact Test.legible_expression t.1 t.2

end Criteria
end FilterQuery
