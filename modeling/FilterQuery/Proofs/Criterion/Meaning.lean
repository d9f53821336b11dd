import FilterQuery.Proofs.Criterion.Predicate
import FilterQuery.Proofs.Criterion.Spelling

/-!
# The meaning of criteria

What a test demands: a comparison must hold for the one value of the test, and `anyOf` asks for an
equation with one of its values.  The columns and the signs are those of the catalogue, and a value
is the parameter that it spells.

**Results.**
* `Test.holds_expression`: what a test is written as means what the test demands.
* `Criteria.holds_condition`: the condition of criteria, with other tests of literals behind it,
  demands all of their tests.
-/

namespace FilterQuery

open Sql (Expression Fragment Interpretation Parameter)

variable {I : Interpretation}

/-- Whether a test on a column holds, under an interpretation of the tests of a statement. -/
def Test.Holds (I : Interpretation) (column : Column) (t : Test) : Prop :=
  match t.operator with
  | .compare c =>
      ∃ value sign p, t.values = [value] ∧ (c, sign) ∈ Comparison.signs ∧
        column.row.type.Spells value p ∧ I column.row.qualified sign (.parameter p)
  | .anyOf =>
      ∃ value ∈ t.values, ∃ p,
        column.row.type.Spells value p ∧ I column.row.qualified "=" (.parameter p)

namespace Test

theorem placeholders_any_replicate
    (column : Column) (symbol : String) (n : Nat) :
    (Expression.any (column.placeholder symbol)
      (List.replicate n (column.placeholder symbol))).placeholders = n + 1 := by
  induction n with
  | zero =>
      rfl
  | succ n ih =>
      rw [List.replicate_succ, Expression.any, Expression.placeholders, ih]
      simp only [Column.placeholder, Expression.placeholders]
      omega

/-- A test is written with one placeholder for each of its values. -/
theorem placeholders_expression
    (column : Column) {t : Test}
    (ht : t.Admissible) :
    (t.expression column).placeholders = t.values.length := by
  obtain ⟨operator, values⟩ := t
  cases operator with
  | compare c =>
      exact (ht.2 (by simp)).symm
  | anyOf =>
      have hpos : 0 < values.length := List.length_pos_iff.2 ht.1
      simp only [expression, Expression.placeholders, placeholders_any_replicate]
      omega

/-- The parameters that values are cast to are among the parameters exactly when they come from one
of the values. -/
theorem exists_mem_casts_iff
    {column : Column} {values : List String} {ps : List Parameter} {P : Parameter → Prop}
    (h : List.Forall₂ (fun value p => column.cast value = .ok p) values ps) :
    (∃ p ∈ ps, P p) ↔ ∃ value ∈ values, ∃ p, column.cast value = .ok p ∧ P p := by
  induction h with
  | nil =>
      simp
  | @cons value p values ps hp hps ih =>
      simp [ih, hp]

/-- What a test is written as means what the test demands. -/
theorem holds_expression
    {column : Column} {t : Test} {ps : List Parameter}
    (ht : t.Admissible)
    (hps : List.Forall₂ (fun value p => column.cast value = .ok p) t.values ps) :
    (t.expression column).Holds I ps 0 ↔ t.Holds I column := by
  obtain ⟨operator, values⟩ := t
  cases operator with
  | compare c =>
      obtain ⟨value, rfl⟩ := List.length_eq_one_iff.1 (ht.2 (by simp))
      obtain ⟨p, qs, hp, hqs, rfl⟩ := List.forall₂_cons_left_iff.1 hps
      have hspells : ∀ q, column.row.type.Spells value q ↔ p = q := by
        intro q
        rw [← Column.cast_eq_ok_iff, hp, Except.ok.injEq]
      rw [Column.row_eq] at hspells
      simp [expression, Column.placeholder, Expression.Holds, Holds, Comparison.mem_signs_iff,
        Column.row_eq, hspells]
  | anyOf =>
      have hpos : 0 < values.length := List.length_pos_iff.2 ht.1
      have hlength : ps.length = values.length - 1 + 1 := by
        rw [← hps.length_eq]
        simp only
        omega
      rw [expression, Expression.Holds, Column.placeholder,
        Expression.holds_any_replicate hlength, exists_mem_casts_iff hps]
      simp only [Holds, Column.cast_eq_ok_iff, Column.row_eq]
      rfl

end Test

namespace Criteria

/-- Predicates of tests, followed by expressions without placeholders, take their parameters. -/
theorem lengths_of_forall₂
    {ts : List (Column × Test)} {fs : List Fragment} {xs : List Expression}
    (h : List.Forall₂ (fun t f => t.2.predicate t.1 = .ok f) ts fs)
    (hxs : ∀ x ∈ xs, x.placeholders = 0) :
    List.Forall₂ (fun (e : Expression) ps => ps.length = e.placeholders)
      (ts.map (fun t => t.2.expression t.1) ++ xs)
      (fs.map Fragment.parameters ++ xs.map fun _ => []) := by
  induction h with
  | nil =>
      rw [List.map_nil, List.map_nil, List.nil_append, List.nil_append,
        List.forall₂_map_right_iff, List.forall₂_same]
      intro x hx
      exact (hxs x hx).symm
  | @cons t f ts fs hf hfs ih =>
      obtain ⟨hadmissible, -, hcasts⟩ := Test.of_predicate_eq_ok hf
      refine .cons ?_ ih
      rw [Test.placeholders_expression t.1 hadmissible, hcasts.length_eq]

/-- Predicates of tests hold for their parameters when the tests hold. -/
theorem holds_of_forall₂
    {ts : List (Column × Test)} {fs : List Fragment} {xs : List Expression}
    (h : List.Forall₂ (fun t f => t.2.predicate t.1 = .ok f) ts fs) :
    List.Forall₂ (fun (e : Expression) ps => e.Holds I ps 0)
        (ts.map (fun t => t.2.expression t.1) ++ xs)
        (fs.map Fragment.parameters ++ xs.map fun _ => []) ↔
      (∀ t ∈ ts, t.2.Holds I t.1) ∧ ∀ x ∈ xs, x.Holds I [] 0 := by
  induction h with
  | nil =>
      rw [List.map_nil, List.map_nil, List.nil_append, List.nil_append,
        List.forall₂_map_right_iff, List.forall₂_same]
      simp
  | @cons t f ts fs hf hfs ih =>
      obtain ⟨hadmissible, -, hcasts⟩ := Test.of_predicate_eq_ok hf
      rw [List.map_cons, List.map_cons, List.cons_append, List.cons_append, List.forall₂_cons, ih,
        Test.holds_expression hadmissible hcasts, List.forall_mem_cons, and_assoc]

/-- The condition demands its tests and the expressions behind them; further parameters belong to
what follows the condition. -/
theorem holds_condition
    {criteria : List Criterion} {f : Fragment} {e : Expression} {es xs : List Expression}
    (hf : condition criteria = .ok f)
    (hes : expressions criteria = e :: es)
    (hxs : ∀ x ∈ xs, x.placeholders = 0)
    (rest : List Parameter) :
    (Expression.all e (es ++ xs)).Holds I (f.parameters ++ rest) 0 ↔
      (∀ t ∈ tests criteria, t.2.Holds I t.1) ∧ ∀ x ∈ xs, x.Holds I [] 0 := by
  obtain ⟨fs, hfs, rfl⟩ := condition_eq_ok_iff.1 hf
  have hflatten : (Fragment.join " and " fs).parameters =
      (fs.map Fragment.parameters ++ xs.map fun _ => []).flatten := by
    simp [List.flatMap_def]
  have hlengths : List.Forall₂ (fun (e : Expression) ps => ps.length = e.placeholders)
      (e :: (es ++ xs)) (fs.map Fragment.parameters ++ xs.map fun _ => []) := by
    rw [← List.cons_append, ← hes, expressions]
    exact lengths_of_forall₂ hfs hxs
  have hcount : (Expression.all e (es ++ xs)).placeholders =
      (Fragment.join " and " fs).parameters.length := by
    rw [hflatten, Expression.placeholders_all hlengths]
  rw [Expression.holds_append_right _ rest (by omega), hflatten, Expression.holds_all hlengths,
    ← List.cons_append, ← hes, expressions]
  exact holds_of_forall₂ hfs

end Criteria
end FilterQuery
