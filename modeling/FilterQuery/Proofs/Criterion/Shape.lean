import FilterQuery.Proofs.Criterion.Order
import FilterQuery.Proofs.Criterion.Predicate
import FilterQuery.Proofs.Sql.Reading

/-!
# The shape of criteria

The shape of a test is its operator with the number of its values.  Criteria have one shape when
they are on the same columns with tests of the same shapes.

**Results.**
* `sql_condition_eq`: criteria of one shape have conditions of one text.
* `sameShape_of_sql_eq`: conversely, the text of a condition tells the columns and the shapes of its
  tests.
-/

namespace FilterQuery

open Sql (Expression Fragment)

/-- Whether tests have the same operator and the same number of values. -/
def Test.SameShape (t u : Test) : Prop :=
  t.operator = u.operator ∧ t.values.length = u.values.length

/-- Whether criteria are on the same column with tests of the same shape. -/
def Criterion.SameShape (c d : Criterion) : Prop :=
  c.column = d.column ∧ List.Forall₂ Test.SameShape c.tests d.tests

/-- What a test is written as depends on its shape alone. -/
theorem Test.expression_eq_of_sameShape
    {t u : Test}
    (h : t.SameShape u)
    (column : Column) :
    t.expression column = u.expression column := by
  obtain ⟨operator, values⟩ := t
  obtain ⟨operator', values'⟩ := u
  obtain ⟨rfl, hlength⟩ := h
  cases operator with
  | compare c =>
      rfl
  | anyOf =>
      simp only at hlength
      rw [expression, expression, hlength]

/-- Different columns are told apart in an alternative of equations, as is the number of
equations. -/
theorem Column.eq_of_any_eq
    {column column' : Column} {symbol : String} {m n : Nat}
    (h : Expression.any (column.placeholder symbol)
        (List.replicate m (column.placeholder symbol)) =
      Expression.any (column'.placeholder symbol)
        (List.replicate n (column'.placeholder symbol))) :
    column = column' ∧ m = n := by
  induction m generalizing n with
  | zero =>
      cases n with
      | zero =>
          obtain ⟨hqualified, -, -⟩ := Expression.test.inj h
          exact ⟨Column.qualified_injective hqualified, rfl⟩
      | succ n =>
          cases h
  | succ m ih =>
      cases n with
      | zero =>
          cases h
      | succ n =>
          obtain ⟨-, hrest⟩ := Expression.or.inj h
          obtain ⟨hcolumn, hcount⟩ := ih hrest
          exact ⟨hcolumn, by rw [hcount]⟩

/-- What a test is written as tells its column and its shape. -/
theorem Test.sameShape_of_expression_eq
    {column column' : Column} {t u : Test}
    (ht : t.Admissible)
    (hu : u.Admissible)
    (h : t.expression column = u.expression column') :
    column = column' ∧ t.SameShape u := by
  obtain ⟨operator, values⟩ := t
  obtain ⟨operator', values'⟩ := u
  cases operator with
  | compare c =>
      cases operator' with
      | compare c' =>
          obtain ⟨hqualified, hsymbol, -⟩ := Expression.test.inj h
          obtain rfl := Comparison.symbol_injective hsymbol
          have hlength : values.length = values'.length :=
            (ht.2 (by simp)).trans (hu.2 (by simp)).symm
          exact ⟨Column.qualified_injective hqualified, rfl, hlength⟩
      | anyOf =>
          cases h
  | anyOf =>
      cases operator' with
      | compare c' =>
          cases h
      | anyOf =>
          have hpos : 0 < values.length := List.length_pos_iff.2 ht.1
          have hpos' : 0 < values'.length := List.length_pos_iff.2 hu.1
          obtain ⟨hcolumn, hcount⟩ : column = column' ∧ values.length - 1 = values'.length - 1 :=
            Column.eq_of_any_eq (Expression.group.inj h)
          refine ⟨hcolumn, rfl, ?_⟩
          simp only
          omega

namespace Criteria

variable {xs ys : List Criterion}

/-- What criteria are written as depends on their shapes alone. -/
theorem expressions_eq_of_sameShape
    (h : List.Forall₂ Criterion.SameShape xs ys) :
    expressions xs = expressions ys := by
  have htests : ∀ (column : Column) {ts us : List Test}, List.Forall₂ Test.SameShape ts us →
      ts.map (fun t => t.expression column) = us.map fun t => t.expression column := by
    intro column ts us hts
    induction hts with
    | nil =>
        rfl
    | @cons t u ts us htu hts ih =>
        rw [List.map_cons, List.map_cons, Test.expression_eq_of_sameShape htu, ih]
  simp only [expressions, tests, List.map_flatMap, List.map_map]
  induction h with
  | nil =>
      rfl
  | @cons c d xs ys hcd hxs ih =>
      rw [List.flatMap_cons, List.flatMap_cons, ih]
      congr 1
      have hcolumn := hcd.1
      change c.tests.map (fun t => t.expression c.column) =
        d.tests.map fun t => t.expression d.column
      rw [hcolumn, htests d.column hcd.2]

theorem columns_eq_of_sameShape
    (h : List.Forall₂ Criterion.SameShape xs ys) :
    xs.map Criterion.column = ys.map Criterion.column := by
  induction h with
  | nil =>
      rfl
  | @cons c d xs ys hcd hxs ih =>
      rw [List.map_cons, List.map_cons, hcd.1, ih]

theorem byPriority_sameShape
    (h : List.Forall₂ Criterion.SameShape xs ys) :
    List.Forall₂ Criterion.SameShape (byPriority xs) (byPriority ys) := by
  refine forall₂_byPriority ?_
  intro column
  refine List.rel_filter ?_ h
  intro c d hcd
  simp [hcd.1]

/-- The text of a condition depends on the shapes of the criteria alone. -/
theorem sql_condition_eq
    {f g : Fragment}
    (h : List.Forall₂ Criterion.SameShape xs ys)
    (hf : condition xs = .ok f)
    (hg : condition ys = .ok g) :
    f.sql = g.sql := by
  rw [(of_condition_eq_ok hf).1, (of_condition_eq_ok hg).1, expressions_eq_of_sameShape h]

/-- What tests are written as tells their columns and their shapes. -/
theorem sameShape_of_expressions_eq
    {ts us : List (Column × Test)}
    (hts : ∀ t ∈ ts, t.2.Admissible)
    (hus : ∀ u ∈ us, u.2.Admissible)
    (h : ts.map (fun t => t.2.expression t.1) = us.map fun u => u.2.expression u.1) :
    List.Forall₂ (fun t u => t.1 = u.1 ∧ t.2.SameShape u.2) ts us := by
  induction ts generalizing us with
  | nil =>
      obtain rfl := List.map_eq_nil_iff.1 h.symm
      exact .nil
  | cons t ts ih =>
      cases us with
      | nil =>
          cases h
      | cons u us =>
          rw [List.forall_mem_cons] at hts hus
          obtain ⟨hhead, htail⟩ := List.cons.inj h
          exact .cons (Test.sameShape_of_expression_eq hts.1 hus.1 hhead) (ih hts.2 hus.2 htail)

/-- A condition with a test is an expression whose conjuncts are what the tests are written as. -/
theorem exists_expression
    {f : Fragment}
    (hf : condition xs = .ok f)
    (hxs : expressions xs ≠ []) :
    ∃ e, Expression.Formed .disjunction e ∧ e.Legible ∧ e.text = f.sql ∧
      e.conjuncts = expressions xs := by
  obtain ⟨e, es, hes⟩ := List.exists_cons_of_ne_nil hxs
  have hformed : ∀ x ∈ e :: es, Expression.Formed .factor x := by
    intro x hx
    exact formed_of_mem_expressions (hes ▸ hx)
  have hlegible : ∀ x ∈ e :: es, x.Legible := by
    intro x hx
    exact legible_of_mem_expressions (hes ▸ hx)
  refine ⟨.all e es, .conjunction (Expression.formed_all hformed), Expression.legible_all hlegible,
    ?_, ?_⟩
  · rw [Expression.text_all, ← hes, (of_condition_eq_ok hf).1]
  · rw [Expression.conjuncts_all hformed, hes]

/-- The text of a condition tells what its tests are written as. -/
theorem expressions_eq_of_sql_eq
    {f g : Fragment}
    (hf : condition xs = .ok f)
    (hg : condition ys = .ok g)
    (hxs : expressions xs ≠ [])
    (hys : expressions ys ≠ [])
    (h : f.sql = g.sql) :
    expressions xs = expressions ys := by
  obtain ⟨e, hformed, hlegible, htext, hconjuncts⟩ := exists_expression hf hxs
  obtain ⟨e', hformed', hlegible', htext', hconjuncts'⟩ := exists_expression hg hys
  obtain rfl : e = e' :=
    Expression.text_injective hformed hlegible hformed' hlegible' (by rw [htext, htext', h])
  rw [← hconjuncts, hconjuncts']

/-- The text of a condition tells the shape of its tests. -/
theorem sameShape_of_sql_eq
    {f g : Fragment}
    (hf : condition xs = .ok f)
    (hg : condition ys = .ok g)
    (hxs : expressions xs ≠ [])
    (hys : expressions ys ≠ [])
    (h : f.sql = g.sql) :
    List.Forall₂ (fun t u => t.1 = u.1 ∧ t.2.SameShape u.2) (tests xs) (tests ys) :=
  sameShape_of_expressions_eq (admissible_of_condition_eq_ok hf) (admissible_of_condition_eq_ok hg)
    (expressions_eq_of_sql_eq hf hg hxs hys h)

end Criteria
end FilterQuery
