import FilterQuery.Proofs.Criterion.Shape

/-!
# Criteria recovered from their tests

The condition of a statement lists tests one after the other, without a mark where one criterion
ends and the next begins.  Criteria of a filter map are found again in this list, since each of them
is the one on its column.

**Model.** `Criterion.Corresponds Q c d`: both are on one column, and their tests correspond to each
other one by one under `Q`.

**Results.**
* `corresponds_of_tests`: normal criteria correspond when their tests do.
* `agree_of_casts`: tests of the same shapes have values that are cast to related parameters when
  all their parameters are related one by one.
-/

namespace FilterQuery

open Sql (Parameter)

/-- Whether criteria are on one column and their tests correspond one by one. -/
def Criterion.Corresponds (Q : Column → Test → Test → Prop) (c d : Criterion) : Prop :=
  c.column = d.column ∧ List.Forall₂ (Q c.column) c.tests d.tests

/-- Whether tests on a column have the same operator and as many values, which are cast to related
parameters in each place. -/
def Test.Agree (R : Parameter → Parameter → Prop) (column : Column) (t u : Test) : Prop :=
  t.operator = u.operator ∧
    List.Forall₂
      (fun v w => ∃ p q, column.cast v = .ok p ∧ column.cast w = .ok q ∧ R p q)
      t.values u.values

namespace Criteria

/-- Whether criteria stand in order, at most one on each column, and each has a test. -/
structure Normal (criteria : List Criterion) : Prop where
  ordered : byPriority criteria = criteria
  single : ∀ column, (on column criteria).length ≤ 1
  tested : ∀ c ∈ criteria, c.tests ≠ []

variable {xs ys : List Criterion}

/-- The tests on a column are those of the criteria on it. -/
theorem filter_tests (column : Column) (criteria : List Criterion) :
    (tests criteria).filter (fun t => t.1 = column) = tests (on column criteria) := by
  induction criteria with
  | nil =>
      rfl
  | cons c criteria ih =>
      rw [tests_cons, List.filter_append, List.filter_map, ih, on_cons]
      by_cases hc : c.column = column
      · rw [if_pos hc, tests_cons]
        simp [Function.comp_def, hc]
      · rw [if_neg hc]
        simp [Function.comp_def, hc]

/-- In a normal list a column has no criterion, or one with tests. -/
theorem Normal.on_cases
    (h : Normal xs)
    (column : Column) :
    on column xs = [] ∨ ∃ c, on column xs = [c] ∧ c.column = column ∧ c.tests ≠ [] := by
  match hon : on column xs with
  | [] =>
      exact Or.inl rfl
  | [c] =>
      obtain ⟨hmem, hcolumn⟩ : c ∈ xs ∧ c.column = column := mem_on.1 (by simp [hon])
      exact Or.inr ⟨c, rfl, hcolumn, h.tested c hmem⟩
  | c :: d :: rest =>
      have hsingle := h.single column
      simp [hon] at hsingle

/-- Normal lists whose tests correspond have corresponding criteria: where one begins is told by the
column. -/
theorem corresponds_of_tests
    {Q : Column → Test → Test → Prop}
    (hxs : Normal xs)
    (hys : Normal ys)
    (h : List.Forall₂ (fun t u => t.1 = u.1 ∧ Q t.1 t.2 u.2) (tests xs) (tests ys)) :
    List.Forall₂ (Criterion.Corresponds Q) xs ys := by
  rw [← hxs.ordered, ← hys.ordered]
  refine forall₂_byPriority ?_
  intro column
  have hon : List.Forall₂ (fun t u => t.1 = u.1 ∧ Q t.1 t.2 u.2)
      (tests (on column xs)) (tests (on column ys)) := by
    rw [← filter_tests, ← filter_tests]
    refine List.rel_filter ?_ h
    intro t u htu
    simp [htu.1]
  -- A column without a criterion has no tests, while each criterion has one.
  rcases hxs.on_cases column with hx | ⟨c, hx, rfl, hc⟩
  · rcases hys.on_cases column with hy | ⟨d, hy, -, hd⟩
    · rw [hx, hy]
      exact .nil
    · rw [hx, hy] at hon
      simp [tests, hd] at hon
  · rcases hys.on_cases c.column with hy | ⟨d, hy, hcolumn, hd⟩
    · rw [hx, hy] at hon
      simp [tests, hc] at hon
    · rw [hx, hy] at hon ⊢
      simp only [tests, List.flatMap_cons, List.flatMap_nil, List.append_nil,
        List.forall₂_map_left_iff, List.forall₂_map_right_iff] at hon
      exact .cons ⟨hcolumn.symm, hon.imp fun _ _ htu => htu.2⟩ .nil

/-- Tests of one shape whose parameters agree have values that agree. -/
theorem agree_of_casts
    {R : Parameter → Parameter → Prop} {ts us : List (Column × Test)} {ps qs : List Parameter}
    (hshape : List.Forall₂ (fun t u => t.1 = u.1 ∧ t.2.SameShape u.2) ts us)
    (hps : List.Forall₂ Place.Casts (ts.flatMap fun t => t.2.places t.1) ps)
    (hqs : List.Forall₂ Place.Casts (us.flatMap fun u => u.2.places u.1) qs)
    (h : List.Forall₂ R ps qs) :
    List.Forall₂ (fun t u => t.1 = u.1 ∧ Test.Agree R t.1 t.2 u.2) ts us := by
  induction hshape generalizing ps qs with
  | nil =>
      exact .nil
  | @cons t u ts us htu hts ih =>
      obtain ⟨column, t⟩ := t
      obtain ⟨column', u⟩ := u
      obtain ⟨rfl, hoperator, hlength⟩ := htu
      rw [List.flatMap_cons, forall₂_append_left_iff] at hps hqs
      obtain ⟨ps, ps', hps, hps', rfl⟩ := hps
      obtain ⟨qs, qs', hqs, hqs', rfl⟩ := hqs
      have hcount : ps.length = qs.length := by
        rw [← hps.length_eq, ← hqs.length_eq, Test.places, Test.places, List.length_map,
          List.length_map, hlength]
      obtain ⟨hhead, htail⟩ := (forall₂_append_iff_of_length_eq hcount).1 h
      rw [Test.places, List.forall₂_map_left_iff] at hps hqs
      exact .cons ⟨rfl, hoperator, forall₂_of_images hps hqs hhead⟩ (ih hps' hqs' htail)

end Criteria
end FilterQuery
