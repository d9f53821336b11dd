import FilterQuery.FilterMap.Criteria
import FilterQuery.Proofs.Criterion.Meaning
import FilterQuery.Proofs.Criterion.Order

/-!
# The criteria of a filter map

What the interpretation of a filter map gives when it succeeds: for each filter a criterion on the
column of its name, whose tests are those of its entries without repetitions.

**Results.**
* `FilterEntry.test_eq_ok_iff`, `Filter.criterion_eq_ok_iff`, `FilterMap.criteria_eq_ok_iff`: when
  an entry, a filter and a map are accepted, and what becomes of them.
* `FilterMap.forall_tests_iff`: the criteria of an accepted map demand what its entries demand.
-/

namespace FilterQuery

open Sql (Interpretation)

theorem Column.resolve_eq_ok_iff
    {name : String} {column : Column} :
    Column.resolve name = .ok column ↔ Column.ofName? name = some column := by
  rw [Column.resolve]
  cases Column.ofName? name <;> simp

theorem Operator.resolve_eq_ok_iff
    {code : String} {operator : Operator} :
    Operator.resolve code = .ok operator ↔ Operator.ofCode? code = some operator := by
  rw [Operator.resolve]
  cases Operator.ofCode? code <;> simp

namespace FilterEntry

/-- When an entry is accepted, and the test that it makes. -/
theorem test_eq_ok_iff
    {column : Column} {e : FilterEntry} {t : Test} :
    e.test column = .ok t ↔
      Operator.ofCode? e.operator = some t.operator ∧ t.values = e.values ∧ t.Admissible := by
  rw [test, bind_eq_ok_iff]
  simp only [Operator.resolve_eq_ok_iff, Test.Admissible]
  constructor
  · rintro ⟨operator, hoperator, h⟩
    by_cases hnil : e.values = []
    · simp [hnil, throw, throwThe, MonadExceptOf.throw, bind, Except.bind] at h
    · by_cases hcount : operator ≠ .anyOf ∧ e.values.length ≠ 1
      · simp [hnil, hcount, throw, throwThe, MonadExceptOf.throw, bind, Except.bind] at h
      · simp only [hnil, hcount, if_false, pure, Except.pure, bind, Except.bind] at h
        cases h
        refine ⟨hoperator, rfl, hnil, ?_⟩
        intro hany
        by_contra hlength
        exact hcount ⟨hany, hlength⟩
  · rintro ⟨hoperator, hvalues, hnil, hcount⟩
    refine ⟨t.operator, hoperator, ?_⟩
    have hcount' : ¬ (t.operator ≠ .anyOf ∧ e.values.length ≠ 1) := by
      rintro ⟨hany, hlength⟩
      exact hlength (hvalues ▸ hcount hany)
    rw [if_neg (hvalues ▸ hnil), if_neg hcount', ← hvalues]
    rfl

end FilterEntry

namespace Filter

/-- When a filter is accepted, and the criterion that it makes. -/
theorem criterion_eq_ok_iff
    {f : Filter} {c : Criterion} :
    f.criterion = .ok c ↔
      Column.ofName? f.name = some c.column ∧ f.entries ≠ [] ∧
        ∃ tests, List.Forall₂ (fun e t => e.test c.column = .ok t) f.entries tests ∧
          c.tests = tests.eraseDups := by
  rw [criterion, bind_eq_ok_iff]
  simp only [Column.resolve_eq_ok_iff]
  constructor
  · rintro ⟨column, hcolumn, h⟩
    by_cases hnil : f.entries = []
    · simp [hnil, throw, throwThe, MonadExceptOf.throw, bind, Except.bind] at h
    · rw [if_neg hnil] at h
      obtain ⟨tests, htests, h⟩ := bind_eq_ok_iff.1 h
      cases h
      exact ⟨hcolumn, hnil, tests, mapM_eq_ok_iff.1 htests, rfl⟩
  · rintro ⟨hcolumn, hnil, tests, htests, hc⟩
    refine ⟨c.column, hcolumn, ?_⟩
    rw [if_neg hnil]
    refine bind_eq_ok_iff.2 ⟨tests, mapM_eq_ok_iff.2 htests, ?_⟩
    rw [← hc]
    rfl

end Filter

namespace FilterMap

/-- When a map is accepted, and the criteria that it makes. -/
theorem criteria_eq_ok_iff
    {m : FilterMap} {criteria : List Criterion} :
    m.criteria = .ok criteria ↔
      ∃ raw, List.Forall₂ (fun f c => f.criterion = .ok c) m.members raw ∧
        Criteria.missing? raw = none ∧ criteria = Criteria.byPriority raw := by
  rw [FilterMap.criteria, bind_eq_ok_iff]
  simp only [mapM_eq_ok_iff, Criteria.order_eq_ok_iff]

end FilterMap

namespace FilterMap

/-- Filters for cars of two brands from 2020 on, the brands given twice. -/
def recentCars : FilterMap where
  members := [
    ⟨"brand", [⟨["audi", "bmw"], "any"⟩, ⟨["audi", "bmw"], "anyOf"⟩]⟩,
    ⟨"category", [⟨["car"], "eq"⟩]⟩,
    ⟨"country", [⟨["lv"], "eq"⟩]⟩,
    ⟨"year", [⟨["2020"], "gte"⟩]⟩]
  ascending := by decide

/-- The criteria of an accepted map stand in order, and no mandatory one is missing. -/
theorem ordered_criteria
    {m : FilterMap} {criteria : List Criterion}
    (h : m.criteria = .ok criteria) :
    Criteria.missing? criteria = none ∧ Criteria.byPriority criteria = criteria := by
  obtain ⟨raw, -, hmissing, rfl⟩ := criteria_eq_ok_iff.1 h
  rw [Criteria.missing?_byPriority, Criteria.byPriority_byPriority]
  exact ⟨hmissing, rfl⟩

end FilterMap

/-- A filter bears the name of the column of its criterion. -/
theorem Filter.name_of_criterion
    {f : Filter} {c : Criterion}
    (h : f.criterion = .ok c) :
    f.name = c.column.name :=
  Column.ofName?_eq_some_iff.1 (Filter.criterion_eq_ok_iff.1 h).1

/-- An accepted filter demands something. -/
theorem Filter.tests_ne_nil
    {f : Filter} {c : Criterion}
    (h : f.criterion = .ok c) :
    c.tests ≠ [] := by
  obtain ⟨-, hentries, tests, htests, hc⟩ := Filter.criterion_eq_ok_iff.1 h
  have hne : tests ≠ [] := by
    rintro rfl
    exact hentries (List.forall₂_nil_right_iff.1 htests)
  obtain ⟨t, ht⟩ := List.exists_mem_of_ne_nil tests hne
  rw [hc]
  exact List.ne_nil_of_mem (List.mem_eraseDups.2 ht)

/-- Every criterion of an accepted map demands something. -/
theorem FilterMap.tests_ne_nil
    {m : FilterMap} {criteria : List Criterion}
    (h : m.criteria = .ok criteria) :
    ∀ c ∈ criteria, c.tests ≠ [] := by
  obtain ⟨raw, hraw, -, rfl⟩ := FilterMap.criteria_eq_ok_iff.1 h
  have htests : ∀ c ∈ raw, c.tests ≠ [] :=
    forall_mem_of_forall₂ hraw.flip fun _ _ hf => Filter.tests_ne_nil hf
  intro c hc
  exact htests c (Criteria.mem_byPriority.1 hc)

/-- The criteria of an accepted map have a test, since there are mandatory columns. -/
theorem FilterMap.exists_tests_ne_nil
    {m : FilterMap} {criteria : List Criterion}
    (h : m.criteria = .ok criteria) :
    ∃ c ∈ criteria, c.tests ≠ [] := by
  obtain ⟨c, hc, -⟩ :=
    Criteria.missing?_eq_none_iff.1 (FilterMap.ordered_criteria h).1 .category (by decide)
  exact ⟨c, hc, FilterMap.tests_ne_nil h c hc⟩

/-- The criteria of an accepted map are written as at least one expression. -/
theorem FilterMap.expressions_ne_nil
    {m : FilterMap} {criteria : List Criterion}
    (h : m.criteria = .ok criteria) :
    Criteria.expressions criteria ≠ [] :=
  Criteria.expressions_ne_nil (FilterMap.exists_tests_ne_nil h)

/-- Whether an entry in the filter of a column holds, under an interpretation of the tests of a
statement. -/
def FilterEntry.Holds (I : Interpretation) (column : Column) (e : FilterEntry) : Prop :=
  ∃ operator, Operator.coded? e.operator = some operator ∧
    Test.Holds I column ⟨operator, e.values⟩

def Filter.Holds (I : Interpretation) (f : Filter) : Prop :=
  ∃ column, Column.listed? f.name = some column ∧ ∀ e ∈ f.entries, e.Holds I column

def FilterMap.Holds (I : Interpretation) (m : FilterMap) : Prop :=
  ∀ f ∈ m.members, f.Holds I

variable {I : Interpretation}

/-- A test demands what the entry says. -/
theorem FilterEntry.holds_iff
    {column : Column} {e : FilterEntry} {t : Test}
    (h : e.test column = .ok t) :
    t.Holds I column ↔ e.Holds I column := by
  obtain ⟨hoperator, hvalues, -⟩ := FilterEntry.test_eq_ok_iff.1 h
  rw [FilterEntry.Holds, Operator.coded?_eq, ← hvalues]
  simp [hoperator]

/-- Leaving out repeated tests does not change what a filter demands. -/
theorem Filter.forall_tests_iff
    {f : Filter} {c : Criterion}
    (h : f.criterion = .ok c) :
    (∀ t ∈ c.tests, t.Holds I c.column) ↔ f.Holds I := by
  obtain ⟨hcolumn, -, tests, htests, hc⟩ := Filter.criterion_eq_ok_iff.1 h
  have hforall : (∀ e ∈ f.entries, e.Holds I c.column) ↔ ∀ t ∈ tests, t.Holds I c.column :=
    forall_mem_iff_of_forall₂ htests fun _ _ ht => (FilterEntry.holds_iff ht).symm
  simp only [hc, List.mem_eraseDups, ← hforall, Filter.Holds, Column.listed?_eq, hcolumn]
  simp

namespace FilterMap

/-- The tests of an accepted map demand what its filters say. -/
theorem forall_tests_iff
    {m : FilterMap} {criteria : List Criterion}
    (h : m.criteria = .ok criteria) :
    (∀ t ∈ Criteria.tests criteria, t.2.Holds I t.1) ↔ m.Holds I := by
  obtain ⟨raw, hraw, -, rfl⟩ := criteria_eq_ok_iff.1 h
  have hforall : m.Holds I ↔ ∀ c ∈ raw, ∀ t ∈ c.tests, t.Holds I c.column :=
    forall_mem_iff_of_forall₂ hraw fun _ _ hf => (Filter.forall_tests_iff hf).symm
  rw [hforall]
  constructor
  · intro htests c hc t ht
    exact htests (c.column, t)
      (Criteria.mem_tests.2 ⟨c, Criteria.mem_byPriority.2 hc, rfl, ht⟩)
  · rintro hcriteria ⟨column, t⟩ ht
    obtain ⟨c, hc, rfl, hct⟩ := Criteria.mem_tests.1 ht
    exact hcriteria c (Criteria.mem_byPriority.1 hc) t hct

end FilterMap
end FilterQuery
