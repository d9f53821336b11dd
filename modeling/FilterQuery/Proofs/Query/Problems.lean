import FilterQuery.Proofs.FilterMap.Problem
import FilterQuery.Proofs.Query.Text
import FilterQuery.Proofs.Text.Bytes
import Mathlib.Algebra.Order.Ring.Int

/-!
# The problems of a request

A request is checked in stages, and the first stage that finds something wrong decides its error.

**Stages.** The filters are checked one by one in the order of their names, then the mandatory ones
are looked for, then the projected column or the page is checked, and last the values.

**Results.**
* `ascending_bytes`: the order of names is that of their bytes.
* `failure?_distinct`, `failure?_search`: a request fails with its first problem.
* `outcome_eq_first_problem`: a request is accepted exactly when it has no problem, and refused for
  the first one otherwise.
-/

namespace FilterQuery

open Sql (Parameter Statement)

/-- The filters stand in the order of the bytes of their names. -/
theorem FilterMap.ascending_bytes (m : FilterMap) :
    m.members.Pairwise fun f g => Text.bytes f.name < Text.bytes g.name := by
  refine m.ascending.imp ?_
  intro f g h
  exact Text.bytes_lt_bytes h

namespace Query

/-- What is wrong with the name of the column whose values are listed. -/
def projectionProblem? (name : String) : Option QueryError :=
  match Column.listed? name with
  | none => some (.unknownColumn name)
  | some column =>
      if column = .category ∨ column = .country then some (.noExclusionRule column) else none

/-- What is wrong with a page: that its first row has no number in 63 bits. -/
def pageProblem? (rows page : UInt32) : Option QueryError :=
  if page.toNat * rows.toNat < 2 ^ 63 then none
  else some (.pageOutOfRange page.toNat rows.toNat)

/-- The first problem of a request for distinct values. -/
def distinctProblem? (filters : FilterMap) (name : String) : Option QueryError :=
  filters.problem?.or <| (filters.missing?.map QueryError.missingMandatoryFilter).or <|
    (projectionProblem? name).or filters.rejection?

def searchProblem? (rows : UInt32) (filters : FilterMap) (page : UInt32) : Option QueryError :=
  filters.problem?.or <| (filters.missing?.map QueryError.missingMandatoryFilter).or <|
    (pageProblem? rows page).or filters.rejection?

/-- A request whose filters are interpreted first fails for them or else in what follows. -/
theorem failure?_criteria_bind
    {filters : FilterMap} {next : List Criterion → Except QueryError Statement}
    {rest : Option QueryError}
    (h : ∀ criteria, filters.criteria = .ok criteria → failure? (next criteria) = rest) :
    failure? (filters.criteria >>= next) =
      filters.problem?.or
        ((filters.missing?.map QueryError.missingMandatoryFilter).or rest) := by
  rw [← Option.or_assoc, ← FilterMap.failure?_criteria, failure?_bind]
  cases hcriteria : filters.criteria with
  | error e =>
      rfl
  | ok criteria =>
      rw [failure?_ok, Option.none_or]
      exact h criteria hcriteria

theorem failure?_exclusion (column : Column) :
    failure? column.exclusion =
      if column = .category ∨ column = .country then some (.noExclusionRule column) else none := by
  cases column <;> rfl

theorem failure?_whereClause (criteria : List Criterion) :
    failure? (Criteria.whereClause criteria) = failure? (Criteria.condition criteria) :=
  failure?_bind_pure _ _

theorem failure?_order_bind
    {criteria : List Criterion} {next : List Criterion → Except QueryError Statement} :
    failure? (Criteria.order criteria >>= next) =
      ((Criteria.missing? criteria).map QueryError.missingMandatoryFilter).or
        (failure? (next (Criteria.byPriority criteria))) := by
  rw [failure?_bind, Criteria.order_eq]
  cases Criteria.missing? criteria <;> rfl

/-- The stages of a list of distinct values by criteria. -/
theorem failure?_distinctOf (criteria : List Criterion) (column : Column) :
    failure? (distinctOf criteria column) =
      ((Criteria.missing? criteria).map QueryError.missingMandatoryFilter).or
        ((failure? column.exclusion).or
          (failure? (Criteria.condition (Criteria.byPriority criteria)))) := by
  rw [distinctOf, failure?_order_bind, failure?_bind]
  cases column.exclusion with
  | error e =>
      rfl
  | ok exclusion =>
      simp only [failure?_bind_pure, failure?_whereClause]
      rfl

/-- A request for distinct values is refused for its first problem. -/
theorem failure?_distinct (filters : FilterMap) (name : String) :
    failure? (distinct filters name) = distinctProblem? filters name := by
  refine failure?_criteria_bind ?_
  intro criteria hcriteria
  obtain ⟨hmissing, hordered⟩ := FilterMap.ordered_criteria hcriteria
  rw [← FilterMap.failure?_condition hcriteria, projectionProblem?, failure?_bind, Column.resolve,
    Column.listed?_eq]
  cases Column.ofName? name with
  | none =>
      rfl
  | some column =>
      simp only
      rw [failure?_distinctOf, hmissing, hordered, failure?_exclusion]
      rfl

theorem isSome_ofInt?_iff
    {n : Int} :
    (Parameter.ofInt? n).isSome ↔ -2 ^ 63 ≤ n ∧ n < 2 ^ 63 := by
  have hmin : Int64.minValue.toInt = -2 ^ 63 := rfl
  have hmax : Int64.maxValue.toInt = 2 ^ 63 - 1 := rfl
  rw [Parameter.ofInt?]
  split
  · simp only [Option.isSome_some, true_iff]
    omega
  · simp only [Option.isSome_none, Bool.false_eq_true, false_iff]
    omega

theorem isSome_ofInt?_limit (rows : UInt32) :
    (Parameter.ofInt? (limit rows)).isSome := by
  have hrows := rows.toNat_lt
  rw [isSome_ofInt?_iff, limit]
  omega

theorem isSome_ofInt?_offset_iff
    {rows page : UInt32} :
    (Parameter.ofInt? (offset rows page)).isSome ↔ page.toNat * rows.toNat < 2 ^ 63 := by
  rw [isSome_ofInt?_iff, offset]
  omega

/-- The stages of a search by criteria. -/
theorem failure?_searchOf (rows : UInt32) (criteria : List Criterion) (page : UInt32) :
    failure? (searchOf rows criteria page) =
      ((Criteria.missing? criteria).map QueryError.missingMandatoryFilter).or
        ((pageProblem? rows page).or
          (failure? (Criteria.condition (Criteria.byPriority criteria)))) := by
  obtain ⟨l, hl⟩ := Option.isSome_iff_exists.1 (isSome_ofInt?_limit rows)
  rw [searchOf, failure?_order_bind, pageProblem?, hl]
  by_cases hpage : page.toNat * rows.toNat < 2 ^ 63
  · obtain ⟨o, ho⟩ := Option.isSome_iff_exists.1 (isSome_ofInt?_offset_iff.2 hpage)
    rw [ho, if_pos hpage]
    simp only [failure?_bind_pure, failure?_whereClause]
    rfl
  · have ho : Parameter.ofInt? (offset rows page) = none := by
      rw [← Option.not_isSome_iff_eq_none, isSome_ofInt?_offset_iff]
      exact hpage
    rw [ho, if_neg hpage]
    rfl

/-- A request for a page of the search is refused for its first problem. -/
theorem failure?_search (rows : UInt32) (filters : FilterMap) (page : UInt32) :
    failure? (search rows filters page) = searchProblem? rows filters page := by
  refine failure?_criteria_bind ?_
  intro criteria hcriteria
  obtain ⟨hmissing, hordered⟩ := FilterMap.ordered_criteria hcriteria
  rw [← FilterMap.failure?_condition hcriteria, failure?_searchOf, hmissing, hordered]
  rfl

theorem exists_distinctOf_iff
    {criteria : List Criterion} {column : Column} :
    (∃ s, distinctOf criteria column = .ok s) ↔
      ((Criteria.missing? criteria).map QueryError.missingMandatoryFilter).or
        ((failure? column.exclusion).or
          (failure? (Criteria.condition (Criteria.byPriority criteria)))) = none := by
  rw [← failure?_distinctOf, failure?_eq_none_iff]

theorem exists_searchOf_iff
    {rows page : UInt32} {criteria : List Criterion} :
    (∃ s, searchOf rows criteria page = .ok s) ↔
      ((Criteria.missing? criteria).map QueryError.missingMandatoryFilter).or
        ((pageProblem? rows page).or
          (failure? (Criteria.condition (Criteria.byPriority criteria)))) = none := by
  rw [← failure?_searchOf, failure?_eq_none_iff]

theorem exists_distinct_iff
    {filters : FilterMap} {name : String} :
    (∃ s, distinct filters name = .ok s) ↔ distinctProblem? filters name = none := by
  rw [← failure?_distinct, failure?_eq_none_iff]

theorem exists_search_iff
    {rows page : UInt32} {filters : FilterMap} :
    (∃ s, search rows filters page = .ok s) ↔ searchProblem? rows filters page = none := by
  rw [← failure?_search, failure?_eq_none_iff]

/-- The filters are visited in the order of the bytes of their names.  A request is refused for its
first problem, and accepted when it has none. -/
theorem outcome_eq_first_problem (filters : FilterMap) :
    (filters.members.Pairwise fun f g => Text.bytes f.name < Text.bytes g.name) ∧
    (∀ name : String,
      (∀ x, distinct filters name = .error x ↔ distinctProblem? filters name = some x) ∧
      ((∃ s, distinct filters name = .ok s) ↔ distinctProblem? filters name = none)) ∧
    ∀ rows page : UInt32,
      (∀ x, search rows filters page = .error x ↔ searchProblem? rows filters page = some x) ∧
      ((∃ s, search rows filters page = .ok s) ↔ searchProblem? rows filters page = none) := by
  refine ⟨filters.ascending_bytes, ?_, ?_⟩
  · intro name
    refine ⟨?_, exists_distinct_iff⟩
    intro x
    rw [← failure?_distinct, failure?_eq_some_iff]
  · intro rows page
    refine ⟨?_, exists_search_iff⟩
    intro x
    rw [← failure?_search, failure?_eq_some_iff]

end Query
end FilterQuery
