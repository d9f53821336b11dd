import FilterQuery.Proofs.Criterion.Stability
import FilterQuery.Proofs.FilterMap.Repetition
import FilterQuery.Proofs.Query.Enumeration
import Mathlib.Data.List.Perm.Basic

/-!
# Canonical criteria

The interpretation of a filter map brings criteria into a canonical form: in order, one on each
column, and in each criterion tests that are admissible and do not repeat.  Written as filters
again, canonical criteria are interpreted as themselves.

**Model.** `FilterMap.ofCriteria criteria`: the filters that criteria are written as, each under the
name of its column with the codes of its operators.

**Method.** The criteria of an accepted map are canonical (`FilterMap.canonical_criteria`), and
canonical criteria in any order are brought back (`Canonical.criteria_ofCriteria`).

**Results.**
* `names_criteria`: there is one criterion for each name of an accepted map.
* `criteria_canonical`: neither criteria nor statements nor errors change when the criteria of a map
  take its place.
-/

namespace FilterQuery

namespace Criterion

/-- Whether a criterion has tests, all admissible and no two of them equal. -/
structure Proper (c : Criterion) : Prop where
  tested : c.tests ≠ []
  nodup : c.tests.Nodup
  admissible : ∀ t ∈ c.tests, t.Admissible

/-- A criterion as a filter: the name of its column, and its tests with the codes of their
operators. -/
def toFilter (c : Criterion) : Filter :=
  ⟨c.column.name, c.tests.map fun t => ⟨t.values, t.operator.code⟩⟩

/-- The filter of a proper criterion is interpreted as the criterion. -/
theorem criterion_toFilter
    {c : Criterion}
    (h : c.Proper) :
    c.toFilter.criterion = .ok c := by
  refine Filter.criterion_eq_ok_iff.2
    ⟨Column.ofName?_name c.column, by simpa [toFilter] using h.tested, c.tests, ?_, ?_⟩
  · rw [toFilter, List.forall₂_map_left_iff, List.forall₂_same]
    intro t ht
    exact FilterEntry.test_eq_ok_iff.2 ⟨Operator.ofCode?_code t.operator, rfl, h.admissible t ht⟩
  · exact (eraseDups_of_nodup h.nodup).symm

end Criterion

/-- The criterion of an accepted filter has tests, and none twice. -/
theorem Filter.proper_of_criterion
    {f : Filter} {c : Criterion}
    (h : f.criterion = .ok c) :
    c.Proper where
  tested := Filter.tests_ne_nil h
  nodup := by
    obtain ⟨-, -, tests, -, hc⟩ := Filter.criterion_eq_ok_iff.1 h
    exact hc ▸ (keeps_eraseDups tests).nodup
  admissible := by
    obtain ⟨-, -, tests, htests, hc⟩ := Filter.criterion_eq_ok_iff.1 h
    intro t ht
    rw [hc, List.mem_eraseDups] at ht
    obtain ⟨e, -, he⟩ := exists_of_mem_of_forall₂ htests.flip ht
    exact (FilterEntry.test_eq_ok_iff.1 he).2.2

namespace Criteria

variable {xs ys : List Criterion}

/-- Whether criteria stand in order, none of the mandatory ones missing, with one on each column and
each of them proper. -/
structure Canonical (criteria : List Criterion) : Prop where
  mandatory : missing? criteria = none
  ordered : byPriority criteria = criteria
  nodup : (criteria.map Criterion.column).Nodup
  proper : ∀ c ∈ criteria, c.Proper

/-- Where no column repeats, the order does not depend on how the criteria were given. -/
theorem byPriority_eq_of_perm
    (h : xs.Perm ys)
    (hnodup : (ys.map Criterion.column).Nodup) :
    byPriority xs = byPriority ys := by
  have hperm : (byPriority xs).Perm (byPriority ys) :=
    (perm_byPriority xs).trans (h.trans (perm_byPriority ys).symm)
  refine hperm.eq_of_pairwise ?_ (pairwise_byPriority xs) (pairwise_byPriority ys)
  intro a b ha hb hab hba
  rw [mem_byPriority, h.mem_iff] at ha
  rw [mem_byPriority] at hb
  exact List.inj_on_of_nodup_map hnodup ha hb (Criterion.column_eq_of_precedes hab hba)

/-- Criteria in canonical form are put back in order from any permutation of them. -/
theorem Canonical.order_eq
    (h : Canonical xs)
    (hys : ys.Perm xs) :
    order ys = .ok xs := by
  refine order_eq_ok_iff.2 ⟨?_, ?_⟩
  · rw [missing?_congr fun _ => hys.mem_iff, h.mandatory]
  · rw [byPriority_eq_of_perm hys h.nodup, h.ordered]

end Criteria

namespace FilterMap

variable {m : FilterMap} {criteria xs ys : List Criterion}

def ofCriteria (criteria : List Criterion) : FilterMap :=
  ofList (criteria.map Criterion.toFilter)

/-- Criteria on distinct columns make a map of their filters. -/
theorem members_ofCriteria
    (h : (xs.map Criterion.column).Nodup) :
    (ofCriteria xs).members.Perm (xs.map Criterion.toFilter) := by
  refine Enumeration.members_ofList ?_
  have hnames : (xs.map Criterion.toFilter).map Filter.name =
      (xs.map Criterion.column).map Column.name := by
    rw [List.map_map, List.map_map]
    rfl
  rw [hnames]
  exact h.map fun _ _ => Column.name_injective

/-- Canonical criteria, written as filters in whatever order, are read as they are. -/
theorem criteria_ofCriteria
    (h : Criteria.Canonical xs)
    (hys : ys.Perm xs) :
    (ofCriteria ys).criteria = .ok xs := by
  have hfilters : List.Forall₂ (fun f c => f.criterion = .ok c) (ys.map Criterion.toFilter) ys := by
    rw [List.forall₂_map_left_iff, List.forall₂_same]
    intro c hc
    exact Criterion.criterion_toFilter (h.proper c (hys.mem_iff.1 hc))
  have hmembers : (ofCriteria ys).members.Perm (ys.map Criterion.toFilter) :=
    members_ofCriteria ((hys.map Criterion.column).nodup_iff.2 h.nodup)
  obtain ⟨raw, hraw, hperm⟩ := List.perm_comp_forall₂ hmembers hfilters
  rw [FilterMap.criteria, mapM_eq_ok_iff.2 hraw]
  exact h.order_eq (hperm.trans hys)

/-- Each name of an accepted map has a criterion on its column, and no other column has one. -/
theorem names_criteria
    (h : m.criteria = .ok criteria) :
    (criteria.map fun c => c.column.name).Perm m.names := by
  obtain ⟨raw, hraw, -, rfl⟩ := criteria_eq_ok_iff.1 h
  have hnames : m.members.map Filter.name = raw.map fun c => c.column.name := by
    rw [← List.forall₂_eq_eq_eq, List.forall₂_map_left_iff, List.forall₂_map_right_iff]
    exact hraw.imp fun _ _ => Filter.name_of_criterion
  rw [names, hnames]
  exact (Criteria.perm_byPriority raw).map _

/-- The criteria of an accepted map are in canonical form. -/
theorem canonical_criteria
    (h : m.criteria = .ok criteria) :
    Criteria.Canonical criteria := by
  obtain ⟨hmissing, hordered⟩ := ordered_criteria h
  refine ⟨hmissing, hordered, ?_, ?_⟩
  · have hnodup : (criteria.map fun c => c.column.name).Nodup :=
      (names_criteria h).nodup_iff.2 m.nodup_names
    rw [show (fun c : Criterion => c.column.name) = Column.name ∘ Criterion.column from rfl,
      ← List.map_map] at hnodup
    exact hnodup.of_map
  · obtain ⟨raw, hraw, -, rfl⟩ := criteria_eq_ok_iff.1 h
    intro c hc
    obtain ⟨f, -, hf⟩ := exists_of_mem_of_forall₂ hraw.flip (Criteria.mem_byPriority.1 hc)
    exact Filter.proper_of_criterion hf

/-- A map is accepted with canonical criteria, and all canonical criteria are those of a map. -/
theorem exists_criteria_iff :
    (∃ n : FilterMap, n.criteria = .ok criteria) ↔ Criteria.Canonical criteria := by
  constructor
  · rintro ⟨n, h⟩
    exact canonical_criteria h
  · intro h
    exact ⟨ofCriteria criteria, criteria_ofCriteria h (.refl criteria)⟩

end FilterMap

namespace Query

variable {m : FilterMap} {criteria xs ys : List Criterion}

/-- Queries look at criteria in their order only. -/
theorem searchOf_eq_of_order_eq
    (h : Criteria.order xs = Criteria.order ys)
    (rows page : UInt32) :
    searchOf rows xs page = searchOf rows ys page := by
  rw [searchOf, h, searchOf]

theorem distinctOf_eq_of_order_eq
    (h : Criteria.order xs = Criteria.order ys)
    (column : Column) :
    distinctOf xs column = distinctOf ys column := by
  rw [distinctOf, h, distinctOf]

/-- A search by filters is the search by their criteria. -/
theorem search_eq_searchOf
    (h : m.criteria = .ok criteria)
    (rows page : UInt32) :
    search rows m page = searchOf rows criteria page := by
  rw [search, h, ok_bind]

/-- The distinct values by filters are those by their criteria. -/
theorem distinct_eq_distinctOf
    (h : m.criteria = .ok criteria)
    (column : Column) :
    distinct m column.name = distinctOf criteria column := by
  have hcolumn : Column.resolve column.name = .ok column :=
    Column.resolve_eq_ok_iff.2 (Column.ofName?_name column)
  rw [distinct, h, ok_bind, hcolumn, ok_bind]

/-- An accepted map has one criterion for each of its names, on the column of the name and no two on
one column.  Its criteria may be given in any order: the map that they are written as has the same
criteria again, and this map and they themselves give the statements and errors of the map that was
sent. -/
theorem criteria_canonical
    (h : m.criteria = .ok criteria)
    (hys : ys.Perm criteria) :
    ((criteria.map fun c => c.column.name).Perm m.names ∧
      (criteria.map Criterion.column).Nodup) ∧
    (FilterMap.ofCriteria ys).criteria = .ok criteria ∧
    (∀ rows page,
      search rows (FilterMap.ofCriteria ys) page = search rows m page ∧
      searchOf rows ys page = search rows m page) ∧
    ∀ column : Column,
      distinct (FilterMap.ofCriteria ys) column.name = distinct m column.name ∧
      distinctOf ys column = distinct m column.name := by
  have hcanonical := FilterMap.canonical_criteria h
  have hcriteria := FilterMap.criteria_ofCriteria hcanonical hys
  have horder : Criteria.order ys = Criteria.order criteria :=
    (hcanonical.order_eq hys).trans (hcanonical.order_eq (.refl criteria)).symm
  refine ⟨⟨FilterMap.names_criteria h, hcanonical.nodup⟩, hcriteria, ?_, ?_⟩
  · intro rows page
    rw [search_eq_searchOf h, search_eq_searchOf hcriteria]
    exact ⟨rfl, searchOf_eq_of_order_eq horder rows page⟩
  · intro column
    rw [distinct_eq_distinctOf h, distinct_eq_distinctOf hcriteria]
    exact ⟨rfl, distinctOf_eq_of_order_eq horder column⟩

/-- The criteria of the filters for recent cars are taken in reverse order.  The distinct values of
the category are refused either way. -/
theorem criteria_canonical_recentCars :
    ∃ criteria, FilterMap.recentCars.criteria = .ok criteria ∧
      criteria.reverse.Perm criteria ∧
      (criteria.map fun c => c.column.name).Perm ["brand", "category", "country", "year"] ∧
      (FilterMap.ofCriteria criteria.reverse).criteria = .ok criteria ∧
      search 20 (FilterMap.ofCriteria criteria.reverse) 3 = search 20 FilterMap.recentCars 3 ∧
      searchOf 20 criteria.reverse 3 = search 20 FilterMap.recentCars 3 ∧
      distinctOf criteria.reverse .category = distinct FilterMap.recentCars "category" ∧
      distinct FilterMap.recentCars "category" = .error (.noExclusionRule .category) := by
  obtain ⟨criteria, h⟩ : ∃ criteria, FilterMap.recentCars.criteria = .ok criteria := by
    rw [← failure?_eq_none_iff, FilterMap.failure?_criteria]
    decide
  have hreverse := List.reverse_perm criteria
  obtain ⟨⟨hnames, -⟩, hcriteria, hsearch, hdistinct⟩ := criteria_canonical h hreverse
  refine ⟨criteria, h, hreverse, hnames, hcriteria, (hsearch 20 3).1, (hsearch 20 3).2,
    (hdistinct .category).2, ?_⟩
  rw [← failure?_eq_some_iff, failure?_distinct]
  decide

end Query
end FilterQuery
