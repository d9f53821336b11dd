import FilterQuery.Proofs.FilterMap.Criteria

/-!
# The problems of a filter map

What is wrong with a filter map, said of the map as it was sent: which filter is the first that
cannot be understood, which mandatory filter is missing, and which value is the first that its
column does not accept.

**Results.**
* `failure?_criteria`: a map is refused for its first filter with a problem, or else for the first
  mandatory filter that is missing.
* `failure?_condition`: the criteria of an accepted map have no condition exactly when a value is
  not accepted, and the first of them in the order of the statement is reported.
-/

namespace FilterQuery

/-- What is wrong with an entry in the filter of a column. -/
def FilterEntry.problem? (column : Column) (e : FilterEntry) : Option QueryError :=
  match Operator.coded? e.operator with
  | none => some (.unsupportedOperator e.operator)
  | some operator =>
      if e.values = [] then some (.emptyFilter column.row.name)
      else if operator ≠ .anyOf ∧ e.values.length ≠ 1 then
        some (.valueCount column operator e.values.length)
      else none

/-- What is wrong with a filter: its name, or else that it is empty, or else its first entry with a
problem. -/
def Filter.problem? (f : Filter) : Option QueryError :=
  match Column.listed? f.name with
  | none => some (.unknownColumn f.name)
  | some column =>
      if f.entries = [] then some (.emptyFilter f.name)
      else f.entries.findSome? (FilterEntry.problem? column)

/-- What is wrong with a value of a column. -/
def Column.rejection? (column : Column) (value : String) : Option QueryError :=
  if column.row.type.Accepts value then none
  else some (.invalidValue column value column.row.type)

namespace FilterMap

/-- What is wrong with the first filter that has a problem. -/
def problem? (m : FilterMap) : Option QueryError :=
  m.members.findSome? Filter.problem?

/-- The first mandatory column without a filter. -/
def missing? (m : FilterMap) : Option Column :=
  [Column.category, Column.country].find? fun column => (m.find? column.row.name).isNone

/-- What is wrong with the first value that is not accepted: columns in descending priority, then
entries, then values. -/
def rejection? (m : FilterMap) : Option QueryError :=
  Column.catalogue.findSome? fun column =>
    ((m.find? column.row.name).getD []).findSome? fun e => e.values.findSome? column.rejection?

end FilterMap

theorem FilterEntry.failure?_test (column : Column) (e : FilterEntry) :
    failure? (e.test column) = e.problem? column := by
  rw [test, problem?, failure?_bind, Operator.resolve, Operator.coded?_eq, Column.row_eq]
  cases Operator.ofCode? e.operator with
  | none =>
      rfl
  | some operator =>
      simp only
      split
      · rfl
      · split
        · rfl
        · rfl

/-- A filter is refused for its problem. -/
theorem Filter.failure?_criterion (f : Filter) :
    failure? f.criterion = f.problem? := by
  rw [criterion, problem?, failure?_bind, Column.resolve, Column.listed?_eq]
  cases Column.ofName? f.name with
  | none =>
      rfl
  | some column =>
      simp only
      split
      · rfl
      · simp only [failure?_bind_pure, failure?_mapM, FilterEntry.failure?_test]

theorem Column.failure?_cast (column : Column) (value : String) :
    failure? (column.cast value) = column.rejection? value := by
  rw [cast, rejection?, Column.row_eq]
  simp only [← ValueType.isSome_read?_iff]
  cases column.valueType.read? value <;> rfl

theorem Column.failure?_comparison (column : Column) (symbol value : String) :
    failure? (column.comparison symbol value) = column.rejection? value := by
  rw [comparison, failure?_bind_pure, failure?_cast]

/-- The predicate of an admissible test fails only for its values. -/
theorem Test.failure?_predicate
    (column : Column) {t : Test}
    (ht : t.Admissible) :
    failure? (t.predicate column) = t.values.findSome? column.rejection? := by
  obtain ⟨operator, values⟩ := t
  cases operator with
  | compare c =>
      obtain ⟨value, rfl⟩ := List.length_eq_one_iff.1 (ht.2 (by simp))
      simp [predicate, Column.failure?_comparison]
  | anyOf =>
      cases values with
      | nil =>
          exact absurd rfl ht.1
      | cons v values =>
          simp only [predicate, failure?_bind_pure, failure?_mapM, Column.failure?_comparison]

namespace FilterMap

/-- No name stands twice, so the filters of a name are the one that is found. -/
theorem filter_name_eq_toList_find?
    {members : List Filter}
    (h : members.Pairwise fun a b => a.name < b.name)
    (name : String) :
    (members.filter fun f => f.name = name) = (members.find? fun f => f.name = name).toList := by
  induction members with
  | nil =>
      rfl
  | cons f members ih =>
      rw [List.pairwise_cons] at h
      by_cases hf : f.name = name
      · have hrest : (members.filter fun g => g.name = name) = [] := by
          rw [List.filter_eq_nil_iff]
          intro g hg hname
          have hlt := h.1 g hg
          rw [hf, ← of_decide_eq_true hname] at hlt
          exact String.lt_irrefl _ hlt
        rw [List.filter_cons_of_pos (by simpa using hf), List.find?_cons_of_pos (by simpa using hf),
          hrest]
        rfl
      · rw [List.filter_cons_of_neg (by simpa using hf), List.find?_cons_of_neg (by simpa using hf),
          ih h.2]

variable {m : FilterMap} {raw : List Criterion}

/-- The criteria on a column come from the filter of its name. -/
theorem forall₂_on
    (hraw : List.Forall₂ (fun f c => f.criterion = .ok c) m.members raw)
    (column : Column) :
    List.Forall₂ (fun f c => f.criterion = .ok c)
      (m.members.find? fun f => f.name = column.name).toList (Criteria.on column raw) := by
  rw [← filter_name_eq_toList_find? m.ascending]
  refine List.rel_filter ?_ hraw
  intro f c hf
  simp only [decide_eq_true_eq, Filter.name_of_criterion hf]
  constructor
  · intro h
    exact Column.name_injective h
  · rintro rfl
    rfl

theorem missing?_eq
    (hraw : List.Forall₂ (fun f c => f.criterion = .ok c) m.members raw) :
    Criteria.missing? raw = m.missing? := by
  rw [Criteria.missing?, missing?, Column.mandatory]
  congr 1
  funext column
  rw [Column.row_eq]
  have hlength := (forall₂_on hraw column).length_eq
  rw [find?]
  cases hfind : m.members.find? fun f => f.name = column.name with
  | none =>
      rw [hfind] at hlength
      have hon : Criteria.on column raw = [] :=
        List.eq_nil_of_length_eq_zero (by simpa using hlength.symm)
      rw [Criteria.on, List.filter_eq_nil_iff] at hon
      simpa using hon
  | some f =>
      rw [hfind] at hlength
      obtain ⟨c, hc⟩ := List.length_eq_one_iff.1 hlength.symm
      have hmem : c ∈ Criteria.on column raw := by
        simp [hc]
      simpa using ⟨c, Criteria.mem_on.1 hmem⟩

/-- A map is refused for its first filter with a problem, or else for a missing one. -/
theorem failure?_criteria (m : FilterMap) :
    failure? m.criteria = m.problem?.or (m.missing?.map QueryError.missingMandatoryFilter) := by
  have hmembers : failure? (m.members.mapM Filter.criterion) = m.problem? := by
    simp only [failure?_mapM, Filter.failure?_criterion, problem?]
  rw [criteria, failure?_bind, ← hmembers]
  cases hraw : m.members.mapM Filter.criterion with
  | error e =>
      rfl
  | ok raw =>
      rw [failure?_ok, Option.none_or, ← missing?_eq (mapM_eq_ok_iff.1 hraw)]
      simp only [Criteria.order_eq]
      cases Criteria.missing? raw <;> rfl

/-- Leaving out repeated tests does not change which value is the first to be refused. -/
theorem findSome?_predicate
    {f : Filter} {c : Criterion}
    (h : f.criterion = .ok c) :
    (c.tests.findSome? fun t => failure? (t.predicate c.column)) =
      f.entries.findSome? fun e => e.values.findSome? c.column.rejection? := by
  obtain ⟨-, -, tests, htests, hc⟩ := Filter.criterion_eq_ok_iff.1 h
  rw [hc, findSome?_eraseDups]
  generalize f.entries = entries at htests
  clear hc
  induction htests with
  | nil =>
      rfl
  | @cons e t entries tests ht htests ih =>
      obtain ⟨-, hvalues, hadmissible⟩ := FilterEntry.test_eq_ok_iff.1 ht
      rw [List.findSome?_cons, List.findSome?_cons, ih,
        Test.failure?_predicate c.column hadmissible, hvalues]

/-- The condition of an accepted map is refused for the first value that is not accepted. -/
theorem failure?_condition
    {criteria : List Criterion}
    (h : m.criteria = .ok criteria) :
    failure? (Criteria.condition criteria) = m.rejection? := by
  obtain ⟨raw, hraw, -, rfl⟩ := criteria_eq_ok_iff.1 h
  rw [Criteria.failure?_condition, Criteria.tests, Criteria.byPriority, findSome?_flatMap,
    findSome?_flatMap, rejection?, Column.catalogue_eq.1]
  refine findSome?_congr ?_
  intro column _
  rw [Column.row_eq]
  have hon := forall₂_on hraw column
  rw [find?]
  cases hfind : m.members.find? fun f => f.name = column.name with
  | none =>
      rw [hfind] at hon
      rw [List.forall₂_nil_left_iff.1 hon]
      rfl
  | some f =>
      rw [hfind] at hon
      obtain ⟨c, rest, hc, hrest, hcons⟩ := List.forall₂_cons_left_iff.1 hon
      obtain rfl := List.forall₂_nil_left_iff.1 hrest
      have hmem : c ∈ Criteria.on column raw := by
        simp [hcons]
      obtain ⟨-, rfl⟩ := Criteria.mem_on.1 hmem
      rw [hcons]
      simp only [List.findSome?_singleton, List.findSome?_map, Option.map_some, Option.getD_some]
      exact findSome?_predicate hc

end FilterMap
end FilterQuery
