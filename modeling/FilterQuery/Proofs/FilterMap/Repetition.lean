import FilterQuery.Proofs.FilterMap.Criteria
import FilterQuery.Proofs.FilterMap.Insertion
import FilterQuery.Proofs.Firsts
import FilterQuery.Query.Distinct
import FilterQuery.Query.Search
import Mathlib.Logic.Relation

/-!
# Repeated entries

An entry of a filter that repeats an earlier one adds nothing.  Entries are compared by their
operators and values: two codes of one operator make no difference, while values in another order
or with a repetition among them do.

**Method.** Entries can be read one after the other, each test being added to those that are kept
unless it is there already (`Filter.criterion_eq`).  What is kept of the tests that have been seen
is said by `Keeps`.

**Results.**
* `repetitions_left_out`: what the criteria of a map keep of its entries, and that neither further
  copies nor another code for `anyOf` change criteria, statements or errors.
-/

namespace FilterQuery

namespace FilterEntry

/-- Whether a test is that of an entry: the operator that its code stands for, with its values. -/
def Resolves (e : FilterEntry) (t : Test) : Prop :=
  Operator.ofCode? e.operator = some t.operator ∧ t.values = e.values

/-- Puts the test of an entry behind those that are kept, unless it is one of them. -/
def collect (column : Column) (kept : List Test) (e : FilterEntry) :
    Except QueryError (List Test) := do
  let t ← e.test column
  return addNew kept t

/-- Collecting tests finds the same tests, or the same problem, as interpreting the entries. -/
theorem foldlM_collect (column : Column) (entries : List FilterEntry) (kept : List Test) :
    entries.foldlM (collect column) kept = (do
      let tests ← entries.mapM (FilterEntry.test column)
      return tests.foldl addNew kept) := by
  induction entries generalizing kept with
  | nil =>
      rfl
  | cons e entries ih =>
      rw [List.foldlM_cons, List.mapM_cons, collect]
      cases e.test column with
      | error x =>
          rfl
      | ok t =>
          refine (ih (addNew kept t)).trans ?_
          cases entries.mapM (FilterEntry.test column) <;> rfl

end FilterEntry

/-- A filter can be interpreted entry by entry. -/
theorem Filter.criterion_eq (f : Filter) :
    f.criterion = (do
      let column ← Column.resolve f.name
      if f.entries = [] then throw (.emptyFilter f.name)
      let tests ← f.entries.foldlM (FilterEntry.collect column) []
      return ⟨column, tests⟩) := by
  rw [criterion]
  cases Column.resolve f.name with
  | error x =>
      rfl
  | ok column =>
      simp only [FilterEntry.foldlM_collect, foldl_addNew]
      by_cases hf : f.entries = []
      · simp [hf]
      · simp [hf]

namespace Operator

def anyOfCodes : List String :=
  ["anyOf", "any"]

/-- An operator has its own code, and `anyOf` has two. -/
theorem ofCode?_eq_some_iff
    {code : String} {op : Operator} :
    ofCode? code = some op ↔ code = op.code ∨ op = .anyOf ∧ code ∈ anyOfCodes := by
  constructor
  · intro h
    unfold ofCode? at h
    split at h <;> cases h <;> simp [Operator.code, Comparison.code, anyOfCodes]
  · rintro (rfl | ⟨rfl, hcode⟩)
    · exact ofCode?_code op
    · simp only [anyOfCodes, List.mem_cons, List.not_mem_nil, or_false] at hcode
      rcases hcode with rfl | rfl <;> rfl

end Operator

namespace FilterEntry

theorem resolves_of_test
    {column : Column} {e : FilterEntry} {t : Test}
    (h : e.test column = .ok t) :
    e.Resolves t := by
  obtain ⟨hoperator, hvalues, -⟩ := test_eq_ok_iff.1 h
  exact ⟨hoperator, hvalues⟩

/-- Which entries count as equal: those with equal lists of values and either the same code or two
codes for `anyOf`. -/
theorem eq_iff_of_resolves
    {e e' : FilterEntry} {t t' : Test}
    (h : e.Resolves t)
    (h' : e'.Resolves t') :
    t = t' ↔ e.values = e'.values ∧ (e.operator = e'.operator ∨
      e.operator ∈ Operator.anyOfCodes ∧ e'.operator ∈ Operator.anyOfCodes) := by
  obtain ⟨operator, values⟩ := t
  obtain ⟨operator', values'⟩ := t'
  obtain ⟨hoperator, rfl⟩ := h
  obtain ⟨hoperator', rfl⟩ := h'
  rw [Test.mk.injEq, and_comm]
  refine and_congr_right fun _ => ?_
  constructor
  · rintro rfl
    rcases Operator.ofCode?_eq_some_iff.1 hoperator with hcode | ⟨rfl, hcode⟩
    · rcases Operator.ofCode?_eq_some_iff.1 hoperator' with hcode' | ⟨rfl, hcode'⟩
      · exact Or.inl (hcode.trans hcode'.symm)
      · exact Or.inr ⟨by simp [hcode, Operator.code, Operator.anyOfCodes], hcode'⟩
    · rcases Operator.ofCode?_eq_some_iff.1 hoperator' with hcode' | ⟨-, hcode'⟩
      · exact Or.inr ⟨hcode, by simp [hcode', Operator.code, Operator.anyOfCodes]⟩
      · exact Or.inr ⟨hcode, hcode'⟩
  · rintro (hcode | ⟨hcode, hcode'⟩)
    · rw [hcode] at hoperator
      exact Option.some.inj (hoperator.symm.trans hoperator')
    · rw [Operator.ofCode?_eq_some_iff.2 (Or.inr ⟨rfl, hcode⟩)] at hoperator
      rw [Operator.ofCode?_eq_some_iff.2 (Or.inr ⟨rfl, hcode'⟩)] at hoperator'
      exact Option.some.inj (hoperator.symm.trans hoperator')

/-- A change of the entries of a filter: another code for `anyOf`, or a further copy of an entry
somewhere behind it. -/
inductive Rewrites : List FilterEntry → List FilterEntry → Prop
  | code
      (front back : List FilterEntry)
      (values : List String)
      {code code' : String}
      (hcode : code ∈ Operator.anyOfCodes)
      (hcode' : code' ∈ Operator.anyOfCodes) :
      Rewrites (front ++ ⟨values, code⟩ :: back) (front ++ ⟨values, code'⟩ :: back)
  | copy
      (front middle back : List FilterEntry)
      (e : FilterEntry) :
      Rewrites (front ++ e :: middle ++ back) (front ++ e :: middle ++ e :: back)

/-- Both codes of `anyOf` make the same test, also when they are refused. -/
theorem test_code
    (column : Column) (values : List String) {code code' : String}
    (hcode : code ∈ Operator.anyOfCodes)
    (hcode' : code' ∈ Operator.anyOfCodes) :
    (⟨values, code⟩ : FilterEntry).test column = (⟨values, code'⟩ : FilterEntry).test column := by
  have hresolve : ∀ {c}, c ∈ Operator.anyOfCodes → Operator.resolve c = .ok .anyOf := by
    intro c hc
    exact Operator.resolve_eq_ok_iff.2 (Operator.ofCode?_eq_some_iff.2 (Or.inr ⟨rfl, hc⟩))
  simp only [test, hresolve hcode, hresolve hcode']

/-- What has been collected holds the test of each entry, so that another copy adds nothing. -/
theorem collect_of_mem
    {column : Column} {entries : List FilterEntry} {kept : List Test} {e : FilterEntry}
    (h : entries.foldlM (collect column) [] = .ok kept)
    (he : e ∈ entries) :
    collect column kept e = .ok kept := by
  rw [foldlM_collect, bind_eq_ok_iff] at h
  obtain ⟨tests, htests, hkept⟩ := h
  cases hkept
  obtain ⟨t, ht, htest⟩ := exists_of_mem_of_forall₂ (mapM_eq_ok_iff.1 htests) he
  have hmem : t ∈ tests.foldl addNew [] := by
    rwa [foldl_addNew, List.mem_eraseDups]
  rw [collect, htest]
  exact congrArg Except.ok (if_pos hmem)

/-- Collecting the tests of entries ignores copies and the other code. -/
theorem foldlM_collect_of_rewrites
    (column : Column) {entries entries' : List FilterEntry}
    (h : Rewrites entries entries') :
    entries'.foldlM (collect column) [] = entries.foldlM (collect column) [] := by
  cases h with
  | code front back values hcode hcode' =>
      simp only [List.foldlM_append, List.foldlM_cons, collect,
        test_code column values hcode hcode']
  | copy front middle back e =>
      have he : e ∈ front ++ e :: middle := by
        simp
      generalize front ++ e :: middle = seen at he
      rw [List.foldlM_append, List.foldlM_append]
      cases hkept : seen.foldlM (collect column) [] with
      | error x =>
          rfl
      | ok kept =>
          simp only [bind, Except.bind, List.foldlM_cons, collect_of_mem hkept he]

end FilterEntry

namespace Filter

/-- Whether a filter comes from another by changes of its entries. -/
def Rewrites (f g : Filter) : Prop :=
  f.name = g.name ∧ Relation.ReflTransGen FilterEntry.Rewrites f.entries g.entries

theorem criterion_of_step
    (name : String) {entries entries' : List FilterEntry}
    (h : FilterEntry.Rewrites entries entries') :
    (⟨name, entries'⟩ : Filter).criterion = (⟨name, entries⟩ : Filter).criterion := by
  have hne : entries ≠ [] ∧ entries' ≠ [] := by
    cases h <;> simp
  rw [criterion_eq, criterion_eq]
  simp only [FilterEntry.foldlM_collect_of_rewrites _ h, hne.1, hne.2]

/-- Copies of entries, and the other code, leave the criterion as it is. -/
theorem criterion_of_rewrites
    {f g : Filter}
    (h : f.Rewrites g) :
    g.criterion = f.criterion := by
  obtain ⟨name, entries⟩ := f
  obtain ⟨name', entries'⟩ := g
  obtain ⟨rfl, hsteps⟩ := h
  simp only at hsteps
  induction hsteps with
  | refl =>
      rfl
  | tail _ hstep ih =>
      exact (criterion_of_step name hstep).trans ih

/-- A criterion keeps the first of equal tests. -/
theorem keeps_tests
    {f : Filter} {c : Criterion}
    (h : f.criterion = .ok c) :
    ∃ tests, List.Forall₂ FilterEntry.Resolves f.entries tests ∧ Keeps tests c.tests := by
  obtain ⟨-, -, tests, htests, hc⟩ := criterion_eq_ok_iff.1 h
  exact ⟨tests, htests.imp fun _ _ => FilterEntry.resolves_of_test, hc ▸ keeps_eraseDups tests⟩

end Filter

namespace FilterMap

/-- Whether a map comes from another by changes of the entries of its filters. -/
def Rewrites (m n : FilterMap) : Prop :=
  List.Forall₂ Filter.Rewrites m.members n.members

variable {m n : FilterMap} {criteria : List Criterion}

/-- Each filter of an accepted map has its criterion. -/
theorem exists_criterion
    (h : m.criteria = .ok criteria)
    {f : Filter}
    (hf : f ∈ m.members) :
    ∃ c ∈ criteria, f.criterion = .ok c := by
  obtain ⟨raw, hraw, -, rfl⟩ := criteria_eq_ok_iff.1 h
  obtain ⟨c, hc, hfc⟩ := exists_of_mem_of_forall₂ hraw hf
  exact ⟨c, Criteria.mem_byPriority.2 hc, hfc⟩

/-- The criterion on the column of a filter is that of the filter. -/
theorem criterion_of_name
    (h : m.criteria = .ok criteria)
    {f : Filter} {c : Criterion}
    (hf : f ∈ m.members)
    (hc : c ∈ criteria)
    (hname : c.column.name = f.name) :
    f.criterion = .ok c := by
  obtain ⟨raw, hraw, -, rfl⟩ := criteria_eq_ok_iff.1 h
  obtain ⟨g, hg, hgc⟩ := exists_of_mem_of_forall₂ hraw.flip (Criteria.mem_byPriority.1 hc)
  obtain rfl : g = f :=
    List.inj_on_of_nodup_map m.nodup_names hg hf ((Filter.name_of_criterion hgc).trans hname)
  exact hgc

/-- Copies of entries, and the other code, leave the criteria as they are. -/
theorem criteria_of_rewrites
    (h : m.Rewrites n) :
    n.criteria = m.criteria := by
  have hmembers : n.members.mapM Filter.criterion = m.members.mapM Filter.criterion :=
    mapM_eq_of_forall₂ (h.flip.imp fun _ _ hfg => Filter.criterion_of_rewrites hfg)
  rw [FilterMap.criteria, hmembers, FilterMap.criteria]

/-- In an accepted map, the criterion of a filter keeps the first of each test of its entries, in
their order and none twice.  A map with further copies of entries, or with another code for `anyOf`
in some of them, has the same criteria and the same statements, or fails with the same error. -/
theorem repetitions_left_out (m : FilterMap) :
    (∀ criteria, m.criteria = .ok criteria → ∀ f ∈ m.members,
      (∃ c ∈ criteria, c.column.name = f.name) ∧
      ∀ c ∈ criteria, c.column.name = f.name →
        ∃ tests, List.Forall₂ FilterEntry.Resolves f.entries tests ∧ Keeps tests c.tests) ∧
    (∀ e e' t t', FilterEntry.Resolves e t → FilterEntry.Resolves e' t' →
      (t = t' ↔ e.values = e'.values ∧ (e.operator = e'.operator ∨
        e.operator ∈ Operator.anyOfCodes ∧ e'.operator ∈ Operator.anyOfCodes))) ∧
    ∀ n, m.Rewrites n →
      n.criteria = m.criteria ∧
      (∀ name, Query.distinct n name = Query.distinct m name) ∧
      ∀ rows page, Query.search rows n page = Query.search rows m page := by
  refine ⟨?_, ?_, ?_⟩
  · intro criteria h f hf
    refine ⟨?_, ?_⟩
    · obtain ⟨c, hc, hfc⟩ := exists_criterion h hf
      exact ⟨c, hc, (Filter.name_of_criterion hfc).symm⟩
    · intro c hc hname
      exact Filter.keeps_tests (criterion_of_name h hf hc hname)
  · intro e e' t t' ht ht'
    exact FilterEntry.eq_iff_of_resolves ht ht'
  · intro n hn
    have hcriteria := criteria_of_rewrites hn
    refine ⟨hcriteria, ?_, ?_⟩
    · intro name
      rw [Query.distinct, hcriteria, Query.distinct]
    · intro rows page
      rw [Query.search, hcriteria, Query.search]

/-- Filters for recent cars again, with the brands another time and the year twice. -/
def repeatedCars : FilterMap where
  members := [
    ⟨"brand", [⟨["audi", "bmw"], "anyOf"⟩, ⟨["audi", "bmw"], "anyOf"⟩, ⟨["audi", "bmw"], "any"⟩]⟩,
    ⟨"category", [⟨["car"], "eq"⟩]⟩,
    ⟨"country", [⟨["lv"], "eq"⟩]⟩,
    ⟨"year", [⟨["2020"], "gte"⟩, ⟨["2020"], "gte"⟩]⟩]
  ascending := by decide

theorem rewrites_repeatedCars :
    recentCars.Rewrites repeatedCars := by
  have hbrand : Relation.ReflTransGen FilterEntry.Rewrites
      [⟨["audi", "bmw"], "any"⟩, ⟨["audi", "bmw"], "anyOf"⟩]
      [⟨["audi", "bmw"], "anyOf"⟩, ⟨["audi", "bmw"], "anyOf"⟩, ⟨["audi", "bmw"], "any"⟩] :=
    .tail (.single (.copy [] [⟨["audi", "bmw"], "anyOf"⟩] [] ⟨["audi", "bmw"], "any"⟩))
      (.code [] _ ["audi", "bmw"] (by decide) (by decide))
  have hyear : Relation.ReflTransGen FilterEntry.Rewrites
      [⟨["2020"], "gte"⟩] [⟨["2020"], "gte"⟩, ⟨["2020"], "gte"⟩] :=
    .single (.copy [] [] [] ⟨["2020"], "gte"⟩)
  exact .cons ⟨rfl, hbrand⟩ (.cons ⟨rfl, .refl⟩ (.cons ⟨rfl, .refl⟩ (.cons ⟨rfl, hyear⟩ .nil)))

/-- The two codes of `anyOf` make one test, which is kept once. -/
theorem repetitions_left_out_recentCars :
    ∃ criteria c t, recentCars.criteria = .ok criteria ∧ repeatedCars.criteria = .ok criteria ∧
      c ∈ criteria ∧ c.column.name = "brand" ∧ Keeps [t, t] c.tests ∧
      Query.distinct repeatedCars "version" = Query.distinct recentCars "version" ∧
      Query.search 20 repeatedCars 1 = Query.search 20 recentCars 1 := by
  obtain ⟨hkeeps, hequal, hrewrites⟩ := repetitions_left_out recentCars
  obtain ⟨hcriteria, hdistinct, hsearch⟩ := hrewrites repeatedCars rewrites_repeatedCars
  have hraw : List.Forall₂ (fun f c => f.criterion = .ok c) recentCars.members [
      ⟨.brand, [⟨.anyOf, ["audi", "bmw"]⟩]⟩, ⟨.category, [⟨.compare .eq, ["car"]⟩]⟩,
      ⟨.country, [⟨.compare .eq, ["lv"]⟩]⟩, ⟨.year, [⟨.compare .gte, ["2020"]⟩]⟩] :=
    .cons rfl (.cons rfl (.cons rfl (.cons rfl .nil)))
  have h := criteria_eq_ok_iff.2 ⟨_, hraw, rfl, rfl⟩
  obtain ⟨⟨c, hc, hname⟩, hkept⟩ := hkeeps _ h _ List.mem_cons_self
  obtain ⟨tests, htests, hkept⟩ := hkept c hc hname
  obtain ⟨t, ts, ht, hts, rfl⟩ := List.forall₂_cons_left_iff.1 htests
  obtain ⟨t', ts', ht', hts', rfl⟩ := List.forall₂_cons_left_iff.1 hts
  obtain rfl := List.forall₂_nil_left_iff.1 hts'
  obtain rfl : t = t' := (hequal _ _ t t' ht ht').2 ⟨rfl, Or.inr (by decide)⟩
  exact ⟨_, c, t, h, hcriteria.trans h, hc, hname, hkept, hdistinct "version", hsearch 20 1⟩

end FilterMap
end FilterQuery
