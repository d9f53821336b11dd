import FilterQuery.Proofs.Criterion.Shape
import FilterQuery.Proofs.Query.Problems

/-!
# Values stay out of the text

The text of a statement depends on the shape of its criteria alone: on their columns, on the
operators of their tests and on how many values each test has.  What the values are shows in the
parameters and nowhere else.

**Repetitions.** Whether an entry of a filter repeats an earlier one depends on its values, so two
filter maps of one shape are compared only where no filter repeats an entry.  Two codes of one
operator make no difference there.

**Results.**
* `sql_eq_of_sameShape`: accepted queries of one shape have one text.
-/

namespace FilterQuery

open Sql (Statement)

/-- Whether entries have codes of the same operator and the same number of values. -/
def FilterEntry.SameShape (e e' : FilterEntry) : Prop :=
  Operator.ofCode? e.operator = Operator.ofCode? e'.operator ∧ e.values.length = e'.values.length

/-- Whether filters have the same name and entries of the same shape. -/
def Filter.SameShape (f g : Filter) : Prop :=
  f.name = g.name ∧ List.Forall₂ FilterEntry.SameShape f.entries g.entries

/-- Whether an entry repeats another: the same values with a code of the same operator. -/
def FilterEntry.Repeats (e e' : FilterEntry) : Prop :=
  Operator.ofCode? e.operator = Operator.ofCode? e'.operator ∧ e.values = e'.values

/-- Whether no filter of a map repeats an entry. -/
def FilterMap.Plain (m : FilterMap) : Prop :=
  ∀ f ∈ m.members, f.entries.Pairwise fun e e' => ¬ e.Repeats e'

instance (e e' : FilterEntry) : Decidable (e.Repeats e') :=
  inferInstanceAs (Decidable (_ ∧ _))

instance (m : FilterMap) : Decidable m.Plain :=
  inferInstanceAs (Decidable (∀ f ∈ m.members, _))

/-- Tests of entries are equal only where an entry repeats another. -/
theorem FilterEntry.nodup_of_plain
    {column : Column} {entries : List FilterEntry} {tests : List Test}
    (htests : List.Forall₂ (fun e t => e.test column = .ok t) entries tests)
    (hplain : entries.Pairwise fun e e' => ¬ e.Repeats e') :
    tests.Nodup := by
  induction htests with
  | nil =>
      exact .nil
  | @cons e t entries tests ht htests ih =>
      rw [List.pairwise_cons] at hplain
      refine List.nodup_cons.2 ⟨?_, ih hplain.2⟩
      intro hmem
      obtain ⟨e', he', ht'⟩ := exists_of_mem_of_forall₂ htests.flip hmem
      obtain ⟨hoperator, hvalues, -⟩ := FilterEntry.test_eq_ok_iff.1 ht
      obtain ⟨hoperator', hvalues', -⟩ := FilterEntry.test_eq_ok_iff.1 ht'
      exact hplain.1 e' he' ⟨hoperator.trans hoperator'.symm, hvalues.symm.trans hvalues'⟩

theorem FilterEntry.tests_sameShape
    {column : Column} {entries entries' : List FilterEntry} {tests tests' : List Test}
    (h : List.Forall₂ FilterEntry.SameShape entries entries')
    (htests : List.Forall₂ (fun e t => e.test column = .ok t) entries tests)
    (htests' : List.Forall₂ (fun e t => e.test column = .ok t) entries' tests') :
    List.Forall₂ Test.SameShape tests tests' := by
  induction h generalizing tests tests' with
  | nil =>
      obtain rfl := List.forall₂_nil_left_iff.1 htests
      obtain rfl := List.forall₂_nil_left_iff.1 htests'
      exact .nil
  | @cons e e' entries entries' hee' h ih =>
      obtain ⟨t, ts, ht, hts, rfl⟩ := List.forall₂_cons_left_iff.1 htests
      obtain ⟨t', ts', ht', hts', rfl⟩ := List.forall₂_cons_left_iff.1 htests'
      obtain ⟨hoperator, hvalues, -⟩ := FilterEntry.test_eq_ok_iff.1 ht
      obtain ⟨hoperator', hvalues', -⟩ := FilterEntry.test_eq_ok_iff.1 ht'
      refine .cons ⟨?_, ?_⟩ (ih hts hts')
      · rw [hee'.1, hoperator'] at hoperator
        exact (Option.some.inj hoperator).symm
      · rw [hvalues, hvalues', hee'.2]

/-- Filters of one shape, without repetitions, make criteria of one shape. -/
theorem Filter.criterion_sameShape
    {f g : Filter} {c d : Criterion}
    (h : f.SameShape g)
    (hf : f.entries.Pairwise fun e e' => ¬ e.Repeats e')
    (hg : g.entries.Pairwise fun e e' => ¬ e.Repeats e')
    (hc : f.criterion = .ok c)
    (hd : g.criterion = .ok d) :
    c.SameShape d := by
  obtain ⟨hname, -, tests, htests, hctests⟩ := Filter.criterion_eq_ok_iff.1 hc
  obtain ⟨hname', -, tests', htests', hdtests⟩ := Filter.criterion_eq_ok_iff.1 hd
  have hcolumn : c.column = d.column := by
    rw [h.1, hname'] at hname
    exact (Option.some.inj hname).symm
  rw [eraseDups_of_nodup (FilterEntry.nodup_of_plain htests hf)] at hctests
  rw [eraseDups_of_nodup (FilterEntry.nodup_of_plain htests' hg)] at hdtests
  rw [← hcolumn] at htests'
  refine ⟨hcolumn, ?_⟩
  rw [hctests, hdtests]
  exact FilterEntry.tests_sameShape h.2 htests htests'

/-- Maps of one shape, without repetitions, make criteria of one shape. -/
theorem FilterMap.criteria_sameShape
    {m n : FilterMap} {xs ys : List Criterion}
    (h : List.Forall₂ Filter.SameShape m.members n.members)
    (hm : m.Plain)
    (hn : n.Plain)
    (hxs : m.criteria = .ok xs)
    (hys : n.criteria = .ok ys) :
    List.Forall₂ Criterion.SameShape xs ys := by
  obtain ⟨raw, hraw, -, rfl⟩ := FilterMap.criteria_eq_ok_iff.1 hxs
  obtain ⟨raw', hraw', -, rfl⟩ := FilterMap.criteria_eq_ok_iff.1 hys
  refine Criteria.byPriority_sameShape ?_
  rw [Plain] at hm hn
  generalize m.members = members at h hm hraw
  generalize n.members = members' at h hn hraw'
  clear hxs hys
  induction h generalizing raw raw' with
  | nil =>
      obtain rfl := List.forall₂_nil_left_iff.1 hraw
      obtain rfl := List.forall₂_nil_left_iff.1 hraw'
      exact .nil
  | @cons f g members members' hfg h ih =>
      obtain ⟨c, cs, hc, hcs, rfl⟩ := List.forall₂_cons_left_iff.1 hraw
      obtain ⟨d, ds, hd, hds, rfl⟩ := List.forall₂_cons_left_iff.1 hraw'
      rw [List.forall_mem_cons] at hm hn
      exact .cons (Filter.criterion_sameShape hfg hm.1 hn.1 hc hd)
        (ih cs ds hm.2 hcs hn.2 hds)

namespace Query

variable {xs ys : List Criterion} {s t : Statement}

/-- The text for distinct values depends on the shapes of the criteria alone. -/
theorem sql_distinctOf_eq
    {column : Column}
    (h : List.Forall₂ Criterion.SameShape xs ys)
    (hs : distinctOf xs column = .ok s)
    (ht : distinctOf ys column = .ok t) :
    s.sql = t.sql := by
  obtain ⟨literals, f, -, hliterals, hf, hsql, -⟩ := distinctOf_eq_ok_iff.1 hs
  obtain ⟨literals', g, -, hliterals', hg, hsql', -⟩ := distinctOf_eq_ok_iff.1 ht
  have hordered := Criteria.byPriority_sameShape h
  have hfront : distinctFront (Criteria.byPriority xs) column =
      distinctFront (Criteria.byPriority ys) column := by
    rw [distinctFront_eq, distinctFront_eq, Sql.Join.plan, Sql.Join.plan, Sql.Join.needsAttributes,
      Sql.Join.needsAttributes, Criteria.columns_eq_of_sameShape hordered]
  obtain rfl : literals = literals' := by
    rw [hliterals] at hliterals'
    exact Option.some.inj hliterals'
  rw [hsql, hsql', hfront, Criteria.sql_condition_eq hordered hf hg]

/-- The text of a search depends on the shapes of the criteria alone, not on the page. -/
theorem sql_searchOf_eq
    {rows rows' page page' : UInt32}
    (h : List.Forall₂ Criterion.SameShape xs ys)
    (hs : searchOf rows xs page = .ok s)
    (ht : searchOf rows' ys page' = .ok t) :
    s.sql = t.sql := by
  obtain ⟨l, o, f, -, -, -, hf, hsql, -⟩ := searchOf_eq_ok_iff.1 hs
  obtain ⟨l', o', g, -, -, -, hg, hsql', -⟩ := searchOf_eq_ok_iff.1 ht
  rw [hsql, hsql', Criteria.sql_condition_eq (Criteria.byPriority_sameShape h) hf hg]

/-- Accepted queries whose criteria, or whose filters without repeated entries, have the same shape
have the same text, whatever the values, pages and numbers of rows are. -/
theorem sql_eq_of_sameShape :
    (∀ (xs ys : List Criterion) (column : Column) (s t : Statement),
      List.Forall₂ Criterion.SameShape xs ys →
      distinctOf xs column = .ok s → distinctOf ys column = .ok t → s.sql = t.sql) ∧
    (∀ (xs ys : List Criterion) (rows rows' page page' : UInt32) (s t : Statement),
      List.Forall₂ Criterion.SameShape xs ys →
      searchOf rows xs page = .ok s → searchOf rows' ys page' = .ok t → s.sql = t.sql) ∧
    (∀ (m n : FilterMap) (name : String) (s t : Statement),
      List.Forall₂ Filter.SameShape m.members n.members → m.Plain → n.Plain →
      distinct m name = .ok s → distinct n name = .ok t → s.sql = t.sql) ∧
    ∀ (m n : FilterMap) (rows rows' page page' : UInt32) (s t : Statement),
      List.Forall₂ Filter.SameShape m.members n.members → m.Plain → n.Plain →
      search rows m page = .ok s → search rows' n page' = .ok t → s.sql = t.sql := by
  refine ⟨?_, ?_, ?_, ?_⟩
  · intro xs ys column s t h hs ht
    exact sql_distinctOf_eq h hs ht
  · intro xs ys rows rows' page page' s t h hs ht
    exact sql_searchOf_eq h hs ht
  · intro m n name s t h hm hn hs ht
    obtain ⟨xs, hxs, hs⟩ := bind_eq_ok_iff.1 hs
    obtain ⟨ys, hys, ht⟩ := bind_eq_ok_iff.1 ht
    obtain ⟨column, hcolumn, hs⟩ := bind_eq_ok_iff.1 hs
    obtain ⟨column', hcolumn', ht⟩ := bind_eq_ok_iff.1 ht
    obtain rfl : column = column' := by
      rw [hcolumn] at hcolumn'
      exact Except.ok.inj hcolumn'
    exact sql_distinctOf_eq (FilterMap.criteria_sameShape h hm hn hxs hys) hs ht
  · intro m n rows rows' page page' s t h hm hn hs ht
    obtain ⟨xs, hxs, hs⟩ := bind_eq_ok_iff.1 hs
    obtain ⟨ys, hys, ht⟩ := bind_eq_ok_iff.1 ht
    exact sql_searchOf_eq (FilterMap.criteria_sameShape h hm hn hxs hys) hs ht

/-- Criteria for offers of two brands in a country. -/
def offers (brand brand' category country : String) : List Criterion := [
  ⟨.brand, [⟨.anyOf, [brand, brand']⟩]⟩,
  ⟨.country, [⟨.compare .eq, [country]⟩]⟩,
  ⟨.category, [⟨.compare .eq, [category]⟩]⟩]

def offerFilters (brand brand' category country : String) : FilterMap where
  members := [
    ⟨"brand", [⟨[brand, brand'], "any"⟩]⟩,
    ⟨"category", [⟨[category], "eq"⟩]⟩,
    ⟨"country", [⟨[country], "eq"⟩]⟩]
  ascending := List.pairwise_map.1
    (by decide : ["brand", "category", "country"].Pairwise fun a b => a < b)

theorem sql_eq_of_sameShape_offers :
    (∃ s t, distinctOf (offers "audi" "bmw" "car" "lv") .size = .ok s ∧
      distinctOf (offers "' or 1 = 1 --" "?" "select" "'") .size = .ok t ∧ s.sql = t.sql) ∧
    (∃ s t, searchOf 20 (offers "audi" "bmw" "car" "lv") 0 = .ok s ∧
      searchOf 50 (offers "' or 1 = 1 --" "?" "select" "'") 7 = .ok t ∧ s.sql = t.sql) ∧
    (∃ s t, distinct (offerFilters "audi" "bmw" "car" "lv") "size" = .ok s ∧
      distinct (offerFilters "' or 1 = 1 --" "?" "select" "'") "size" = .ok t ∧
      s.sql = t.sql) ∧
    ∃ s t, search 20 (offerFilters "audi" "bmw" "car" "lv") 0 = .ok s ∧
      search 50 (offerFilters "' or 1 = 1 --" "?" "select" "'") 7 = .ok t ∧ s.sql = t.sql := by
  obtain ⟨hdistinctOf, hsearchOf, hdistinct, hsearch⟩ := sql_eq_of_sameShape
  have hcriteria : List.Forall₂ Criterion.SameShape (offers "audi" "bmw" "car" "lv")
      (offers "' or 1 = 1 --" "?" "select" "'") :=
    .cons ⟨rfl, .cons ⟨rfl, rfl⟩ .nil⟩ (.cons ⟨rfl, .cons ⟨rfl, rfl⟩ .nil⟩
      (.cons ⟨rfl, .cons ⟨rfl, rfl⟩ .nil⟩ .nil))
  have hfilters : List.Forall₂ Filter.SameShape (offerFilters "audi" "bmw" "car" "lv").members
      (offerFilters "' or 1 = 1 --" "?" "select" "'").members :=
    .cons ⟨rfl, .cons ⟨rfl, rfl⟩ .nil⟩ (.cons ⟨rfl, .cons ⟨rfl, rfl⟩ .nil⟩
      (.cons ⟨rfl, .cons ⟨rfl, rfl⟩ .nil⟩ .nil))
  have haccepted : ∀ a b c d, ∃ s, distinctOf (offers a b c d) .size = .ok s := by
    intro a b c d
    rw [← failure?_eq_none_iff, failure?_distinctOf]
    rfl
  have haccepted' : ∀ rows page, pageProblem? rows page = none → ∀ a b c d,
      ∃ s, searchOf rows (offers a b c d) page = .ok s := by
    intro rows page hpage a b c d
    rw [← failure?_eq_none_iff, failure?_searchOf, hpage]
    rfl
  refine ⟨?_, ?_, ?_, ?_⟩
  · obtain ⟨s, hs⟩ := haccepted "audi" "bmw" "car" "lv"
    obtain ⟨t, ht⟩ := haccepted "' or 1 = 1 --" "?" "select" "'"
    exact ⟨s, t, hs, ht, hdistinctOf _ _ _ _ _ hcriteria hs ht⟩
  · obtain ⟨s, hs⟩ := haccepted' 20 0 (by decide) "audi" "bmw" "car" "lv"
    obtain ⟨t, ht⟩ := haccepted' 50 7 (by decide) "' or 1 = 1 --" "?" "select" "'"
    exact ⟨s, t, hs, ht, hsearchOf _ _ _ _ _ _ _ _ hcriteria hs ht⟩
  · obtain ⟨s, hs⟩ := exists_distinct_iff.2
      (by decide : distinctProblem? (offerFilters "audi" "bmw" "car" "lv") "size" = none)
    obtain ⟨t, ht⟩ := exists_distinct_iff.2
      (by decide : distinctProblem? (offerFilters "' or 1 = 1 --" "?" "select" "'") "size" = none)
    exact ⟨s, t, hs, ht, hdistinct _ _ _ _ _ hfilters (by decide) (by decide) hs ht⟩
  · obtain ⟨s, hs⟩ := exists_search_iff.2
      (by decide : searchProblem? 20 (offerFilters "audi" "bmw" "car" "lv") 0 = none)
    obtain ⟨t, ht⟩ := exists_search_iff.2
      (by decide : searchProblem? 50 (offerFilters "' or 1 = 1 --" "?" "select" "'") 7 = none)
    exact ⟨s, t, hs, ht, hsearch _ _ _ _ _ _ _ _ hfilters (by decide) (by decide) hs ht⟩

end Query
end FilterQuery
