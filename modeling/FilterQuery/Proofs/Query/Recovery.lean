import FilterQuery.Proofs.Criterion.Recovery
import FilterQuery.Proofs.Query.Problems

/-!
# Requests recovered from statements

Nothing of a request for a page of the search is lost in its statement.  The text tells the shape of
the criteria, the last two parameters tell the page, and the others tell what each value is cast to.

**Equality of parameters.** Two statements may be compared by what their parameters are or by the
numbers that they stand for, where zeros of both signs are equal.  Either way, values of two
requests with equal statements are cast to equal parameters.

**Results.**
* `search_sameShape`: searches of one text have criteria of one shape.
* `search_agree`: searches with one statement are for one page and have criteria that agree.
* `request_of_statement`: the same for both equalities, with tests that no text confuses.
-/

namespace FilterQuery

open Sql (Fragment Parameter Statement)

/-- Whether doubles are equal as numbers; what is not a number equals nothing. -/
def Binary64.Equal : Binary64 → Binary64 → Prop
  | .infinite m, .infinite n => m = n
  | .finite m x, .finite n y => x = y ∧ (m = n ∨ x = Magnitude.zero)
  | _, _ => False

/-- Whether parameters are of one kind and equal as texts or as numbers. -/
def Sql.Parameter.Equal : Parameter → Parameter → Prop
  | .text s, .text t => s = t
  | .integer m, .integer n => m = n
  | .float x, .float y => x.Equal y
  | _, _ => False

/-- Whether a relation of parameters confuses neither texts nor integers. -/
structure Sql.Parameter.Discerns (R : Parameter → Parameter → Prop) : Prop where
  text : ∀ {s t : String}, R (.text s) (.text t) → s = t
  integer : ∀ {m n : Int64}, R (.integer m) (.integer n) → m = n

theorem Sql.Parameter.discerns_eq :
    Parameter.Discerns (· = ·) where
  text := Parameter.text.inj
  integer := Parameter.integer.inj

theorem Sql.Parameter.discerns_equal :
    Parameter.Discerns Parameter.Equal where
  text := id
  integer := id

/-- On a column of texts nothing of a value is lost. -/
theorem Criterion.eq_of_corresponds
    {R : Parameter → Parameter → Prop} {c d : Criterion}
    (hR : Parameter.Discerns R)
    (h : c.Corresponds (Test.Agree R) d)
    (htext : c.column.valueType = .text) :
    c = d := by
  obtain ⟨column, tests⟩ := c
  obtain ⟨column', tests'⟩ := d
  obtain ⟨rfl, htests⟩ := h
  have hcast : ∀ {v p}, column.cast v = .ok p → p = .text v := by
    intro v p hp
    rw [Column.cast, htext] at hp
    exact (Except.ok.inj hp).symm
  have heq : ∀ t u, Test.Agree R column t u → t = u := by
    rintro ⟨operator, values⟩ ⟨operator', values'⟩ ⟨rfl, hvalues⟩
    have hsame : List.Forall₂ (· = ·) values values' := by
      refine hvalues.imp ?_
      rintro v w ⟨p, q, hp, hq, hpq⟩
      obtain rfl := hcast hp
      obtain rfl := hcast hq
      exact hR.text hpq
    rw [List.forall₂_eq_eq_eq] at hsame
    rw [hsame]
  have hsame : List.Forall₂ (· = ·) tests tests' := htests.imp heq
  rw [List.forall₂_eq_eq_eq] at hsame
  rw [hsame]

/-- The criteria of an accepted map are normal. -/
theorem FilterMap.normal_criteria
    {m : FilterMap} {criteria : List Criterion}
    (h : m.criteria = .ok criteria) :
    Criteria.Normal criteria := by
  have hordered := (ordered_criteria h).2
  have htests := tests_ne_nil h
  obtain ⟨raw, hraw, -, rfl⟩ := criteria_eq_ok_iff.1 h
  refine ⟨hordered, ?_, htests⟩
  intro column
  rw [Criteria.on_byPriority, ← (forall₂_on hraw column).length_eq]
  exact Option.length_toList_le

/-- Normal criteria on one column are one criterion. -/
theorem Criteria.Normal.eq_of_column_eq
    {criteria : List Criterion} {c d : Criterion}
    (h : Normal criteria)
    (hc : c ∈ criteria)
    (hd : d ∈ criteria)
    (hcolumn : c.column = d.column) :
    c = d := by
  have hc : c ∈ on d.column criteria := mem_on.2 ⟨hc, hcolumn⟩
  have hd : d ∈ on d.column criteria := mem_on.2 ⟨hd, rfl⟩
  rcases h.on_cases d.column with hon | ⟨e, hon, -, -⟩
  · simp [hon] at hc
  · rw [hon, List.mem_singleton] at hc hd
    rw [hc, hd]

namespace Query

variable {rows rows' page page' : UInt32} {filters filters' : FilterMap} {s t : Statement}

/-- When a search is accepted, and what its statement is: its criteria stand in order and are
written as its condition, and the limit and the offset are its last parameters. -/
theorem search_eq_ok_iff :
    search rows filters page = .ok s ↔
      ∃ criteria f l o, filters.criteria = .ok criteria ∧ Criteria.condition criteria = .ok f ∧
        s.sql = searchFront ++ " where " ++ f.sql ++ " order by a.price limit ? offset ?" ∧
        s.parameters = f.parameters ++ [.integer l, .integer o] ∧
        l.toInt = (limit rows : Int) ∧ o.toInt = (offset rows page : Int) := by
  rw [search, bind_eq_ok_iff]
  simp only [searchOf_eq_ok_iff]
  constructor
  · rintro ⟨criteria, hcriteria, l, o, f, -, hlimit, hoffset, hf, hsql, hparameters⟩
    rw [(FilterMap.ordered_criteria hcriteria).2] at hf
    exact ⟨criteria, f, l, o, hcriteria, hf, hsql, hparameters, hlimit, hoffset⟩
  · rintro ⟨criteria, f, l, o, hcriteria, hf, hsql, hparameters, hlimit, hoffset⟩
    obtain ⟨hmissing, hordered⟩ := FilterMap.ordered_criteria hcriteria
    exact ⟨criteria, hcriteria, l, o, f, hmissing, hlimit, hoffset, by rw [hordered, hf], hsql,
      hparameters⟩

/-- Searches of one text have criteria of one shape. -/
theorem search_sameShape
    {xs ys : List Criterion}
    (hs : search rows filters page = .ok s)
    (ht : search rows' filters' page' = .ok t)
    (hxs : filters.criteria = .ok xs)
    (hys : filters'.criteria = .ok ys)
    (hsql : s.sql = t.sql) :
    List.Forall₂ (fun t u => t.1 = u.1 ∧ t.2.SameShape u.2) (Criteria.tests xs)
      (Criteria.tests ys) := by
  obtain ⟨xs', f, l, o, hxs', hf, hfsql, -⟩ := search_eq_ok_iff.1 hs
  obtain ⟨ys', g, l', o', hys', hg, hgsql, -⟩ := search_eq_ok_iff.1 ht
  obtain rfl : xs = xs' := Except.ok.inj (hxs.symm.trans hxs')
  obtain rfl : ys = ys' := Except.ok.inj (hys.symm.trans hys')
  rw [hfsql, hgsql, String.append_left_inj, String.append_right_inj] at hsql
  exact Criteria.sameShape_of_sql_eq hf hg (FilterMap.expressions_ne_nil hxs)
    (FilterMap.expressions_ne_nil hys) hsql

/-- The size of a page is told by the limit. -/
theorem eq_of_limit_eq
    {rows rows' : UInt32}
    (h : limit rows = limit rows') :
    rows = rows' := by
  rw [limit, limit] at h
  exact UInt32.toNat_inj.1 (by omega)

/-- A page is told by the rows before it unless it has no rows. -/
theorem eq_of_offset_eq
    (hrows : 0 < rows)
    (h : offset rows page = offset rows page') :
    page = page' := by
  have hpos : 0 < rows.toNat := UInt32.lt_iff_toNat_lt.1 hrows
  exact UInt32.toNat_inj.1 (Nat.eq_of_mul_eq_mul_right hpos h)

/-- Two searches with one text and parameters that agree have the same page and filters that agree.
-/
theorem search_agree
    {R : Parameter → Parameter → Prop}
    (hR : Parameter.Discerns R)
    (hrows : 0 < rows)
    (hs : search rows filters page = .ok s)
    (ht : search rows' filters' page' = .ok t)
    (hsql : s.sql = t.sql)
    (hparameters : List.Forall₂ R s.parameters t.parameters) :
    rows = rows' ∧ page = page' ∧
      ∃ xs ys, filters.criteria = .ok xs ∧ filters'.criteria = .ok ys ∧
        List.Forall₂ (Criterion.Corresponds (Test.Agree R)) xs ys := by
  obtain ⟨xs, f, l, o, hxs, hf, -, hfparameters, hl, ho⟩ := search_eq_ok_iff.1 hs
  obtain ⟨ys, g, l', o', hys, hg, -, hgparameters, hl', ho'⟩ := search_eq_ok_iff.1 ht
  have hlength := hparameters.length_eq
  rw [hfparameters, hgparameters] at hparameters hlength
  have hcount : f.parameters.length = g.parameters.length := by
    simpa using hlength
  obtain ⟨hvalues, hpaging⟩ := (forall₂_append_iff_of_length_eq hcount).1 hparameters
  obtain ⟨hlimit, hpaging⟩ := List.forall₂_cons.1 hpaging
  obtain ⟨hoffset, -⟩ := List.forall₂_cons.1 hpaging
  obtain rfl := hR.integer hlimit
  obtain rfl := hR.integer hoffset
  obtain rfl : rows = rows' := eq_of_limit_eq (Int.ofNat_inj.1 (hl.symm.trans hl'))
  obtain rfl : page = page' := eq_of_offset_eq hrows (Int.ofNat_inj.1 (ho.symm.trans ho'))
  refine ⟨rfl, rfl, xs, ys, hxs, hys, ?_⟩
  refine Criteria.corresponds_of_tests (FilterMap.normal_criteria hxs)
    (FilterMap.normal_criteria hys) ?_
  exact Criteria.agree_of_casts (search_sameShape hs ht hxs hys hsql)
    (Criteria.of_condition_eq_ok hf).2 (Criteria.of_condition_eq_ok hg).2 hvalues

/-- Criteria on one column in two searches of one text have the same shape. -/
theorem sameShape_of_mem
    {xs ys : List Criterion} {c d : Criterion}
    (hs : search rows filters page = .ok s)
    (ht : search rows' filters' page' = .ok t)
    (hxs : filters.criteria = .ok xs)
    (hys : filters'.criteria = .ok ys)
    (hc : c ∈ xs)
    (hd : d ∈ ys)
    (hcolumn : c.column = d.column)
    (hsql : s.sql = t.sql) :
    List.Forall₂ Test.SameShape c.tests d.tests := by
  have hnormal := FilterMap.normal_criteria hys
  have hshape := Criteria.corresponds_of_tests (Q := fun _ => Test.SameShape)
    (FilterMap.normal_criteria hxs) hnormal (search_sameShape hs ht hxs hys hsql)
  obtain ⟨d', hd', hcolumn', htests⟩ := exists_of_mem_of_forall₂ hshape hc
  obtain rfl := hnormal.eq_of_column_eq hd' hd (hcolumn'.symm.trans hcolumn)
  exact htests

/-- A request for a page of the search. -/
structure Request where
  rows : UInt32
  page : UInt32
  filters : FilterMap

namespace Request

def statement (r : Request) : Except QueryError Statement :=
  search r.rows r.filters r.page

/-- Whether requests are for one page, with criteria on the same columns in the same order whose
tests agree; on columns of texts the criteria are the same. -/
def Agree (R : Parameter → Parameter → Prop) (r r' : Request) : Prop :=
  r.rows = r'.rows ∧ r.page = r'.page ∧
    ∃ xs ys, r.filters.criteria = .ok xs ∧ r'.filters.criteria = .ok ys ∧
      List.Forall₂
        (fun c d => c.Corresponds (Test.Agree R) d ∧ (c.column.valueType = .text → c = d)) xs ys

/-- Two requests with one text and parameters that agree are for the same. -/
theorem agree_of_statement
    {R : Parameter → Parameter → Prop} {r r' : Request}
    (hR : Parameter.Discerns R)
    (hrows : 0 < r.rows)
    (hs : r.statement = .ok s)
    (ht : r'.statement = .ok t)
    (hsql : s.sql = t.sql)
    (hparameters : List.Forall₂ R s.parameters t.parameters) :
    r.Agree R r' := by
  obtain ⟨hrows, hpage, xs, ys, hxs, hys, h⟩ := search_agree hR hrows hs ht hsql hparameters
  exact ⟨hrows, hpage, xs, ys, hxs, hys,
    h.imp fun _ _ hcd => ⟨hcd, Criterion.eq_of_corresponds hR hcd⟩⟩

end Request

/-- Accepted requests with equal statements agree: whichever way parameters are compared, they are
for one page and their criteria are made of the same tests, up to the spelling of numbers.  Already
the text tells an equation from an alternative of one value, and one alternative from several
tests. -/
theorem request_of_statement
    {r r' : Request} {s t : Statement}
    (hrows : 0 < r.rows)
    (hs : r.statement = .ok s)
    (ht : r'.statement = .ok t) :
    (s = t → r.Agree (· = ·) r') ∧
    (s.sql = t.sql → List.Forall₂ Parameter.Equal s.parameters t.parameters →
      r.Agree Parameter.Equal r') ∧
    ∀ (xs ys : List Criterion) (c d : Criterion),
      r.filters.criteria = .ok xs → r'.filters.criteria = .ok ys →
      c ∈ xs → d ∈ ys → c.column = d.column →
        (∀ (i : Nat) (v : String), c.tests[i]? = some ⟨.compare .eq, [v]⟩ →
          d.tests[i]? = some ⟨.anyOf, [v]⟩ → s.sql ≠ t.sql) ∧
        ∀ vs : List String, c.tests = [⟨.anyOf, vs⟩] → 1 < d.tests.length → s.sql ≠ t.sql := by
  refine ⟨?_, ?_, ?_⟩
  · rintro rfl
    exact Request.agree_of_statement Parameter.discerns_eq hrows hs ht rfl
      (List.forall₂_same.2 fun _ _ => rfl)
  · intro hsql hparameters
    exact Request.agree_of_statement Parameter.discerns_equal hrows hs ht hsql hparameters
  · intro xs ys c d hxs hys hc hd hcolumn
    constructor
    · intro i v hi hi' hsql
      have hshape := sameShape_of_mem hs ht hxs hys hc hd hcolumn hsql
      obtain ⟨hlt, hget⟩ := List.getElem?_eq_some_iff.1 hi
      obtain ⟨hlt', hget'⟩ := List.getElem?_eq_some_iff.1 hi'
      have htest := hshape.get hlt hlt'
      rw [List.get_eq_getElem, List.get_eq_getElem, hget, hget'] at htest
      cases htest.1
    · intro vs htests hmany hsql
      have hshape := sameShape_of_mem hs ht hxs hys hc hd hcolumn hsql
      rw [← hshape.length_eq, htests] at hmany
      simp at hmany

/-- Filters for cars from a price on and of one year. -/
def pricedCars (price year : String) : FilterMap where
  members := [
    ⟨"category", [⟨["car"], "eq"⟩]⟩,
    ⟨"country", [⟨["lv"], "eq"⟩]⟩,
    ⟨"price", [⟨[price], "gte"⟩]⟩,
    ⟨"year", [⟨[year], "any"⟩]⟩]
  ascending := List.pairwise_map.1
    (by decide : ["category", "country", "price", "year"].Pairwise fun a b => a < b)

def pricedCriteria (price year : String) : List Criterion := [
  ⟨.category, [⟨.compare .eq, ["car"]⟩]⟩,
  ⟨.country, [⟨.compare .eq, ["lv"]⟩]⟩,
  ⟨.year, [⟨.anyOf, [year]⟩]⟩,
  ⟨.price, [⟨.compare .gte, [price]⟩]⟩]

theorem criteria_pricedCars (price year : String) :
    (pricedCars price year).criteria = .ok (pricedCriteria price year) := by
  have hraw : List.Forall₂ (fun f c => f.criterion = .ok c) (pricedCars price year).members [
      ⟨.category, [⟨.compare .eq, ["car"]⟩]⟩, ⟨.country, [⟨.compare .eq, ["lv"]⟩]⟩,
      ⟨.price, [⟨.compare .gte, [price]⟩]⟩, ⟨.year, [⟨.anyOf, [year]⟩]⟩] :=
    .cons rfl (.cons rfl (.cons rfl (.cons rfl .nil)))
  exact FilterMap.criteria_eq_ok_iff.2 ⟨_, hraw, rfl, rfl⟩

/-- Two spellings of a year and zeros of both signs give equal statements. -/
theorem request_of_statement_pricedCars :
    ∃ s t, (0 : UInt32) < 20 ∧
      (⟨20, 1, pricedCars "0" "2020"⟩ : Request).statement = .ok s ∧
      (⟨20, 1, pricedCars "-0.0" "+2020"⟩ : Request).statement = .ok t ∧
      s.sql = t.sql ∧ List.Forall₂ Parameter.Equal s.parameters t.parameters ∧
      (⟨20, 1, pricedCars "0" "2020"⟩ : Request).Agree Parameter.Equal
        ⟨20, 1, pricedCars "-0.0" "+2020"⟩ := by
  have haccepted : ∀ price year f, Criteria.condition (pricedCriteria price year) = .ok f →
      (⟨20, 1, pricedCars price year⟩ : Request).statement = .ok
        ⟨searchFront ++ " where " ++ f.sql ++ " order by a.price limit ? offset ?",
          f.parameters ++ [.integer 21, .integer 20]⟩ := by
    intro price year f hf
    exact search_eq_ok_iff.2
      ⟨_, f, 21, 20, criteria_pricedCars price year, hf, rfl, rfl, rfl, rfl⟩
  have hs := haccepted "0" "2020"
    ⟨"p.category = ? and s.country = ? and ( p.year = ? ) and a.price >= ?",
      [.text "car", .text "lv", .integer 2020, .float (.finite false .zero)]⟩ rfl
  have ht := haccepted "-0.0" "+2020"
    ⟨"p.category = ? and s.country = ? and ( p.year = ? ) and a.price >= ?",
      [.text "car", .text "lv", .integer 2020, .float (.finite true .zero)]⟩ rfl
  have hparameters : List.Forall₂ Parameter.Equal
      [.text "car", .text "lv", .integer 2020, .float (.finite false .zero), .integer 21,
        .integer 20]
      [.text "car", .text "lv", .integer 2020, .float (.finite true .zero), .integer 21,
        .integer 20] := by
    simp [Parameter.Equal, Binary64.Equal]
  exact ⟨_, _, by decide, hs, ht, rfl, hparameters,
    (request_of_statement (by decide) hs ht).2.1 rfl hparameters⟩

end Query
end FilterQuery
