import FilterQuery.Proofs.FilterMap.Insertion
import FilterQuery.Proofs.Query.Problems
import Mathlib.Data.List.Nodup
import Mathlib.Data.List.Sort

/-!
# Filters in any order

A filter map hands out its filters in no particular order.  An enumeration is a list of all of them
in some order, and interpreting it must not show which.

**Method.** The names of an enumeration are sorted and each is looked up, so that the filters are
visited in the order of the map (`visited_eq_members`).  Hence the first problem is the same in all
enumerations, and so are the criteria when there is none.

**Results.**
* `members_ofList`: a map that is put together from an enumeration consists of its filters.
* `outcome_eq_of_enumeration`: criteria, statements and errors are the same for all enumerations of
  a map.
-/

namespace FilterQuery
namespace Enumeration

/-- The entries that an enumeration gives for a name. -/
def entries (fs : List Filter) (name : String) : List FilterEntry :=
  ((fs.find? fun f => f.name = name).map Filter.entries).getD []

/-- The filters in the order in which they are visited: names are sorted, then looked up. -/
def visited (fs : List Filter) : List Filter :=
  ((fs.map Filter.name).mergeSort fun a b => a ≤ b).map fun name => ⟨name, entries fs name⟩

def criteria (fs : List Filter) : Except QueryError (List Criterion) := do
  let criteria ← (visited fs).mapM Filter.criterion
  Criteria.order criteria

def distinct (fs : List Filter) (name : String) : Except QueryError Sql.Statement := do
  let criteria ← criteria fs
  let column ← Column.resolve name
  Query.distinctOf criteria column

def search (rows : UInt32) (fs : List Filter) (page : UInt32) :
    Except QueryError Sql.Statement := do
  let criteria ← criteria fs
  Query.searchOf rows criteria page

variable {m : FilterMap} {xs ys : List Filter}

/-- A list of texts has only one ascending order. -/
theorem mergeSort_names
    (h : xs.Perm m.members) :
    ((xs.map Filter.name).mergeSort fun a b => a ≤ b) = m.members.map Filter.name := by
  have hsorted : ((xs.map Filter.name).mergeSort fun a b => a ≤ b).Pairwise fun a b => a ≤ b := by
    have htrans : ∀ a b c : String, decide (a ≤ b) → decide (b ≤ c) → decide (a ≤ c) := by
      intro a b c hab hbc
      rw [decide_eq_true_eq] at *
      exact String.le_trans hab hbc
    have htotal : ∀ a b : String, decide (a ≤ b) || decide (b ≤ a) := by
      intro a b
      simpa using String.le_total a b
    simpa using List.pairwise_mergeSort htrans htotal (xs.map Filter.name)
  have hmembers : (m.members.map Filter.name).Pairwise fun a b => a ≤ b := by
    rw [List.pairwise_map]
    exact m.ascending.imp fun h => String.not_lt.1 (String.lt_asymm h)
  have hperm : ((xs.map Filter.name).mergeSort fun a b => a ≤ b).Perm
      (m.members.map Filter.name) :=
    (List.mergeSort_perm _ _).trans (h.map Filter.name)
  exact hperm.eq_of_pairwise (fun _ _ _ _ hab hba => String.le_antisymm hab hba) hsorted hmembers

/-- No name stands twice, so each filter is found by its name. -/
theorem entries_name
    (h : xs.Perm m.members)
    {f : Filter}
    (hf : f ∈ xs) :
    entries xs f.name = f.entries := by
  have hnodup : (xs.map Filter.name).Nodup :=
    (h.map Filter.name).nodup_iff.2 m.nodup_names
  rw [entries]
  cases hfind : xs.find? fun g => g.name = f.name with
  | none =>
      have hne := List.find?_eq_none.1 hfind f hf
      simp at hne
  | some g =>
      have hname : g.name = f.name := by
        simpa using List.find?_some hfind
      obtain rfl : g = f :=
        List.inj_on_of_nodup_map hnodup (List.mem_of_find?_eq_some hfind) hf hname
      rfl

/-- Whatever the order of the members, they are visited in the order of their names. -/
theorem visited_eq_members
    (h : xs.Perm m.members) :
    visited xs = m.members := by
  rw [visited, mergeSort_names h, List.map_map]
  have hself : ∀ f ∈ m.members,
      ((fun name => (⟨name, entries xs name⟩ : Filter)) ∘ Filter.name) f = f := by
    intro f hf
    rw [Function.comp_apply, entries_name h (h.mem_iff.2 hf)]
  exact (List.map_congr_left hself).trans (List.map_id' _)

/-- The criteria do not depend on the order in which the members come. -/
theorem criteria_eq
    (h : xs.Perm m.members) :
    criteria xs = m.criteria := by
  rw [criteria, visited_eq_members h, FilterMap.criteria]

/-- The list of distinct values does not depend on the order in which the members come. -/
theorem distinct_eq
    (h : xs.Perm m.members)
    (name : String) :
    distinct xs name = Query.distinct m name := by
  rw [distinct, criteria_eq h, Query.distinct]

/-- The search does not depend on the order in which the members come. -/
theorem search_eq
    (h : xs.Perm m.members)
    (rows page : UInt32) :
    search rows xs page = Query.search rows m page := by
  rw [search, criteria_eq h, Query.search]

/-- A filter with a new name is put in front of, between or behind the others. -/
theorem perm_insertMember
    {f : Filter} {l : List Filter}
    (h : ∀ g ∈ l, g.name ≠ f.name) :
    (insertMember f l).Perm (f :: l) := by
  induction l with
  | nil =>
      exact .refl _
  | cons g l ih =>
      rw [List.forall_mem_cons] at h
      rw [insertMember]
      split
      · exact .refl _
      · rename_i hfg
        split
        · exact ((ih h.2).cons g).trans (.swap f g l)
        · rename_i hgf
          exact absurd (String.le_antisymm (String.not_lt.1 hfg) (String.not_lt.1 hgf)) h.1

theorem members_foldl_insert
    (h : ((xs ++ m.members).map Filter.name).Nodup) :
    (xs.foldl FilterMap.insert m).members.Perm (xs ++ m.members) := by
  induction xs generalizing m with
  | nil =>
      exact .refl _
  | cons f xs ih =>
      rw [List.cons_append, List.map_cons, List.nodup_cons] at h
      have hinsert : (m.insert f).members.Perm (f :: m.members) := by
        refine perm_insertMember ?_
        intro g hg hname
        exact h.1 (hname ▸ List.mem_map_of_mem (List.mem_append_right xs hg))
      have hperm : (xs ++ (m.insert f).members).Perm (f :: (xs ++ m.members)) :=
        (hinsert.append_left xs).trans List.perm_middle
      have hnodup : ((xs ++ (m.insert f).members).map Filter.name).Nodup := by
        rw [(hperm.map Filter.name).nodup_iff, List.map_cons, List.nodup_cons]
        exact h
      exact (ih hnodup).trans hperm

/-- A map of filters with distinct names has just these members. -/
theorem members_ofList
    (h : (xs.map Filter.name).Nodup) :
    (FilterMap.ofList xs).members.Perm xs := by
  have hempty : xs ++ FilterMap.empty.members = xs := List.append_nil xs
  have hperm := members_foldl_insert (m := FilterMap.empty) (by rwa [hempty])
  rwa [hempty] at hperm

/-- The order in which filters are put into a map does not show. -/
theorem ofList_eq
    (h : xs.Perm m.members) :
    FilterMap.ofList xs = m := by
  have hnodup : (xs.map Filter.name).Nodup :=
    (h.map Filter.name).nodup_iff.2 m.nodup_names
  have hperm : (FilterMap.ofList xs).members.Perm m.members :=
    (members_ofList hnodup).trans h
  have hmembers : (FilterMap.ofList xs).members = m.members := by
    refine hperm.eq_of_pairwise ?_ (FilterMap.ofList xs).ascending m.ascending
    intro f g _ _ hfg hgf
    exact absurd (String.lt_trans hfg hgf) (String.lt_irrefl f.name)
  cases hlist : FilterMap.ofList xs
  cases m
  simp_all

/-- All enumerations of a map have the same criteria and the same statements, or fail with the same
error, which are those of the map; and a map does not tell in which order its filters were put into
it. -/
theorem outcome_eq_of_enumeration
    (hxs : xs.Perm m.members)
    (hys : ys.Perm m.members) :
    (criteria xs = criteria ys ∧
      (∀ name, distinct xs name = distinct ys name) ∧
      ∀ rows page, search rows xs page = search rows ys page) ∧
    (criteria xs = m.criteria ∧
      (∀ name, distinct xs name = Query.distinct m name) ∧
      ∀ rows page, search rows xs page = Query.search rows m page) ∧
    FilterMap.ofList xs = m := by
  refine ⟨⟨?_, ?_, ?_⟩, ⟨criteria_eq hxs, distinct_eq hxs, search_eq hxs⟩, ofList_eq hxs⟩
  · rw [criteria_eq hxs, criteria_eq hys]
  · intro name
    rw [distinct_eq hxs, distinct_eq hys]
  · intro rows page
    rw [search_eq hxs, search_eq hys]

/-- Filters three of which have a problem. -/
def troubled : List Filter := [
  ⟨"size", []⟩,
  ⟨"link", [⟨["x"], "eq"⟩]⟩,
  ⟨"category", [⟨["car"], "eq"⟩]⟩,
  ⟨"country", [⟨["lv", "ee"], "ne"⟩]⟩]

/-- The first problem by name is reported, whichever filter comes first. -/
theorem outcome_eq_of_enumeration_troubled :
    troubled.Perm (FilterMap.ofList troubled).members ∧
      troubled.reverse.Perm (FilterMap.ofList troubled).members ∧
      criteria troubled = criteria troubled.reverse ∧
      (∀ name, distinct troubled name = distinct troubled.reverse name) ∧
      (∀ rows page, search rows troubled page = search rows troubled.reverse page) ∧
      criteria troubled = .error (.valueCount .country (.compare .ne) 2) := by
  have hperm : troubled.Perm (FilterMap.ofList troubled).members :=
    (members_ofList (by decide)).symm
  have hreverse : troubled.reverse.Perm (FilterMap.ofList troubled).members :=
    (List.reverse_perm troubled).trans hperm
  obtain ⟨⟨hcriteria, hdistinct, hsearch⟩, ⟨hmap, -⟩, -⟩ :=
    outcome_eq_of_enumeration hperm hreverse
  refine ⟨hperm, hreverse, hcriteria, hdistinct, hsearch, ?_⟩
  rw [hmap]
  rfl

end Enumeration
end FilterQuery
