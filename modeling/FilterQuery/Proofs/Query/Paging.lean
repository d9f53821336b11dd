import FilterQuery.Proofs.Query.Problems

/-!
# Paging

The pages of a search divide the rows that pass the filters among them: each page begins where the
one before ends, and the row that a page asks for besides its own is the first of the next.

**Model.** The limit and the offset of a statement are its last two parameters.  They say which of
the rows that pass are fetched (`Statement.fetch`); a page shows as many of these as there are rows
to a page (`shown`).

**Bounds.** The limit fits into 64 bits for every number of rows, while the offset does not for the
last pages of the longest ones.

**Results.**
* `failure?_searchOf_eq_pageProblem?`: with acceptable criteria only the page can be refused.
* `shown_append`: two neighbouring pages show rows that follow upon each other.
* `pages_tile`: which pages there are, what they ask for, and that together they show each row once.
-/

namespace FilterQuery

universe u

open Sql (Fragment Parameter Statement)

namespace Sql.Statement

/-- The limit and the offset of a statement, which are its last two parameters. -/
def paging? (s : Statement) : Option (Int × Int) :=
  match s.parameters.reverse with
  | .integer offset :: .integer limit :: _ => some (limit.toInt, offset.toInt)
  | _ => none

/-- What a statement fetches of the rows that pass, which are given in their order. -/
def fetch {α : Type u} (s : Statement) (table : List α) : List α :=
  match s.paging? with
  | some (limit, offset) => (table.drop offset.toNat).take limit.toNat
  | none => table

end Sql.Statement

namespace Query

variable {α : Type u} {rows page next : UInt32} {criteria ordered : List Criterion} {f : Fragment}
variable {s t : Statement}

/-- What a page shows of the rows that pass: those that are fetched, less the one behind them. -/
def shown (rows : UInt32) (s : Statement) (table : List α) : List α :=
  (s.fetch table).take rows.toNat

/-- The statements of the first pages. -/
def pages (rows : UInt32) (criteria : List Criterion) (n : Nat) :
    Except QueryError (List Statement) :=
  (List.range n).mapM fun k => searchOf rows criteria (UInt32.ofNat k)

theorem eq_ofNat_of_toInt_eq
    {l : Int64} {n : Nat}
    (h : l.toInt = (n : Int)) :
    l = Int64.ofNat n := by
  rw [← Int64.ofInt_toInt l, h, Int64.ofInt_eq_ofNat]

/-- With criteria that have an order and a condition, only the page can be refused. -/
theorem failure?_searchOf_eq_pageProblem?
    (hordered : Criteria.order criteria = .ok ordered)
    (hf : Criteria.whereClause ordered = .ok f)
    (page : UInt32) :
    failure? (searchOf rows criteria page) = pageProblem? rows page := by
  obtain ⟨hmissing, rfl⟩ := Criteria.order_eq_ok_iff.1 hordered
  rw [failure?_searchOf, hmissing, ← failure?_whereClause, hf]
  exact Option.or_none

/-- A page is refused when its first row has no number in 63 bits. -/
theorem searchOf_eq_error_iff
    (hordered : Criteria.order criteria = .ok ordered)
    (hf : Criteria.whereClause ordered = .ok f)
    {e : QueryError} :
    searchOf rows criteria page = .error e ↔
      2 ^ 63 - 1 < page.toNat * rows.toNat ∧ e = .pageOutOfRange page.toNat rows.toNat := by
  rw [← failure?_eq_some_iff, failure?_searchOf_eq_pageProblem? hordered hf, pageProblem?]
  split
  · rename_i hfits
    simp only [reduceCtorEq, false_iff, not_and]
    omega
  · rename_i hfits
    rw [Option.some.injEq, eq_comm, iff_and_self]
    omega

/-- A page is accepted when its first row has a number in 63 bits. -/
theorem exists_searchOf_iff_le
    (hordered : Criteria.order criteria = .ok ordered)
    (hf : Criteria.whereClause ordered = .ok f) :
    (∃ s, searchOf rows criteria page = .ok s) ↔ page.toNat * rows.toNat ≤ 2 ^ 63 - 1 := by
  rw [← failure?_eq_none_iff, failure?_searchOf_eq_pageProblem? hordered hf, pageProblem?]
  split
  · rename_i hfits
    simp only [true_iff]
    omega
  · rename_i hfits
    simp only [reduceCtorEq, false_iff]
    omega

/-- All pages before an accepted one are accepted. -/
theorem exists_searchOf_of_le
    (hordered : Criteria.order criteria = .ok ordered)
    (hf : Criteria.whereClause ordered = .ok f)
    (hnext : ∃ s, searchOf rows criteria next = .ok s)
    (hle : page ≤ next) :
    ∃ s, searchOf rows criteria page = .ok s := by
  rw [exists_searchOf_iff_le hordered hf] at hnext ⊢
  exact (Nat.mul_le_mul_right rows.toNat (UInt32.le_iff_toNat_le.1 hle)).trans hnext

/-- Behind the values of the condition stand the limit and the offset, exactly. -/
theorem exists_paging
    (hordered : Criteria.order criteria = .ok ordered)
    (hf : Criteria.whereClause ordered = .ok f)
    (h : searchOf rows criteria page = .ok s) :
    ∃ l o : Int64, s.parameters = f.parameters ++ [.integer l, .integer o] ∧
      l.toInt = (limit rows : Int) ∧ o.toInt = (offset rows page : Int) := by
  obtain ⟨l, o, g, -, hlimit, hoffset, hg, -, hparameters⟩ := searchOf_eq_ok_iff.1 h
  refine ⟨l, o, ?_, hlimit, hoffset⟩
  rw [(Criteria.order_eq_ok_iff.1 hordered).2, Criteria.whereClause, hg] at hf
  cases hf
  simpa using hparameters

/-- The last two parameters of a search are the size of the page and the rows before it. -/
theorem paging?_eq
    (h : searchOf rows criteria page = .ok s) :
    s.paging? = some ((limit rows : Int), (offset rows page : Int)) := by
  obtain ⟨l, o, g, -, hlimit, hoffset, -, -, hparameters⟩ := searchOf_eq_ok_iff.1 h
  rw [Statement.paging?, hparameters, List.reverse_append]
  simp [hlimit, hoffset]

/-- A page of a table is a piece of it. -/
theorem fetch_eq
    (h : searchOf rows criteria page = .ok s)
    (table : List α) :
    s.fetch table = (table.drop (offset rows page)).take (limit rows) := by
  rw [Statement.fetch, paging?_eq h]
  rfl

/-- A page shows the rows from its offset on. -/
theorem shown_eq
    (h : searchOf rows criteria page = .ok s)
    (table : List α) :
    shown rows s table = (table.drop (offset rows page)).take rows.toNat := by
  have hmin : min rows.toNat (limit rows) = rows.toNat := Nat.min_eq_left (Nat.le_succ rows.toNat)
  rw [shown, fetch_eq h, List.take_take, hmin]

theorem offset_next
    (hnext : next.toNat = page.toNat + 1) :
    offset rows next = offset rows page + rows.toNat := by
  rw [offset, hnext, Nat.succ_mul, offset]

/-- The rows of a page and those of the next follow upon each other. -/
theorem shown_append
    (hnext : next.toNat = page.toNat + 1)
    (hs : searchOf rows criteria page = .ok s)
    (ht : searchOf rows criteria next = .ok t)
    (table : List α) :
    shown rows s table ++ shown rows t table =
      (table.drop (offset rows page)).take (rows.toNat + rows.toNat) := by
  rw [shown_eq hs, shown_eq ht, offset_next hnext, ← List.drop_drop, ← List.take_add]

/-- Behind the rows that a page shows it fetches the first row of the next page. -/
theorem fetch_eq_append
    (hnext : next.toNat = page.toNat + 1)
    (hs : searchOf rows criteria page = .ok s)
    (ht : searchOf rows criteria next = .ok t)
    (table : List α) :
    s.fetch table = shown rows s table ++ (t.fetch table).take 1 := by
  have hone : min 1 (limit rows) = 1 := Nat.min_eq_left (Nat.le_add_left 1 rows.toNat)
  rw [shown_eq hs, fetch_eq hs, fetch_eq ht, List.take_take, hone, offset_next hnext,
    ← List.drop_drop, ← List.take_add]
  rfl

/-- Pages that are all accepted make a list of statements. -/
theorem exists_pages
    {n : Nat}
    (h : ∀ k < n, ∃ s, searchOf rows criteria (UInt32.ofNat k) = .ok s) :
    ∃ ss, pages rows criteria n = .ok ss := by
  rw [← failure?_eq_none_iff, pages, failure?_mapM, List.findSome?_eq_none_iff]
  intro k hk
  exact failure?_eq_none_iff.2 (h k (List.mem_range.1 hk))

/-- The first pages together show the first rows, each of them once and in their order. -/
theorem flatMap_shown
    {n : Nat} {ss : List Statement}
    (hn : n ≤ UInt32.size)
    (h : pages rows criteria n = .ok ss)
    (table : List α) :
    ss.flatMap (fun s => shown rows s table) = table.take (n * rows.toNat) := by
  induction n generalizing ss with
  | zero =>
      cases h
      simp
  | succ n ih =>
      rw [pages, mapM_eq_ok_iff, List.range_succ] at h
      obtain ⟨ss, last, hss, hlast, rfl⟩ := forall₂_append_left_iff.1 h
      obtain ⟨s, rest, hs, hrest, rfl⟩ := List.forall₂_cons_left_iff.1 hlast
      obtain rfl := List.forall₂_nil_left_iff.1 hrest
      have hoffset : offset rows (UInt32.ofNat n) = n * rows.toNat := by
        rw [offset, UInt32.toNat_ofNat_of_lt' (by omega)]
      rw [List.flatMap_append, ih (by omega) (mapM_eq_ok_iff.2 hss), List.flatMap_singleton,
        shown_eq hs, hoffset, Nat.succ_mul, List.take_add]

/-- Under criteria that have an order and a condition, a page is refused exactly when its first row
has no number in 63 bits; so all pages before an accepted one are accepted.  An accepted page asks
for one row more than it shows, from its offset on, and arithmetic in 64 bits gives these numbers.
The next page begins where it ends, with the row that it has asked for besides, and the pages up to
it together show the first rows, none twice. -/
theorem pages_tile
    (rows : UInt32)
    (hordered : Criteria.order criteria = .ok ordered)
    (hf : Criteria.whereClause ordered = .ok f) :
    (∀ page,
      (∀ e, searchOf rows criteria page = .error e ↔
        2 ^ 63 - 1 < page.toNat * rows.toNat ∧ e = .pageOutOfRange page.toNat rows.toNat) ∧
      ((∃ s, searchOf rows criteria page = .ok s) ↔ page.toNat * rows.toNat ≤ 2 ^ 63 - 1) ∧
      ∀ s, searchOf rows criteria page = .ok s →
        ∃ l o : Int64, s.parameters = f.parameters ++ [.integer l, .integer o] ∧
          l.toInt = rows.toNat + 1 ∧ o.toInt = page.toNat * rows.toNat ∧
          l = Int64.ofNat rows.toNat + 1 ∧
          o = Int64.ofNat page.toNat * Int64.ofNat rows.toNat) ∧
    (∀ page next s t, next.toNat = page.toNat + 1 →
      searchOf rows criteria page = .ok s → searchOf rows criteria next = .ok t →
        ∃ l o o', s.paging? = some (l, o) ∧ t.paging? = some (l, o') ∧ o' = o + l - 1 ∧
          ∀ (α : Type u) (table : List α),
            s.fetch table = shown rows s table ++ (t.fetch table).take 1 ∧
            shown rows s table ++ shown rows t table =
              (table.drop o.toNat).take (rows.toNat + rows.toNat)) ∧
    ∀ page s, searchOf rows criteria page = .ok s →
      (∀ page' ≤ page, ∃ s, searchOf rows criteria page' = .ok s) ∧
      ∃ ss, pages rows criteria (page.toNat + 1) = .ok ss ∧
        ∀ (α : Type u) (table : List α),
          ss.flatMap (fun s => shown rows s table) = table.take ((page.toNat + 1) * rows.toNat) := by
  refine ⟨?_, ?_, ?_⟩
  · intro page
    refine ⟨fun e => searchOf_eq_error_iff hordered hf, exists_searchOf_iff_le hordered hf, ?_⟩
    intro s hs
    obtain ⟨l, o, hparameters, hl, ho⟩ := exists_paging hordered hf hs
    have hlimit : l = Int64.ofNat (rows.toNat + 1) := eq_ofNat_of_toInt_eq hl
    have hoffset : o = Int64.ofNat (page.toNat * rows.toNat) := eq_ofNat_of_toInt_eq ho
    rw [Int64.ofNat_add] at hlimit
    rw [Int64.ofNat_mul] at hoffset
    exact ⟨l, o, hparameters, hl, ho, hlimit, hoffset⟩
  · intro page next s t hnext hs ht
    refine ⟨_, _, _, paging?_eq hs, paging?_eq ht, ?_, ?_⟩
    · rw [offset_next hnext, limit]
      omega
    · intro α table
      exact ⟨fetch_eq_append hnext hs ht table, shown_append hnext hs ht table⟩
  · intro page s hs
    have hbefore : ∀ page' ≤ page, ∃ s, searchOf rows criteria page' = .ok s :=
      fun page' hle => exists_searchOf_of_le hordered hf ⟨s, hs⟩ hle
    have hsize : page.toNat + 1 ≤ UInt32.size := page.toNat_lt
    obtain ⟨ss, hss⟩ : ∃ ss, pages rows criteria (page.toNat + 1) = .ok ss := by
      refine exists_pages fun k hk => hbefore (UInt32.ofNat k) ?_
      rw [UInt32.le_iff_toNat_le, UInt32.toNat_ofNat_of_lt' (by omega)]
      omega
    exact ⟨hbefore, ss, hss, fun α table => flatMap_shown hsize hss table⟩

/-- Criteria for all cars of a country. -/
def countryCars : List Criterion := [
  ⟨.country, [⟨.compare .eq, ["lv"]⟩]⟩,
  ⟨.category, [⟨.compare .eq, ["car"]⟩]⟩]

/-- The last of the longest pages and the one behind it, and the first three pages of twenty
rows. -/
theorem pages_tile_countryCars :
    ∃ ordered f, Criteria.order countryCars = .ok ordered ∧
      Criteria.whereClause ordered = .ok f ∧
      searchOf 4294967295 countryCars 2147483649 =
        .error (.pageOutOfRange 2147483649 4294967295) ∧
      (∃ s l o, searchOf 4294967295 countryCars 2147483648 = .ok s ∧
        s.parameters = f.parameters ++ [.integer l, .integer o] ∧
        l.toInt = 4294967296 ∧ o.toInt = 9223372034707292160) ∧
      (∃ s t, searchOf 20 countryCars 1 = .ok s ∧ searchOf 20 countryCars 2 = .ok t ∧
        ∀ table : List Nat, s.fetch table = shown 20 s table ++ (t.fetch table).take 1) ∧
      ∃ ss, pages 20 countryCars 3 = .ok ss ∧
        ∀ table : List Nat, ss.flatMap (fun s => shown 20 s table) = table.take 60 := by
  obtain ⟨ordered, hordered⟩ : ∃ ordered, Criteria.order countryCars = .ok ordered :=
    ⟨_, Criteria.order_eq_ok_iff.2 ⟨rfl, rfl⟩⟩
  obtain ⟨f, hf⟩ : ∃ f, Criteria.whereClause ordered = .ok f := by
    rw [(Criteria.order_eq_ok_iff.1 hordered).2]
    exact ⟨_, rfl⟩
  obtain ⟨hlong, -, -⟩ := pages_tile.{0} 4294967295 hordered hf
  obtain ⟨hshort, hnext, htile⟩ := pages_tile.{0} 20 hordered hf
  obtain ⟨s, hs⟩ := (hlong 2147483648).2.1.2 (by decide)
  obtain ⟨l, o, hparameters, hl, ho, -⟩ := (hlong 2147483648).2.2 s hs
  obtain ⟨t, ht⟩ := (hshort 1).2.1.2 (by decide)
  obtain ⟨v, hv⟩ := (hshort 2).2.1.2 (by decide)
  obtain ⟨_, _, _, -, -, -, hfetch⟩ := hnext 1 2 t v rfl ht hv
  obtain ⟨-, ss, hss, htable⟩ := htile 2 v hv
  exact ⟨ordered, f, hordered, hf, ((hlong 2147483649).1 _).2 ⟨by decide, rfl⟩,
    ⟨s, l, o, hs, hparameters, hl, ho⟩, ⟨t, v, ht, hv, fun table => (hfetch Nat table).1⟩,
    ss, hss, htable Nat⟩

end Query
end FilterQuery
