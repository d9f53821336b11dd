import FilterQuery.Criterion.Order
import Mathlib.Data.List.Forall2

/-!
# The order of criteria

A list of criteria has exactly one order: the criteria on each column, in their given order, one
column after the other in descending priority.

**Method.** No two columns have the same priority, so that names of columns are never compared with
effect.  Hence a list in descending priority is determined by what it holds for each column
(`eq_of_on_eq`), and a stable sort changes nothing of that.

**Results.**
* `precedes_iff`: what may stand before what is a matter of priorities alone.
* `mergeSort_precedes`: sorting is picking the columns one after the other (`byPriority`).
* `IsOrder.eq_byPriority`: a list in descending priority that keeps the criteria of each column in
  their order is this one.
* `order_eq`: what the order of a list is, and when there is none.
-/

namespace FilterQuery

namespace Column

/-- The list of all columns is in descending priority. -/
theorem pairwise_all :
    all.Pairwise fun a b => b.priority < a.priority := by
  decide

end Column

namespace Criterion

/-- Columns of equal priority would be compared by name, but there are no two of them. -/
theorem precedes_iff
    {a b : Criterion} :
    a.precedes b ↔ b.column.priority ≤ a.column.priority := by
  simp only [precedes, Bool.or_eq_true, Bool.and_eq_true, decide_eq_true_eq]
  constructor
  · rintro (hlt | ⟨heq, -⟩)
    · exact Nat.le_of_lt hlt
    · exact Nat.le_of_eq heq.symm
  · intro hle
    rcases Nat.lt_or_eq_of_le hle with hlt | heq
    · exact Or.inl hlt
    · rw [Column.priority_injective heq]
      exact Or.inr ⟨rfl, String.le_refl _⟩

theorem precedes_trans
    (a b c : Criterion)
    (hab : a.precedes b)
    (hbc : b.precedes c) :
    a.precedes c := by
  rw [precedes_iff] at *
  omega

theorem precedes_total (a b : Criterion) :
    a.precedes b || b.precedes a := by
  rw [Bool.or_eq_true, precedes_iff, precedes_iff]
  omega

/-- Criteria that may stand on either side of each other are on one column. -/
theorem column_eq_of_precedes
    {a b : Criterion}
    (hab : a.precedes b)
    (hba : b.precedes a) :
    a.column = b.column := by
  rw [precedes_iff] at hab hba
  exact Column.priority_injective (Nat.le_antisymm hba hab)

end Criterion

namespace Criteria

/-- The criteria on a column, in their given order. -/
def on (column : Column) (criteria : List Criterion) : List Criterion :=
  criteria.filter fun c => c.column = column

/-- The criteria in descending priority, those of one column in their given order. -/
def byPriority (criteria : List Criterion) : List Criterion :=
  Column.all.flatMap fun column => on column criteria

/-- The mandatory columns come first. -/
theorem byPriority_eq (criteria : List Criterion) :
    byPriority criteria =
      on .category criteria ++ on .country criteria
        ++ (Column.all.drop 2).flatMap fun column => on column criteria := by
  simp [byPriority, Column.all]

theorem mem_on
    {column : Column} {criteria : List Criterion} {c : Criterion} :
    c ∈ on column criteria ↔ c ∈ criteria ∧ c.column = column := by
  simp [on]

@[simp] theorem mem_byPriority
    {criteria : List Criterion} {c : Criterion} :
    c ∈ byPriority criteria ↔ c ∈ criteria := by
  simp [byPriority, mem_on, Column.mem_all]

theorem pairwise_on
    (column : Column) (criteria : List Criterion) :
    (on column criteria).Pairwise fun a b => a.precedes b := by
  rw [List.pairwise_iff_forall_sublist]
  intro a b hab
  have ha : a ∈ on column criteria := hab.subset (by simp)
  have hb : b ∈ on column criteria := hab.subset (by simp)
  have hcolumn : b.column = a.column := (mem_on.1 hb).2.trans (mem_on.1 ha).2.symm
  exact Criterion.precedes_iff.2 (Nat.le_of_eq (congrArg Column.priority hcolumn))

/-- The weightier columns come first. -/
theorem pairwise_byPriority (criteria : List Criterion) :
    (byPriority criteria).Pairwise fun a b => a.precedes b := by
  rw [byPriority, List.pairwise_flatMap]
  refine ⟨fun column _ => pairwise_on column criteria, ?_⟩
  refine Column.pairwise_all.imp ?_
  intro column column' h a ha b hb
  rw [Criterion.precedes_iff, (mem_on.1 ha).2, (mem_on.1 hb).2]
  exact Nat.le_of_lt h

/-- Criteria that correspond to each other on every column do so in order. -/
theorem forall₂_byPriority
    {R : Criterion → Criterion → Prop} {xs ys : List Criterion}
    (h : ∀ column, List.Forall₂ R (on column xs) (on column ys)) :
    List.Forall₂ R (byPriority xs) (byPriority ys) := by
  rw [byPriority, byPriority]
  induction Column.all with
  | nil =>
      exact .nil
  | cons column columns ih =>
      exact List.rel_append (h column) ih

theorem on_cons (column : Column) (c : Criterion) (criteria : List Criterion) :
    on column (c :: criteria) =
      if c.column = column then c :: on column criteria else on column criteria := by
  simp [on, List.filter_cons]

theorem on_append (column : Column) (xs ys : List Criterion) :
    on column (xs ++ ys) = on column xs ++ on column ys :=
  List.filter_append xs ys

@[simp] theorem on_on_self (column : Column) (criteria : List Criterion) :
    on column (on column criteria) = on column criteria := by
  simp [on]

/-- A criterion is on one column only. -/
theorem on_on_of_ne
    {column column' : Column}
    (h : column' ≠ column)
    (criteria : List Criterion) :
    on column (on column' criteria) = [] := by
  rw [on, List.filter_eq_nil_iff]
  intro c hc
  simpa [(mem_on.1 hc).2] using h

/-- Picking columns one after the other leaves the criteria of each of them as they were. -/
theorem on_flatMap_on
    (criteria : List Criterion) {column : Column} {columns : List Column}
    (hnodup : columns.Nodup)
    (hmem : column ∈ columns) :
    on column (columns.flatMap fun d => on d criteria) = on column criteria := by
  have hnone : ∀ ds : List Column, column ∉ ds →
      on column (ds.flatMap fun d => on d criteria) = [] := by
    intro ds hds
    rw [on, List.filter_flatMap, List.flatMap_eq_nil_iff]
    intro d hd
    have hne : d ≠ column := by
      rintro rfl
      exact hds hd
    exact on_on_of_ne hne criteria
  induction columns with
  | nil =>
      simp at hmem
  | cons d ds ih =>
      rw [List.nodup_cons] at hnodup
      rw [List.flatMap_cons, on_append]
      by_cases hd : d = column
      · subst d
        rw [hnone ds hnodup.1, List.append_nil, on_on_self]
      · have hds : column ∈ ds := (List.mem_cons.1 hmem).resolve_left (Ne.symm hd)
        rw [on_on_of_ne hd, ih hnodup.2 hds, List.nil_append]

/-- The order among the criteria on one column is kept. -/
@[simp] theorem on_byPriority
    (column : Column) (criteria : List Criterion) :
    on column (byPriority criteria) = on column criteria :=
  on_flatMap_on criteria (by decide) (Column.mem_all column)

/-- Lists with the same criteria on each column have the same criteria. -/
theorem mem_iff_of_on_eq
    {xs ys : List Criterion} {c : Criterion}
    (h : ∀ column, on column xs = on column ys) :
    c ∈ xs ↔ c ∈ ys := by
  have hc := congrArg (c ∈ ·) (h c.column)
  simpa [mem_on] using hc

/-- A list in descending priority is determined by its criteria on each column. -/
theorem eq_of_on_eq
    {xs ys : List Criterion}
    (hxs : xs.Pairwise fun a b => a.precedes b)
    (hys : ys.Pairwise fun a b => a.precedes b)
    (h : ∀ column, on column xs = on column ys) :
    xs = ys := by
  induction xs generalizing ys with
  | nil =>
      refine (List.eq_nil_iff_forall_not_mem.2 ?_).symm
      intro c hc
      simpa using (mem_iff_of_on_eq h).2 hc
  | cons a xs ih =>
      cases ys with
      | nil =>
          simpa using (mem_iff_of_on_eq h).1 (List.mem_cons_self (a := a) (l := xs))
      | cons b ys =>
          have hb : b ∈ a :: xs := (mem_iff_of_on_eq h).2 List.mem_cons_self
          have ha : a ∈ b :: ys := (mem_iff_of_on_eq h).1 List.mem_cons_self
          rw [List.pairwise_cons] at hxs hys
          have hab : a.precedes b := by
            rcases List.mem_cons.1 hb with rfl | hb
            · simp [Criterion.precedes_iff]
            · exact hxs.1 b hb
          have hba : b.precedes a := by
            rcases List.mem_cons.1 ha with rfl | ha
            · simp [Criterion.precedes_iff]
            · exact hys.1 a ha
          have hcolumn := Criterion.column_eq_of_precedes hab hba
          have hhead := h a.column
          rw [on_cons, on_cons, if_pos rfl, if_pos hcolumn.symm] at hhead
          obtain ⟨rfl, -⟩ := List.cons.inj hhead
          have htail : ∀ column, on column xs = on column ys := by
            intro column
            have hc := h column
            rw [on_cons, on_cons] at hc
            split at hc
            · exact (List.cons.inj hc).2
            · exact hc
          rw [ih hxs.2 hys.2 htail]

/-- Sorting leaves the criteria of each column in their order. -/
theorem on_mergeSort
    (column : Column) (criteria : List Criterion) :
    on column (criteria.mergeSort Criterion.precedes) = on column criteria := by
  have hperm := List.mergeSort_perm criteria Criterion.precedes
  have hsub : (on column criteria).Sublist (criteria.mergeSort Criterion.precedes) :=
    List.sublist_mergeSort Criterion.precedes_trans Criterion.precedes_total
      (pairwise_on column criteria) List.filter_sublist
  have hfilter : (on column (on column criteria)).Sublist
      (on column (criteria.mergeSort Criterion.precedes)) :=
    hsub.filter _
  rw [on_on_self] at hfilter
  exact (hfilter.eq_of_length (hperm.filter _).length_eq.symm).symm

/-- Whether a list is the order of others: in descending priority, and on each column the same
criteria in the same order. -/
structure IsOrder (criteria ordered : List Criterion) : Prop where
  descending : ordered.Pairwise fun a b => b.column.priority ≤ a.column.priority
  stable : ∀ column, on column ordered = on column criteria

/-- Sorting by priority is stable. -/
theorem isOrder_byPriority (criteria : List Criterion) :
    IsOrder criteria (byPriority criteria) where
  descending := (pairwise_byPriority criteria).imp Criterion.precedes_iff.1
  stable := fun column => on_byPriority column criteria

/-- There is one order only. -/
theorem IsOrder.eq_byPriority
    {criteria ordered : List Criterion}
    (h : IsOrder criteria ordered) :
    ordered = byPriority criteria := by
  refine eq_of_on_eq (h.descending.imp Criterion.precedes_iff.2) (pairwise_byPriority criteria) ?_
  intro column
  rw [h.stable, on_byPriority]

/-- A stable sort by the comparison of criteria puts them in order of priority. -/
theorem mergeSort_precedes (criteria : List Criterion) :
    criteria.mergeSort Criterion.precedes = byPriority criteria := by
  have hpairwise :=
    List.pairwise_mergeSort Criterion.precedes_trans Criterion.precedes_total criteria
  exact IsOrder.eq_byPriority
    ⟨hpairwise.imp Criterion.precedes_iff.1, fun column => on_mergeSort column criteria⟩

theorem missing?_eq_none_iff
    {criteria : List Criterion} :
    missing? criteria = none ↔ ∀ column ∈ Column.mandatory, ∃ c ∈ criteria, c.column = column := by
  simp [missing?]

/-- Criteria are refused for the first mandatory column without one, and sorted otherwise. -/
theorem order_eq (criteria : List Criterion) :
    order criteria =
      match missing? criteria with
      | some column => .error (.missingMandatoryFilter column)
      | none => .ok (byPriority criteria) := by
  rw [← mergeSort_precedes]
  rfl

theorem order_eq_ok_iff
    {criteria ordered : List Criterion} :
    order criteria = .ok ordered ↔
      missing? criteria = none ∧ ordered = byPriority criteria := by
  rw [order_eq]
  cases missing? criteria <;> simp [eq_comm]

@[simp] theorem byPriority_byPriority (criteria : List Criterion) :
    byPriority (byPriority criteria) = byPriority criteria := by
  rw [byPriority]
  simp only [on_byPriority]
  rfl

/-- Whether a mandatory column is missing depends only on which criteria there are. -/
theorem missing?_congr
    {xs ys : List Criterion}
    (h : ∀ c, c ∈ xs ↔ c ∈ ys) :
    missing? xs = missing? ys := by
  have hany : ∀ column : Column,
      (xs.any fun c => c.column = column) = ys.any fun c => c.column = column := by
    intro column
    rw [Bool.eq_iff_iff, List.any_eq_true, List.any_eq_true]
    simp only [h]
  simp only [missing?, hany]

theorem missing?_byPriority (criteria : List Criterion) :
    missing? (byPriority criteria) = missing? criteria :=
  missing?_congr fun _ => mem_byPriority

end Criteria
end FilterQuery
