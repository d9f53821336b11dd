import FilterQuery.Proofs.Criterion.Order

/-!
# What decides the order of criteria

Criteria are put in order by a stable sort, and nothing of a criterion but its column is looked at.
So the order of a list shows for each column which criteria the list has on it, one after the other,
and nothing else of the list.

**Names.** Columns of equal priority are compared by name.  There are no such columns, so that a
comparison of priorities alone sorts alike.

**Results.**
* `IsOrder.arranges`: an order rearranges the criteria, those on mandatory columns first.
* `order_decided_by_columns`: when there is an order, what it is, and which lists have the same one.
-/

namespace FilterQuery

namespace Criterion

/-- Whether a criterion is not on a column of lower priority than another. -/
def weighsAsMuch (a b : Criterion) : Bool :=
  b.column.priority ≤ a.column.priority

/-- Names decide nothing: two columns of one priority are one column. -/
theorem precedes_eq_weighsAsMuch (a b : Criterion) :
    a.precedes b = a.weighsAsMuch b := by
  rw [Bool.eq_iff_iff, precedes_iff, weighsAsMuch, decide_eq_true_eq]

end Criterion

namespace Criteria

variable {xs ys zs ws : List Criterion}

/-- Whether a list arranges others: it has the same criteria in descending priority, those of each
column in their order, and those on the mandatory columns first. -/
structure Arranges (criteria arranged : List Criterion) : Prop
    extends IsOrder criteria arranged where
  perm : arranged.Perm criteria
  mandatory_first : ∃ rest, arranged = on .category criteria ++ on .country criteria ++ rest ∧
    ∀ c ∈ rest, c.column ≠ .category ∧ c.column ≠ .country

/-- Sorting leaves out nothing and adds nothing. -/
theorem perm_byPriority (criteria : List Criterion) :
    (byPriority criteria).Perm criteria := by
  rw [← mergeSort_precedes]
  exact List.mergeSort_perm criteria Criterion.precedes

theorem IsOrder.arranges
    (h : IsOrder xs zs) :
    Arranges xs zs where
  toIsOrder := h
  perm := h.eq_byPriority ▸ perm_byPriority xs
  mandatory_first := by
    refine ⟨_, h.eq_byPriority.trans (byPriority_eq xs), ?_⟩
    intro c hc
    obtain ⟨column, hcolumn, hon⟩ := List.mem_flatMap.1 hc
    rw [(mem_on.1 hon).2]
    constructor
    · rintro rfl
      exact absurd hcolumn (by decide)
    · rintro rfl
      exact absurd hcolumn (by decide)

/-- Sorted lists are equal when the criteria on each column are. -/
theorem byPriority_eq_iff :
    byPriority xs = byPriority ys ↔ ∀ column, on column xs = on column ys := by
  constructor
  · intro h column
    rw [← on_byPriority column xs, h, on_byPriority]
  · intro h
    rw [byPriority, byPriority]
    simp only [h]

/-- Whether there is a criterion on a column. -/
def Has (column : Column) (criteria : List Criterion) : Prop :=
  ∃ c ∈ criteria, c.column = column

instance (column : Column) (criteria : List Criterion) : Decidable (Has column criteria) :=
  inferInstanceAs (Decidable (∃ _ ∈ _, _))

theorem missing?_eq_none_iff_has :
    missing? xs = none ↔ Has .category xs ∧ Has .country xs := by
  rw [missing?_eq_none_iff]
  simp [Column.mandatory, Has]

/-- Category is asked for before country. -/
theorem missing?_eq_some_iff
    {column : Column} :
    missing? xs = some column ↔
      ¬ Has .category xs ∧ column = .category ∨
      Has .category xs ∧ ¬ Has .country xs ∧ column = .country := by
  have hany : ∀ d : Column, (xs.any fun c => c.column = d) = true ↔ Has d xs := by
    simp [Has]
  rw [missing?, Column.mandatory, List.find?_cons, List.find?_cons, List.find?_nil]
  by_cases hcategory : Has .category xs
  · rw [(hany .category).2 hcategory]
    by_cases hcountry : Has .country xs
    · rw [(hany .country).2 hcountry]
      simp [hcategory, hcountry]
    · rw [Bool.eq_false_iff.2 ((hany .country).not.2 hcountry)]
      simp [hcategory, hcountry, eq_comm]
  · rw [Bool.eq_false_iff.2 ((hany .category).not.2 hcategory)]
    simp [hcategory, eq_comm]

/-- When criteria are refused: category is looked for before country. -/
theorem order_eq_error_iff
    {e : QueryError} :
    order xs = .error e ↔
      ¬ Has .category xs ∧ e = .missingMandatoryFilter .category ∨
      Has .category xs ∧ ¬ Has .country xs ∧ e = .missingMandatoryFilter .country := by
  have hmissing : order xs = .error e ↔
      ∃ column, missing? xs = some column ∧ e = .missingMandatoryFilter column := by
    rw [order_eq]
    cases missing? xs <;> simp [eq_comm]
  simp only [hmissing, missing?_eq_some_iff]
  constructor
  · rintro ⟨column, ⟨hcategory, rfl⟩ | ⟨hcategory, hcountry, rfl⟩, rfl⟩
    · exact Or.inl ⟨hcategory, rfl⟩
    · exact Or.inr ⟨hcategory, hcountry, rfl⟩
  · rintro (⟨hcategory, rfl⟩ | ⟨hcategory, hcountry, rfl⟩)
    · exact ⟨_, Or.inl ⟨hcategory, rfl⟩, rfl⟩
    · exact ⟨_, Or.inr ⟨hcategory, hcountry, rfl⟩, rfl⟩

/-- When criteria are accepted, and how they are arranged. -/
theorem order_eq_ok_iff_arranges :
    order xs = .ok zs ↔ Has .category xs ∧ Has .country xs ∧ Arranges xs zs := by
  have harranges : zs = byPriority xs ↔ Arranges xs zs := by
    constructor
    · rintro rfl
      exact (isOrder_byPriority xs).arranges
    · intro h
      exact h.toIsOrder.eq_byPriority
  rw [order_eq_ok_iff, missing?_eq_none_iff_has, and_assoc, harranges]

theorem exists_order_iff :
    (∃ zs, order xs = .ok zs) ↔ Has .category xs ∧ Has .country xs := by
  simp only [order_eq_ok_iff_arranges, exists_and_left]
  constructor
  · rintro ⟨hcategory, hcountry, -⟩
    exact ⟨hcategory, hcountry⟩
  · rintro ⟨hcategory, hcountry⟩
    exact ⟨hcategory, hcountry, _, (isOrder_byPriority xs).arranges⟩

/-- What is in order already stays as it is, and a list without an order fails as before. -/
theorem order_bind_order (xs : List Criterion) :
    order xs >>= order = order xs := by
  cases hzs : order xs with
  | error e =>
      rfl
  | ok zs =>
      obtain ⟨hmissing, rfl⟩ := order_eq_ok_iff.1 hzs
      refine order_eq_ok_iff.2 ⟨?_, (byPriority_byPriority xs).symm⟩
      rw [missing?_byPriority, hmissing]

/-- Two arrangements are equal when the criteria on each column are. -/
theorem eq_iff_of_order
    (hzs : order xs = .ok zs)
    (hws : order ys = .ok ws) :
    zs = ws ↔ ∀ column, on column xs = on column ys := by
  rw [(order_eq_ok_iff.1 hzs).2, (order_eq_ok_iff.1 hws).2, byPriority_eq_iff]

/-- Sorting by priority alone gives the same order. -/
theorem eq_mergeSort
    (hzs : order xs = .ok zs) :
    zs = xs.mergeSort Criterion.precedes ∧ zs = xs.mergeSort Criterion.weighsAsMuch := by
  have hsame : Criterion.precedes = Criterion.weighsAsMuch :=
    funext₂ Criterion.precedes_eq_weighsAsMuch
  rw [← hsame, and_self, mergeSort_precedes]
  exact (order_eq_ok_iff.1 hzs).2

/-- Without criteria on the category there is no order, nor without criteria on the country.  All
other lists have one: a rearrangement in descending priority that is stable on each column.  To
order it again changes nothing, names of columns do not come into it, and two lists have the same
order exactly when they have the same criteria on each column, one after the other. -/
theorem order_decided_by_columns (xs ys : List Criterion) :
    (∀ e, order xs = .error e ↔
      ¬ Has .category xs ∧ e = .missingMandatoryFilter .category ∨
      Has .category xs ∧ ¬ Has .country xs ∧ e = .missingMandatoryFilter .country) ∧
    ((∃ zs, order xs = .ok zs) ↔ Has .category xs ∧ Has .country xs) ∧
    (∀ zs, order xs = .ok zs ↔ Has .category xs ∧ Has .country xs ∧ Arranges xs zs) ∧
    (∀ zs, order xs = .ok zs →
      zs = xs.mergeSort Criterion.precedes ∧ zs = xs.mergeSort Criterion.weighsAsMuch) ∧
    order xs >>= order = order xs ∧
    ∀ zs ws, order xs = .ok zs → order ys = .ok ws →
      (zs = ws ↔ ∀ column, on column xs = on column ys) := by
  refine ⟨?_, exists_order_iff, ?_, ?_, order_bind_order xs, ?_⟩
  · intro e
    exact order_eq_error_iff
  · intro zs
    exact order_eq_ok_iff_arranges
  · intro zs hzs
    exact eq_mergeSort hzs
  · intro zs ws hzs hws
    exact eq_iff_of_order hzs hws

/-- Criteria with two on the category, which stand around the others. -/
def aroundCountry : List Criterion := [
  ⟨.category, [⟨.compare .ne, ["bike"]⟩]⟩,
  ⟨.price, [⟨.compare .lt, ["9000"]⟩]⟩,
  ⟨.country, [⟨.anyOf, ["lv", "ee"]⟩]⟩,
  ⟨.category, [⟨.compare .ne, ["boat"]⟩]⟩]

/-- The same criteria, with those on the category in the same order. -/
def behindPrice : List Criterion := [
  ⟨.price, [⟨.compare .lt, ["9000"]⟩]⟩,
  ⟨.category, [⟨.compare .ne, ["bike"]⟩]⟩,
  ⟨.category, [⟨.compare .ne, ["boat"]⟩]⟩,
  ⟨.country, [⟨.anyOf, ["lv", "ee"]⟩]⟩]

/-- The two lists have one order, and the reversed list has another. -/
theorem order_decided_by_columns_aroundCountry :
    ∃ zs ws, order aroundCountry = .ok zs ∧ order behindPrice = .ok zs ∧
      order aroundCountry.reverse = .ok ws ∧
      Arranges aroundCountry zs ∧ zs = aroundCountry.mergeSort Criterion.precedes ∧
      zs = aroundCountry.mergeSort Criterion.weighsAsMuch ∧
      zs ≠ ws := by
  obtain ⟨-, haccepted, harranges, hname, -, hsame⟩ :=
    order_decided_by_columns aroundCountry behindPrice
  obtain ⟨-, -, -, -, -, hreverse⟩ :=
    order_decided_by_columns aroundCountry aroundCountry.reverse
  obtain ⟨zs, hzs⟩ := haccepted.2 (by decide)
  obtain ⟨zs', hzs'⟩ : ∃ zs, order behindPrice = .ok zs :=
    exists_order_iff.2 (by decide)
  obtain ⟨ws, hws⟩ : ∃ zs, order aroundCountry.reverse = .ok zs :=
    exists_order_iff.2 (by decide)
  obtain rfl : zs = zs' := (hsame zs zs' hzs hzs').2 fun column => by cases column <;> rfl
  obtain ⟨hprecedes, hweighs⟩ := hname zs hzs
  refine ⟨zs, ws, hzs, hzs', hws, ((harranges zs).1 hzs).2.2, hprecedes, hweighs, ?_⟩
  rw [Ne, hreverse zs ws hzs hws]
  intro hon
  exact absurd (hon .category) (by decide)

end Criteria
end FilterQuery
