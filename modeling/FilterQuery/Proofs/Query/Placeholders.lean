import FilterQuery.Proofs.Query.Problems
import FilterQuery.Proofs.Sql.Placeholder

/-!
# Placeholders and parameters

Every placeholder of a statement has its parameter.  The placeholders of the condition belong to the
values of the criteria, one by one: the text in front of a placeholder ends with the column and the
symbol of its value, and the parameter is what the column casts the value to.

**Method.** The text of a statement is scanned piece by piece.  Fronts, exclusions and ends have no
placeholder outside of literals, and an expression has one for each value of its test.

**Results.**
* `distinctOf_fit`, `searchOf_fit`: what stands in front of the placeholders of a statement.
* `placeholders_fit_parameters`: placeholders, parameters and values correspond to each other in
  every statement.
-/

namespace FilterQuery

open Sql (Expression Fragment Leads Parameter Statement)

/-- The kind of value that a parameter is. -/
def Sql.Parameter.type : Parameter → ValueType
  | .text _ => .text
  | .integer _ => .integer
  | .float _ => .float

/-- What stands in front of each placeholder of a statement. -/
def Sql.Statement.fronts (s : Statement) : List (List Char) :=
  Sql.fronts ⟨false, 0⟩ [] s.sql.toList

/-- A statement is consistent when it has as many placeholders as parameters. -/
theorem Sql.Statement.isConsistent_iff
    {s : Statement} :
    s.isConsistent ↔ s.fronts.length = s.parameters.length := by
  rw [isConsistent, beq_iff_eq, placeholders, countPlaceholders_eq_length_fronts]
  rfl

/-- A value is cast to a parameter of the kind that its column holds. -/
theorem Column.type_of_cast_eq_ok
    {column : Column} {value : String} {p : Parameter}
    (h : column.cast value = .ok p) :
    p.type = column.valueType := by
  rw [cast_eq_ok_iff, row_eq] at h
  cases htype : column.valueType with
  | text =>
      rw [htype] at h
      obtain rfl := h
      rfl
  | integer =>
      rw [htype] at h
      obtain ⟨m, -, rfl⟩ := h
      rfl
  | float =>
      rw [htype] at h
      obtain ⟨negative, c, e, x, -, -, -, rfl⟩ := h
      rfl

namespace Sql.Expression

theorem leads_all (e : Expression) (es : List Expression) :
    (all e es).leads = (e :: es).flatMap leads := by
  induction es generalizing e with
  | nil =>
      simp [all]
  | cons f fs ih =>
      rw [all, leads, ih f]
      rfl

theorem leads_any_replicate (e : Expression) (n : Nat) :
    (any e (List.replicate n e)).leads = (List.replicate (n + 1) e).flatMap leads := by
  induction n with
  | zero =>
      simp [any]
  | succ n ih =>
      rw [List.replicate_succ, any, leads, ih, ← List.flatMap_cons, ← List.replicate_succ]

/-- The placeholders of joined expressions stand behind the texts that lead to them. -/
theorem leads_intercalate
    {es : List Expression}
    (hes : ∀ e ∈ es, e.Legible) :
    Leads (" and ".intercalate (es.map text)) (es.flatMap leads) := by
  cases es with
  | nil =>
      exact Sql.leads_of_unmarked (by decide)
  | cons e es =>
      rw [← text_all, ← leads_all]
      exact leads_text (legible_all hes)

theorem leads_join
    {es : List Expression}
    (hes : ∀ e ∈ es, e.Legible) :
    Leads (String.join (es.map fun e => " and " ++ e.text)) (es.flatMap leads) := by
  induction es with
  | nil =>
      exact Sql.leads_of_unmarked (by decide)
  | cons e es ih =>
      rw [List.forall_mem_cons] at hes
      have hand : Leads " and " [] := Sql.leads_of_unmarked (by decide)
      rw [List.map_cons, String.join_cons, List.flatMap_cons]
      exact Sql.leads_append (Sql.leads_append hand (leads_text hes.1)) (ih hes.2)

end Sql.Expression

/-- The placeholders of a test stand behind the leads of its places. -/
theorem Test.leads_expression
    (column : Column) {t : Test}
    (ht : t.Admissible) :
    (t.expression column).leads = (t.places column).map Place.lead := by
  obtain ⟨operator, values⟩ := t
  cases operator with
  | compare c =>
      obtain ⟨value, rfl⟩ := List.length_eq_one_iff.1 (ht.2 (by simp))
      rfl
  | anyOf =>
      have hpos : 0 < values.length := List.length_pos_iff.2 ht.1
      have hlength : values.length - 1 + 1 = values.length := by
        omega
      have hlead : ∀ n, (List.replicate n (column.placeholder "=")).flatMap Expression.leads =
          List.replicate n (column.qualified ++ " " ++ "=" ++ " ") := by
        intro n
        induction n with
        | zero =>
            rfl
        | succ n ih =>
            rw [List.replicate_succ, List.flatMap_cons, ih]
            rfl
      rw [expression, Expression.leads, Expression.leads_any_replicate, hlength]
      rw [Comparison.symbol, hlead, places, List.map_map]
      exact (List.map_const' ..).symm

namespace Criteria

/-- The placeholders of a condition stand behind the columns and symbols of its places. -/
theorem leads_condition
    {criteria : List Criterion} {f : Fragment}
    (h : condition criteria = .ok f) :
    Leads f.sql ((places criteria).map Place.lead) := by
  have hleads : (expressions criteria).flatMap Expression.leads =
      (places criteria).map Place.lead := by
    rw [expressions, places, List.map_flatMap, List.flatMap_map]
    refine List.flatMap_congr ?_
    intro t ht
    exact Test.leads_expression t.1 (admissible_of_condition_eq_ok h t ht)
  rw [(of_condition_eq_ok h).1, ← hleads]
  exact Expression.leads_intercalate fun _ => legible_of_mem_expressions

end Criteria

/-- Whether parameters, and what stands in front of placeholders, belong to places one by one: a
placeholder stands behind the column and the symbol of its place, and its parameter is the value of
the place, cast to the type of the column, which is what the value spells. -/
structure Place.Fit
    (places : List Place) (parameters : List Parameter) (fronts : List (List Char)) : Prop where
  leads : List.Forall₂ (fun p front => p.lead.toList <:+ front) places fronts
  casts : List.Forall₂ (fun p q => p.Casts q ∧ q.type = p.column.valueType) places parameters
  spells : List.Forall₂ (fun p q => p.column.row.type.Spells p.value q) places parameters

theorem Place.Fit.of_forall₂
    {places : List Place} {parameters : List Parameter} {fronts : List (List Char)}
    (hleads : List.Forall₂ (fun l front => l.toList <:+ front) (places.map Place.lead) fronts)
    (hcasts : List.Forall₂ Place.Casts places parameters) :
    Place.Fit places parameters fronts where
  leads := by
    rw [List.forall₂_map_left_iff] at hleads
    exact hleads
  casts := hcasts.imp fun _ _ h => ⟨h, Column.type_of_cast_eq_ok h⟩
  spells := hcasts.imp fun _ _ h => Column.cast_eq_ok_iff.1 h

namespace Query

/-- The placeholders and parameters for distinct values fit place by place. -/
theorem distinctOf_fit
    {criteria : List Criterion} {column : Column} {s : Statement}
    (h : distinctOf criteria column = .ok s) :
    Place.Fit (Criteria.places (Criteria.byPriority criteria)) s.parameters s.fronts := by
  obtain ⟨literals, f, -, hliterals, hf, hsql, hparameters⟩ := distinctOf_eq_ok_iff.1 h
  have hexclusions : Leads
      (String.join ((column.exclusions literals).map fun e => " and " ++ e.text)) [] := by
    have hnone : (column.exclusions literals).flatMap Expression.leads = [] := by
      simp [Column.exclusions, Expression.leads]
    rw [← hnone]
    exact Expression.leads_join fun e he => Column.legible_of_mem_exclusions hliterals he
  have hfront : Leads (distinctFront (Criteria.byPriority criteria) column) [] :=
    Sql.leads_of_unmarked (isFront_distinctFront _ column).1
  have hwhere : Leads " where " [] :=
    Sql.leads_of_unmarked (by decide)
  have hend : Leads " order by " [] :=
    Sql.leads_of_unmarked (by decide)
  have hname : Leads column.qualified [] :=
    Sql.leads_of_unmarked (by cases column <;> decide)
  have hleads := Sql.leads_append (Sql.leads_append (Sql.leads_append (Sql.leads_append
    (Sql.leads_append hfront hwhere) (Criteria.leads_condition hf)) hexclusions) hend) hname
  rw [← hsql] at hleads
  simp only [List.nil_append, List.append_nil] at hleads
  refine .of_forall₂ (hleads 0 []).2 ?_
  rw [hparameters]
  exact (Criteria.of_condition_eq_ok hf).2

/-- Those of a search do too, and the two of the page stand behind them. -/
theorem searchOf_fit
    {rows page : UInt32} {criteria : List Criterion} {s : Statement}
    (h : searchOf rows criteria page = .ok s) :
    ∃ parameters fronts l o lfront ofront,
      Place.Fit (Criteria.places (Criteria.byPriority criteria)) parameters fronts ∧
      s.parameters = parameters ++ [.integer l, .integer o] ∧
      s.fronts = fronts ++ [lfront, ofront] ∧
      l.toInt = (limit rows : Int) ∧ " limit ".toList <:+ lfront ∧
      o.toInt = (offset rows page : Int) ∧ " offset ".toList <:+ ofront := by
  obtain ⟨l, o, f, -, hlimit, hoffset, hf, hsql, hparameters⟩ := searchOf_eq_ok_iff.1 h
  have hfront : Leads searchFront [] :=
    Sql.leads_of_unmarked isFront_searchFront.1
  have hwhere : Leads " where " [] :=
    Sql.leads_of_unmarked (by decide)
  have hlimitEnd : Leads (" order by a.price limit " ++ "?") [" order by a.price limit "] :=
    Sql.leads_placeholder (by decide)
  have hoffsetEnd : Leads (" offset " ++ "?") [" offset "] :=
    Sql.leads_placeholder (by decide)
  have hend := Sql.leads_append hlimitEnd hoffsetEnd
  have htext : searchFront ++ " where " ++ f.sql
      ++ (" order by a.price limit " ++ "?" ++ (" offset " ++ "?")) = s.sql := hsql.symm
  have hleads := Sql.leads_append (Sql.leads_append (Sql.leads_append hfront hwhere)
    (Criteria.leads_condition hf)) hend
  rw [htext, List.nil_append, List.nil_append] at hleads
  obtain ⟨fronts, rest, hfronts, hrest, hs⟩ := forall₂_append_left_iff.1 (hleads 0 []).2
  obtain ⟨lfront, rest', hlfront, hrest', rfl⟩ := List.forall₂_cons_left_iff.1 hrest
  obtain ⟨ofront, rest'', hofront, hrest'', rfl⟩ := List.forall₂_cons_left_iff.1 hrest'
  obtain rfl := List.forall₂_nil_left_iff.1 hrest''
  have hlimitFront : " limit ".toList <:+ " order by a.price limit ".toList := by
    decide
  exact ⟨f.parameters, fronts, l, o, lfront, ofront,
    .of_forall₂ hfronts (Criteria.of_condition_eq_ok hf).2, hparameters, hs, hlimit,
    hlimitFront.trans hlfront, hoffset, hofront⟩

/-- A statement for distinct values is consistent. -/
theorem distinctOf_isConsistent
    {criteria : List Criterion} {column : Column} {s : Statement}
    (h : distinctOf criteria column = .ok s) :
    s.isConsistent := by
  have hfit := distinctOf_fit h
  rw [Statement.isConsistent_iff, ← hfit.leads.length_eq, hfit.casts.length_eq]

/-- A search is consistent. -/
theorem searchOf_isConsistent
    {rows page : UInt32} {criteria : List Criterion} {s : Statement}
    (h : searchOf rows criteria page = .ok s) :
    s.isConsistent := by
  obtain ⟨parameters, fronts, l, o, lfront, ofront, hfit, hparameters, hfronts, -⟩ :=
    searchOf_fit h
  rw [Statement.isConsistent_iff, hparameters, hfronts, List.length_append, List.length_append,
    ← hfit.leads.length_eq, hfit.casts.length_eq]
  rfl

/-- In every statement the placeholders, the parameters and the values of the ordered criteria
belong to each other one by one; a search has a limit and an offset behind them. -/
theorem placeholders_fit_parameters :
    (∀ (criteria : List Criterion) (column : Column) (s : Statement),
      distinctOf criteria column = .ok s →
        ∃ ordered, Criteria.IsOrder criteria ordered ∧
          Place.Fit (Criteria.places ordered) s.parameters s.fronts ∧ s.isConsistent) ∧
    (∀ (rows : UInt32) (criteria : List Criterion) (page : UInt32) (s : Statement),
      searchOf rows criteria page = .ok s →
        ∃ ordered parameters fronts l o lfront ofront, Criteria.IsOrder criteria ordered ∧
          Place.Fit (Criteria.places ordered) parameters fronts ∧
          s.parameters = parameters ++ [.integer l, .integer o] ∧
          s.fronts = fronts ++ [lfront, ofront] ∧
          l.toInt = (limit rows : Int) ∧ " limit ".toList <:+ lfront ∧
          o.toInt = (offset rows page : Int) ∧ " offset ".toList <:+ ofront ∧
          s.isConsistent) ∧
    (∀ (filters : FilterMap) (name : String) (s : Statement),
      distinct filters name = .ok s → s.isConsistent) ∧
    ∀ (rows : UInt32) (filters : FilterMap) (page : UInt32) (s : Statement),
      search rows filters page = .ok s → s.isConsistent := by
  refine ⟨?_, ?_, ?_, ?_⟩
  · intro criteria column s h
    exact ⟨_, Criteria.isOrder_byPriority criteria, distinctOf_fit h, distinctOf_isConsistent h⟩
  · intro rows criteria page s h
    obtain ⟨parameters, fronts, l, o, lfront, ofront, hfit, hparameters, hfronts, hl, hlfront, ho,
      hofront⟩ := searchOf_fit h
    exact ⟨_, parameters, fronts, l, o, lfront, ofront, Criteria.isOrder_byPriority criteria, hfit,
      hparameters, hfronts, hl, hlfront, ho, hofront, searchOf_isConsistent h⟩
  · intro filters name s h
    obtain ⟨criteria, -, h⟩ := bind_eq_ok_iff.1 h
    obtain ⟨column, -, h⟩ := bind_eq_ok_iff.1 h
    exact distinctOf_isConsistent h
  · intro rows filters page s h
    obtain ⟨criteria, -, h⟩ := bind_eq_ok_iff.1 h
    exact searchOf_isConsistent h

/-- Criteria in no order, two of them on one column. -/
def scattered : List Criterion := [
  ⟨.brand, [⟨.anyOf, ["audi", "bmw"]⟩]⟩,
  ⟨.country, [⟨.compare .eq, ["lv"]⟩]⟩,
  ⟨.year, [⟨.compare .gte, ["2020"]⟩, ⟨.compare .lt, ["2024"]⟩]⟩,
  ⟨.category, [⟨.compare .eq, ["car"]⟩]⟩,
  ⟨.brand, [⟨.compare .ne, ["vw"]⟩]⟩]

theorem placeholders_fit_parameters_scattered :
    ∃ s t u v,
      distinctOf scattered .size = .ok s ∧ searchOf 20 scattered 3 = .ok t ∧
      distinct FilterMap.recentCars "version" = .ok u ∧
      search 20 FilterMap.recentCars 0 = .ok v ∧
      (∃ ordered, Criteria.IsOrder scattered ordered ∧
        Place.Fit (Criteria.places ordered) s.parameters s.fronts ∧ s.isConsistent) ∧
      (∃ ordered parameters fronts l o lfront ofront, Criteria.IsOrder scattered ordered ∧
        Place.Fit (Criteria.places ordered) parameters fronts ∧
        t.parameters = parameters ++ [.integer l, .integer o] ∧
        t.fronts = fronts ++ [lfront, ofront] ∧
        l.toInt = (limit 20 : Int) ∧ " limit ".toList <:+ lfront ∧
        o.toInt = (offset 20 3 : Int) ∧ " offset ".toList <:+ ofront ∧ t.isConsistent) ∧
      u.isConsistent ∧ v.isConsistent := by
  obtain ⟨hdistinctOf, hsearchOf, hdistinct, hsearch⟩ := placeholders_fit_parameters
  obtain ⟨s, hs⟩ : ∃ s, distinctOf scattered .size = .ok s := by
    rw [← failure?_eq_none_iff, failure?_distinctOf]
    rfl
  obtain ⟨t, ht⟩ : ∃ t, searchOf 20 scattered 3 = .ok t := by
    rw [← failure?_eq_none_iff, failure?_searchOf]
    rfl
  obtain ⟨u, hu⟩ : ∃ u, distinct FilterMap.recentCars "version" = .ok u :=
    exists_distinct_iff.2 (by decide)
  obtain ⟨v, hv⟩ : ∃ v, search 20 FilterMap.recentCars 0 = .ok v :=
    exists_search_iff.2 (by decide)
  exact ⟨s, t, u, v, hs, ht, hu, hv, hdistinctOf _ _ _ hs, hsearchOf _ _ _ _ ht,
    hdistinct _ _ _ hu, hsearch _ _ _ _ hv⟩

end Query
end FilterQuery
