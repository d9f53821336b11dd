import FilterQuery.Proofs.Query.Placeholders
import FilterQuery.Proofs.Sql.Scope

/-!
# The scope of a query

Which tables a query joins, and that these are the ones its clauses refer to.

**Method.** The joins are planned from the columns of the criteria, predicates are written with the
aliases of their columns, exclusions without any, and a search shows the same columns always.  All
of these refer to tables by `Table.qualifier`, so the clauses are in scope when the table of every
column that is written is among the joins.

**Results.**
* `Join.table_mem_tables_plan`: the plan joins the tables of all columns of the criteria and of the
  projected column.
* `clauses_scoped`: the clauses of an accepted statement are in scope, and the product attributes
  are joined only for a column of theirs.
-/

namespace FilterQuery

open Sql (Clauses Expression Fragment Join Source Statement Token)

namespace Sql

/-- Whether a token may stand in a predicate on a column of a table. -/
structure Token.Inside (table : Table) (u : Token) : Prop where
  ne_and : u ≠ .and
  ne_order : u ≠ .word "order"
  qualifier : ∀ q, u.qualifier? = some q → q = table.qualifier

namespace Join

/-- The text of a from clause behind its first word. -/
def text (joins : List Join) : String :=
  base.name ++ " " ++ base.qualifier ++ String.join (joins.map fun j => " " ++ j.sql)

def tables (joins : List Join) : List Table :=
  base :: joins.map table

/-- A join as it is read from a from clause. -/
def source (j : Join) : Source :=
  ⟨j.table.name, j.table.qualifier, Token.ofText j.condition.toList⟩

def sources (joins : List Join) : List Source :=
  ⟨base.name, base.qualifier, []⟩ :: joins.map source

theorem fromClause_eq (joins : List Join) :
    fromClause joins = " from " ++ text joins := by
  simp only [fromClause, text, String.append_assoc]

theorem map_qualifier_sources (joins : List Join) :
    (sources joins).map Source.qualifier = (tables joins).map Table.qualifier := by
  simp [sources, tables, source]

theorem map_table_sources (joins : List Join) :
    (sources joins).map Source.table = (tables joins).map Table.name := by
  simp [sources, tables, source]

/-- There are two plans. -/
theorem plan_cases (criteria : List Criterion) (projected : Option Column) :
    plan criteria projected = [shops] ∨ plan criteria projected = search := by
  rw [plan]
  split
  · exact Or.inr rfl
  · exact Or.inl rfl

/-- The attributes are joined when the projected column or one of the criteria is theirs. -/
theorem needsAttributes_iff
    {criteria : List Criterion} {column : Column} :
    needsAttributes criteria (some column) ↔
      column.table = .productAttributes ∨
        ∃ c ∈ criteria, c.column.table = .productAttributes := by
  simp [needsAttributes, Column.name_mem_namesOf_iff, or_comm]

theorem mem_tables_search (table : Table) :
    table ∈ tables search := by
  cases table <;> decide

/-- The tables of the columns for which joins are planned are joined. -/
theorem table_mem_tables_plan
    {criteria : List Criterion} {column column' : Column}
    (h : column' = column ∨ ∃ c ∈ criteria, c.column = column') :
    column'.table ∈ tables (plan criteria (some column)) := by
  by_cases hattributes : needsAttributes criteria (some column)
  · rw [plan, if_pos hattributes]
    exact mem_tables_search column'.table
  · have hne : column'.table ≠ .productAttributes := by
      intro htable
      rw [needsAttributes_iff] at hattributes
      rcases h with rfl | ⟨c, hc, rfl⟩
      · exact hattributes (Or.inl htable)
      · exact hattributes (Or.inr ⟨c, hc, htable⟩)
    rw [plan, if_neg hattributes]
    cases htable : column'.table with
    | shops =>
        decide
    | products =>
        decide
    | productAttributes =>
        exact absurd htable hne

section Planned

variable {joins : List Join}
variable (h : joins = [shops] ∨ joins = search)

include h

theorem text_unmarked :
    '\'' ∉ (text joins).toList ∧ .word "where" ∉ Token.ofText (text joins).toList := by
  rcases h with rfl | rfl
  · decide +kernel
  · decide +kernel

/-- The sources are read back from the text of joins. -/
theorem read?_text :
    Source.read? (Token.ofText (text joins).toList) = some (sources joins) := by
  rcases h with rfl | rfl
  · decide +kernel
  · decide +kernel

/-- The condition of each join speaks of tables that are declared by then. -/
theorem scoped_sources :
    Source.Scoped [] (sources joins) := by
  rcases h with rfl | rfl
  · decide
  · decide

/-- No alias is declared twice. -/
theorem nodup_qualifiers :
    ((sources joins).map Source.qualifier).Nodup := by
  rcases h with rfl | rfl
  · decide
  · decide

end Planned

end Join

/-- Tokens without an alias may stand in predicates on columns of any table. -/
theorem Token.inside_of_qualifier?_eq_none
    {u : Token}
    (h : u ≠ .and ∧ u ≠ .word "order" ∧ u.qualifier? = none)
    (table : Table) :
    Token.Inside table u where
  ne_and := h.1
  ne_order := h.2.1
  qualifier := by
    intro q hq
    rw [h.2.2] at hq
    cases hq

/-- The tokens of alternatives are theirs and the connectives. -/
theorem Expression.forall_tokens_any
    {P : Token → Prop} {e : Expression} {es : List Expression}
    (hor : P .or)
    (h : ∀ f ∈ e :: es, ∀ u ∈ f.tokens, P u) :
    ∀ u ∈ (any e es).tokens, P u := by
  induction es generalizing e with
  | nil =>
      exact h e List.mem_cons_self
  | cons f fs ih =>
      rw [List.forall_mem_cons] at h
      rw [any, tokens, List.forall_mem_append, List.forall_mem_cons]
      exact ⟨h.1, hor, ih h.2⟩

end Sql

namespace Column

theorem qualifier?_qualified (column : Column) :
    Token.qualifier? (.word column.qualified) = some column.table.qualifier := by
  cases column <;> decide

theorem inside_qualified (column : Column) :
    Token.Inside column.table (.word column.qualified) where
  ne_and := by
    simp
  ne_order := by
    cases column <;> decide
  qualifier := by
    intro q hq
    rw [qualifier?_qualified] at hq
    exact (Option.some.inj hq).symm

theorem ofText_qualified (column : Column) :
    Token.ofText column.qualified.toList = [.word column.qualified] := by
  have h := Token.ofText_append_word (column.legible_placeholder .eq).1 Token.separated_nil
  rwa [List.append_nil] at h

theorem ofText_selected (column : Column) :
    Token.ofText ("select distinct " ++ column.qualified).toList =
      [.word "select", .word "distinct", .word column.qualified] := by
  rw [String.toList_append, ← ofText_qualified]
  rfl

theorem selected_unmarked (column : Column) :
    '\'' ∉ ("select distinct " ++ column.qualified).toList ∧
      .word "from" ∉ Token.ofText ("select distinct " ++ column.qualified).toList := by
  rw [ofText_selected]
  cases column <;> decide

/-- A projected column refers to its table. -/
theorem qualifiers_selected (column : Column) :
    Token.qualifiers (Token.ofText ("select distinct " ++ column.qualified).toList) =
      [column.table.qualifier] := by
  rw [ofText_selected, Token.qualifiers, List.filterMap_cons_none (by decide),
    List.filterMap_cons_none (by decide), List.filterMap_cons_some column.qualifier?_qualified,
    List.filterMap_nil]

/-- The order by a column refers to its table. -/
theorem qualifiers_ordered (column : Column) :
    Token.qualifiers (.word "by" :: Token.ofText column.qualified.toList) =
      [column.table.qualifier] := by
  rw [ofText_qualified, Token.qualifiers, List.filterMap_cons_none (by decide),
    List.filterMap_cons_some column.qualifier?_qualified, List.filterMap_nil]

theorem inside_placeholder (column : Column) (c : Comparison) :
    ∀ u ∈ (column.placeholder c.symbol).tokens, Token.Inside column.table u := by
  have hsymbol : Token.Inside column.table (.word c.symbol) := by
    refine Token.inside_of_qualifier?_eq_none ?_ _
    cases c <;> decide
  rw [placeholder, Expression.tokens, List.forall_mem_cons, List.forall_mem_cons,
    List.forall_mem_singleton]
  exact ⟨column.inside_qualified, hsymbol, Token.inside_of_qualifier?_eq_none (by decide) _⟩

/-- Whether an expression leaves out a value of a column of one of the tables. -/
def Excludes (tables : List Table) (x : Expression) : Prop :=
  ∃ column literals, excluded? column = some literals ∧ x ∈ column.exclusions literals ∧
    column.table ∈ tables

/-- Exclusions refer to no table. -/
theorem inside_exclusion
    {column : Column} {literals : List String} {x : Expression}
    (h : column.excluded? = some literals)
    (hx : x ∈ column.exclusions literals) :
    ∀ u ∈ x.tokens, Token.Inside column.table u := by
  obtain ⟨l, hl, rfl⟩ := List.mem_map.1 hx
  have hname : Token.Inside column.table (.word column.name) := by
    refine Token.inside_of_qualifier?_eq_none ?_ _
    cases column <;> decide
  have hliteral : Token.Inside column.table (Sql.Operand.literal l).token := by
    refine Token.inside_of_qualifier?_eq_none ?_ _
    have hmem := mem_of_excluded?_eq_some h hl
    simp only [List.mem_cons, List.not_mem_nil, or_false] at hmem
    rcases hmem with rfl | rfl | rfl | rfl <;> decide
  rw [Expression.tokens, List.forall_mem_cons, List.forall_mem_cons, List.forall_mem_singleton]
  exact ⟨hname, Token.inside_of_qualifier?_eq_none (by decide) _, hliteral⟩

end Column

namespace Test

/-- A test refers to the table of its column. -/
theorem inside_expression (column : Column) (t : Test) :
    ∀ u ∈ (t.expression column).tokens, Token.Inside column.table u := by
  obtain ⟨operator, values⟩ := t
  cases operator with
  | compare c =>
      exact column.inside_placeholder c
  | anyOf =>
      rw [expression, Expression.tokens, List.forall_mem_cons, List.forall_mem_append,
        List.forall_mem_singleton]
      refine ⟨Token.inside_of_qualifier?_eq_none (by decide) _, ?_,
        Token.inside_of_qualifier?_eq_none (by decide) _⟩
      refine Expression.forall_tokens_any (Token.inside_of_qualifier?_eq_none (by decide) _) ?_
      intro e he
      rw [← List.replicate_succ] at he
      rw [List.eq_of_mem_replicate he]
      exact column.inside_placeholder .eq

/-- A test begins with the full name of its column or with a parenthesis. -/
theorem qualifier?_ne_none_of_tokens_eq
    {column : Column} {t : Test} {name : String} {ts : List Token}
    (h : (t.expression column).tokens = .word name :: ts) :
    Token.qualifier? (.word name) ≠ none := by
  obtain ⟨operator, values⟩ := t
  cases operator with
  | compare c =>
      obtain ⟨hname, -⟩ := List.cons.inj h
      rw [← hname, Column.qualifier?_qualified]
      simp
  | anyOf =>
      cases (List.cons.inj h).1

end Test

namespace Query

section Clauses

variable {criteria : List Criterion} {xs : List Expression} {tables : List Table}

/-- What the predicates of a statement refer to. -/
theorem inside_of_mem_predicates
    (hcriteria : ∀ c ∈ criteria, c.column.table ∈ tables)
    (hxs : ∀ x ∈ xs, Column.Excludes tables x)
    {p : List Token}
    (hp : p ∈ Expression.pieces (Criteria.expressions criteria) ++ xs.map Expression.tokens) :
    ∀ u ∈ p, ∃ table ∈ tables, Token.Inside table u := by
  intro u hu
  rcases List.mem_append.1 hp with hp | hp
  · rcases Expression.mem_pieces hp with rfl | ⟨e, he, rfl⟩
    · cases hu
    · obtain ⟨⟨column, t⟩, ht, rfl⟩ := List.mem_map.1 he
      obtain ⟨c, hc, rfl, -⟩ := Criteria.mem_tests.1 ht
      exact ⟨_, hcriteria c hc, Test.inside_expression _ t u hu⟩
  · obtain ⟨x, hx, rfl⟩ := List.mem_map.1 hp
    obtain ⟨column, literals, hliterals, hmem, htable⟩ := hxs x hx
    exact ⟨_, htable, Column.inside_exclusion hliterals hmem u hu⟩

/-- Only exclusions begin with a column without an alias. -/
theorem exists_column_of_mem_predicates
    (hxs : ∀ x ∈ xs, Column.Excludes tables x)
    {name : String} {ts : List Token}
    (hp : .word name :: ts ∈
      Expression.pieces (Criteria.expressions criteria) ++ xs.map Expression.tokens)
    (hbare : Token.qualifier? (.word name) = none) :
    ∃ column : Column, column.name = name ∧ column.table ∈ tables := by
  rcases List.mem_append.1 hp with hp | hp
  · rcases Expression.mem_pieces hp with hnil | ⟨e, he, hts⟩
    · cases hnil
    · obtain ⟨⟨column, t⟩, -, rfl⟩ := List.mem_map.1 he
      exact absurd hbare (Test.qualifier?_ne_none_of_tokens_eq hts)
  · obtain ⟨x, hx, hts⟩ := List.mem_map.1 hp
    obtain ⟨column, literals, -, hmem, htable⟩ := hxs x hx
    obtain ⟨l, -, rfl⟩ := List.mem_map.1 hmem
    exact ⟨column, Token.word.inj (List.cons.inj hts).1, htable⟩

/-- The clauses are in scope when the tables of all columns in them are joined. -/
theorem scoped_clauses
    {joins : List Join} {selected ordered : List Token}
    (hjoins : joins = [Join.shops] ∨ joins = Join.search)
    (hcriteria : ∀ c ∈ criteria, c.column.table ∈ Join.tables joins)
    (hxs : ∀ x ∈ xs, Column.Excludes (Join.tables joins) x)
    (hselected : ∀ q ∈ Token.qualifiers selected, q ∈ (Join.tables joins).map Table.qualifier)
    (hordered : ∀ q ∈ Token.qualifiers ordered, q ∈ (Join.tables joins).map Table.qualifier) :
    Clauses.Scoped ⟨selected, Join.sources joins,
      Expression.pieces (Criteria.expressions criteria) ++ xs.map Expression.tokens, ordered⟩ := by
  rw [← Join.map_qualifier_sources] at hselected hordered
  refine Clauses.scoped_of_nodup (Join.nodup_qualifiers hjoins) hselected
    (Join.scoped_sources hjoins) ?_ ?_ hordered
  · intro p hp q hq
    obtain ⟨u, hu, huq⟩ := Token.mem_qualifiers.1 hq
    obtain ⟨table, htable, hinside⟩ := inside_of_mem_predicates hcriteria hxs hp u hu
    rw [hinside.qualifier q huq, Join.map_qualifier_sources]
    exact List.mem_map_of_mem htable
  · intro name ts hp hbare
    obtain ⟨column, hname, htable⟩ := exists_column_of_mem_predicates hxs hp hbare
    refine ⟨column, hname, ?_⟩
    rw [Clauses.tables, Join.map_table_sources]
    exact List.mem_map_of_mem htable

/-- The clauses of a statement are found in its text. -/
theorem clauses?_eq_some
    {f : Fragment} {s : Statement} {joins : List Join} {selected tail : String}
    (hf : Criteria.condition criteria = .ok f)
    (hjoins : joins = [Join.shops] ∨ joins = Join.search)
    (hcriteria : ∀ c ∈ criteria, c.column.table ∈ Join.tables joins)
    (hxs : ∀ x ∈ xs, Column.Excludes (Join.tables joins) x)
    (hselected : '\'' ∉ selected.toList ∧ .word "from" ∉ Token.ofText selected.toList)
    (hsql : s.sql = selected ++ Join.fromClause joins ++ " where " ++ f.sql
      ++ String.join (xs.map fun x => " and " ++ x.text) ++ " order by " ++ tail) :
    s.clauses? = some ⟨Token.ofText selected.toList, Join.sources joins,
      Expression.pieces (Criteria.expressions criteria) ++ xs.map Expression.tokens,
      .word "by" :: Token.ofText tail.toList⟩ := by
  have hlegible : ∀ x ∈ xs, x.Legible := by
    intro x hx
    obtain ⟨column, literals, hliterals, hmem, -⟩ := hxs x hx
    exact Column.legible_of_mem_exclusions hliterals hmem
  have hsql' : s.sql = selected ++ " from " ++ Join.text joins ++ " where " ++
      (f.sql ++ String.join (xs.map fun x => " and " ++ x.text)) ++ " order by " ++ tail := by
    rw [hsql, Join.fromClause_eq]
    simp only [String.append_assoc]
  refine Sql.clauses?_eq hsql' hselected (Join.text_unmarked hjoins) (Join.read?_text hjoins)
    ?_ ?_ ?_
  · intro t ht
    rw [(Criteria.of_condition_eq_ok hf).1]
    exact Expression.ofText_condition (fun _ he => Criteria.legible_of_mem_expressions he)
      hlegible ht
  · simp [Expression.pieces_ne_nil]
  · intro p hp
    have hinside := inside_of_mem_predicates hcriteria hxs hp
    constructor
    · intro hand
      obtain ⟨table, -, h⟩ := hinside _ hand
      exact h.ne_and rfl
    · intro horder
      obtain ⟨table, -, h⟩ := hinside _ horder
      exact h.ne_order rfl

end Clauses

/-- The clauses for distinct values are read back, and they are scoped. -/
theorem distinctOf_scoped
    {criteria : List Criterion} {column : Column} {s : Statement}
    (h : distinctOf criteria column = .ok s) :
    ∃ c, s.clauses? = some c ∧ c.Scoped ∧
      c.tables = (Join.tables (Join.plan (Criteria.byPriority criteria) (some column))).map
        Table.name := by
  obtain ⟨literals, f, -, hliterals, hf, hsql, -⟩ := distinctOf_eq_ok_iff.1 h
  have hjoins := Join.plan_cases (Criteria.byPriority criteria) (some column)
  have hplan : ∀ column', (column' = column ∨ ∃ c ∈ Criteria.byPriority criteria,
      c.column = column') → column'.table ∈
        Join.tables (Join.plan (Criteria.byPriority criteria) (some column)) :=
    fun _ => Join.table_mem_tables_plan
  rw [distinctFront_eq, ← String.append_assoc] at hsql
  generalize Join.plan (Criteria.byPriority criteria) (some column) = joins at *
  have hcriteria : ∀ c ∈ Criteria.byPriority criteria, c.column.table ∈ Join.tables joins :=
    fun c hc => hplan c.column (Or.inr ⟨c, hc, rfl⟩)
  have hxs : ∀ x ∈ column.exclusions literals, Column.Excludes (Join.tables joins) x :=
    fun x hx => ⟨column, literals, hliterals, hx, hplan column (Or.inl rfl)⟩
  have hqualifier : column.table.qualifier ∈ (Join.tables joins).map Table.qualifier :=
    List.mem_map_of_mem (hplan column (Or.inl rfl))
  refine ⟨_, clauses?_eq_some hf hjoins hcriteria hxs column.selected_unmarked hsql,
    scoped_clauses hjoins hcriteria hxs ?_ ?_, Join.map_table_sources _⟩
  · rwa [column.qualifiers_selected, List.forall_mem_singleton]
  · rwa [column.qualifiers_ordered, List.forall_mem_singleton]

/-- The clauses of a search are read back, and they are scoped. -/
theorem searchOf_scoped
    {rows page : UInt32} {criteria : List Criterion} {s : Statement}
    (h : searchOf rows criteria page = .ok s) :
    ∃ c, s.clauses? = some c ∧ c.Scoped ∧
      c.tables = (Join.tables Join.search).map Table.name := by
  obtain ⟨l, o, f, -, -, -, hf, hsql, -⟩ := searchOf_eq_ok_iff.1 h
  rw [search_text_eq, searchFront] at hsql
  have hcriteria : ∀ c ∈ Criteria.byPriority criteria, c.column.table ∈ Join.tables Join.search :=
    fun c _ => Join.mem_tables_search c.column.table
  refine ⟨_, clauses?_eq_some hf (Or.inr rfl) hcriteria (by simp) (by decide +kernel) hsql,
    scoped_clauses (Or.inr rfl) hcriteria (by simp) (by decide +kernel) (by decide),
    Join.map_table_sources _⟩

/-- In every accepted statement the aliases are in scope.  A list of distinct values joins the
product attributes exactly when its column or that of a criterion is one of theirs, a search always
does. -/
theorem clauses_scoped :
    (∀ (criteria : List Criterion) (column : Column) (s : Statement),
      distinctOf criteria column = .ok s →
        ∃ c, s.clauses? = some c ∧ c.Scoped ∧
          c.tables =
            if column.table = .productAttributes ∨
                ∃ d ∈ criteria, d.column.table = .productAttributes then
              ["products", "shops", "product_attributes"]
            else ["products", "shops"]) ∧
    ∀ (rows : UInt32) (criteria : List Criterion) (page : UInt32) (s : Statement),
      searchOf rows criteria page = .ok s →
        ∃ c, s.clauses? = some c ∧ c.Scoped ∧
          c.tables = ["products", "shops", "product_attributes"] := by
  constructor
  · intro criteria column s h
    obtain ⟨c, hc, hscoped, htables⟩ := distinctOf_scoped h
    refine ⟨c, hc, hscoped, ?_⟩
    have hneeds : Join.needsAttributes (Criteria.byPriority criteria) (some column) ↔
        column.table = .productAttributes ∨
          ∃ d ∈ criteria, d.column.table = .productAttributes := by
      simp [Join.needsAttributes_iff]
    rw [htables, Join.plan, if_congr hneeds rfl rfl]
    split
    · rfl
    · rfl
  · intro rows criteria page s h
    exact searchOf_scoped h

theorem clauses_scoped_scattered :
    ∃ s t u,
      distinctOf scattered .size = .ok s ∧ distinctOf scattered .version = .ok t ∧
      searchOf 20 scattered 3 = .ok u ∧
      (∃ c, s.clauses? = some c ∧ c.Scoped ∧
        c.tables = ["products", "shops", "product_attributes"]) ∧
      (∃ c, t.clauses? = some c ∧ c.Scoped ∧ c.tables = ["products", "shops"]) ∧
      ∃ c, u.clauses? = some c ∧ c.Scoped ∧
        c.tables = ["products", "shops", "product_attributes"] := by
  obtain ⟨hdistinctOf, hsearchOf⟩ := clauses_scoped
  obtain ⟨s, hs⟩ : ∃ s, distinctOf scattered .size = .ok s :=
    exists_distinctOf_iff.2 rfl
  obtain ⟨t, ht⟩ : ∃ t, distinctOf scattered .version = .ok t :=
    exists_distinctOf_iff.2 rfl
  obtain ⟨u, hu⟩ : ∃ u, searchOf 20 scattered 3 = .ok u :=
    exists_searchOf_iff.2 rfl
  obtain ⟨c, hc, hscoped, htables⟩ := hdistinctOf _ _ _ hs
  obtain ⟨d, hd, hscoped', htables'⟩ := hdistinctOf _ _ _ ht
  exact ⟨s, t, u, hs, ht, hu, ⟨c, hc, hscoped, htables.trans (if_pos (by decide))⟩,
    ⟨d, hd, hscoped', htables'.trans (if_neg (by decide))⟩, hsearchOf _ _ _ _ hu⟩

end Query
end FilterQuery
