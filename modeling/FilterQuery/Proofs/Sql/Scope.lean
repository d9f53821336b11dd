import FilterQuery.Proofs.Sql.Expression
import FilterQuery.Schema.Column
import FilterQuery.Sql.Statement
import Mathlib.Data.List.Nodup

/-!
# The scope of aliases

The from clause of a statement introduces tables under aliases, one after the other.  A word with a
point refers to the alias in front of it.

**Model.** The clauses are cut out of the tokens of a statement: at the first `from`, the first
`where` behind it and the first `order` behind that.  The from clause falls into tables at `inner`,
the condition into predicates at `and`.  Predicates are not read as expressions, so a condition
without any still has its clauses.

**Results.**
* `clauses?_eq`: the clauses of a statement that is put together from their texts.
* `Clauses.scoped_of_nodup`: aliases are in scope when they are introduced at all, by tables under
  different aliases.
-/

namespace FilterQuery
namespace Sql

namespace Token

/-- What stands before and behind the first place of a token. -/
def cut (t : Token) : List Token → Option (List Token × List Token)
  | [] => none
  | u :: ts =>
      if u = t then some ([], ts)
      else
        match cut t ts with
        | some (front, rest) => some (u :: front, rest)
        | none => none

/-- The alias in front of the point of a word. -/
def qualifier? : Token → Option String
  | .word w =>
      if '.' ∈ w.toList then some (String.ofList (w.toList.takeWhile (· ≠ '.'))) else none
  | _ => none

def qualifiers (ts : List Token) : List String :=
  ts.filterMap qualifier?

theorem cut_append
    {t : Token} {front : List Token}
    (h : t ∉ front)
    (rest : List Token) :
    cut t (front ++ t :: rest) = some (front, rest) := by
  induction front with
  | nil =>
      simp [cut]
  | cons u front ih =>
      rw [List.mem_cons, not_or] at h
      rw [List.cons_append, cut, if_neg (Ne.symm h.1), ih h.2]

theorem qualifiers_append (ts us : List Token) :
    qualifiers (ts ++ us) = qualifiers ts ++ qualifiers us :=
  List.filterMap_append

theorem mem_qualifiers
    {ts : List Token} {q : String} :
    q ∈ qualifiers ts ↔ ∃ t ∈ ts, t.qualifier? = some q :=
  List.mem_filterMap

end Token

/-- A table of a from clause, with its alias and the condition on which it is joined. -/
structure Source where
  table : String
  qualifier : String
  condition : List Token
deriving DecidableEq

namespace Source

/-- The table that others are joined to. -/
def base? : List Token → Option Source
  | [.word table, .word qualifier] => some ⟨table, qualifier, []⟩
  | _ => none

def joined? : List Token → Option Source
  | .word "join" :: .word table :: .word qualifier :: .word "on" :: condition =>
      some ⟨table, qualifier, condition⟩
  | _ => none

/-- The tables of a from clause. -/
def read? (ts : List Token) : Option (List Source) :=
  match ts.splitOn (.word "inner") with
  | [] => none
  | base :: joins => do
      let base ← base? base
      let joins ← joins.mapM joined?
      return base :: joins

/-- Whether the condition of each table refers only to its own alias, to known ones and to those of
the tables before it. -/
def Scoped (known : List String) : List Source → Prop
  | [] => True
  | source :: sources =>
      (∀ q ∈ Token.qualifiers source.condition, q ∈ source.qualifier :: known) ∧
        Scoped (source.qualifier :: known) sources

instance decidableScoped : (known : List String) → (sources : List Source) →
    Decidable (Scoped known sources)
  | _, [] => isTrue trivial
  | known, source :: sources =>
      have := decidableScoped (source.qualifier :: known) sources
      inferInstanceAs (Decidable (_ ∧ _))

/-- What conditions refer to is known or introduced. -/
theorem mem_of_scoped
    {known : List String} {sources : List Source} {q : String}
    (h : Scoped known sources)
    (hq : q ∈ Token.qualifiers (sources.flatMap condition)) :
    q ∈ known ∨ q ∈ sources.map qualifier := by
  induction sources generalizing known with
  | nil =>
      simp [Token.qualifiers] at hq
  | cons source sources ih =>
      obtain ⟨hsource, hsources⟩ := h
      rw [List.flatMap_cons, Token.qualifiers_append, List.mem_append] at hq
      rw [List.map_cons, List.mem_cons]
      rcases hq with hq | hq
      · rcases List.mem_cons.1 (hsource q hq) with hq | hq
        · exact Or.inr (Or.inl hq)
        · exact Or.inl hq
      · rcases ih hsources hq with hq | hq
        · rcases List.mem_cons.1 hq with hq | hq
          · exact Or.inr (Or.inl hq)
          · exact Or.inl hq
        · exact Or.inr (Or.inr hq)

end Source

/-- The clauses of a statement: what it selects, the tables, the predicates of the condition and the
order. -/
structure Clauses where
  selected : List Token
  sources : List Source
  predicates : List (List Token)
  ordered : List Token
deriving DecidableEq

namespace Clauses

def tables (c : Clauses) : List String :=
  c.sources.map Source.table

def qualifiers (c : Clauses) : List String :=
  Token.qualifiers (c.selected ++ c.sources.flatMap Source.condition ++ c.predicates.flatten
    ++ c.ordered)

/-- Whether every alias is introduced exactly once, tables are joined on aliases that are already
introduced, and a column without an alias at the head of a predicate is one of a table in the from
clause. -/
structure Scoped (c : Clauses) : Prop where
  introduced : ∀ q ∈ c.qualifiers, (c.sources.map Source.qualifier).count q = 1
  joined : Source.Scoped [] c.sources
  bare : ∀ (name : String) (ts : List Token), .word name :: ts ∈ c.predicates →
    Token.qualifier? (.word name) = none →
      ∃ column : Column, column.name = name ∧ column.table.name ∈ c.tables

/-- Clauses are scoped when each alias is declared once and before it is used. -/
theorem scoped_of_nodup
    {c : Clauses}
    (hnodup : (c.sources.map Source.qualifier).Nodup)
    (hselected : ∀ q ∈ Token.qualifiers c.selected, q ∈ c.sources.map Source.qualifier)
    (hjoined : Source.Scoped [] c.sources)
    (hpredicates : ∀ p ∈ c.predicates, ∀ q ∈ Token.qualifiers p,
      q ∈ c.sources.map Source.qualifier)
    (hbare : ∀ (name : String) (ts : List Token), .word name :: ts ∈ c.predicates →
      Token.qualifier? (.word name) = none →
        ∃ column : Column, column.name = name ∧ column.table.name ∈ c.tables)
    (hordered : ∀ q ∈ Token.qualifiers c.ordered, q ∈ c.sources.map Source.qualifier) :
    c.Scoped where
  introduced := by
    intro q hq
    refine List.count_eq_one_of_mem hnodup ?_
    rw [qualifiers, Token.qualifiers_append, Token.qualifiers_append, Token.qualifiers_append,
      List.mem_append, List.mem_append, List.mem_append] at hq
    rcases hq with ((hq | hq) | hq) | hq
    · exact hselected q hq
    · exact (Source.mem_of_scoped hjoined hq).resolve_left List.not_mem_nil
    · obtain ⟨t, ht, htq⟩ := Token.mem_qualifiers.1 hq
      obtain ⟨p, hp, htp⟩ := List.mem_flatten.1 ht
      exact hpredicates p hp q (Token.mem_qualifiers.2 ⟨t, htp, htq⟩)
    · exact hordered q hq
  joined := hjoined
  bare := hbare

end Clauses

/-- The clauses of a statement. -/
def Statement.clauses? (s : Statement) : Option Clauses := do
  let (selected, rest) ← Token.cut (.word "from") (Token.ofText s.sql.toList)
  let (tables, rest) ← Token.cut (.word "where") rest
  let (condition, ordered) ← Token.cut (.word "order") rest
  let sources ← Source.read? tables
  return ⟨selected, sources, condition.splitOn .and, ordered⟩

/-- What stands around each `and` of a condition, of which one may stand in front of the first
expression. -/
def Expression.pieces : List Expression → List (List Token)
  | [] => [[]]
  | e :: es => (e :: es).map tokens

theorem Expression.pieces_ne_nil (es : List Expression) :
    pieces es ≠ [] := by
  cases es <;> simp [pieces]

/-- The predicates of a conjunction are its parts. -/
theorem Expression.mem_pieces
    {es : List Expression} {ts : List Token}
    (h : ts ∈ pieces es) :
    ts = [] ∨ ∃ e ∈ es, e.tokens = ts := by
  cases es with
  | nil =>
      exact Or.inl (List.mem_singleton.1 h)
  | cons e es =>
      exact Or.inr (List.mem_map.1 h)

/-- Expressions joined by `and`, with further ones behind them, are divided by the connectives,
also when there is nothing in front of the first one. -/
theorem Expression.ofText_condition
    {es xs : List Expression} {s : List Char}
    (hes : ∀ e ∈ es, e.Legible)
    (hxs : ∀ x ∈ xs, x.Legible)
    (hs : Token.Separated s) :
    Token.ofText ((" and ".intercalate (es.map text)
        ++ String.join (xs.map fun x => " and " ++ x.text)).toList ++ s) =
      [Token.and].intercalate (pieces es ++ xs.map tokens) ++ Token.ofText s := by
  cases es with
  | nil =>
      cases xs with
      | nil =>
          rfl
      | cons x xs =>
          have htext : " and ".intercalate (([] : List Expression).map text)
              ++ String.join ((x :: xs).map fun x => " and " ++ x.text) =
                " and " ++ (all x xs).text := by
            have happend := text_all_append x [] xs
            rw [List.nil_append, all] at happend
            rw [happend, List.map_nil, String.intercalate_nil, String.empty_append, List.map_cons,
              String.join_cons, String.append_assoc]
          have hand : Token.ofText ((" and " ++ (all x xs).text).toList ++ s) =
              .and :: Token.ofText ((all x xs).text.toList ++ s) := by
            rw [String.toList_append, List.append_assoc]
            rfl
          rw [htext, hand, ofText_text (legible_all hxs) hs, tokens_all, pieces,
            List.map_cons, List.singleton_append, List.intercalate_cons_cons]
          rfl
  | cons e es =>
      have hlegible : ∀ f ∈ e :: (es ++ xs), f.Legible := by
        rw [← List.cons_append]
        intro f hf
        exact (List.mem_append.1 hf).elim (hes f) (hxs f)
      rw [← text_all, ← text_all_append, ofText_text (legible_all hlegible) hs, tokens_all, pieces,
        ← List.map_append, List.cons_append]

/-- A statement has the clauses that it is put together from. -/
theorem clauses?_eq
    {s : Statement} {selected tables condition tail : String} {sources : List Source}
    {predicates : List (List Token)}
    (hsql : s.sql =
      selected ++ " from " ++ tables ++ " where " ++ condition ++ " order by " ++ tail)
    (hselected : '\'' ∉ selected.toList ∧ .word "from" ∉ Token.ofText selected.toList)
    (htables : '\'' ∉ tables.toList ∧ .word "where" ∉ Token.ofText tables.toList)
    (hsources : Source.read? (Token.ofText tables.toList) = some sources)
    (hcondition : ∀ s : List Char, Token.Separated s →
      Token.ofText (condition.toList ++ s) = [Token.and].intercalate predicates ++ Token.ofText s)
    (hne : predicates ≠ [])
    (hpredicates : ∀ p ∈ predicates, .and ∉ p ∧ .word "order" ∉ p) :
    s.clauses? = some
      ⟨Token.ofText selected.toList, sources, predicates,
        .word "by" :: Token.ofText tail.toList⟩ := by
  have hfrom : ∀ t : List Char,
      Token.ofText ("from ".toList ++ t) = .word "from" :: Token.ofText t := fun _ => rfl
  have hwhere : ∀ t : List Char,
      Token.ofText ("where ".toList ++ t) = .word "where" :: Token.ofText t := fun _ => rfl
  have horder : ∀ t : List Char,
      Token.ofText ("order by ".toList ++ t) =
        .word "order" :: .word "by" :: Token.ofText t := fun _ => rfl
  have hlist : s.sql.toList = selected.toList ++ ' ' :: ("from ".toList ++
      (tables.toList ++ ' ' :: ("where ".toList ++
        (condition.toList ++ ' ' :: ("order by ".toList ++ tail.toList))))) := by
    simp [hsql, String.toList_append]
  have htokens : Token.ofText s.sql.toList = Token.ofText selected.toList ++ .word "from" ::
      (Token.ofText tables.toList ++ .word "where" ::
        ([Token.and].intercalate predicates ++ .word "order" ::
          .word "by" :: Token.ofText tail.toList)) := by
    rw [hlist, Token.ofText_append_blank hselected.1, hfrom, Token.ofText_append_blank htables.1,
      hwhere, hcondition _ (Token.separated_cons _), Token.ofText_blank, horder]
  have hordered : .word "order" ∉ [Token.and].intercalate predicates :=
    not_mem_intercalate (by simp) fun p hp => (hpredicates p hp).2
  have hsplit : ([Token.and].intercalate predicates).splitOn .and = predicates :=
    List.splitOn_intercalate .and (fun p hp => (hpredicates p hp).1) hne
  rw [Statement.clauses?, htokens, Token.cut_append hselected.2]
  simp only [Option.bind_eq_bind, Option.bind_some]
  rw [Token.cut_append htables.2]
  simp only [Option.bind_some]
  rw [Token.cut_append hordered]
  simp only [Option.bind_some, hsources, hsplit]
  rfl

example :
    (⟨"select p.link from products p inner join shops s on s.id = p.shop_id "
      ++ "where s.country = ? and year <> -1 order by p.link", []⟩ : Statement).clauses? = some
      ⟨[.word "select", .word "p.link"],
        [⟨"products", "p", []⟩, ⟨"shops", "s", [.word "s.id", .word "=", .word "p.shop_id"]⟩],
        [[.word "s.country", .word "=", .placeholder], [.word "year", .word "<>", .word "-1"]],
        [.word "by", .word "p.link"]⟩ := by
  decide +kernel

end Sql
end FilterQuery
