import FilterQuery.Proofs.FilterMap.Parse
import FilterQuery.Proofs.Query.Placeholders
import FilterQuery.Session.Execute

/-!
# The output of commands

What is printed for a statement says all of the statement: its text has one tree, in which the text
of the statement and each of its parameters can be read.

**Parameters** stand in the output without a mark of their kind.  The tokens tell the kinds apart: a
string, a number that is written as an integer, or a number with a point or an exponent.  A double
that is not finite would be written as null, but casts admit no such double
(`Column.isFinite_of_cast_eq_ok`).

**Results.**
* `Sql.Parameter.Encodes.type_eq`: an element of the output belongs to one kind of parameter.
* `execute_tells_statement`: what is printed.
-/

namespace FilterQuery

open Json
open Sql (Parameter Statement)

/-- Whether a parameter is no double beyond the finite ones. -/
def Sql.Parameter.IsFinite : Parameter → Prop
  | .text _ => True
  | .integer _ => True
  | .float x => x.isFinite = true

/-- A value is never cast to a double that is not finite. -/
theorem Column.isFinite_of_cast_eq_ok
    {column : Column} {value : String} {p : Parameter}
    (h : column.cast value = .ok p) :
    p.IsFinite := by
  rw [cast_eq_ok_iff] at h
  cases htype : column.row.type with
  | text =>
      rw [htype] at h
      obtain rfl := h
      trivial
  | integer =>
      rw [htype] at h
      obtain ⟨m, -, rfl⟩ := h
      trivial
  | float =>
      rw [htype] at h
      obtain ⟨negative, c, e, x, -, -, -, rfl⟩ := h
      rfl

/-- The doubles of a condition are finite. -/
theorem Criteria.isFinite_of_condition_eq_ok
    {criteria : List Criterion} {f : Sql.Fragment}
    (h : condition criteria = .ok f) :
    ∀ p ∈ f.parameters, p.IsFinite := by
  have hcasts := List.Forall₂.flip (of_condition_eq_ok h).2
  exact forall_mem_of_forall₂ hcasts fun _ _ hcast => Column.isFinite_of_cast_eq_ok hcast

namespace Query

variable {m : FilterMap} {s : Statement}

theorem isFinite_distinct
    {name : String}
    (h : distinct m name = .ok s) :
    ∀ p ∈ s.parameters, p.IsFinite := by
  obtain ⟨criteria, -, h⟩ := bind_eq_ok_iff.1 h
  obtain ⟨column, -, h⟩ := bind_eq_ok_iff.1 h
  obtain ⟨literals, f, -, -, hf, -, hparameters⟩ := distinctOf_eq_ok_iff.1 h
  rw [hparameters]
  exact Criteria.isFinite_of_condition_eq_ok hf

theorem isFinite_search
    {rows page : UInt32}
    (h : search rows m page = .ok s) :
    ∀ p ∈ s.parameters, p.IsFinite := by
  obtain ⟨criteria, -, h⟩ := bind_eq_ok_iff.1 h
  obtain ⟨l, o, f, -, -, -, hf, -, hparameters⟩ := searchOf_eq_ok_iff.1 h
  rw [hparameters]
  refine List.forall_mem_append.2 ⟨Criteria.isFinite_of_condition_eq_ok hf, ?_⟩
  simp [Parameter.IsFinite]

end Query

namespace Sql

/-- How an element of the output carries a parameter: a text as its string, an integer as a number
without point and exponent that denotes it, and a finite double as a number with either. -/
inductive Parameter.Encodes : Parameter → Node → Prop
  | text
      {x : String} :
      Encodes (.text x) (.string (textUnits x))
  | integer
      {n : Int64} {token : List Char}
      (hplain : ∀ c ∈ token, c ≠ '.' ∧ c ≠ 'e' ∧ c ≠ 'E')
      (hvalue : Decimal.integer? token = some n.toInt) :
      Encodes (.integer n) (.number token)
  | float
      {x : Binary64} {token : List Char}
      (hfinite : x.isFinite = true)
      (hmark : '.' ∈ token ∨ 'e' ∈ token) :
      Encodes (.float x) (.number token)

/-- The kind of a parameter shows in the element that carries it. -/
theorem Parameter.Encodes.type_eq
    {p q : Parameter} {n : Node}
    (hp : p.Encodes n)
    (hq : q.Encodes n) :
    p.type = q.type := by
  cases hp with
  | @text x =>
      generalize hn : Node.string (textUnits x) = n at hq
      cases hq with
      | text =>
          rfl
      | integer | float =>
          cases hn
  | integer hplain =>
      cases hq with
      | integer =>
          rfl
      | float _ hmark =>
          rcases hmark with hpoint | hletter
          · exact absurd rfl (hplain _ hpoint).1
          · exact absurd rfl (hplain _ hletter).2.1
  | float _ hmark =>
      cases hq with
      | integer hplain =>
          rcases hmark with hpoint | hletter
          · exact absurd rfl (hplain _ hpoint).1
          · exact absurd rfl (hplain _ hletter).2.1
      | float =>
          rfl

/-- A finite parameter is written as a value that tells it and its kind. -/
theorem Parameter.encodes_toJson
    {p : Parameter}
    (h : p.IsFinite) :
    p.Encodes (Node.ofJson p.toJson) := by
  cases p with
  | text x =>
      exact .text
  | integer n =>
      exact .integer (fun c hc => Decimal.integerText_ne hc) (Decimal.integer?_integerText n.toInt)
  | float x =>
      cases x with
      | finite negative x =>
          exact .float rfl (Layout.isNumber_write (by decide) (by decide) negative x).2
      | nan | infinite =>
          cases h

/-- The tree of a statement: its text and what carries its parameters. -/
def Statement.tree (sql : String) (elements : List Node) : Node :=
  .object [(textUnits "sql", .string (textUnits sql)), (textUnits "params", .array elements)]

/-- A statement is written as its text and its parameters. -/
theorem Statement.ofJson_toJson (s : Statement) :
    Node.ofJson s.toJson = tree s.sql (s.parameters.map fun p => Node.ofJson p.toJson) := by
  simp [toJson, tree, Node.ofJson, Node.ofMembers, Node.ofItems_eq_map, Function.comp_def]

theorem Statement.forall₂_encodes
    {ps : List Parameter}
    (h : ∀ p ∈ ps, p.IsFinite) :
    List.Forall₂ Parameter.Encodes ps (ps.map fun p => Node.ofJson p.toJson) := by
  rw [List.forall₂_map_right_iff, List.forall₂_same]
  exact fun p hp => p.encodes_toJson (h p hp)

end Sql

namespace Command

variable {disk : Disk} {places : Places} {rows : UInt32} {command : Command}

/-- The statement that a command compiles the filters it is given to. -/
inductive Compiles (disk : Disk) (places : Places) (rows : UInt32) : Command → Statement → Prop
  | distinct
      {column filters : String} {m : FilterMap} {s : Statement}
      (hm : readFilters disk places filters = .ok m)
      (hs : Query.distinct m column = .ok s) :
      Compiles disk places rows (.distinct column filters) s
  | search
      {page : UInt32} {filters : String} {m : FilterMap} {s : Statement}
      (hm : readFilters disk places filters = .ok m)
      (hs : Query.search rows m page = .ok s) :
      Compiles disk places rows (.search page filters) s

/-- The doubles of a statement that a command compiles are finite. -/
theorem Compiles.isFinite
    {s : Statement}
    (h : Compiles disk places rows command s) :
    ∀ p ∈ s.parameters, p.IsFinite := by
  cases h with
  | distinct hm hs =>
      exact Query.isFinite_distinct hs
  | search hm hs =>
      exact Query.isFinite_search hs

theorem liftQuery_eq_ok_iff
    {α : Type} {x : Except QueryError α} {a : α} :
    liftQuery x = .ok a ↔ x = .ok a := by
  cases x <;> simp [liftQuery]

/-- What a command puts out is a statement unless it lists the columns. -/
theorem exists_compiles_of_output
    {v : Json}
    (hcommand : command ≠ .columns)
    (h : command.output disk places rows = .ok v) :
    ∃ s, Compiles disk places rows command s ∧ v = s.toJson := by
  cases command with
  | columns =>
      exact absurd rfl hcommand
  | distinct column filters =>
      obtain ⟨m, hm, h⟩ := bind_eq_ok_iff.1 h
      obtain ⟨s, hs, h⟩ := bind_eq_ok_iff.1 h
      cases h
      exact ⟨s, .distinct hm (liftQuery_eq_ok_iff.1 hs), rfl⟩
  | search page filters =>
      obtain ⟨m, hm, h⟩ := bind_eq_ok_iff.1 h
      obtain ⟨s, hs, h⟩ := bind_eq_ok_iff.1 h
      cases h
      exact ⟨s, .search hm (liftQuery_eq_ok_iff.1 hs), rfl⟩

/-- A command that compiles its filters is accepted. -/
theorem execute_of_compiles
    {s : Statement}
    (h : Compiles disk places rows command s) :
    command.execute disk places rows = .ok (Json.pretty s.toJson) := by
  have houtput : command.output disk places rows = .ok s.toJson := by
    cases h with
    | distinct hm hs | search hm hs =>
        exact bind_eq_ok_iff.2 ⟨_, hm, bind_eq_ok_iff.2 ⟨s, liftQuery_eq_ok_iff.2 hs, rfl⟩⟩
  rw [execute, houtput]
  rfl

/-- What is printed for a statement has one tree, which holds the text of the statement and the
parameters in their order; without the blanks between its tokens it is the compact form of the
statement. -/
theorem execute_tells_statement
    {printed : String}
    (hcommand : command ≠ .columns)
    (h : command.execute disk places rows = .ok printed) :
    ∃ s elements, Compiles disk places rows command s ∧
      (∀ n, Node.Spelled n printed.toList ↔ n = Statement.tree s.sql elements) ∧
      List.Forall₂ Parameter.Encodes s.parameters elements ∧
      squeezed false printed.toList = (Json.compact s.toJson).toList := by
  rw [execute] at h
  cases houtput : command.output disk places rows with
  | error failure =>
      rw [houtput] at h
      cases h
  | ok v =>
      rw [houtput] at h
      cases h
      obtain ⟨s, hs, rfl⟩ := exists_compiles_of_output hcommand houtput
      have hspelled := spelled_pretty s.toJson
      rw [Statement.ofJson_toJson] at hspelled
      refine ⟨s, _, hs, fun n => ⟨fun hn => hn.unique hspelled, fun hn => hn ▸ hspelled⟩,
        Statement.forall₂_encodes hs.isFinite, squeezed_pretty s.toJson⟩

/-- Filters for cars under a price, as they are given in place. -/
def cheapCars : String :=
  "\x7b\"category\":[[\"car\",\"eq\"]],\"country\":[[\"lv\",\"eq\"]]," ++
    "\"price\":[[\"9.5\",\"lt\"]]\x7d"

theorem execute_tells_statement_cheapCars :
    ∃ printed elements, ∃ s : Statement,
      (Command.search 1 cheapCars).execute ⟨fun _ => .absent .notFound⟩ ⟨"/root", "/"⟩ 20 =
        .ok printed ∧
      Node.Spelled (Statement.tree s.sql elements) printed.toList ∧
      List.Forall₂ Parameter.Encodes s.parameters elements := by
  have hrenders : Payload.Renders [⟨"category", [⟨["car"], "eq"⟩]⟩, ⟨"country", [⟨["lv"], "eq"⟩]⟩,
      ⟨"price", [⟨["9.5"], "lt"⟩]⟩] cheapCars := by
    rw [Payload.Renders, ← Payload.readText_eq_ok_iff]
    decide +kernel
  have hparse := (FilterMap.parse_eq_of_renders (by decide +kernel) hrenders).trans
    (if_neg (by decide))
  obtain ⟨s, hs⟩ : ∃ s, Query.search 20 (FilterMap.ofList [⟨"category", [⟨["car"], "eq"⟩]⟩,
      ⟨"country", [⟨["lv"], "eq"⟩]⟩, ⟨"price", [⟨["9.5"], "lt"⟩]⟩]) 1 = .ok s :=
    Query.exists_search_iff.2 (by decide)
  have hm : readFilters ⟨fun _ => .absent .notFound⟩ ⟨"/root", "/"⟩ cheapCars = .ok _ :=
    bind_eq_ok_iff.2 ⟨cheapCars, by decide +kernel, liftQuery_eq_ok_iff.2 hparse⟩
  have hexecute := execute_of_compiles (.search hm hs)
  obtain ⟨s, elements, -, hspelled, hencodes, -⟩ := execute_tells_statement (by simp) hexecute
  exact ⟨_, elements, s, hexecute, (hspelled _).2 rfl, hencodes⟩

end Command
end FilterQuery
