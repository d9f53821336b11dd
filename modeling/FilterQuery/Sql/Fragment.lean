import FilterQuery.Sql.Statement

/-!
# Fragments

A fragment is a piece of a statement's text together with the parameters of its placeholders.  Two
fragments written one after the other are a fragment again, whose parameters stand in the order of
their placeholders.

**Joins.** A join goes through a list and writes the separator in front of every fragment but the
one in the first place.

**Results.**
* `join_eq`: the text of a join is the joined texts, and its parameters are those of all fragments.
-/

namespace FilterQuery
namespace Sql

/-- A piece of text with the parameters of its placeholders. -/
@[ext]
structure Fragment where
  sql : String
  parameters : List Parameter
deriving DecidableEq

namespace Fragment

/-- The fragment without text and parameters. -/
def empty : Fragment :=
  ⟨"", []⟩

/-- A text without placeholders. -/
def raw (sql : String) : Fragment :=
  ⟨sql, []⟩

/-- A text with one placeholder and its parameter. -/
def bound (sql : String) (parameter : Parameter) : Fragment :=
  ⟨sql, [parameter]⟩

/-- Whether a fragment has no text. -/
def isEmpty (f : Fragment) : Bool :=
  f.sql.isEmpty

/-- One fragment behind another. -/
def append (f g : Fragment) : Fragment :=
  ⟨f.sql ++ g.sql, f.parameters ++ g.parameters⟩

instance : Append Fragment :=
  ⟨append⟩

/-- A fragment with its place in a list behind those that are joined so far: the first one has no
text in front of it. -/
def joinNext (separator : String) (joined : Fragment) : Fragment × Nat → Fragment
  | (f, 0) => joined ++ f
  | (f, _ + 1) => joined ++ raw separator ++ f

/-- Fragments one behind the other, with a text between each two. -/
def join (separator : String) (fs : List Fragment) : Fragment :=
  fs.zipIdx.foldl (joinNext separator) empty

/-- A fragment in parentheses, with a space on their inner sides. -/
def parenthesized (f : Fragment) : Fragment :=
  raw "( " ++ f ++ raw " )"

/-- A fragment as a whole statement. -/
def toStatement (f : Fragment) : Statement :=
  ⟨f.sql, f.parameters⟩

@[simp] theorem sql_empty :
    empty.sql = "" := by
  rfl

@[simp] theorem parameters_empty :
    empty.parameters = [] := by
  rfl

@[simp] theorem sql_append (f g : Fragment) :
    (f ++ g).sql = f.sql ++ g.sql := by
  rfl

@[simp] theorem parameters_append (f g : Fragment) :
    (f ++ g).parameters = f.parameters ++ g.parameters := by
  rfl

@[simp] theorem sql_raw (s : String) :
    (raw s).sql = s := by
  rfl

@[simp] theorem parameters_raw (s : String) :
    (raw s).parameters = [] := by
  rfl

@[simp] theorem sql_bound (s : String) (p : Parameter) :
    (bound s p).sql = s := by
  rfl

@[simp] theorem parameters_bound (s : String) (p : Parameter) :
    (bound s p).parameters = [p] := by
  rfl

/-- Behind the first place every fragment is joined with the text in front of it, so that what is
joined so far counts as the first one. -/
theorem foldl_joinNext (separator : String) (f : Fragment) (fs : List Fragment) (n : Nat) :
    (fs.zipIdx (n + 1)).foldl (joinNext separator) f =
      ⟨separator.intercalate (f.sql :: fs.map sql), f.parameters ++ fs.flatMap parameters⟩ := by
  induction fs generalizing f n with
  | nil =>
      simp
  | cons g fs ih =>
      have hfirst : ∀ l : List String, separator.intercalate ((f.sql ++ separator ++ g.sql) :: l) =
          separator.intercalate (f.sql :: g.sql :: l) := by
        intro l
        cases l <;> simp [String.append_assoc]
      rw [List.zipIdx_cons, List.foldl_cons, ih]
      simp [joinNext, hfirst]

/-- What a join is, without the places. -/
theorem join_eq (separator : String) (fs : List Fragment) :
    join separator fs = ⟨separator.intercalate (fs.map sql), fs.flatMap parameters⟩ := by
  cases fs with
  | nil =>
      rfl
  | cons f fs =>
      have hfirst : joinNext separator empty (f, 0) = f := by
        simp [joinNext, Fragment.ext_iff]
      rw [join, List.zipIdx_cons, List.foldl_cons, hfirst, foldl_joinNext]
      rfl

@[simp] theorem sql_join (separator : String) (fs : List Fragment) :
    (join separator fs).sql = separator.intercalate (fs.map sql) := by
  rw [join_eq]

@[simp] theorem parameters_join (separator : String) (fs : List Fragment) :
    (join separator fs).parameters = fs.flatMap parameters := by
  rw [join_eq]

end Fragment
end Sql
end FilterQuery
