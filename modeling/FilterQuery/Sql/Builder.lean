import FilterQuery.Sql.Fragment

/-!
# Builders

A builder collects a statement from its pieces in the order in which they are written.
-/

namespace FilterQuery
namespace Sql

/-- The pieces of a statement that have been written so far. -/
structure Builder where
  sql : String
  parameters : Array Parameter

namespace Builder

/-- Nothing written yet. -/
def empty : Builder :=
  ⟨"", #[]⟩

/-- Writes a text without placeholders. -/
def text (b : Builder) (sql : String) : Builder :=
  { b with sql := b.sql ++ sql }

/-- Writes a text with one placeholder and binds it. -/
def bind (b : Builder) (sql : String) (parameter : Parameter) : Builder :=
  ⟨b.sql ++ sql, b.parameters.push parameter⟩

/-- Writes a fragment. -/
def fragment (b : Builder) (f : Fragment) : Builder :=
  ⟨b.sql ++ f.sql, b.parameters ++ f.parameters.toArray⟩

/-- The statement that has been written. -/
def build (b : Builder) : Statement :=
  ⟨b.sql, b.parameters.toList⟩

@[simp] theorem build_empty :
    empty.build = ⟨"", []⟩ := by
  rfl

@[simp] theorem build_text (b : Builder) (sql : String) :
    (b.text sql).build = ⟨b.build.sql ++ sql, b.build.parameters⟩ := by
  rfl

@[simp] theorem build_bind (b : Builder) (sql : String) (p : Parameter) :
    (b.bind sql p).build = ⟨b.build.sql ++ sql, b.build.parameters ++ [p]⟩ := by
  simp [bind, build]

@[simp] theorem build_fragment (b : Builder) (f : Fragment) :
    (b.fragment f).build = ⟨b.build.sql ++ f.sql, b.build.parameters ++ f.parameters⟩ := by
  simp [fragment, build]

end Builder
end Sql
end FilterQuery
