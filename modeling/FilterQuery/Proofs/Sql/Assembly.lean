import FilterQuery.Proofs.Sql.Fragment
import FilterQuery.Proofs.Sql.Scan
import Mathlib.Data.List.Forall2
import Mathlib.Logic.Function.Basic

/-!
# Programs that assemble statements

A program combines fragments, which it may copy and use again, and writes them to builders.

**Model.** Fragments and builders are kept in numbered registers, and each instruction sets one of
them.  The same program also runs on the pieces that fragments and builders consist of, which it
only puts in order.

**Soundness.** Consistency alone is lost when a fragment leaves a literal open, for that hides the
placeholders behind it.  What every instruction keeps is that quotes are balanced as well.

**Results.**
* `Fragment.WrittenFrom.append`, `Fragment.WrittenFrom.join`: soundness and pieces of what is put
  together.
* `Registers.Follows.step`, `Registers.Follows.run`: an instruction, and so a program, keeps
  fragments sound and makes of them what it makes of their pieces.
* `programs_sound`: the same of the statements that are built.
-/

namespace FilterQuery
namespace Sql

/-- Whether a text closes every literal that it opens. -/
def Balanced (s : String) : Prop :=
  Even (s.toList.count '\'')

instance : DecidablePred Balanced :=
  fun s => inferInstanceAs (Decidable (Even (s.toList.count '\'')))

namespace Fragment

/-- Whether a fragment closes its literals and has a parameter for each of its placeholders. -/
structure Sound (f : Fragment) : Prop where
  balanced : Balanced f.sql
  placeholders : countPlaceholders f.sql = f.parameters.length

instance : DecidablePred Sound :=
  fun f => decidable_of_iff (Balanced f.sql ∧ countPlaceholders f.sql = f.parameters.length)
    ⟨fun ⟨h, h'⟩ => ⟨h, h'⟩, fun ⟨h, h'⟩ => ⟨h, h'⟩⟩

/-- A sound fragment makes a consistent statement. -/
theorem Sound.isConsistent
    {f : Fragment}
    (h : f.Sound) :
    f.toStatement.isConsistent = true :=
  beq_iff_eq.2 h.placeholders

theorem sound_empty :
    empty.Sound := by
  decide

/-- Behind a fragment that is sound the scan goes on as at the start of a text. -/
theorem Sound.append
    {f g : Fragment}
    (hf : f.Sound)
    (hg : g.Sound) :
    (f ++ g).Sound where
  balanced := by
    rw [sql_append, Balanced, String.toList_append, List.count_append]
    exact hf.balanced.add hg.balanced
  placeholders := by
    rw [sql_append, countPlaceholders_append_of_even hf.balanced, hf.placeholders, hg.placeholders,
      parameters_append, List.length_append]

/-- A literal that is left open hides the placeholders behind it. -/
example :
    (raw "'").toStatement.isConsistent = true ∧
      (bound "?" (.text "north")).toStatement.isConsistent = true ∧
      (raw "'" ++ bound "?" (.text "north")).toStatement.isConsistent = false := by
  decide

/-- Whether a fragment is sound and consists of pieces, one behind the other. -/
structure WrittenFrom (f : Fragment) (pieces : List Fragment) : Prop where
  sound : f.Sound
  eq_concat : f = concat pieces

namespace WrittenFrom

theorem empty :
    Fragment.empty.WrittenFrom [] :=
  ⟨sound_empty, rfl⟩

theorem single
    {f : Fragment}
    (h : f.Sound) :
    f.WrittenFrom [f] :=
  ⟨h, (concat_singleton f).symm⟩

theorem append
    {f g : Fragment} {fs gs : List Fragment}
    (hf : f.WrittenFrom fs)
    (hg : g.WrittenFrom gs) :
    (f ++ g).WrittenFrom (fs ++ gs) where
  sound := hf.sound.append hg.sound
  eq_concat := by
    rw [concat_append, ← hf.eq_concat, ← hg.eq_concat]

/-- A join is written from the pieces of its parts, with the separator between them. -/
theorem join
    {separator : String} {fs : List Fragment} {pieces : List (List Fragment)}
    (hseparator : (raw separator).Sound)
    (h : List.Forall₂ WrittenFrom fs pieces) :
    (join separator fs).WrittenFrom ([raw separator].intercalate pieces) := by
  induction h with
  | nil =>
      rw [join_nil]
      exact empty
  | @cons f ps fs pieces hf hfs ih =>
      cases hfs with
      | nil =>
          rw [join_singleton, List.intercalate_singleton]
          exact hf
      | @cons g qs fs pieces hg hfs =>
          rw [join_cons_cons, List.intercalate_cons_cons]
          exact (hf.append (single hseparator)).append ih

/-- Parentheses are two pieces more. -/
theorem parenthesized
    {f : Fragment} {fs : List Fragment}
    (h : f.WrittenFrom fs) :
    f.parenthesized.WrittenFrom ([raw "( "] ++ fs ++ [raw " )"]) := by
  have hopening : (raw "( ").Sound := by
    decide
  have hclosing : (raw " )").Sound := by
    decide
  exact ((single hopening).append h).append (single hclosing)

end WrittenFrom

end Fragment

/-- Numbered registers, some for what is put together and some for what is written to. -/
structure Registers (φ β : Type) where
  fragments : Nat → φ
  builders : Nat → β

namespace Registers

variable {φ β : Type}

def setFragment (r : Registers φ β) (k : Nat) (f : φ) : Registers φ β :=
  { r with fragments := Function.update r.fragments k f }

def setBuilder (r : Registers φ β) (k : Nat) (b : β) : Registers φ β :=
  { r with builders := Function.update r.builders k b }

end Registers

/-- One step in the assembly of statements. -/
inductive Instruction where
  | append (target left right : Nat)
  | join (target : Nat) (separator : String) (sources : List Nat)
  | parenthesize (target source : Nat)
  | copy (target source : Nat)
  | start (builder : Nat)
  | text (builder : Nat) (sql : String)
  | bind (builder : Nat) (sql : String) (parameter : Parameter)
  | fragment (builder source : Nat)

namespace Instruction

/-- Whether the texts of an instruction are balanced and have the placeholders that they should. -/
def Legal : Instruction → Prop
  | .join _ separator _ => Balanced separator ∧ countPlaceholders separator = 0
  | .text _ sql => Balanced sql ∧ countPlaceholders sql = 0
  | .bind _ sql _ => Balanced sql ∧ countPlaceholders sql = 1
  | _ => True

instance : DecidablePred Legal
  | .join .. | .text .. | .bind .. => inferInstanceAs (Decidable (_ ∧ _))
  | .append .. | .parenthesize .. | .copy .. | .start .. | .fragment .. =>
      inferInstanceAs (Decidable True)

def run (r : Registers Fragment Builder) : Instruction → Registers Fragment Builder
  | .append k i j => r.setFragment k (r.fragments i ++ r.fragments j)
  | .join k separator is => r.setFragment k (Fragment.join separator (is.map r.fragments))
  | .parenthesize k i => r.setFragment k (r.fragments i).parenthesized
  | .copy k i => r.setFragment k (r.fragments i)
  | .start k => r.setBuilder k .empty
  | .text k sql => r.setBuilder k ((r.builders k).text sql)
  | .bind k sql parameter => r.setBuilder k ((r.builders k).bind sql parameter)
  | .fragment k i => r.setBuilder k ((r.builders k).fragment (r.fragments i))

/-- The effect of an instruction on pieces. -/
def place (r : Registers (List Fragment) (List Fragment)) :
    Instruction → Registers (List Fragment) (List Fragment)
  | .append k i j => r.setFragment k (r.fragments i ++ r.fragments j)
  | .join k separator is =>
      r.setFragment k ([Fragment.raw separator].intercalate (is.map r.fragments))
  | .parenthesize k i => r.setFragment k ([.raw "( "] ++ r.fragments i ++ [.raw " )"])
  | .copy k i => r.setFragment k (r.fragments i)
  | .start k => r.setBuilder k []
  | .text k sql => r.setBuilder k (r.builders k ++ [.raw sql])
  | .bind k sql parameter => r.setBuilder k (r.builders k ++ [.bound sql parameter])
  | .fragment k i => r.setBuilder k (r.builders k ++ r.fragments i)

end Instruction

/-- The registers of a program that is given fragments, behind its last instruction. -/
def assemble (inputs : Nat → Fragment) (program : List Instruction) : Registers Fragment Builder :=
  program.foldl Instruction.run ⟨inputs, fun _ => .empty⟩

/-- The pieces that a program arranges in its registers; each fragment that it is given is one. -/
def arrange (inputs : Nat → Fragment) (program : List Instruction) :
    Registers (List Fragment) (List Fragment) :=
  program.foldl Instruction.place ⟨fun k => [inputs k], fun _ => []⟩

namespace Registers

/-- Whether all fragments, and what the builders have written, are sound and consist of the pieces
in the same registers. -/
structure Follows
    (r : Registers Fragment Builder)
    (pieces : Registers (List Fragment) (List Fragment)) : Prop where
  fragments : ∀ k, (r.fragments k).WrittenFrom (pieces.fragments k)
  builders : ∀ k, (r.builders k).written.WrittenFrom (pieces.builders k)

namespace Follows

variable {r : Registers Fragment Builder} {pieces : Registers (List Fragment) (List Fragment)}

theorem setFragment
    {f : Fragment} {fs : List Fragment}
    (hr : r.Follows pieces)
    (hf : f.WrittenFrom fs)
    (k : Nat) :
    (r.setFragment k f).Follows (pieces.setFragment k fs) where
  fragments := by
    intro i
    by_cases hi : i = k
    · subst i
      simpa [Registers.setFragment] using hf
    · simpa [Registers.setFragment, hi] using hr.fragments i
  builders := hr.builders

theorem setBuilder
    {b : Builder} {fs : List Fragment}
    (hr : r.Follows pieces)
    (hb : b.written.WrittenFrom fs)
    (k : Nat) :
    (r.setBuilder k b).Follows (pieces.setBuilder k fs) where
  fragments := hr.fragments
  builders := by
    intro i
    by_cases hi : i = k
    · subst i
      simpa [Registers.setBuilder] using hb
    · simpa [Registers.setBuilder, hi] using hr.builders i

/-- A builder writes the pieces of a step behind those that it has written. -/
theorem take
    {fs : List Fragment}
    (hr : r.Follows pieces)
    (step : Builder.Step)
    (hstep : step.written.WrittenFrom fs)
    (k : Nat) :
    (r.setBuilder k ((r.builders k).take step)).Follows
      (pieces.setBuilder k (pieces.builders k ++ fs)) := by
  refine hr.setBuilder ?_ k
  rw [Builder.written_take]
  exact (hr.builders k).append hstep

/-- An instruction keeps every register sound and the order of its pieces. -/
theorem step
    {i : Instruction}
    (hr : r.Follows pieces)
    (hi : i.Legal) :
    (i.run r).Follows (i.place pieces) := by
  cases i with
  | append k i j =>
      exact hr.setFragment ((hr.fragments i).append (hr.fragments j)) k
  | join k separator is =>
      have hall : List.Forall₂ Fragment.WrittenFrom (is.map r.fragments)
          (is.map pieces.fragments) := by
        rw [List.forall₂_map_left_iff, List.forall₂_map_right_iff, List.forall₂_same]
        exact fun i _ => hr.fragments i
      exact hr.setFragment (.join ⟨hi.1, hi.2⟩ hall) k
  | parenthesize k i =>
      exact hr.setFragment (hr.fragments i).parenthesized k
  | copy k i =>
      exact hr.setFragment (hr.fragments i) k
  | start k =>
      have hempty : Builder.empty.written.WrittenFrom [] := .empty
      exact hr.setBuilder hempty k
  | text k sql =>
      exact hr.take (.text sql) (.single ⟨hi.1, hi.2⟩) k
  | bind k sql parameter =>
      exact hr.take (.bind sql parameter) (.single ⟨hi.1, hi.2⟩) k
  | fragment k i =>
      exact hr.take (.fragment (r.fragments i)) (hr.fragments i) k

/-- So does a program, by induction on its instructions. -/
theorem run
    {program : List Instruction}
    (hr : r.Follows pieces)
    (hprogram : ∀ i ∈ program, i.Legal) :
    (program.foldl Instruction.run r).Follows (program.foldl Instruction.place pieces) := by
  induction program generalizing r pieces with
  | nil =>
      exact hr
  | cons i program ih =>
      rw [List.forall_mem_cons] at hprogram
      exact ih (hr.step hprogram.1) hprogram.2

end Follows
end Registers

/-- Whether a statement is written from pieces: its text from their texts, and its parameters from
theirs in the same order. -/
structure Statement.ConsistsOf (s : Statement) (pieces : List Fragment) : Prop where
  sql : s.sql = String.join (pieces.map Fragment.sql)
  parameters : s.parameters = pieces.flatMap Fragment.parameters

theorem Fragment.WrittenFrom.consistsOf
    {f : Fragment} {pieces : List Fragment}
    (h : f.WrittenFrom pieces) :
    f.toStatement.ConsistsOf pieces := by
  rw [h.eq_concat]
  exact ⟨sql_concat pieces, parameters_concat pieces⟩

/-- A program that is given sound fragments, and whose own texts are as they should be, makes only
sound fragments and consistent statements.  Each of them consists of the pieces that the program
arranges in its register. -/
theorem programs_sound
    {inputs : Nat → Fragment} {program : List Instruction}
    (hinputs : ∀ k, (inputs k).Sound)
    (hprogram : ∀ i ∈ program, i.Legal) :
    (∀ k,
      ((assemble inputs program).fragments k).Sound ∧
      ((assemble inputs program).fragments k).toStatement.isConsistent = true ∧
      ((assemble inputs program).fragments k).toStatement.ConsistsOf
        ((arrange inputs program).fragments k)) ∧
    ∀ k,
      ((assemble inputs program).builders k).written.Sound ∧
      ((assemble inputs program).builders k).build.isConsistent = true ∧
      ((assemble inputs program).builders k).build.ConsistsOf
        ((arrange inputs program).builders k) := by
  have hfollows : (assemble inputs program).Follows (arrange inputs program) :=
    Registers.Follows.run ⟨fun k => .single (hinputs k), fun _ => .empty⟩ hprogram
  constructor
  · intro k
    have hf := hfollows.fragments k
    exact ⟨hf.sound, hf.sound.isConsistent, hf.consistsOf⟩
  · intro k
    have hf := hfollows.builders k
    exact ⟨hf.sound, hf.sound.isConsistent, hf.consistsOf⟩

/-- Two tests in registers; the others are empty. -/
def twoTests : Nat → Fragment
  | 0 => .bound "brand <> '?' and year = ?" (.integer 2020)
  | 1 => .bound "model = ?" (.text "'")
  | _ => .empty

/-- Joins the first test with the second and itself, behind a separator with a quoted mark, and
writes a copy of the group. -/
def repeatedTest : List Instruction := [
  .join 2 " or 'a?' = '' or " [0, 1, 0],
  .parenthesize 2 2,
  .copy 0 2,
  .start 7,
  .text 7 "select '?' where ",
  .fragment 7 0,
  .bind 7 " limit ?" (.integer 21)]

theorem programs_sound_repeatedTest :
    (∀ k, (twoTests k).Sound) ∧ (∀ i ∈ repeatedTest, i.Legal) ∧
    ((assemble twoTests repeatedTest).builders 7).build.isConsistent = true ∧
    ((assemble twoTests repeatedTest).builders 7).build.parameters =
      [.integer 2020, .text "'", .integer 2020, .integer 21] := by
  have hinputs : ∀ k, (twoTests k).Sound := by
    intro k
    match k with
    | 0 =>
        decide
    | 1 =>
        decide
    | _ + 2 =>
        exact Fragment.sound_empty
  have hprogram : ∀ i ∈ repeatedTest, i.Legal := by
    decide
  obtain ⟨-, hconsistent, hpieces⟩ := (programs_sound hinputs hprogram).2 7
  exact ⟨hinputs, hprogram, hconsistent, hpieces.parameters⟩

end Sql
end FilterQuery
