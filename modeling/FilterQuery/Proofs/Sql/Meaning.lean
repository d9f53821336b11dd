import FilterQuery.Proofs.Sql.Expression
import FilterQuery.Sql.Parameter
import Mathlib.Data.List.Forall2

/-!
# Meaning of expressions

Whether an expression holds, given which tests hold.  The placeholders of a statement are numbered
from the left and each stands for the parameter of its number, so an expression is looked at
together with the number of its first placeholder.

**Results.**
* `holds_all`: expressions joined by `and` hold when each of them holds for its own parameters.
* `holds_any_replicate`: a test repeated with `or` holds when it holds for one of the parameters.
-/

namespace FilterQuery
namespace Sql

/-- What a column is compared with: a parameter, or a literal as it is written. -/
inductive Value where
  | parameter (p : Parameter)
  | literal (s : String)
deriving DecidableEq

/-- Which tests hold: of a column as it is written, by a symbol, with a value. -/
abbrev Interpretation := String → String → Value → Prop

namespace Expression

/-- The number of placeholders of an expression. -/
def placeholders : Expression → Nat
  | .test _ _ .placeholder => 1
  | .test _ _ (.literal _) => 0
  | .group e => e.placeholders
  | .and e f => e.placeholders + f.placeholders
  | .or e f => e.placeholders + f.placeholders

/-- Whether an expression holds whose first placeholder is the one of the given number. -/
def Holds (I : Interpretation) (parameters : List Parameter) : Expression → Nat → Prop
  | .test column symbol .placeholder, i =>
      ∃ p, parameters[i]? = some p ∧ I column symbol (.parameter p)
  | .test column symbol (.literal s), _ => I column symbol (.literal s)
  | .group e, i => e.Holds I parameters i
  | .and e f, i => e.Holds I parameters i ∧ f.Holds I parameters (i + e.placeholders)
  | .or e f, i => e.Holds I parameters i ∨ f.Holds I parameters (i + e.placeholders)

variable {I : Interpretation}

/-- Parameters in front of the first placeholder do not matter. -/
theorem holds_append_left
    (e : Expression) (front parameters : List Parameter) (i : Nat) :
    e.Holds I (front ++ parameters) (front.length + i) ↔ e.Holds I parameters i := by
  induction e generalizing i with
  | test column symbol operand =>
      cases operand with
      | placeholder =>
          simp only [Holds]
          rw [List.getElem?_append_right (by omega), Nat.add_sub_cancel_left]
      | literal s =>
          rfl
  | group e ih =>
      exact ih i
  | and e f ihe ihf =>
      simp only [Holds, ihe, Nat.add_assoc, ihf]
  | or e f ihe ihf =>
      simp only [Holds, ihe, Nat.add_assoc, ihf]

/-- Parameters behind the last placeholder do not matter. -/
theorem holds_append_right
    (e : Expression) {parameters : List Parameter} {i : Nat} (rest : List Parameter)
    (h : i + e.placeholders ≤ parameters.length) :
    e.Holds I (parameters ++ rest) i ↔ e.Holds I parameters i := by
  induction e generalizing i with
  | test column symbol operand =>
      cases operand with
      | placeholder =>
          rw [placeholders] at h
          simp only [Holds]
          rw [List.getElem?_append_left (by omega)]
      | literal s =>
          rfl
  | group e ih =>
      exact ih h
  | and e f ihe ihf =>
      rw [placeholders] at h
      simp only [Holds]
      rw [ihe (by omega), ihf (by omega)]
  | or e f ihe ihf =>
      rw [placeholders] at h
      simp only [Holds]
      rw [ihe (by omega), ihf (by omega)]

theorem placeholders_all
    {e : Expression} {es : List Expression} {pss : List (List Parameter)}
    (h : List.Forall₂ (fun f ps => ps.length = f.placeholders) (e :: es) pss) :
    (all e es).placeholders = pss.flatten.length := by
  induction es generalizing e pss with
  | nil =>
      obtain ⟨ps, qss, hps, hqss, rfl⟩ := List.forall₂_cons_left_iff.1 h
      obtain rfl := List.forall₂_nil_left_iff.1 hqss
      simp [all, hps]
  | cons f fs ih =>
      obtain ⟨ps, qss, hps, hqss, rfl⟩ := List.forall₂_cons_left_iff.1 h
      rw [all, placeholders, ih hqss, ← hps, List.flatten_cons, List.length_append]

/-- A conjunction holds when each part holds for its own parameters. -/
theorem holds_all
    {e : Expression} {es : List Expression} {pss : List (List Parameter)}
    (h : List.Forall₂ (fun f ps => ps.length = f.placeholders) (e :: es) pss) :
    (all e es).Holds I pss.flatten 0 ↔
      List.Forall₂ (fun f ps => f.Holds I ps 0) (e :: es) pss := by
  induction es generalizing e pss with
  | nil =>
      obtain ⟨ps, qss, hps, hqss, rfl⟩ := List.forall₂_cons_left_iff.1 h
      obtain rfl := List.forall₂_nil_left_iff.1 hqss
      simp [all]
  | cons f fs ih =>
      obtain ⟨ps, qss, hps, hqss, rfl⟩ := List.forall₂_cons_left_iff.1 h
      have hhead : e.Holds I (ps ++ qss.flatten) 0 ↔ e.Holds I ps 0 :=
        holds_append_right e qss.flatten (by omega)
      have htail : (all f fs).Holds I (ps ++ qss.flatten) ps.length ↔
          (all f fs).Holds I qss.flatten 0 :=
        holds_append_left (all f fs) ps qss.flatten 0
      rw [List.flatten_cons, List.forall₂_cons, all, Holds, hhead, Nat.zero_add, ← hps, htail,
        ih hqss]

/-- An alternative of equations holds when one of the parameters fits. -/
theorem holds_any_replicate
    {column symbol : String} {ps : List Parameter} {n : Nat}
    (h : ps.length = n + 1) :
    (any (test column symbol .placeholder)
        (List.replicate n (test column symbol .placeholder))).Holds I ps 0 ↔
      ∃ p ∈ ps, I column symbol (.parameter p) := by
  induction n generalizing ps with
  | zero =>
      obtain ⟨p, rfl⟩ := List.length_eq_one_iff.1 h
      simp [any, Holds]
  | succ n ih =>
      cases ps with
      | nil =>
          simp at h
      | cons p ps =>
          have htail := holds_append_left (I := I) (any (test column symbol .placeholder)
            (List.replicate n (test column symbol .placeholder))) [p] ps 0
          rw [List.replicate_succ, any, Holds]
          simp only [List.singleton_append, List.length_singleton, placeholders, Nat.add_zero,
            Nat.zero_add] at htail ⊢
          rw [htail, ih (by simpa using h)]
          simp [Holds]

end Expression
end Sql
end FilterQuery
