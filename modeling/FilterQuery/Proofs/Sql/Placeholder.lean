import FilterQuery.Proofs.Sql.Expression
import FilterQuery.Sql.Placeholder
import Mathlib.Data.List.Forall2

/-!
# What stands in front of placeholders

A scan of a text finds its placeholders from the left; `fronts` keeps what stands in front of each.

**Method.** `Leads s ls` says of a text that a scan which comes to it outside of literals leaves it
outside of literals and finds one placeholder in it for each of the texts `ls`, directly behind that
text.  Such texts can be written one behind the other (`leads_append`).

**Results.**
* `length_fronts`: there are as many fronts as placeholders.
* `leads_text`: the placeholders of an expression stand behind the column and the symbol of their
  tests.
-/

namespace FilterQuery
namespace Sql

/-- What stands in front of each placeholder that a scan finds, behind what has been seen so far. -/
def fronts (scan : Scan) (seen : List Char) : List Char → List (List Char)
  | [] => []
  | c :: s =>
      if scan.count < (scan.next c).count then seen :: fronts (scan.next c) (seen ++ [c]) s
      else fronts (scan.next c) (seen ++ [c]) s

/-- Whether a text has neither quotes nor question marks. -/
def Unmarked (s : String) : Prop :=
  s.toList.all fun c => c ≠ '\'' ∧ c ≠ '?'

instance (s : String) : Decidable (Unmarked s) :=
  inferInstanceAs (Decidable (_ = true))

/-- Whether the placeholders of a text outside of literals stand directly behind the given texts,
and every literal in it has an end. -/
def Leads (s : String) (ls : List String) : Prop :=
  ∀ (n : Nat) (seen : List Char),
    s.toList.foldl Scan.next ⟨false, n⟩ = ⟨false, n + ls.length⟩ ∧
      List.Forall₂ (fun l front => l.toList <:+ front) ls (fronts ⟨false, n⟩ seen s.toList)

theorem unmarked_append
    {s t : String}
    (hs : Unmarked s)
    (ht : Unmarked t) :
    Unmarked (s ++ t) := by
  rw [Unmarked, String.toList_append, List.all_append, Bool.and_eq_true]
  exact ⟨hs, ht⟩

theorem not_mem_of_unmarked
    {s : String}
    (hs : Unmarked s) :
    '\'' ∉ s.toList := by
  intro hmem
  simpa using List.all_eq_true.1 hs '\'' hmem

theorem Scan.next_of_ne
    {c : Char}
    (hquote : c ≠ '\'')
    (hmark : c ≠ '?')
    (scan : Scan) :
    scan.next c = scan := by
  simp [next, hquote, hmark]

/-- The fronts of a text are those of its parts, seen from where the first part ends. -/
theorem fronts_append (scan : Scan) (seen s t : List Char) :
    fronts scan seen (s ++ t) =
      fronts scan seen s ++ fronts (s.foldl Scan.next scan) (seen ++ s) t := by
  induction s generalizing scan seen with
  | nil =>
      simp [fronts]
  | cons c s ih =>
      rw [List.cons_append, fronts, fronts, List.foldl_cons, ih]
      split <;> simp

theorem length_fronts (scan : Scan) (seen s : List Char) :
    (s.foldl Scan.next scan).count = scan.count + (fronts scan seen s).length := by
  induction s generalizing scan seen with
  | nil =>
      simp [fronts]
  | cons c s ih =>
      have hcount : (scan.next c).count = scan.count ∨ (scan.next c).count = scan.count + 1 := by
        rw [Scan.next]
        split
        · exact Or.inl rfl
        · split
          · exact Or.inr rfl
          · exact Or.inl rfl
      rw [List.foldl_cons, ih (scan.next c) (seen ++ [c]), fronts]
      rcases hcount with h | h
      · rw [if_neg (by omega), h]
      · rw [if_pos (by omega), h, List.length_cons]
        omega

/-- There are as many placeholders as fronts. -/
theorem countPlaceholders_eq_length_fronts (sql : String) :
    countPlaceholders sql = (fronts ⟨false, 0⟩ [] sql.toList).length := by
  rw [countPlaceholders, placeholders, length_fronts _ []]
  simp

/-- What leads to the placeholders of two parts leads to those of the whole. -/
theorem leads_append
    {s t : String} {ls ms : List String}
    (hs : Leads s ls)
    (ht : Leads t ms) :
    Leads (s ++ t) (ls ++ ms) := by
  intro n seen
  obtain ⟨hfold, hfronts⟩ := hs n seen
  obtain ⟨hfold', hfronts'⟩ := ht (n + ls.length) (seen ++ s.toList)
  rw [String.toList_append, List.foldl_append, fronts_append, hfold, hfold', List.length_append,
    Nat.add_assoc]
  exact ⟨rfl, List.rel_append hfronts hfronts'⟩

theorem foldl_next_of_unmarked
    {s : String}
    (hs : Unmarked s)
    (scan : Scan) :
    s.toList.foldl Scan.next scan = scan := by
  rw [Unmarked] at hs
  generalize s.toList = s at hs
  induction s with
  | nil =>
      rfl
  | cons c s ih =>
      rw [List.all_cons, Bool.and_eq_true, decide_eq_true_eq] at hs
      rw [List.foldl_cons, Scan.next_of_ne hs.1.1 hs.1.2, ih hs.2]

/-- A text whose scan counts nothing has nothing in front of a placeholder. -/
theorem fronts_eq_nil
    {scan : Scan} {s : List Char}
    (h : (s.foldl Scan.next scan).count = scan.count)
    (seen : List Char) :
    fronts scan seen s = [] := by
  have hlength := length_fronts scan seen s
  exact List.eq_nil_of_length_eq_zero (by omega)

theorem leads_of_foldl_next
    {s : String}
    (h : ∀ n, s.toList.foldl Scan.next ⟨false, n⟩ = ⟨false, n⟩) :
    Leads s [] := by
  intro n seen
  rw [fronts_eq_nil (by rw [h n])]
  exact ⟨h n, .nil⟩

theorem leads_of_unmarked
    {s : String}
    (hs : Unmarked s) :
    Leads s [] :=
  leads_of_foldl_next fun _ => foldl_next_of_unmarked hs _

theorem leads_placeholder
    {s : String}
    (hs : Unmarked s) :
    Leads (s ++ "?") [s] := by
  intro n seen
  have hmark : fronts ⟨false, n⟩ (seen ++ s.toList) "?".toList = [seen ++ s.toList] := by
    simp [fronts, Scan.next]
  rw [String.toList_append, List.foldl_append, fronts_append, foldl_next_of_unmarked hs,
    fronts_eq_nil (by rw [foldl_next_of_unmarked hs]), List.nil_append, hmark]
  exact ⟨rfl, .cons (List.suffix_append seen s.toList) .nil⟩

/-- Nothing counts inside a literal before its quote. -/
theorem foldl_next_inside
    {content : List Char}
    (h : '\'' ∉ content)
    (n : Nat) :
    content.foldl Scan.next ⟨true, n⟩ = ⟨true, n⟩ := by
  induction content with
  | nil =>
      rfl
  | cons c content ih =>
      rw [List.mem_cons, not_or] at h
      have hnext : Scan.next ⟨true, n⟩ c = ⟨true, n⟩ := by
        simp [Scan.next, Ne.symm h.1]
      rw [List.foldl_cons, hnext, ih h.2]

/-- A literal has no placeholder. -/
theorem leads_of_isQuoted
    {s : String}
    (hs : Token.IsQuoted s) :
    Leads s [] := by
  obtain ⟨content, hcontent, hs⟩ := hs
  refine leads_of_foldl_next fun n => ?_
  have hopen : Scan.next ⟨false, n⟩ '\'' = ⟨true, n⟩ := rfl
  rw [hs, List.foldl_cons, List.foldl_append, hopen, foldl_next_inside hcontent]
  rfl

theorem Token.IsWord.unmarked
    {s : String}
    (hs : IsWord s) :
    Unmarked s := by
  rw [Unmarked, List.all_eq_true]
  intro c hc
  have hplain := List.all_eq_true.1 hs.2.1 c hc
  simp only [isPlain, decide_eq_true_eq] at hplain ⊢
  exact ⟨hplain.2.2.2.2, hplain.2.2.2.1⟩

namespace Expression

/-- What stands directly in front of the placeholders of an expression. -/
def leads : Expression → List String
  | .test column symbol .placeholder => [column ++ " " ++ symbol ++ " "]
  | .test _ _ (.literal _) => []
  | .group e => e.leads
  | .and e f => e.leads ++ f.leads
  | .or e f => e.leads ++ f.leads

/-- What leads to the placeholders of an expression is told by its tests. -/
theorem leads_text
    {e : Expression}
    (he : e.Legible) :
    Leads e.text e.leads := by
  induction e with
  | test column symbol operand =>
      obtain ⟨hcolumn, hsymbol, hoperand⟩ := he
      have hblank : Unmarked " " := by
        decide
      have hlead : Unmarked (column ++ " " ++ symbol ++ " ") :=
        unmarked_append (unmarked_append (unmarked_append hcolumn.unmarked hblank)
          hsymbol.unmarked) hblank
      cases operand with
      | placeholder =>
          exact leads_placeholder hlead
      | literal s =>
          have hs : Leads s [] := by
            rcases hoperand with hs | hs
            · exact leads_of_unmarked hs.unmarked
            · exact leads_of_isQuoted hs
          exact leads_append (leads_of_unmarked hlead) hs
  | group e ih =>
      have hopening : Leads "( " [] := leads_of_unmarked (by decide)
      have hclosing : Leads " )" [] := leads_of_unmarked (by decide)
      have h := leads_append (leads_append hopening (ih he)) hclosing
      rwa [List.nil_append, List.append_nil] at h
  | and e f ihe ihf =>
      have hand : Leads " and " [] := leads_of_unmarked (by decide)
      have h := leads_append (leads_append (ihe he.1) hand) (ihf he.2)
      rwa [List.append_nil] at h
  | or e f ihe ihf =>
      have hor : Leads " or " [] := leads_of_unmarked (by decide)
      have h := leads_append (leads_append (ihe he.1) hor) (ihf he.2)
      rwa [List.append_nil] at h

end Expression
end Sql
end FilterQuery
