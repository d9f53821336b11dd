import FilterQuery.Proofs.Sql.Expression
import FilterQuery.Schema.Column
import Mathlib.Algebra.Group.Nat.Even
import Mathlib.Data.List.Infix

/-!
# The layout of statements

How the characters of a statement are laid out, apart from what they mean: which ones there are,
where blanks stand, what stands in parentheses, and where quotes are.

**Method.** Both parts of a layout are kept when two texts are written with a blank between them
(`Neat.append`).  Fixed texts are looked through (`neat_of_plain`); the only pieces of any length
are the groups of alternatives (`neat_group`).

**Results.**
* `Tidy.append`: a single blank between tidy texts is the only one there.
* `Bracketed.append`: no group reaches over a blank between two texts whose parentheses match.
* `bracketed_group`: alternatives in parentheses are one group.
-/

namespace FilterQuery
namespace Sql

/-- Whether a text is in lower-case ASCII, with no blank at its ends and no two in a row. -/
structure Tidy (s : List Char) : Prop where
  ne_nil : s ≠ []
  lower : ∀ c ∈ s, c.toNat < 128 ∧ c.isUpper = false
  head : s.head? ≠ some ' '
  last : s.getLast? ≠ some ' '
  single : ¬ [' ', ' '] <:+: s

instance : DecidablePred Tidy :=
  fun s => decidable_of_iff
    (s ≠ [] ∧ (s.all fun c => c.toNat < 128 ∧ c.isUpper = false) ∧ s.head? ≠ some ' ' ∧
      s.getLast? ≠ some ' ' ∧ ¬ [' ', ' '] <:+: s)
    ⟨fun ⟨h, h₁, h₂, h₃, h₄⟩ => ⟨h, by simpa using h₁, h₂, h₃, h₄⟩,
      fun ⟨h, h₁, h₂, h₃, h₄⟩ => ⟨h, by simpa using h₁, h₂, h₃, h₄⟩⟩

variable {s t : List Char}

/-- Tidy texts stay tidy with a blank between them. -/
theorem Tidy.append
    (hs : Tidy s)
    (ht : Tidy t) :
    Tidy (s ++ ' ' :: t) where
  ne_nil := by
    simp
  lower := by
    rw [List.forall_mem_append, List.forall_mem_cons]
    exact ⟨hs.lower, by decide, ht.lower⟩
  head := by
    rw [List.head?_append_of_ne_nil _ hs.ne_nil]
    exact hs.head
  last := by
    obtain ⟨c, t, rfl⟩ := List.exists_cons_of_ne_nil ht.ne_nil
    rw [List.getLast?_append, List.getLast?_cons_cons, List.getLast?_eq_some_getLast (by simp),
      Option.some_or, ← List.getLast?_eq_some_getLast]
    exact ht.last
  single := by
    rintro ⟨front, rest, heq⟩
    rw [List.append_assoc] at heq
    -- The two blanks are in one of the texts, or one of them is the blank between the texts.
    rcases List.append_eq_append_iff.1 heq with ⟨as, rfl, has⟩ | ⟨bs, rfl, hbs⟩
    · rcases as with _ | ⟨a, _ | ⟨b, as⟩⟩
      · exact ht.head (by rw [← (List.cons.inj has).2]; rfl)
      · refine hs.last ?_
        rw [List.getLast?_append, ← (List.cons.inj has).1]
        rfl
      · simp only [List.cons_append, List.nil_append, List.cons.injEq] at has
        obtain ⟨rfl, rfl, -⟩ := has
        exact hs.single ⟨front, as, by simp⟩
    · rcases bs with _ | ⟨b, bs⟩
      · exact ht.head (by rw [(List.cons.inj hbs).2]; rfl)
      · exact ht.single ⟨bs, rest, by simp [(List.cons.inj hbs).2]⟩

/-- How many parentheses a text leaves open. -/
def depth (s : List Char) : Int :=
  s.count '(' - s.count ')'

/-- The alternatives of a group: one column is compared with one or more values. -/
def alternatives (column : Column) (n : Nat) : String :=
  " " ++ " or ".intercalate (List.replicate (n + 1) (column.qualified ++ " = ?")) ++ " "

/-- Whether a character is no part of a word. -/
def isBreak (c : Char) : Bool :=
  !(c.isAlphanum || c = '_')

/-- Whether what stands between two texts is no part of a longer word. -/
def Apart (front rest : List Char) : Prop :=
  front.getLast?.all isBreak ∧ rest.head?.all isBreak

instance (front rest : List Char) : Decidable (Apart front rest) :=
  inferInstanceAs (Decidable (_ ∧ _))

/-- Whether parentheses match and are never nested, all that stands in a pair of them is
alternatives for one column, and the word `or` stands nowhere else. -/
structure Bracketed (s : List Char) : Prop where
  depth_prefix : ∀ p, p <+: s → 0 ≤ depth p ∧ depth p ≤ 1
  depth_eq_zero : depth s = 0
  group : ∀ front g rest, s = front ++ '(' :: (g ++ ')' :: rest) → '(' ∉ g → ')' ∉ g →
    ∃ column n, g = (alternatives column n).toList
  or : ∀ front rest, s = front ++ 'o' :: 'r' :: rest → Apart front rest → depth front = 1

/-- Whether a text has neither parentheses nor the word `or`. -/
def Plain (s : List Char) : Prop :=
  '(' ∉ s ∧ ')' ∉ s ∧
    ∀ i < s.length, (s.drop i).take 2 = ['o', 'r'] → ¬ Apart (s.take i) (s.drop (i + 2))

instance : DecidablePred Plain :=
  fun _ => inferInstanceAs (Decidable (_ ∧ _ ∧ ∀ _ < _, _ → _))

theorem depth_append (s t : List Char) :
    depth (s ++ t) = depth s + depth t := by
  simp only [depth, List.count_append]
  omega

theorem depth_of_not_mem
    (hopening : '(' ∉ s)
    (hclosing : ')' ∉ s) :
    depth s = 0 := by
  rw [depth, List.count_eq_zero.2 hopening, List.count_eq_zero.2 hclosing]
  rfl

theorem depth_blank (s : List Char) :
    depth (' ' :: s) = depth s := by
  simp [depth]

theorem depth_opening (s : List Char) :
    depth ('(' :: s) = depth s + 1 := by
  simp only [depth, List.count_cons_self, List.count_cons_of_ne (show '(' ≠ ')' by decide)]
  omega

/-- A prefix of two texts is one of the first, or the first and a prefix of the second. -/
theorem prefix_append_cases
    {p : List Char}
    (h : p <+: s ++ t) :
    p <+: s ∨ ∃ q, q <+: t ∧ p = s ++ q := by
  rcases List.prefix_or_prefix_of_prefix h (List.prefix_append s t) with hp | ⟨q, rfl⟩
  · exact .inl hp
  · exact .inr ⟨q, (List.prefix_append_right_inj s).1 h, rfl⟩

/-- What is no blank stands in one of two texts with a blank between them. -/
theorem append_blank_eq_cases
    {front rest : List Char} {c : Char}
    (hc : c ≠ ' ')
    (h : s ++ ' ' :: t = front ++ c :: rest) :
    (∃ as, front = s ++ ' ' :: as ∧ t = as ++ c :: rest) ∨
      ∃ bs, s = front ++ c :: bs ∧ rest = bs ++ ' ' :: t := by
  rcases List.append_eq_append_iff.1 h with ⟨as, rfl, has⟩ | ⟨bs, rfl, hbs⟩
  · rcases as with _ | ⟨a, as⟩
    · exact absurd (List.cons.inj has).1.symm hc
    · rw [List.cons_append, List.cons.injEq] at has
      rcases has with ⟨rfl, rfl⟩
      exact .inl ⟨as, rfl, rfl⟩
  · rcases bs with _ | ⟨b, bs⟩
    · exact absurd (List.cons.inj hbs).1 hc
    · rw [List.cons_append, List.cons.injEq] at hbs
      rcases hbs with ⟨rfl, rfl⟩
      exact .inr ⟨bs, rfl, rfl⟩

/-- A word that stands apart does so in every part of the text that it is in. -/
theorem Apart.of_append
    {front rest : List Char}
    (h : Apart (s ++ front) (rest ++ t)) :
    Apart front rest := by
  rw [Apart, List.getLast?_append, List.head?_append] at h
  constructor
  · cases hlast : front.getLast? with
    | none =>
        rfl
    | some c =>
        simpa [hlast] using h.1
  · cases hhead : rest.head? with
    | none =>
        rfl
    | some c =>
        simpa [hhead] using h.2

/-- Balanced texts stay balanced one behind the other. -/
theorem Bracketed.append
    (hs : Bracketed s)
    (ht : Bracketed t) :
    Bracketed (s ++ ' ' :: t) where
  depth_prefix := by
    intro p hp
    rcases prefix_append_cases hp with hp | ⟨q, hq, rfl⟩
    · exact hs.depth_prefix p hp
    · rw [depth_append, hs.depth_eq_zero, Int.zero_add]
      rcases List.prefix_cons_iff.1 hq with rfl | ⟨r, rfl, hr⟩
      · exact ⟨Int.le_refl 0, by decide⟩
      · rw [depth_blank]
        exact ht.depth_prefix r hr
  depth_eq_zero := by
    rw [depth_append, depth_blank, hs.depth_eq_zero, ht.depth_eq_zero]
    rfl
  group := by
    intro front g rest heq hopening hclosing
    rcases append_blank_eq_cases (by decide) heq with ⟨as, rfl, rfl⟩ | ⟨bs, rfl, hbs⟩
    · exact ht.group as g rest rfl hopening hclosing
    · rcases append_blank_eq_cases (by decide) hbs.symm with ⟨cs, rfl, -⟩ | ⟨cs, rfl, -⟩
      · -- A parenthesis would be open where the first text ends.
        have hfront := (hs.depth_prefix front (List.prefix_append _ _)).1
        have hbs : depth bs = 0 :=
          depth_of_not_mem (fun h => hopening (by simp [h])) fun h => hclosing (by simp [h])
        have hzero := hs.depth_eq_zero
        rw [depth_append, depth_opening, hbs] at hzero
        omega
      · exact hs.group front g cs rfl hopening hclosing
  or := by
    intro front rest heq hapart
    rcases append_blank_eq_cases (by decide) heq with ⟨as, rfl, rfl⟩ | ⟨bs, rfl, hbs⟩
    · have hinside : Apart ((s ++ [' ']) ++ as) (rest ++ []) := by
        simpa using hapart
      rw [depth_append, depth_blank, hs.depth_eq_zero, Int.zero_add]
      exact ht.or as rest rfl hinside.of_append
    · rcases bs with _ | ⟨b, bs⟩
      · cases hbs
      · rw [List.cons_append, List.cons.injEq] at hbs
        rcases hbs with ⟨rfl, rfl⟩
        have hinside : Apart ([] ++ front) (bs ++ ' ' :: t) :=
          hapart
        exact hs.or front bs rfl hinside.of_append

theorem bracketed_of_plain
    (h : Plain s) :
    Bracketed s where
  depth_prefix := by
    intro p hp
    rw [depth_of_not_mem (fun hmem => h.1 (hp.mem hmem)) fun hmem => h.2.1 (hp.mem hmem)]
    exact ⟨Int.le_refl 0, by decide⟩
  depth_eq_zero := depth_of_not_mem h.1 h.2.1
  group := by
    rintro front g rest rfl
    exact absurd (by simp) h.1
  or := by
    intro front rest heq hapart
    have htake : s.take front.length = front := by
      simp [heq]
    have hdrop : s.drop (front.length + 2) = rest := by
      simp [heq]
    have hword : (s.drop front.length).take 2 = ['o', 'r'] := by
      simp [heq]
    have hplain := h.2.2 front.length (by simp [heq]) hword
    rw [htake, hdrop] at hplain
    exact absurd hapart hplain

/-- An alternative has no characters but those of its equations and of `or`. -/
theorem not_mem_alternatives
    {c : Char}
    (hblank : c ∉ " or ".toList)
    (column : Column) (n : Nat)
    (hcolumn : c ∉ (column.qualified ++ " = ?").toList) :
    c ∉ (alternatives column n).toList := by
  have hmem : c ∉ (" or ".intercalate
      (List.replicate (n + 1) (column.qualified ++ " = ?"))).toList := by
    rw [String.toList_intercalate]
    refine not_mem_intercalate hblank ?_
    intro l hl
    rw [List.map_replicate] at hl
    rw [List.eq_of_mem_replicate hl]
    exact hcolumn
  have hspace : c ≠ ' ' := by
    rintro rfl
    exact hblank (by decide)
  simp only [alternatives, String.toList_append, List.mem_append, not_or]
  exact ⟨⟨by simpa using hspace, hmem⟩, by simpa using hspace⟩

/-- Alternatives in parentheses are one group.  Behind the first parenthesis there is only the last
one, so one is open up to there. -/
theorem bracketed_group (column : Column) (n : Nat) :
    Bracketed ('(' :: ((alternatives column n).toList ++ [')'])) := by
  have hopening : '(' ∉ (alternatives column n).toList :=
    not_mem_alternatives (by decide) column n (by cases column <;> decide)
  have hclosing : ')' ∉ (alternatives column n).toList :=
    not_mem_alternatives (by decide) column n (by cases column <;> decide)
  generalize hg : (alternatives column n).toList = g at hopening hclosing
  have hflat : ∀ p, p <+: g → depth p = 0 := fun p hp =>
    depth_of_not_mem (fun h => hopening (hp.mem h)) fun h => hclosing (hp.mem h)
  have hclosed : depth ('(' :: (g ++ [')'])) = 0 := by
    rw [depth_opening, depth_append, hflat g (List.prefix_refl g)]
    rfl
  exact {
    depth_prefix := by
      intro p hp
      rcases List.prefix_cons_iff.1 hp with rfl | ⟨q, rfl, hq⟩
      · exact ⟨Int.le_refl 0, by decide⟩
      · rcases List.prefix_concat_iff.1 hq with rfl | hq
        · rw [hclosed]
          exact ⟨Int.le_refl 0, by decide⟩
        · rw [depth_opening, hflat q hq]
          exact ⟨by decide, Int.le_refl 1⟩
    depth_eq_zero := hclosed
    group := by
      intro front g' rest heq hopening' hclosing'
      rcases front with _ | ⟨a, front⟩
      · rw [List.nil_append, List.cons.injEq] at heq
        rcases (List.append_cons_inj_of_notMem hclosing List.not_mem_nil).1 heq.2 with ⟨rfl, -, -⟩
        exact ⟨column, n, hg.symm⟩
      · rw [List.cons_append, List.cons.injEq] at heq
        have hmem : '(' ∈ g ++ [')'] := by
          rw [heq.2]
          simp
        rw [List.mem_append, List.mem_singleton] at hmem
        exact absurd (hmem.resolve_right (by decide)) hopening
    or := by
      intro front rest heq _
      rcases front with _ | ⟨a, front⟩
      · cases heq
      · rw [List.cons_append, List.cons.injEq] at heq
        rcases heq with ⟨rfl, heq⟩
        rcases List.prefix_concat_iff.1 ⟨_, heq.symm⟩ with rfl | hfront
        · exact absurd (congrArg List.length heq) (by simp)
        · rw [depth_opening, hflat front hfront]
          rfl }

/-- Whether the quotes of a text are balanced and stand in one part of it only. -/
def QuotesWithin (part s : String) : Prop :=
  Even (s.toList.count '\'') ∧
    ∃ front rest, s = front ++ part ++ rest ∧ '\'' ∉ front.toList ∧ '\'' ∉ rest.toList

/-- Quotes stand within the part that has them. -/
theorem quotesWithin_append
    {front part rest : String}
    (hfront : '\'' ∉ front.toList)
    (hpart : Even (part.toList.count '\''))
    (hrest : '\'' ∉ rest.toList) :
    QuotesWithin part (front ++ part ++ rest) := by
  refine ⟨?_, front, rest, rfl, hfront, hrest⟩
  rw [String.toList_append, String.toList_append, List.count_append, List.count_append,
    List.count_eq_zero.2 hfront, List.count_eq_zero.2 hrest, Nat.zero_add, Nat.add_zero]
  exact hpart

/-- Whether a text is tidy and its parentheses are in order. -/
structure Neat (s : List Char) : Prop extends Tidy s, Bracketed s

/-- Neat texts stay neat with a blank between them. -/
theorem Neat.append
    (hs : Neat s)
    (ht : Neat t) :
    Neat (s ++ ' ' :: t) :=
  ⟨hs.toTidy.append ht.toTidy, hs.toBracketed.append ht.toBracketed⟩

theorem neat_of_plain
    (h : Tidy s ∧ Plain s) :
    Neat s :=
  ⟨h.1, bracketed_of_plain h.2⟩

theorem tidy_intercalate_or
    {s : String}
    (hs : Tidy s.toList)
    (n : Nat) :
    Tidy (" or ".intercalate (List.replicate (n + 1) s)).toList := by
  induction n with
  | zero =>
      simpa using hs
  | succ n ih =>
      have hor : Tidy "or".toList := by
        decide
      have hcons : " or ".intercalate (List.replicate (n + 2) s) =
          s ++ " or " ++ " or ".intercalate (List.replicate (n + 1) s) := by
        rw [List.replicate_succ, List.replicate_succ, String.intercalate_cons_cons]
      rw [hcons]
      simpa using hs.append (hor.append ih)

/-- An alternative in parentheses is neat. -/
theorem neat_group (column : Column) (n : Nat) :
    Neat ("(" ++ alternatives column n ++ ")").toList where
  toTidy := by
    have hcolumn : Tidy (column.qualified ++ " = ?").toList := by
      cases column <;> decide
    have hopening : Tidy ['('] := by
      decide
    have hclosing : Tidy [')'] := by
      decide
    rw [alternatives]
    simpa using hopening.append ((tidy_intercalate_or hcolumn n).append hclosing)
  toBracketed := by
    simpa using bracketed_group column n

end Sql
end FilterQuery
