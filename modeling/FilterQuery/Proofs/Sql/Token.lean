/-!
# Tokens

How the text of a statement falls into tokens.  Blanks separate words; parentheses and question
marks stand for themselves; a literal starts at a quote, two quotes inside it are one quote of its
text, and a single one ends it.  A literal without an end runs to the end of the text.

**Results.**
* `ofText_append_word`, `ofText_append_quoted`: a word or a literal in front of a text is its
  first token, whatever follows behind a blank.
* `ofText_append_blank`: texts without quotes are divided at blanks.
-/

namespace FilterQuery
namespace Sql

/-- Joined lists have only what they or the separator have. -/
theorem not_mem_intercalate
    {α : Type} {a : α} {separator : List α} {ls : List (List α)}
    (ha : a ∉ separator)
    (h : ∀ l ∈ ls, a ∉ l) :
    a ∉ separator.intercalate ls := by
  induction ls with
  | nil =>
      simp
  | cons l ls ih =>
      rw [List.forall_mem_cons] at h
      cases ls with
      | nil =>
          simpa using h.1
      | cons l' ls =>
          rw [List.intercalate_cons_cons, List.mem_append, List.mem_append, not_or, not_or]
          exact ⟨⟨h.1, ha⟩, ih h.2⟩

/-- A token of a statement; words and literals stand as they are written. -/
inductive Token where
  | word (s : String)
  | quoted (s : String)
  | placeholder
  | opening
  | closing
  | and
  | or
deriving DecidableEq

namespace Token

/-- The token of a run of characters. -/
def ofWord (s : String) : Token :=
  if s = "and" then .and
  else if s = "or" then .or
  else .word s

/-- Ends the word whose characters have been read so far, the last one first. -/
def endWord (word : List Char) (ts : List Token) : List Token :=
  if word = [] then ts else ofWord (String.ofList word.reverse) :: ts

mutual

/-- The tokens of a text outside literals, behind the characters of an unfinished word. -/
def outside (word : List Char) : List Char → List Token
  | [] => endWord word []
  | ' ' :: s => endWord word (outside [] s)
  | '(' :: s => endWord word (.opening :: outside [] s)
  | ')' :: s => endWord word (.closing :: outside [] s)
  | '?' :: s => endWord word (.placeholder :: outside [] s)
  | '\'' :: s => endWord word (inside ['\''] s)
  | c :: s => outside (c :: word) s

/-- The tokens of a text inside a literal, behind the characters of the literal so far. -/
def inside (literal : List Char) : List Char → List Token
  | [] => [.quoted (String.ofList literal.reverse)]
  | '\'' :: '\'' :: s => inside ('\'' :: '\'' :: literal) s
  | '\'' :: s => .quoted (String.ofList ('\'' :: literal).reverse) :: outside [] s
  | c :: s => inside (c :: literal) s

end

def ofText (s : List Char) : List Token :=
  outside [] s

/-- Whether a character may stand in a word. -/
def isPlain (c : Char) : Bool :=
  c ≠ ' ' ∧ c ≠ '(' ∧ c ≠ ')' ∧ c ≠ '?' ∧ c ≠ '\''

/-- Whether a text is one word that is no connective. -/
def IsWord (s : String) : Prop :=
  s.toList ≠ [] ∧ s.toList.all isPlain ∧ ofWord s = .word s

/-- Whether a text is one literal without quotes inside. -/
def IsQuoted (s : String) : Prop :=
  ∃ content, '\'' ∉ content ∧ s.toList = '\'' :: (content ++ ['\''])

/-- Whether a text is empty or begins with a blank. -/
def Separated (s : List Char) : Prop :=
  ∀ c ∈ s.head?, c = ' '

instance (s : String) : Decidable (IsWord s) :=
  inferInstanceAs (Decidable (_ ∧ _ ∧ _))

theorem separated_nil :
    Separated [] := by
  simp [Separated]

theorem separated_cons (s : List Char) :
    Separated (' ' :: s) := by
  simp [Separated]

@[simp] theorem ofText_blank (s : List Char) :
    ofText (' ' :: s) = ofText s := by
  rfl

theorem outside_cons_of_isPlain
    {c : Char}
    (hc : isPlain c)
    (word s : List Char) :
    outside word (c :: s) = outside (c :: word) s := by
  simp only [isPlain, decide_eq_true_eq] at hc
  obtain ⟨h1, h2, h3, h4, h5⟩ := hc
  rw [outside] <;> simpa using by assumption

theorem outside_append_of_all_isPlain
    {u : List Char}
    (hu : u.all isPlain)
    (word s : List Char) :
    outside word (u ++ s) = outside (u.reverse ++ word) s := by
  induction u generalizing word with
  | nil =>
      rfl
  | cons c u ih =>
      rw [List.all_cons, Bool.and_eq_true] at hu
      rw [List.cons_append, outside_cons_of_isPlain hu.1, ih hu.2]
      simp

/-- A word ends before a blank and at the end of the text. -/
theorem outside_of_separated
    {s : List Char}
    (hs : Separated s)
    (word : List Char) :
    outside word s = endWord word (ofText s) := by
  cases s with
  | nil =>
      simp [ofText, outside, endWord]
  | cons c s =>
      obtain rfl : c = ' ' := hs c rfl
      simp [ofText, outside, endWord]

/-- A word is read up to what separates it. -/
theorem ofText_append_word
    {u : String} {s : List Char}
    (hu : IsWord u)
    (hs : Separated s) :
    ofText (u.toList ++ s) = .word u :: ofText s := by
  obtain ⟨hne, hplain, hword⟩ := hu
  rw [ofText, outside_append_of_all_isPlain hplain, outside_of_separated hs, endWord,
    if_neg (by simpa using hne)]
  simp [hword]

theorem endWord_append (word : List Char) (ts us : List Token) :
    endWord word (ts ++ us) = endWord word ts ++ us := by
  rw [endWord, endWord]
  split
  · rfl
  · rfl

theorem eq_of_not_isPlain
    {c : Char}
    (hc : ¬ isPlain c)
    (hquote : c ≠ '\'') :
    c = ' ' ∨ c = '(' ∨ c = ')' ∨ c = '?' := by
  simp only [isPlain, decide_eq_true_eq] at hc
  refine Decidable.byContradiction ?_
  intro h
  simp only [not_or] at h
  exact hc ⟨h.1, h.2.1, h.2.2.1, h.2.2.2, hquote⟩

/-- A text without quotes ends before a blank. -/
theorem outside_append_blank
    {u : List Char}
    (hu : '\'' ∉ u)
    (word s : List Char) :
    outside word (u ++ ' ' :: s) = outside word u ++ ofText s := by
  induction u generalizing word with
  | nil =>
      rw [List.nil_append, outside_of_separated (separated_cons s), ofText_blank,
        outside_of_separated separated_nil, ← endWord_append]
      rfl
  | cons c u ih =>
      rw [List.mem_cons, not_or] at hu
      by_cases hc : isPlain c
      · rw [List.cons_append, outside_cons_of_isPlain hc, outside_cons_of_isPlain hc, ih hu.2]
      · rcases eq_of_not_isPlain hc (Ne.symm hu.1) with rfl | rfl | rfl | rfl
        · rw [List.cons_append, outside, outside, ih hu.2, endWord_append]
        · rw [List.cons_append, outside, outside, ih hu.2, ← endWord_append]
          rfl
        · rw [List.cons_append, outside, outside, ih hu.2, ← endWord_append]
          rfl
        · rw [List.cons_append, outside, outside, ih hu.2, ← endWord_append]
          rfl

/-- The tokens of a text without quotes stand in front of those behind a blank. -/
theorem ofText_append_blank
    {u : List Char}
    (hu : '\'' ∉ u)
    (s : List Char) :
    ofText (u ++ ' ' :: s) = ofText u ++ ofText s :=
  outside_append_blank hu [] s

theorem inside_append_of_not_mem
    {content : List Char}
    (hcontent : '\'' ∉ content)
    (literal s : List Char) :
    inside literal (content ++ s) = inside (content.reverse ++ literal) s := by
  induction content generalizing literal with
  | nil =>
      rfl
  | cons c content ih =>
      rw [List.mem_cons, not_or] at hcontent
      rw [List.cons_append, inside, ih hcontent.2]
      · simp
      · rintro s rfl
        exact absurd rfl hcontent.1
      · rintro rfl
        exact hcontent.1 rfl

/-- A literal is read up to its quote. -/
theorem ofText_append_quoted
    {u : String} {s : List Char}
    (hu : IsQuoted u)
    (hs : Separated s) :
    ofText (u.toList ++ s) = .quoted u :: ofText s := by
  obtain ⟨content, hcontent, hu⟩ := hu
  have hend : inside (content.reverse ++ ['\'']) ('\'' :: s) = .quoted u :: ofText s := by
    have hquoted : String.ofList ('\'' :: (content.reverse ++ ['\''])).reverse = u := by
      rw [← String.ofList_toList (s := u), hu]
      simp
    cases s with
    | nil =>
        rw [inside, hquoted]
        · rfl
        · simp
    | cons c s =>
        obtain rfl : c = ' ' := hs c rfl
        rw [inside, hquoted]
        · rfl
        · simp
  rw [hu, ofText]
  simp only [List.cons_append, List.append_assoc, List.nil_append]
  rw [outside, inside_append_of_not_mem hcontent, hend]
  rfl

@[simp] theorem ofText_placeholder (s : List Char) :
    ofText ('?' :: s) = .placeholder :: ofText s := by
  rfl

@[simp] theorem ofText_opening (s : List Char) :
    ofText ('(' :: s) = .opening :: ofText s := by
  rfl

@[simp] theorem ofText_closing (s : List Char) :
    ofText (')' :: s) = .closing :: ofText s := by
  rfl

end Token
end Sql
end FilterQuery
