import FilterQuery.Text.Quoted
import Mathlib.Data.List.Basic

/-!
# Quoted texts

A text in double quotes, as it stands in a message, ends at one place only, is read back as one text
only, and shows no control character.

**Method.** Every character is written in one of three ways (`Shown`).  None of them begins another
one, and none begins with the quote that ends the text, so two quoted texts with anything behind
them are compared character by character.

**Results.**
* `Decimal.hexValue_hexDigits`: reading the hexadecimal digits of a number gives the number back.
* `quoted_append_inj`: a quoted text is determined by the characters from its beginning on.
* `not_isControl_of_mem_quoted`.
-/

namespace FilterQuery

/-- A run of characters ends at the first one that is no part of it. -/
theorem append_cons_inj_of_forall
    {p : Char → Bool} {s t u v : List Char} {c d : Char}
    (hs : ∀ a ∈ s, p a = true)
    (ht : ∀ a ∈ t, p a = true)
    (hc : p c = false)
    (hd : p d = false)
    (h : s ++ c :: u = t ++ d :: v) :
    s = t ∧ c = d ∧ u = v := by
  have htake := congrArg (List.takeWhile p) h
  rw [List.takeWhile_append_of_pos hs, List.takeWhile_append_of_pos ht,
    List.takeWhile_cons_of_neg (by simp [hc]), List.takeWhile_cons_of_neg (by simp [hd]),
    List.append_nil, List.append_nil] at htake
  subst htake
  exact ⟨rfl, List.cons.inj (List.append_cancel_left h)⟩

namespace Decimal

/-- The number that a list of hexadecimal digits denotes. -/
def hexValue (ds : List Char) : Nat :=
  ds.foldl (fun n c => 16 * n + (hexValue? c).getD 0) 0

theorem hexValue_append_digitChar
    {d : Nat}
    (hd : d < 16)
    (ds : List Char) :
    hexValue (ds ++ [d.digitChar]) = 16 * hexValue ds + d := by
  have hall : ∀ d < 16, hexValue? d.digitChar = some d := by
    decide
  rw [hexValue, List.foldl_append, List.foldl_cons, List.foldl_nil, hall d hd, Option.getD_some,
    ← hexValue]

/-- The digits of a number are those of its sixteenth part and one more. -/
theorem hexDigits_eq
    {n : Nat}
    (hn : 16 ≤ n) :
    hexDigits n = hexDigits (n / 16) ++ [(n % 16).digitChar] :=
  Nat.toDigits_of_base_le (by decide) hn

theorem hexDigits_of_lt
    {n : Nat}
    (hn : n < 16) :
    hexDigits n = [n.digitChar] :=
  Nat.toDigits_of_lt_base hn

theorem hexValue_hexDigits (n : Nat) :
    hexValue (hexDigits n) = n := by
  induction n using Nat.strongRecOn with
  | ind n ih =>
      by_cases hn : n < 16
      · rw [hexDigits_of_lt hn]
        exact (hexValue_append_digitChar hn []).trans (Nat.zero_add n)
      · rw [hexDigits_eq (by omega), hexValue_append_digitChar (Nat.mod_lt n (by decide)),
          ih (n / 16) (by omega)]
        omega

theorem mem_hexDigits
    {c : Char} {n : Nat}
    (hc : c ∈ hexDigits n) :
    ∃ d < 16, c = d.digitChar := by
  induction n using Nat.strongRecOn with
  | ind n ih =>
      by_cases hn : n < 16
      · rw [hexDigits_of_lt hn, List.mem_singleton] at hc
        exact ⟨n, hn, hc⟩
      · rw [hexDigits_eq (by omega), List.mem_append, List.mem_singleton] at hc
        rcases hc with hc | hc
        · exact ih (n / 16) (by omega) hc
        · exact ⟨n % 16, Nat.mod_lt n (by decide), hc⟩

end Decimal

namespace Text

/-- Whether a character is of the category of controls or separates lines or paragraphs. -/
def IsControl (c : Char) : Prop :=
  c.toNat < 0x20 ∨ (0x7f ≤ c.toNat ∧ c.toNat < 0xa0) ∨ c = '\u2028' ∨ c = '\u2029'

instance : DecidablePred IsControl :=
  fun _ => inferInstanceAs (Decidable (_ ∨ _))

theorem isUnprintable_of_isControl
    {c : Char}
    (h : IsControl c) :
    isUnprintable c = true := by
  have hall : ∀ n < 0xa0, n < 0x20 ∨ 0x7f ≤ n → inRanges unprintableBelow1000 n = true := by
    decide +kernel
  rcases h with h | h | rfl | rfl
  · rw [isUnprintable, if_pos (by omega)]
    exact hall c.toNat (by omega) (.inl h)
  · rw [isUnprintable, if_pos (by omega)]
    exact hall c.toNat h.2 (.inr h.1)
  · decide +kernel
  · decide +kernel

/-- The characters that are written as a letter behind a backslash, with that letter. -/
def letters : List (Char × Char) := [
  ('"', '"'), ('\\', '\\'), ('\t', 't'), ('\r', 'r'), ('\n', 'n'), ('\x00', '0')]

/-- How a character is written inside double quotes. -/
inductive Shown : Char → List Char → Prop
  | raw
      {c : Char}
      (hquote : c ≠ '"')
      (hslash : c ≠ '\\')
      (hprintable : isUnprintable c = false) :
      Shown c [c]
  | letter
      {c l : Char}
      (hletter : (c, l) ∈ letters) :
      Shown c ['\\', l]
  | number (c : Char) :
      Shown c (numbered c)

/-- An escaped character shows that character. -/
theorem shown_quotedChar (c : Char) :
    Shown c (quotedChar c) := by
  unfold quotedChar
  split
  iterate 6 exact .letter (by simp [letters])
  rename_i hquote hslash _ _ _ _
  split
  · exact .number c
  · rename_i hprintable
    rw [Bool.or_eq_true, not_or, Bool.not_eq_true, Bool.not_eq_true] at hprintable
    exact .raw hquote hslash hprintable.2

theorem letters_unique
    {c d l : Char}
    (hc : (c, l) ∈ letters)
    (hd : (d, l) ∈ letters) :
    c = d := by
  have hall : ∀ p ∈ letters, ∀ q ∈ letters, p.2 = q.2 → p.1 = q.1 := by
    decide
  exact hall _ hc _ hd rfl

/-- The letter of the escapes by number is no other escape. -/
theorem not_mem_letters_u (c : Char) :
    (c, 'u') ∉ letters := by
  simp [letters]

/-- The digits of a number end at the brace behind them. -/
theorem numbered_append_inj
    {c d : Char} {u v : List Char}
    (h : numbered c ++ u = numbered d ++ v) :
    c = d ∧ u = v := by
  have hbrace : ∀ n, ∀ a ∈ Decimal.hexDigits n, (a != '\x7d') = true := by
    intro n a ha
    have hall : ∀ k < 16, (k.digitChar != '\x7d') = true := by
      decide
    obtain ⟨k, hk, rfl⟩ := Decimal.mem_hexDigits ha
    exact hall k hk
  simp only [numbered, List.append_assoc, List.cons_append, List.nil_append, List.cons.injEq,
    true_and] at h
  obtain ⟨hdigits, -, rfl⟩ := append_cons_inj_of_forall (hbrace _) (hbrace _) (by simp) (by simp) h
  have hvalue := congrArg Decimal.hexValue hdigits
  rw [Decimal.hexValue_hexDigits, Decimal.hexValue_hexDigits] at hvalue
  exact ⟨Char.toNat_inj.1 hvalue, rfl⟩

/-- Where a shown character ends and which one it is is told by the text. -/
theorem Shown.unique
    {c d : Char} {s t u v : List Char}
    (hs : Shown c s)
    (ht : Shown d t)
    (h : s ++ u = t ++ v) :
    c = d ∧ u = v := by
  cases hs with
  | raw hquote hslash =>
      cases ht with
      | raw =>
          exact List.cons.inj h
      | letter | number =>
          exact absurd (List.cons.inj h).1 hslash
  | letter hletter =>
      cases ht with
      | raw hquote' hslash' =>
          exact absurd (List.cons.inj h).1.symm hslash'
      | letter hletter' =>
          simp only [List.cons_append, List.nil_append, List.cons.injEq, true_and] at h
          obtain ⟨rfl, rfl⟩ := h
          exact ⟨letters_unique hletter hletter', rfl⟩
      | number =>
          simp only [numbered, List.cons_append, List.nil_append, List.cons.injEq, true_and] at h
          exact absurd (h.1 ▸ hletter) (not_mem_letters_u c)
  | number =>
      cases ht with
      | raw hquote' hslash' =>
          exact absurd (List.cons.inj h).1.symm hslash'
      | letter hletter' =>
          simp only [numbered, List.cons_append, List.nil_append, List.cons.injEq, true_and] at h
          exact absurd (h.1 ▸ hletter') (not_mem_letters_u d)
      | number =>
          exact numbered_append_inj h

/-- No character is written with the quote that ends a text in front. -/
theorem Shown.append_ne_quote
    {c : Char} {s u v : List Char}
    (h : Shown c s) :
    s ++ u ≠ '"' :: v := by
  cases h with
  | raw hquote =>
      exact fun heq => hquote (List.cons.inj heq).1
  | letter | number =>
      exact fun heq => absurd (List.cons.inj heq).1 (by decide)

/-- No character is shown with a control character. -/
theorem Shown.not_isControl
    {c : Char} {s : List Char}
    (h : Shown c s) :
    ∀ d ∈ s, ¬ IsControl d := by
  cases h with
  | raw _ _ hprintable =>
      rw [List.forall_mem_singleton]
      intro hcontrol
      rw [isUnprintable_of_isControl hcontrol] at hprintable
      cases hprintable
  | letter hletter =>
      have hall : ∀ p ∈ letters, ¬ IsControl p.2 := by
        decide
      rw [List.forall_mem_cons, List.forall_mem_singleton]
      exact ⟨by decide, hall _ hletter⟩
  | number =>
      have hall : ∀ k < 16, ¬ IsControl k.digitChar := by
        decide
      intro d hd
      simp only [numbered, List.mem_append, List.mem_cons, List.not_mem_nil, or_false] at hd
      rcases hd with ((rfl | rfl | rfl) | hd) | rfl
      · decide
      · decide
      · decide
      · obtain ⟨k, hk, rfl⟩ := Decimal.mem_hexDigits hd
        exact hall k hk
      · decide

/-- Where a shown text ends and which one it is is told by its closing quote. -/
theorem flatMap_quotedChar_unique
    {s t u v : List Char}
    (h : s.flatMap quotedChar ++ '"' :: u = t.flatMap quotedChar ++ '"' :: v) :
    s = t ∧ u = v := by
  induction s generalizing t with
  | nil =>
      cases t with
      | nil =>
          exact ⟨rfl, (List.cons.inj h).2⟩
      | cons d t =>
          rw [List.flatMap_cons, List.append_assoc] at h
          exact absurd h.symm (shown_quotedChar d).append_ne_quote
  | cons c s ih =>
      cases t with
      | nil =>
          rw [List.flatMap_cons, List.append_assoc] at h
          exact absurd h (shown_quotedChar c).append_ne_quote
      | cons d t =>
          rw [List.flatMap_cons, List.flatMap_cons, List.append_assoc, List.append_assoc] at h
          obtain ⟨rfl, hrest⟩ := (shown_quotedChar c).unique (shown_quotedChar d) h
          obtain ⟨rfl, rfl⟩ := ih hrest
          exact ⟨rfl, rfl⟩

theorem toList_quoted (s : String) :
    (quoted s).toList = '"' :: (s.toList.flatMap quotedChar ++ ['"']) := by
  rw [quoted, String.toList_ofList]
  rfl

/-- A quoted text is determined by the characters from its beginning on. -/
theorem quoted_append_inj
    {s t : String} {u v : List Char}
    (h : (quoted s).toList ++ u = (quoted t).toList ++ v) :
    s = t ∧ u = v := by
  simp only [toList_quoted, List.cons_append, List.append_assoc, List.nil_append] at h
  obtain ⟨hst, rfl⟩ := flatMap_quotedChar_unique (List.cons.inj h).2
  exact ⟨String.toList_inj.1 hst, rfl⟩

/-- Two texts are not shown alike. -/
theorem quoted_injective
    {s t : String}
    (h : quoted s = quoted t) :
    s = t := by
  have hlist : (quoted s).toList ++ [] = (quoted t).toList ++ [] := by
    rw [h]
  exact (quoted_append_inj hlist).1

/-- No text is shown with a control character. -/
theorem not_isControl_of_mem_quoted
    {s : String} {c : Char}
    (hc : c ∈ (quoted s).toList) :
    ¬ IsControl c := by
  have hquote : ¬ IsControl '"' := by
    decide
  rw [toList_quoted, List.mem_cons, List.mem_append, List.mem_singleton, List.mem_flatMap] at hc
  rcases hc with rfl | ⟨d, -, hd⟩ | rfl
  · exact hquote
  · exact (shown_quotedChar d).not_isControl c hd
  · exact hquote

end Text
end FilterQuery
