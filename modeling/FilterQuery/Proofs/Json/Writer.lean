import FilterQuery.Proofs.Json.Numeral
import FilterQuery.Proofs.Json.Quoted

/-!
# Written values

What is written of a value is a text of the grammar, and its tree is that of the value
(`Node.ofJson`).  The form for people differs from the compact form by blanks between tokens only.

**Numbers.** A double that is not finite has no number of the grammar; it is written as null, and so
it is in the tree.

**Results.**
* `spelled_pretty`: the tree of what is written.
* `squeezed_pretty`: without its blanks, the form for people is the compact form.
-/

namespace FilterQuery
namespace Json

/-- The tree of a number. -/
def Node.ofNumber : Number → Node
  | .integer n => .number (Decimal.integerText n).toList
  | .float (.finite negative x) => .number (doubles.write negative x).toList
  | .float _ => .null

namespace Node

mutual

def ofJson : Json → Node
  | .null => .null
  | .boolean b => .boolean b
  | .number n => ofNumber n
  | .string s => .string (textUnits s)
  | .array items => .array (ofItems items)
  | .object members => .object (ofMembers members)

def ofItems : List Json → List Node
  | [] => []
  | x :: rest => ofJson x :: ofItems rest

/-- The trees of members under the units of their names. -/
def ofMembers : List (String × Json) → List (List Nat × Node)
  | [] => []
  | (name, x) :: rest => (textUnits name, ofJson x) :: ofMembers rest

end

theorem ofItems_eq_map (items : List Json) :
    ofItems items = items.map ofJson := by
  induction items with
  | nil =>
      rfl
  | cons x rest ih =>
      rw [ofItems, ih, List.map_cons]

theorem ofMembers_eq_map (members : List (String × Json)) :
    ofMembers members = members.map fun m => (textUnits m.1, ofJson m.2) := by
  induction members with
  | nil =>
      rfl
  | cons m rest ih =>
      obtain ⟨name, x⟩ := m
      rw [ofMembers, ih, List.map_cons]

end Node

theorem blank_newLine (depth : Nat) :
    Blank (newLine depth) := by
  intro c hc
  rcases List.mem_cons.1 hc with rfl | hc
  · decide
  · rw [List.eq_of_mem_replicate hc]
    decide

/-- A control character is written by the four digits of its number. -/
theorem quoted_control
    {c : Char}
    (hc : c.toNat < 0x20) :
    Quoted (if c.toNat < 0x10 then ['\\', 'u', '0', '0', '0'] ++ Decimal.hexDigits c.toNat
      else ['\\', 'u', '0', '0'] ++ Decimal.hexDigits c.toNat) (charUnits c) := by
  have hall : ∀ n < 0x20, (if n < 0x10 then ['0', '0', '0'] ++ Decimal.hexDigits n
      else ['0', '0'] ++ Decimal.hexDigits n) =
        ['0', '0', (n / 16).digitChar, (n % 16).digitChar] := by
    decide
  have hzero : Decimal.IsHexDigit '0' 0 := ⟨by decide, .inl rfl⟩
  have hpiece : Piece ['\\', 'u', '0', '0', (c.toNat / 16).digitChar, (c.toNat % 16).digitChar]
      [((0 * 16 + 0) * 16 + c.toNat / 16) * 16 + c.toNat % 16] :=
    .unit hzero hzero ⟨by omega, .inl rfl⟩ ⟨by omega, .inl rfl⟩
  have hvalue : ((0 * 16 + 0) * 16 + c.toNat / 16) * 16 + c.toNat % 16 = c.toNat := by
    omega
  have hunits : charUnits c = [c.toNat] := if_pos (by omega)
  have hdigits := hall c.toNat hc
  rw [hvalue, ← hunits] at hpiece
  split at hdigits
  · rename_i hsmall
    rw [if_pos hsmall]
    simp only [List.cons_append, List.nil_append] at hdigits ⊢
    rw [hdigits]
    exact hpiece.quoted
  · rename_i hlarge
    rw [if_neg hlarge]
    simp only [List.cons_append, List.nil_append] at hdigits ⊢
    rw [hdigits]
    exact hpiece.quoted

/-- An escaped character denotes its units. -/
theorem quoted_escaped (c : Char) :
    Quoted (escaped c) (charUnits c) := by
  have hletter : ∀ {a d : Char}, (a, d) ∈ letterEscapes → Quoted ['\\', a] (charUnits d) := by
    intro a d h
    rw [charUnits_of_mem_letterEscapes h]
    exact (Piece.letter h).quoted
  unfold escaped
  split
  case h_8 hquote hslash _ _ _ _ _ =>
    by_cases hc : c.toNat < 0x20
    · simp only [if_pos hc]
      exact quoted_control hc
    · rw [if_neg (by omega), if_neg hc]
      exact (Piece.raw hquote hslash (by omega)).quoted
  all_goals exact hletter (by decide)

/-- Escaped characters denote their units. -/
theorem quoted_flatMap_escaped (cs : List Char) :
    Quoted (cs.flatMap escaped) (cs.flatMap charUnits) := by
  induction cs with
  | nil =>
      exact .nil
  | cons c cs ih =>
      exact (quoted_escaped c).append ih

theorem written_string (s : String) :
    (Node.string (textUnits s)).Written (writtenString s) :=
  .string (quoted_flatMap_escaped s.toList)

theorem written_boolean (b : Bool) :
    (Node.boolean b).Written (writtenBoolean b) := by
  cases b
  · exact .no
  · exact .yes

theorem written_number (n : Number) :
    (Node.ofNumber n).Written (writtenNumber n) := by
  cases n with
  | integer n =>
      exact .number (Decimal.isNumber_integerText n)
  | float x =>
      cases x with
      | finite negative x =>
          exact .number (Layout.isNumber_write (by decide) (by decide) negative x).1
      | nan | infinite =>
          exact .null

theorem blank_space :
    Blank [' '] := by
  simp [Blank, isBlank]

mutual

/-- A value is written as itself, with blanks for people. -/
theorem written_prettyChars (depth : Nat) (v : Json) :
    (Node.ofJson v).Written (prettyChars depth v) := by
  cases v with
  | null =>
      exact .null
  | boolean b =>
      exact written_boolean b
  | number n =>
      exact written_number n
  | string s =>
      exact written_string s
  | array items =>
      have hitems := listed_prettyItems (depth + 1) items (blank_newLine (depth + 1))
        (blank_newLine depth)
      cases items with
      | nil =>
          exact .array (.empty blank_nil)
      | cons x rest =>
          rw [Node.ofJson, prettyChars]
          exact .array (by simpa using hitems)
  | object members =>
      have hmembers := listed_prettyMembers (depth + 1) members (blank_newLine (depth + 1))
        (blank_newLine depth)
      cases members with
      | nil =>
          exact .object (.empty blank_nil)
      | cons m rest =>
          rw [Node.ofJson, prettyChars]
          exact .object (by simpa using hmembers)

/-- The items of an array are written as a list. -/
theorem listed_prettyItems
    (depth : Nat) (items : List Json)
    {w w' : List Char}
    (hw : Blank w)
    (hw' : Blank w') :
    Listed Node.Written (Node.ofItems items) (w ++ (prettyItems depth items ++ w')) := by
  cases items with
  | nil =>
      exact .empty (hw.append hw')
  | cons x rest =>
      have hx := written_prettyChars depth x
      have hrest := listed_prettyItems depth rest (blank_newLine depth) hw'
      cases rest with
      | nil =>
          exact .items hw hx (.done hw')
      | cons y rest =>
          rw [prettyItems, List.append_assoc, List.cons_append, List.append_assoc]
          exact .items hw hx hrest.more

/-- The members of an object are written as a list. -/
theorem listed_prettyMembers
    (depth : Nat) (members : List (String × Json))
    {w w' : List Char}
    (hw : Blank w)
    (hw' : Blank w') :
    Listed (Labelled Node.Written) (Node.ofMembers members)
      (w ++ (prettyMembers depth members ++ w')) := by
  cases members with
  | nil =>
      exact .empty (hw.append hw')
  | cons m rest =>
      obtain ⟨name, x⟩ := m
      have hm : Labelled Node.Written (textUnits name, Node.ofJson x)
          (writtenString name ++ ':' :: ' ' :: prettyChars depth x) := by
        rw [writtenString, List.cons_append, List.append_assoc]
        exact .mk (quoted_flatMap_escaped name.toList) blank_nil blank_space
          (written_prettyChars depth x)
      have hrest := listed_prettyMembers depth rest (blank_newLine depth) hw'
      cases rest with
      | nil =>
          exact .items hw hm (.done hw')
      | cons m' rest =>
          have hlisted := Listed.items hw hm hrest.more
          simpa [prettyMembers, Node.ofMembers] using hlisted

end

/-- The tree of the form for people is that of the value. -/
theorem spelled_pretty (v : Json) :
    (Node.ofJson v).Spelled (pretty v).toList := by
  refine ⟨[], prettyChars 0 v, [], blank_nil, written_prettyChars 0 v, blank_nil, ?_⟩
  simp [pretty]

/-- A text without its blanks outside of strings. -/
def squeezed (inString : Bool) (s : List Char) : List Char :=
  match inString, s with
  | _, [] => []
  | false, c :: s => if isBlank c then squeezed false s else c :: squeezed (c = '"') s
  | true, '\\' :: c :: s => '\\' :: c :: squeezed true s
  | true, c :: s => c :: squeezed (c ≠ '"') s

section Squeezed

variable {s t w : List Char}

theorem squeezed_cons
    {c : Char}
    (hblank : isBlank c = false)
    (hquote : c ≠ '"')
    (r : List Char) :
    squeezed false (c :: r) = c :: squeezed false r := by
  simp [squeezed, hblank, hquote]

theorem squeezed_blank
    (hw : Blank w)
    (r : List Char) :
    squeezed false (w ++ r) = squeezed false r := by
  induction w with
  | nil =>
      rfl
  | cons c w ih =>
      obtain ⟨hc, hw⟩ := List.forall_mem_cons.1 hw
      rw [List.cons_append, squeezed, if_pos hc, ih hw]

theorem squeezed_token
    (ht : ∀ c ∈ t, isBlank c = false ∧ c ≠ '"')
    (r : List Char) :
    squeezed false (t ++ r) = t ++ squeezed false r := by
  induction t with
  | nil =>
      rfl
  | cons c t ih =>
      obtain ⟨⟨hblank, hquote⟩, ht⟩ := List.forall_mem_cons.1 ht
      rw [List.cons_append, squeezed_cons hblank hquote, ih ht, List.cons_append]

theorem squeezed_inString
    {c : Char}
    (hquote : c ≠ '"')
    (hslash : c ≠ '\\')
    (r : List Char) :
    squeezed true (c :: r) = c :: squeezed true r := by
  simp [squeezed, hquote, hslash]

theorem isHexDigit_ne
    {c : Char} {n : Nat}
    (h : Decimal.IsHexDigit c n) :
    c ≠ '"' ∧ c ≠ '\\' := by
  have hall : ∀ n < 16, n.digitChar ≠ '"' ∧ n.digitChar ≠ '\\' ∧ n.digitChar.toUpper ≠ '"' ∧
      n.digitChar.toUpper ≠ '\\' := by
    decide
  obtain ⟨hn, rfl | rfl⟩ := h
  · exact ⟨(hall n hn).1, (hall n hn).2.1⟩
  · exact (hall n hn).2.2

/-- Nothing is taken out of a string. -/
theorem squeezed_quoted
    {us : List Nat}
    (h : Quoted s us)
    (r : List Char) :
    squeezed true (s ++ '"' :: r) = s ++ '"' :: squeezed false r := by
  induction h with
  | nil =>
      simp [squeezed]
  | cons hp hs ih =>
      rw [List.append_assoc, List.append_assoc, ← ih]
      cases hp with
      | raw hquote hslash hcontrol =>
          exact squeezed_inString hquote hslash _
      | letter hescape =>
          simp [squeezed]
      | unit ha hb hc hd =>
          simp only [List.cons_append, List.nil_append]
          rw [squeezed, squeezed_inString (isHexDigit_ne ha).1 (isHexDigit_ne ha).2,
            squeezed_inString (isHexDigit_ne hb).1 (isHexDigit_ne hb).2,
            squeezed_inString (isHexDigit_ne hc).1 (isHexDigit_ne hc).2,
            squeezed_inString (isHexDigit_ne hd).1 (isHexDigit_ne hd).2]

/-- Strings are left as they are, with the blanks in them. -/
theorem squeezed_writtenString
    (x : String) (r : List Char) :
    squeezed false (writtenString x ++ r) = writtenString x ++ squeezed false r := by
  have hquoted := squeezed_quoted (quoted_flatMap_escaped x.toList) r
  simp [writtenString, squeezed, isBlank, hquoted]

theorem squeezed_boolean
    (b : Bool) (r : List Char) :
    squeezed false (writtenBoolean b ++ r) = writtenBoolean b ++ squeezed false r := by
  refine squeezed_token ?_ r
  cases b <;> simp [writtenBoolean, isBlank]

theorem squeezed_number
    (n : Number) (r : List Char) :
    squeezed false (writtenNumber n ++ r) = writtenNumber n ++ squeezed false r := by
  have hnumber : ∀ {t : List Char}, IsNumber t → ∀ c ∈ t, isBlank c = false ∧ c ≠ '"' := by
    intro t ht c hc
    have hnumeric := ht.numeric c hc
    refine ⟨?_, ?_⟩
    · rw [← Bool.not_eq_true]
      intro hblank
      simp only [isBlank, Bool.or_eq_true, decide_eq_true_eq] at hblank
      rcases hblank with ((rfl | rfl) | rfl) | rfl <;> exact absurd hnumeric (by decide)
    · rintro rfl
      exact absurd hnumeric (by decide)
  cases n with
  | integer n =>
      exact squeezed_token (hnumber (Decimal.isNumber_integerText n)) r
  | float x =>
      cases x with
      | finite negative x =>
          exact squeezed_token
            (hnumber (Layout.isNumber_write (by decide) (by decide) negative x).1) r
      | nan | infinite =>
          exact squeezed_token (t := writtenNull) (by simp [writtenNull, isBlank]) r

mutual

/-- Without the blanks for people the compact form is left. -/
theorem squeezed_prettyChars (depth : Nat) (v : Json) (r : List Char) :
    squeezed false (prettyChars depth v ++ r) = compactChars v ++ squeezed false r := by
  cases v with
  | null =>
      exact squeezed_token (t := writtenNull) (by simp [writtenNull, isBlank]) r
  | boolean b =>
      exact squeezed_boolean b r
  | number n =>
      exact squeezed_number n r
  | string s =>
      exact squeezed_writtenString s r
  | array items =>
      cases items with
      | nil =>
          exact squeezed_token (t := ['[', ']']) (by simp [isBlank]) r
      | cons x rest =>
          simp only [prettyChars, compactChars, List.cons_append, List.append_assoc,
            List.nil_append]
          rw [squeezed_cons (by decide) (by decide), squeezed_blank (blank_newLine _),
            squeezed_prettyItems, squeezed_blank (blank_newLine _),
            squeezed_cons (by decide) (by decide)]
  | object members =>
      cases members with
      | nil =>
          exact squeezed_token (t := ['{', '}']) (by simp [isBlank]) r
      | cons m rest =>
          simp only [prettyChars, compactChars, List.cons_append, List.append_assoc,
            List.nil_append]
          rw [squeezed_cons (by decide) (by decide), squeezed_blank (blank_newLine _),
            squeezed_prettyMembers, squeezed_blank (blank_newLine _),
            squeezed_cons (by decide) (by decide)]

theorem squeezed_prettyItems (depth : Nat) (items : List Json) (r : List Char) :
    squeezed false (prettyItems depth items ++ r) = compactItems items ++ squeezed false r := by
  cases items with
  | nil =>
      rfl
  | cons x rest =>
      cases rest with
      | nil =>
          exact squeezed_prettyChars depth x r
      | cons y rest =>
          simp only [prettyItems, compactItems, List.cons_append, List.append_assoc]
          rw [squeezed_prettyChars, squeezed_cons (by decide) (by decide),
            squeezed_blank (blank_newLine _), squeezed_prettyItems]

theorem squeezed_prettyMembers (depth : Nat) (members : List (String × Json)) (r : List Char) :
    squeezed false (prettyMembers depth members ++ r) =
      compactMembers members ++ squeezed false r := by
  have hspace : ∀ s, squeezed false (' ' :: s) = squeezed false s := squeezed_blank blank_space
  cases members with
  | nil =>
      rfl
  | cons m rest =>
      obtain ⟨name, x⟩ := m
      cases rest with
      | nil =>
          simp only [prettyMembers, compactMembers, List.cons_append, List.append_assoc]
          rw [squeezed_writtenString, squeezed_cons (by decide) (by decide),
            hspace, squeezed_prettyChars]
      | cons m' rest =>
          simp only [prettyMembers, compactMembers, List.cons_append, List.append_assoc]
          rw [squeezed_writtenString, squeezed_cons (by decide) (by decide),
            hspace, squeezed_prettyChars,
            squeezed_cons (by decide) (by decide), squeezed_blank (blank_newLine _),
            squeezed_prettyMembers]

end

/-- Without the blanks between its tokens, the form for people is the compact form. -/
theorem squeezed_pretty (v : Json) :
    squeezed false (pretty v).toList = (compact v).toList := by
  have hchars := squeezed_prettyChars 0 v []
  simpa [pretty, compact, squeezed] using hchars

end Squeezed

end Json
end FilterQuery
