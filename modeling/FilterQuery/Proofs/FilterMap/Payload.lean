import FilterQuery.FilterMap.Payload
import FilterQuery.Proofs.Json.Whole

/-!
# Reading payloads

What a payload means is a relation between the tree of its text and filters in written order
(`Payload.Means`).  The reader decides it: it accepts a text exactly when the tree of the text means
some filters, and these are what it returns.

**Entries.** An entry is an array of its values and its operator, or an object in which exactly one
member has one of the two names of the values and exactly one the name of the operator.  What the
other members hold is of no account, but it must be JSON.

**Results.**
* `run_part_iff`: reading the members of an entry one by one amounts to looking for each of the two
  parts among all of them.
* `readText_eq_ok_iff`: which texts are read, and what they mean.
-/

namespace FilterQuery
namespace Payload

open Json

/-- The two names of the values of an entry. -/
def IsValuesName (name : String) : Prop :=
  name = "values" ∨ name = "value"

instance : DecidablePred IsValuesName :=
  fun name => inferInstanceAs (Decidable (name = "values" ∨ name = "value"))

def IsOperatorName (name : String) : Prop :=
  name = "op"

instance : DecidablePred IsOperatorName :=
  fun name => inferInstanceAs (Decidable (name = "op"))

/-- The values of an entry: a string, or an array of strings. -/
inductive IsValues : Node → List String → Prop
  | one
      {n : Node} {x : String}
      (hx : n.IsText x) :
      IsValues n [x]
  | many
      {n : Node} {xs : List String}
      (hxs : n.IsArray Node.IsText xs) :
      IsValues n xs

inductive IsEntry : Node → FilterEntry → Prop
  | pair
      {v o : Node} {values : List String} {operator : String}
      (hv : IsValues v values)
      (ho : o.IsText operator) :
      IsEntry (.array [v, o]) ⟨values, operator⟩
  | object
      {ms : List (String × Node)} {v o : Node} {values : List String} {operator : String}
      (hvalues : fieldValues IsValuesName ms = [v])
      (hoperator : fieldValues IsOperatorName ms = [o])
      (hv : IsValues v values)
      (ho : o.IsText operator) :
      IsEntry (.object (spelledNames ms)) ⟨values, operator⟩

/-- The filters of a payload, in written order. -/
def Means (n : Node) (fs : List Filter) : Prop :=
  n.IsObject (Node.IsArray IsEntry) (fs.map fun f => (f.name, f.entries))

/-- What is read as values means them. -/
theorem readValues_reads (bound : Nat) :
    Reads (readValues bound) IsValues := by
  intro s xs r h
  obtain ⟨⟨v, t⟩, hv, hkind⟩ := bind_eq_ok_iff.1 h
  obtain ⟨w, u, n, hw, hn, hdenotes, hsplit⟩ := readValue_reads _ _ _ _ _ hv
  refine ⟨w, u, n, hw, hn, ?_⟩
  simp only at hkind
  split at hkind
  · rename_i x hx
    cases hkind
    exact ⟨.one (isText_of_denotes hdenotes hx), hsplit⟩
  · rename_i xs' hnone hxs
    cases hkind
    exact ⟨.many (isArray_of_denotes hdenotes hxs), hsplit⟩
  · cases hkind

theorem readValues_accepts (bound : Nat) :
    Accepts bound (readValues bound) IsValues := by
  intro w t n xs r hw hn hvalues hr hlt
  cases hvalues with
  | one hx =>
      exact bind_eq_ok_iff.2
        ⟨_, readValue_text _ _ _ w t n _ r hw hn ⟨_, hx, rfl⟩ hr hlt, rfl⟩
  | many hxs =>
      refine bind_eq_ok_iff.2 ⟨_, readValue_texts _ _ w t n _ r hw hn ⟨_, hxs, rfl⟩ hr hlt, ?_⟩
      simp only [texts?_array, text?]
      rfl

/-- What a member does to the parts of an entry. -/
def AddsPart (a : Parts) (m : String × Node) (b : Parts) : Prop :=
  AddsField IsValuesName IsValues a.values m b.values ∧
    AddsField IsOperatorName Node.IsText a.operator m b.operator

theorem not_isValuesName
    {name : String}
    (h : IsOperatorName name) :
    ¬ IsValuesName name := by
  cases h
  decide

/-- The members of an entry fill its two parts apart from each other. -/
theorem run_part_iff
    {ms : List (String × Node)} {a b : Parts} :
    Run AddsPart a ms b ↔
      Fills IsValues a.values (fieldValues IsValuesName ms) b.values ∧
        Fills Node.IsText a.operator (fieldValues IsOperatorName ms) b.operator := by
  rw [← run_field_iff, ← run_field_iff]
  constructor
  · intro h
    exact ⟨h.map And.left, h.map And.right⟩
  · obtain ⟨values', operator'⟩ := b
    induction ms generalizing a with
    | nil =>
        obtain ⟨values, operator⟩ := a
        rintro ⟨hvalues, hoperator⟩
        cases hvalues
        cases hoperator
        exact .nil
    | cons m ms ih =>
        rintro ⟨hvalues, hoperator⟩
        cases hvalues with
        | @cons _ values _ _ _ hvalue hvalues =>
            cases hoperator with
            | @cons _ operator _ _ _ hoperator hoperators =>
                exact .cons (b := ⟨values, operator⟩) ⟨hvalue, hoperator⟩ (ih ⟨hvalues, hoperators⟩)

/-- What is read as a member of an entry adds to its parts. -/
theorem readPart_sound (bound : Nat) :
    MemberSound (readPart bound) AddsPart := by
  intro parts name s parts' r h
  obtain ⟨values, operator⟩ := parts
  unfold readPart at h
  split at h
  · rename_i hname
    split at h
    · cases h
    · rename_i hnone
      obtain rfl : values = none := hnone
      obtain ⟨w, w', t, n, xs, u, hw, hw', hn, hxs, hk, rfl⟩ :=
        exists_of_member (readValues_reads bound) h
      cases hk
      exact ⟨w, w', t, n, hw, hw', hn,
        ⟨.fill hname hxs, .pass fun h => not_isValuesName h hname⟩, rfl⟩
  · rename_i hname
    split at h
    · rename_i hname'
      split at h
      · cases h
      · rename_i hnone
        obtain rfl : operator = none := hnone
        obtain ⟨w, w', t, n, x, u, hw, hw', hn, hx, hk, rfl⟩ :=
          exists_of_member expectString_reads h
        cases hk
        exact ⟨w, w', t, n, hw, hw', hn, ⟨.pass hname, .fill hname' hx⟩, rfl⟩
    · rename_i hname'
      obtain ⟨w, w', t, u, n, hw, hw', hn, hk, rfl⟩ := exists_of_skippedMember h
      cases hk
      exact ⟨w, w', t, n, hw, hw', hn, ⟨.pass hname, .pass hname'⟩, rfl⟩

theorem readPart_complete (bound : Nat) :
    MemberComplete bound (readPart bound) AddsPart := by
  intro parts name w w' t n parts' r hw hw' hn hpart hr hlt
  obtain ⟨values, operator⟩ := parts
  obtain ⟨values', operator'⟩ := parts'
  obtain ⟨hvalues, hoperator⟩ := hpart
  unfold readPart
  cases hvalues with
  | fill hname hxs =>
      cases hoperator with
      | fill hname' =>
          exact absurd hname (not_isValuesName hname')
      | pass hname' =>
          exact (if_pos hname).trans
            (member_of_written (readValues_accepts bound) hw hw' hn hxs hr hlt)
  | pass hname =>
      cases hoperator with
      | fill hname' hx =>
          exact ((if_neg hname).trans (if_pos hname')).trans
            (member_of_written (expectString_accepts bound) hw hw' hn hx hr hlt)
      | pass hname' =>
          exact ((if_neg hname).trans (if_neg hname')).trans
            (skippedMember_of_written hw hw' hn hr hlt)

theorem entry_eq_ok_iff
    {parts : Parts} {values : List String} {operator : String} :
    parts.entry = .ok ⟨values, operator⟩ ↔ parts = ⟨some values, some operator⟩ := by
  obtain ⟨values', operator'⟩ := parts
  cases values' <;> cases operator' <;> simp [Parts.entry]

/-- What is read as an entry of two items is an array of them. -/
theorem exists_pair_of_readPair
    {bound : Nat} {s r : List Char} {e : FilterEntry}
    (h : readPair bound s = .ok (e, r)) :
    ∃ n t, IsEntry n e ∧ n.Written t ∧ '[' :: s = t ++ r := by
  obtain ⟨next, hfirst, h⟩ := bind_eq_ok_iff.1 h
  cases next with
  | closed =>
      cases h
  | item s₁ =>
      obtain ⟨⟨values, s₂⟩, hvalues, h⟩ := bind_eq_ok_iff.1 h
      obtain ⟨next, hsecond, h⟩ := bind_eq_ok_iff.1 h
      cases next with
      | closed =>
          cases h
      | item s₃ =>
          obtain ⟨⟨operator, s₄⟩, hoperator, h⟩ := bind_eq_ok_iff.1 h
          obtain ⟨s₅, hend, h⟩ := bind_eq_ok_iff.1 h
          cases h
          obtain ⟨w₁, hw₁, rfl⟩ := exists_blank_of_nextItem_first hfirst
          obtain ⟨w₂, v, nv, hw₂, hv, hxs, rfl⟩ := readValues_reads _ _ _ _ hvalues
          obtain ⟨w₃, w₄, hw₃, hw₄, rfl⟩ := exists_comma_of_nextItem hsecond
          obtain ⟨w₅, o, no, hw₅, ho, hx, rfl⟩ := expectString_reads _ _ _ hoperator
          obtain ⟨w₆, hw₆, rfl⟩ := endArray_eq_ok_iff.1 hend
          have hbody := Listed.items (hw₁.append hw₂) hv
            (.item hw₃ (hw₄.append hw₅) ho (.done hw₆))
          exact ⟨_, _, .pair hxs hx, .array hbody, by simp⟩

/-- What is read as an entry means it. -/
theorem readEntry_reads (bound : Nat) :
    Reads (readEntry bound) IsEntry := by
  intro s e r h
  unfold readEntry at h
  split at h
  · rename_i t heq
    obtain ⟨w, hw, rfl⟩ := exists_blank_of_skipBlanks_eq heq
    obtain ⟨n, u, he, hn, hsplit⟩ := exists_pair_of_readPair h
    exact ⟨w, u, n, hw, hn, he, by rw [hsplit]⟩
  · rename_i t heq
    obtain ⟨w, hw, rfl⟩ := exists_blank_of_skipBlanks_eq heq
    obtain ⟨⟨parts, r'⟩, hfold, h⟩ := bind_eq_ok_iff.1 h
    obtain ⟨e', hentry, h⟩ := bind_eq_ok_iff.1 h
    cases h
    obtain ⟨ms, body, hbody, hrun, rfl⟩ := exists_run_of_foldMembers (readPart_sound bound) hfold
    obtain rfl := entry_eq_ok_iff.1 hentry
    obtain ⟨hvalues, hoperator⟩ := run_part_iff.1 hrun
    obtain ⟨v, hvalues, hv⟩ := fills_some_iff.1 hvalues
    obtain ⟨o, hoperator, ho⟩ := fills_some_iff.1 hoperator
    exact ⟨w, _, _, hw, .object hbody, .object hvalues hoperator hv ho, by simp⟩
  · cases h

theorem readPair_of_written
    {bound : Nat} {w₁ w₂ w₃ w₄ t u r : List Char} {v o : Node} {values : List String}
    {operator : String}
    (hw₁ : Blank w₁)
    (hw₂ : Blank w₂)
    (hw₃ : Blank w₃)
    (hw₄ : Blank w₄)
    (ht : v.Written t)
    (hu : o.Written u)
    (hv : IsValues v values)
    (ho : o.IsText operator)
    (hbound : (t ++ (w₂ ++ ',' :: (w₃ ++ (u ++ (w₄ ++ ']' :: r))))).length < bound) :
    readPair bound (w₁ ++ (t ++ (w₂ ++ ',' :: (w₃ ++ (u ++ (w₄ ++ ']' :: r)))))) =
      .ok (⟨values, operator⟩, r) := by
  have hfirst := nextItem_first_of_opens hw₁
    (ht.opens.append (w₂ ++ ',' :: (w₃ ++ (u ++ (w₄ ++ ']' :: r)))))
  have hvalues := readValues_accepts bound [] t v values _ blank_nil ht hv
    (hw₂.stops (stops_cons (by decide))) hbound
  have hsecond := nextItem_of_opens hw₂ hw₃ (hu.opens.append (w₄ ++ ']' :: r))
  have hoperator := expectString_accepts bound [] u o operator (w₄ ++ ']' :: r) blank_nil hu ho
    (hw₄.stops (stops_cons (by decide))) (by
      simp only [List.nil_append, List.length_append, List.length_cons] at hbound ⊢
      omega)
  refine bind_eq_ok_iff.2 ⟨_, hfirst, bind_eq_ok_iff.2 ⟨_, hvalues, ?_⟩⟩
  refine bind_eq_ok_iff.2 ⟨_, hsecond, bind_eq_ok_iff.2 ⟨_, hoperator, ?_⟩⟩
  exact bind_eq_ok_iff.2 ⟨_, endArray_eq_ok_iff.2 ⟨w₄, hw₄, rfl⟩, rfl⟩

theorem readEntry_accepts (bound : Nat) :
    Accepts bound (readEntry bound) IsEntry := by
  intro w t n e r hw hn he hr hlt
  unfold readEntry
  cases he with
  | @pair v o values operator hv ho =>
      cases hn with
      | array hs =>
          cases hs with
          | @items _ _ w₁ tv _ hw₁ hnv hrest =>
              cases hrest with
              | @item _ _ w₂ w₃ tₒ _ hw₂ hw₃ hno hend =>
                  cases hend with
                  | @done w₄ hw₄ =>
                      simp only [List.cons_append, List.append_assoc, List.nil_append,
                        skipBlanks_append hw, skipBlanks_cons (show isBlank '[' = false by decide)]
                      simp only [List.length_append, List.length_cons, List.length_nil] at hlt
                      refine readPair_of_written hw₁ hw₂ hw₃ hw₄ hnv hno hv ho ?_
                      simp only [List.length_append, List.length_cons]
                      omega
  | @object ms v o values operator hvalues hoperator hv ho =>
      cases hn with
      | @object _ s hs =>
          have hrun : Run AddsPart ⟨none, none⟩ ms ⟨some values, some operator⟩ :=
            run_part_iff.2 ⟨fills_some_iff.2 ⟨v, hvalues, hv⟩, fills_some_iff.2 ⟨o, hoperator, ho⟩⟩
          have hlength := length_behind_bracket hlt
          have hfold := foldMembers_of_run (readPart_complete bound) hs hrun hlength hlength
          rw [skipBlanks_bracket hw (by decide)]
          exact bind_eq_ok_iff.2 ⟨_, hfold, bind_eq_ok_iff.2 ⟨_, entry_eq_ok_iff.2 rfl, rfl⟩⟩

theorem readEntries_reads (bound : Nat) :
    Reads (readEntries bound) (Node.IsArray IsEntry) := by
  intro s es r h
  unfold readEntries at h
  split at h
  · rename_i t heq
    obtain ⟨w, hw, rfl⟩ := exists_blank_of_skipBlanks_eq heq
    obtain ⟨ns, body, hbody, hns, rfl⟩ := exists_of_readItems (readEntry_reads bound) h
    exact ⟨w, _, .array ns, hw, .array hbody, ⟨ns, rfl, hns⟩, by simp⟩
  · cases h

theorem readEntries_accepts (bound : Nat) :
    Accepts bound (readEntries bound) (Node.IsArray IsEntry) := by
  rintro w t n es r hw hn ⟨ns, rfl, hns⟩ hr hlt
  cases hn with
  | @array _ s hs =>
      have hlength := length_behind_bracket hlt
      unfold readEntries
      rw [skipBlanks_bracket hw (by decide)]
      exact readItems_of_listed (readEntry_accepts bound) hs hns hlength hlength

/-- What is read as filters means them. -/
theorem readFilters_reads (bound : Nat) :
    Reads (readFilters bound) Means := by
  intro s fs r h
  unfold readFilters at h
  split at h
  · rename_i t heq
    obtain ⟨w, hw, rfl⟩ := exists_blank_of_skipBlanks_eq heq
    obtain ⟨⟨members, r'⟩, hread, h⟩ := bind_eq_ok_iff.1 h
    cases h
    obtain ⟨ms, body, hbody, hms, rfl⟩ := exists_of_readMembers (readEntries_reads bound) hread
    refine ⟨w, _, .object ms, hw, .object hbody, ⟨ms, rfl, ?_⟩, by simp⟩
    simpa [Function.comp_def] using hms
  · cases h

/-- The brace that closes the filters ends their reading, whatever follows. -/
theorem readFilters_of_written
    {bound : Nat} {w t r : List Char} {n : Node} {fs : List Filter}
    (hw : Blank w)
    (hn : n.Written t)
    (hmeans : Means n fs)
    (hlt : (w ++ (t ++ r)).length < bound) :
    readFilters bound (w ++ (t ++ r)) = .ok (fs, r) := by
  obtain ⟨ms, rfl, hms⟩ := hmeans
  cases hn with
  | @object _ s hs =>
      have hlength := length_behind_bracket hlt
      have hread := readMembers_of_listed (readEntries_accepts bound) hs hms hlength hlength
      unfold readFilters
      rw [skipBlanks_bracket hw (by decide)]
      refine bind_eq_ok_iff.2 ⟨_, hread, ?_⟩
      simp [Function.comp_def, pure, Except.pure]

/-- A text is read exactly when its tree means filters, which are then what was read. -/
theorem readText_eq_ok_iff
    {s : List Char} {fs : List Filter} :
    readText s = .ok fs ↔ ∃ n, Node.Spelled n s ∧ Means n fs := by
  constructor
  · intro h
    obtain ⟨⟨fs', r⟩, hread, h⟩ := bind_eq_ok_iff.1 h
    obtain ⟨_, hend, h⟩ := bind_eq_ok_iff.1 h
    cases h
    obtain ⟨w, t, n, hw, hn, hmeans, heq⟩ := readFilters_reads _ _ _ _ hread
    exact ⟨n, ⟨w, t, r, hw, hn, endText_eq_ok_iff.1 hend, heq⟩, hmeans⟩
  · rintro ⟨n, ⟨w, t, w', hw, hn, hw', rfl⟩, hmeans⟩
    have hread := readFilters_of_written hw hn hmeans (Nat.lt_succ_self (w ++ (t ++ w')).length)
    exact bind_eq_ok_iff.2 ⟨_, hread, bind_eq_ok_iff.2 ⟨(), endText_eq_ok_iff.2 hw', rfl⟩⟩

end Payload
end FilterQuery
