import FilterQuery.Proofs.Json.Whole
import FilterQuery.Settings.Document

/-!
# What a settings document says

The number of rows of a document as a relation between the tree of its text and an optional number
(`IsDocument`).  It is missing in four ways: the document has no member `query`, or that is null, or
it has no member `rows_per_page`, or that is null.  A tree says one thing at most.

**Unknown members** are of no account for the number.  Those of the part about queries are passed
over, whatever their values are.

**Results.**
* `IsRows.unique`, `IsQuery.unique`, `IsDocument.unique`: a tree says one thing at most.
* `readQuery_reads`, `readQuery_accepts`: the part about queries is read as what its tree says.
-/

namespace FilterQuery
namespace Document

open Json

def IsRowsName (name : String) : Prop :=
  name = "rows_per_page"

instance : DecidablePred IsRowsName :=
  fun name => inferInstanceAs (Decidable (name = "rows_per_page"))

/-- The name of the part of a document that is about queries. -/
def IsQueryName (name : String) : Prop :=
  name = "query"

instance : DecidablePred IsQueryName :=
  fun name => inferInstanceAs (Decidable (name = "query"))

/-- A number of rows: null, or digits without a sign, a point or an exponent. -/
inductive IsRows : Node → Option UInt32 → Prop
  | null : IsRows .null none
  | number
      {token : List Char} {rows : UInt32}
      (htoken : Decimal.natural? token = some rows.toNat) :
      IsRows (.number token) (some rows)

/-- What is said about queries: null, an object with one number of rows at most, or an array of
that item alone. -/
inductive IsQuery : Node → Option UInt32 → Prop
  | null : IsQuery .null none
  | array
      {n : Node} {rows : Option UInt32}
      (hrows : IsRows n rows) :
      IsQuery (.array [n]) rows
  | object
      {ms : List (String × Node)} {rows : Option (Option UInt32)}
      (hrows : Fills IsRows none (fieldValues IsRowsName ms) rows) :
      IsQuery (.object (spelledNames ms)) rows.join

/-- A document: an object in which one member at most is about queries. -/
inductive IsDocument : Node → Option UInt32 → Prop
  | object
      {ms : List (String × Node)} {rows : Option (Option UInt32)}
      (hquery : Fills IsQuery none (fieldValues IsQueryName ms) rows) :
      IsDocument (.object (spelledNames ms)) rows.join

/-- Whether all members of a document are known. -/
def IsKnown (n : Node) : Prop :=
  ∀ members, n = .object members → ∀ m ∈ members, m.1 = textUnits "query"

variable {n : Node} {rows rows' : Option UInt32}

theorem IsRows.unique
    (h : IsRows n rows)
    (h' : IsRows n rows') :
    rows = rows' := by
  cases h with
  | null =>
      cases h'
      rfl
  | number htoken =>
      cases h' with
      | number htoken' =>
          rw [htoken, Option.some.injEq] at htoken'
          rw [UInt32.toNat_inj.1 htoken']

/-- The query of a document gives one number of rows, or none. -/
theorem IsQuery.unique
    (h : IsQuery n rows)
    (h' : IsQuery n rows') :
    rows = rows' := by
  cases h with
  | null =>
      cases h'
      rfl
  | array hrows =>
      cases h' with
      | array hrows' =>
          exact hrows.unique hrows'
  | object hrows =>
      generalize hms : spelledNames _ = members at h'
      cases h' with
      | object hrows' =>
          obtain rfl := spelledNames_injective hms
          rw [hrows.unique hrows' IsRows.unique]

/-- A document gives one number of rows, or none. -/
theorem IsDocument.unique
    (h : IsDocument n rows)
    (h' : IsDocument n rows') :
    rows = rows' := by
  cases h with
  | object hquery =>
      generalize hms : spelledNames _ = members at h'
      cases h' with
      | object hquery' =>
          obtain rfl := spelledNames_injective hms
          rw [hquery.unique hquery' IsQuery.unique]

/-- A number of rows is an integer of 32 bits. -/
theorem rowsOfNumber_eq_ok_iff
    {x : Number} {k : UInt32} :
    rowsOfNumber x = .ok k ↔ x = .integer k.toNat := by
  unfold rowsOfNumber
  constructor
  · intro h
    split at h
    · split at h
      · rename_i i hrange
        cases h
        have hlt : i.toNat < UInt32.size := by omega
        rw [UInt32.toNat_ofNat_of_lt' hlt]
        congr 1
        omega
      · cases h
    · cases h
  · rintro rfl
    have hrange : 0 ≤ (k.toNat : Int) ∧ (k.toNat : Int) < UInt32.size :=
      ⟨by omega, by exact_mod_cast k.toNat_lt⟩
    simp only [if_pos hrange, Int.toNat_natCast, UInt32.ofNat_toNat]

theorem readRows_reads :
    Reads readRows IsRows := by
  intro s rows r h
  unfold readRows at h
  split at h
  · rename_i t heq
    obtain ⟨w, hw, rfl⟩ := exists_blank_of_skipBlanks_eq heq
    obtain ⟨u, hkeyword, h⟩ := bind_eq_ok_iff.1 h
    cases h
    obtain rfl := keyword_eq_ok_iff.1 hkeyword
    exact ⟨w, _, _, hw, .null, .null, rfl⟩
  · rename_i c t hnull heq
    split at h
    · obtain ⟨w, hw, rfl⟩ := exists_blank_of_skipBlanks_eq heq
      obtain ⟨⟨x, u⟩, hread, h⟩ := bind_eq_ok_iff.1 h
      obtain ⟨k, hk, h⟩ := bind_eq_ok_iff.1 h
      cases h
      obtain rfl := rowsOfNumber_eq_ok_iff.1 hk
      obtain ⟨token, htoken, hsplit, hvalue⟩ := exists_number_of_readNumber hread
      have hnatural := (hvalue _ rfl).2 (by omega)
      exact ⟨w, token, _, hw, .number htoken, .number hnatural, by rw [hsplit]⟩
    · cases h
  · cases h

theorem readRows_accepts (N : Nat) :
    Accepts N readRows IsRows := by
  intro w t n rows r hw hn hrows hr _
  cases hrows with
  | null =>
      cases hn with
      | null =>
          unfold readRows
          rw [skipBlanks_append hw, List.cons_append, skipBlanks_cons (by decide)]
          exact bind_eq_ok_iff.2 ⟨_, keyword_eq_ok_iff.2 rfl, rfl⟩
  | @number _ rows hnatural =>
      cases hn with
      | number htoken =>
          have hfits : rows.toNat ≤ maxInteger :=
            Nat.le_trans (Nat.le_of_lt rows.toNat_lt) (by decide)
          have hread := readNumber_of_natural htoken hnatural hfits hr
          obtain ⟨hdigits, -⟩ := natural?_eq_some_iff.1 hnatural
          obtain ⟨c, t, rfl⟩ := List.exists_cons_of_ne_nil htoken.ne_nil
          have hc := hdigits.2 c (by simp)
          have hskip : skipBlanks (w ++ (c :: t ++ r)) = c :: (t ++ r) :=
            skipBlanks_of_opens hw ((Node.Written.number htoken).opens.append r)
          unfold readRows
          rw [hskip]
          split
          · rename_i heq
            cases heq
            exact absurd hc (by decide)
          · rename_i heq
            cases heq
            rw [if_pos (.inr hc)]
            exact bind_eq_ok_iff.2
              ⟨_, hread, bind_eq_ok_iff.2 ⟨_, rowsOfNumber_eq_ok_iff.2 rfl, rfl⟩⟩
          · rename_i heq
            cases heq

/-- What is read as a member of the query fills its field. -/
theorem readQueryMember_sound (bound : Nat) :
    MemberSound (readQueryMember bound) (AddsField IsRowsName IsRows) := by
  intro a name s b r h
  unfold readQueryMember at h
  split at h
  · rename_i hname
    cases a with
    | some =>
        cases h
    | none =>
        obtain ⟨w, w', t, n, rows, u, hw, hw', hn, hrows, hk, rfl⟩ :=
          exists_of_member readRows_reads h
        cases hk
        exact ⟨w, w', t, n, hw, hw', hn, .fill hname hrows, rfl⟩
  · rename_i hname
    obtain ⟨w, w', t, u, n, hw, hw', hn, hk, rfl⟩ := exists_of_skippedMember h
    cases hk
    exact ⟨w, w', t, n, hw, hw', hn, .pass hname, rfl⟩

theorem readQueryMember_complete (bound : Nat) :
    MemberComplete bound (readQueryMember bound) (AddsField IsRowsName IsRows) := by
  intro a name w w' t n b r hw hw' hn hfield hr hlt
  unfold readQueryMember
  cases hfield with
  | fill hname hrows =>
      exact (if_pos hname).trans
        (member_of_written (readRows_accepts bound) hw hw' hn hrows hr hlt)
  | pass hname =>
      exact (if_neg hname).trans (skippedMember_of_written hw hw' hn hr hlt)

/-- What is read as the query means it. -/
theorem readQuery_reads (bound : Nat) :
    Reads (readQuery bound) IsQuery := by
  intro s rows r h
  unfold readQuery at h
  split at h
  · rename_i t heq
    obtain ⟨w, hw, rfl⟩ := exists_blank_of_skipBlanks_eq heq
    obtain ⟨u, hkeyword, h⟩ := bind_eq_ok_iff.1 h
    cases h
    obtain rfl := keyword_eq_ok_iff.1 hkeyword
    exact ⟨w, _, _, hw, .null, .null, rfl⟩
  · rename_i t heq
    obtain ⟨w, hw, rfl⟩ := exists_blank_of_skipBlanks_eq heq
    obtain ⟨next, hfirst, h⟩ := bind_eq_ok_iff.1 h
    cases next with
    | closed =>
        cases h
    | item u =>
        obtain ⟨⟨rows', v⟩, hread, h⟩ := bind_eq_ok_iff.1 h
        obtain ⟨v', hend, h⟩ := bind_eq_ok_iff.1 h
        cases h
        obtain ⟨w₁, hw₁, rfl⟩ := exists_blank_of_nextItem_first hfirst
        obtain ⟨w₂, token, n, hw₂, hn, hrows, rfl⟩ := readRows_reads _ _ _ hread
        obtain ⟨w₃, hw₃, rfl⟩ := endArray_eq_ok_iff.1 hend
        have hbody := Listed.items (hw₁.append hw₂) hn (.done hw₃)
        exact ⟨w, _, _, hw, .array hbody, .array hrows, by simp⟩
  · rename_i t heq
    obtain ⟨w, hw, rfl⟩ := exists_blank_of_skipBlanks_eq heq
    obtain ⟨⟨field, u⟩, hfold, h⟩ := bind_eq_ok_iff.1 h
    cases h
    obtain ⟨ms, body, hbody, hrun, rfl⟩ :=
      exists_run_of_foldMembers (readQueryMember_sound bound) hfold
    exact ⟨w, _, _, hw, .object hbody, .object (run_field_iff.1 hrun), by simp⟩
  · cases h

theorem readQuery_accepts (bound : Nat) :
    Accepts bound (readQuery bound) IsQuery := by
  intro w t n rows r hw hn hquery hr hlt
  unfold readQuery
  cases hquery with
  | null =>
      cases hn with
      | null =>
          rw [skipBlanks_append hw, List.cons_append, skipBlanks_cons (by decide)]
          exact bind_eq_ok_iff.2 ⟨_, keyword_eq_ok_iff.2 rfl, rfl⟩
  | array hrows =>
      cases hn with
      | array hs =>
          cases hs with
          | @items _ _ w₁ token w₂ hw₁ hn hrest =>
              cases hrest with
              | done hw₂ =>
                  have hfirst := nextItem_first_of_opens hw₁ (hn.opens.append (w₂ ++ ']' :: r))
                  have hread := readRows_accepts bound [] token _ rows (w₂ ++ ']' :: r) blank_nil hn
                    hrows (hw₂.stops (stops_cons (by decide))) (by
                      simp only [List.nil_append, List.length_append, List.length_cons] at hlt ⊢
                      omega)
                  have hend := endArray_eq_ok_iff.2 ⟨w₂, hw₂, Eq.refl (w₂ ++ ']' :: r)⟩
                  simp only [List.cons_append, List.append_assoc, List.nil_append,
                    skipBlanks_append hw, skipBlanks_cons (show isBlank '[' = false by decide)]
                  refine bind_eq_ok_iff.2 ⟨_, hfirst, bind_eq_ok_iff.2 ⟨_, hread, ?_⟩⟩
                  exact bind_eq_ok_iff.2 ⟨_, hend, rfl⟩
  | @object ms field hrows =>
      cases hn with
      | @object _ s hs =>
          have hlength := length_behind_bracket hlt
          have hfold := foldMembers_of_run (readQueryMember_complete bound) hs
            (run_field_iff.2 hrows) hlength hlength
          rw [skipBlanks_bracket hw (by decide)]
          exact bind_eq_ok_iff.2 ⟨_, hfold, rfl⟩

end Document
end FilterQuery
