import FilterQuery.Proofs.Json.Quoted

/-!
# Reading containers

A reader is folded over the items of an array or the members of an object.  What the fold accepts
is a container of the grammar, and each container of the grammar is read to its end, provided that
the same holds of the reader and its items.

**Model.** A reader changes a state; a relation says how, given the tree of the item.  `Run` follows
the states through all items.  A reader that returns values is the case in which the state is the
list of values so far.

**Results.**
* `exists_run_of_foldItems`, `exists_run_of_foldMembers`: what is read.
* `foldItems_of_run`, `foldMembers_of_run`: nothing of the grammar is refused.
-/

namespace FilterQuery
namespace Json

section Punctuation

variable {s t r w w' : List Char}

theorem exists_blank_of_skipBlanks_eq
    (h : skipBlanks s = t) :
    ∃ w, Blank w ∧ s = w ++ t := by
  rw [← h]
  exact exists_blank s

/-- Blanks end where a value or a name begins. -/
theorem skipBlanks_of_opens
    (hw : Blank w)
    (ht : Opens t) :
    skipBlanks (w ++ t) = t := by
  obtain ⟨c, r, rfl, hc, -⟩ := ht
  rw [skipBlanks_append hw, skipBlanks_cons hc]

/-- The opening bracket of a container is the first of its characters that is no blank. -/
theorem skipBlanks_bracket
    {opening closing : Char}
    (hw : Blank w)
    (hopening : isBlank opening = false) :
    skipBlanks (w ++ (opening :: (s ++ [closing]) ++ r)) = opening :: (s ++ closing :: r) := by
  rw [skipBlanks_append hw, List.cons_append, skipBlanks_cons hopening, List.append_assoc,
    List.singleton_append]

/-- The text behind the opening bracket of a container is shorter than that in front of it. -/
theorem length_behind_bracket
    {opening closing : Char} {N : Nat}
    (h : (w ++ (opening :: (s ++ [closing]) ++ r)).length < N) :
    (s ++ closing :: r).length < N := by
  simp only [List.length_append, List.length_cons, List.length_nil] at h ⊢
  omega

/-- The text behind the colon of a member is shorter than that in front of it. -/
theorem length_behind_colon
    {N : Nat}
    (h : (w ++ ':' :: s).length < N) :
    s.length < N := by
  simp only [List.length_append, List.length_cons] at h
  omega

theorem colon_eq_ok_iff :
    colon s = .ok r ↔ ∃ w, Blank w ∧ s = w ++ ':' :: r := by
  constructor
  · intro h
    unfold colon at h
    split at h
    · cases h
    · rename_i t heq
      cases h
      exact exists_blank_of_skipBlanks_eq heq
    · cases h
  · rintro ⟨w, hw, rfl⟩
    rw [colon, skipBlanks_append hw, skipBlanks_cons (by decide)]
    rfl

theorem colon_of_blank
    (hw : Blank w)
    (s : List Char) :
    colon (w ++ ':' :: s) = .ok s :=
  colon_eq_ok_iff.2 ⟨w, hw, rfl⟩

theorem endArray_eq_ok_iff :
    endArray s = .ok r ↔ ∃ w, Blank w ∧ s = w ++ ']' :: r := by
  constructor
  · intro h
    unfold endArray at h
    split at h
    · cases h
    · rename_i t heq
      cases h
      exact exists_blank_of_skipBlanks_eq heq
    · split at h <;> cases h
    · cases h
  · rintro ⟨w, hw, rfl⟩
    rw [endArray, skipBlanks_append hw, skipBlanks_cons (by decide)]
    rfl

/-- Behind a document there are blanks only. -/
theorem endText_eq_ok_iff :
    endText s = .ok () ↔ Blank s := by
  constructor
  · intro h
    unfold endText at h
    split at h
    · rename_i heq
      obtain ⟨w, hw, rfl⟩ := exists_blank_of_skipBlanks_eq heq
      simpa using hw
    · cases h
  · intro h
    rw [endText, skipBlanks_blank h]

theorem nextItem_closed_iff
    {first : Bool} :
    nextItem first s = .ok (.closed r) ↔ ∃ w, Blank w ∧ s = w ++ ']' :: r := by
  constructor
  · intro h
    unfold nextItem at h
    split at h
    · cases h
    · rename_i t heq
      cases h
      exact exists_blank_of_skipBlanks_eq heq
    · split at h
      · cases h
      · split at h
        · split at h <;> cases h
        · cases h
  · rintro ⟨w, hw, rfl⟩
    rw [nextItem, skipBlanks_append hw, skipBlanks_cons (by decide)]
    rfl

theorem exists_blank_of_nextItem_first
    (h : nextItem true s = .ok (.item r)) :
    ∃ w, Blank w ∧ s = w ++ r := by
  unfold nextItem at h
  split at h
  · cases h
  · cases h
  · rename_i c t hne heq
    cases h
    exact exists_blank_of_skipBlanks_eq heq

/-- Between two items there is a comma, with blanks on either side. -/
theorem exists_comma_of_nextItem
    (h : nextItem false s = .ok (.item r)) :
    ∃ w w', Blank w ∧ Blank w' ∧ s = w ++ ',' :: (w' ++ r) := by
  unfold nextItem at h
  split at h
  · cases h
  · cases h
  · rename_i c t hne heq
    rw [if_neg (by decide)] at h
    split at h
    · rename_i hc
      subst hc
      obtain ⟨w, hw, rfl⟩ := exists_blank_of_skipBlanks_eq heq
      split at h
      · cases h
      · cases h
      · cases h
        obtain ⟨w', hw', ht⟩ := exists_blank t
        exact ⟨w, w', hw, hw', by rw [← ht]⟩
    · cases h

/-- The first item of an array begins behind blanks. -/
theorem nextItem_first_of_opens
    (hw : Blank w)
    (ht : Opens t) :
    nextItem true (w ++ t) = .ok (.item t) := by
  unfold nextItem
  rw [skipBlanks_of_opens hw ht]
  obtain ⟨c, r, rfl, -, -, hbracket, -⟩ := ht
  split
  · rename_i heq
    cases heq
  · rename_i heq
    cases heq
    exact absurd rfl hbracket
  · rename_i heq
    cases heq
    rfl

theorem nextItem_of_opens
    (hw : Blank w)
    (hw' : Blank w')
    (ht : Opens t) :
    nextItem false (w ++ ',' :: (w' ++ t)) = .ok (.item t) := by
  unfold nextItem
  rw [skipBlanks_append hw, skipBlanks_cons (by decide)]
  have hskip := skipBlanks_of_opens hw' ht
  obtain ⟨c, r, rfl, -, -, hbracket, -⟩ := ht
  split
  · rename_i heq
    cases heq
  · rename_i heq
    cases heq
  · rename_i heq
    cases heq
    rw [if_neg (by decide), if_pos rfl, hskip]
    split
    · rename_i heq
      cases heq
    · rename_i heq
      cases heq
      exact absurd rfl hbracket
    · rfl

theorem nextMember_closed_iff
    {first : Bool} :
    nextMember first s = .ok (.closed r) ↔ ∃ w, Blank w ∧ s = w ++ '}' :: r := by
  constructor
  · intro h
    unfold nextMember at h
    split at h
    · cases h
    · rename_i t heq
      cases h
      exact exists_blank_of_skipBlanks_eq heq
    · split at h
      · split at h <;> cases h
      · split at h
        · split at h <;> cases h
        · cases h
  · rintro ⟨w, hw, rfl⟩
    rw [nextMember, skipBlanks_append hw, skipBlanks_cons (by decide)]
    rfl

theorem nextMember_first_iff :
    nextMember true s = .ok (.item r) ↔ ∃ w, Blank w ∧ s = w ++ '"' :: r := by
  constructor
  · intro h
    unfold nextMember at h
    split at h
    · cases h
    · cases h
    · rename_i c t hne heq
      rw [if_pos rfl] at h
      split at h
      · rename_i hc
        cases h
        exact exists_blank_of_skipBlanks_eq (hc ▸ heq)
      · cases h
  · rintro ⟨w, hw, rfl⟩
    rw [nextMember, skipBlanks_append hw, skipBlanks_cons (by decide)]
    rfl

theorem nextMember_item_iff :
    nextMember false s = .ok (.item r) ↔
      ∃ w w', Blank w ∧ Blank w' ∧ s = w ++ ',' :: (w' ++ '"' :: r) := by
  constructor
  · intro h
    unfold nextMember at h
    split at h
    · cases h
    · cases h
    · rename_i c t hne heq
      rw [if_neg (by decide)] at h
      split at h
      · rename_i hc
        subst hc
        obtain ⟨w, hw, rfl⟩ := exists_blank_of_skipBlanks_eq heq
        split at h
        · cases h
        · rename_i t' heq'
          cases h
          obtain ⟨w', hw', rfl⟩ := exists_blank_of_skipBlanks_eq heq'
          exact ⟨w, w', hw, hw', rfl⟩
        · cases h
        · cases h
      · cases h
  · rintro ⟨w, w', hw, hw', rfl⟩
    have hskip : skipBlanks (w' ++ '"' :: r) = '"' :: r := by
      rw [skipBlanks_append hw', skipBlanks_cons (by decide)]
    unfold nextMember
    rw [skipBlanks_append hw, skipBlanks_cons (by decide)]
    split
    · rename_i heq
      cases heq
    · rename_i heq
      cases heq
    · rename_i heq
      cases heq
      rw [if_neg (by decide), if_pos rfl, hskip]
      rfl

end Punctuation

section Fold

variable {α β σ : Type}

/-- The states that a list of items leads through, one step for each. -/
inductive Run (T : σ → β → σ → Prop) : σ → List β → σ → Prop
  | nil
      {a : σ} :
      Run T a [] a
  | cons
      {a b c : σ} {x : β} {xs : List β}
      (hx : T a x b)
      (hxs : Run T b xs c) :
      Run T a (x :: xs) c

/-- A run is seen in each part of the states that the steps change by themselves. -/
theorem Run.map
    {σ' : Type} {T : σ → β → σ → Prop} {T' : σ' → β → σ' → Prop} {f : σ → σ'}
    {a c : σ} {xs : List β}
    (h : Run T a xs c)
    (hf : ∀ {a x b}, T a x b → T' (f a) x (f b)) :
    Run T' (f a) xs (f c) := by
  induction h with
  | nil =>
      exact .nil
  | cons hx hxs ih =>
      exact .cons (hf hx) ih

variable {step : σ → List Char → Except Problem (σ × List Char)} {T : σ → Node → σ → Prop}
variable {bound N : Nat} {a c : σ} {s r body : List Char} {ns : List Node}

/-- The node that a step reads, and what it does to the state. -/
def StepSound (step : σ → List Char → Except Problem (σ × List Char)) (T : σ → Node → σ → Prop) :
    Prop :=
  ∀ a s b r, step a s = .ok (b, r) →
    ∃ w t n, Blank w ∧ n.Written t ∧ T a n b ∧ s = w ++ (t ++ r)

/-- A step reads every node that the relation admits, in a text that is shorter than a bound. -/
def StepComplete (N : Nat) (step : σ → List Char → Except Problem (σ × List Char))
    (T : σ → Node → σ → Prop) : Prop :=
  ∀ a t n b r, n.Written t → T a n b → Stops r → (t ++ r).length < N →
    step a (t ++ r) = .ok (b, r)

/-- Items that are read one after the other are written one after the other. -/
theorem exists_run_of_more
    (hstep : StepSound step T)
    (h : foldItems step bound false a s = .ok (c, r)) :
    ∃ ns body, More Node.Written ns body ∧ Run T a ns c ∧ s = body ++ ']' :: r := by
  induction bound generalizing a s with
  | zero =>
      cases h
  | succ bound ih =>
      unfold foldItems at h
      split at h
      · cases h
      · rename_i hnext
        cases h
        obtain ⟨w, hw, rfl⟩ := nextItem_closed_iff.1 hnext
        exact ⟨[], w, .done hw, .nil, rfl⟩
      · rename_i t hnext
        split at h
        · cases h
        · rename_i b u hread
          obtain ⟨w, w', hw, hw', rfl⟩ := exists_comma_of_nextItem hnext
          obtain ⟨v, t, n, hv, ht, hn, rfl⟩ := hstep _ _ _ _ hread
          obtain ⟨ns, body, hbody, hrun, rfl⟩ := ih h
          refine ⟨n :: ns, w ++ ',' :: ((w' ++ v) ++ (t ++ body)),
            .item hw (hw'.append hv) ht hbody, .cons hn hrun, by simp⟩

/-- An array that is read is one of the grammar. -/
theorem exists_run_of_foldItems
    (hstep : StepSound step T)
    (h : foldItems step bound true a s = .ok (c, r)) :
    ∃ ns body, Listed Node.Written ns body ∧ Run T a ns c ∧ s = body ++ ']' :: r := by
  cases bound with
  | zero =>
      cases h
  | succ bound =>
      unfold foldItems at h
      split at h
      · cases h
      · rename_i hnext
        cases h
        obtain ⟨w, hw, rfl⟩ := nextItem_closed_iff.1 hnext
        exact ⟨[], w, .empty hw, .nil, rfl⟩
      · rename_i t hnext
        split at h
        · cases h
        · rename_i b u hread
          obtain ⟨w, hw, rfl⟩ := exists_blank_of_nextItem_first hnext
          obtain ⟨v, t, n, hv, ht, hn, rfl⟩ := hstep _ _ _ _ hread
          obtain ⟨ns, body, hbody, hrun, rfl⟩ := exists_run_of_more hstep h
          exact ⟨n :: ns, (w ++ v) ++ (t ++ body), .items (hw.append hv) ht hbody,
            .cons hn hrun, by simp⟩

/-- Items that are written one after the other are read so. -/
theorem foldItems_of_more
    (hstep : StepComplete N step T)
    (hbody : More Node.Written ns body)
    (hrun : Run T a ns c)
    (hN : (body ++ ']' :: r).length ≤ N)
    (hbound : (body ++ ']' :: r).length ≤ bound) :
    foldItems step bound false a (body ++ ']' :: r) = .ok (c, r) := by
  induction hbody generalizing a bound with
  | done hw =>
      obtain ⟨bound, rfl⟩ : ∃ n, bound = n + 1 := by
        simp only [List.length_append, List.length_cons] at hbound
        exact ⟨bound - 1, by omega⟩
      cases hrun
      rw [foldItems, nextItem_closed_iff.2 ⟨_, hw, rfl⟩]
  | @item n ns w w' t s hw hw' hn hns ih =>
      simp only [List.length_append, List.length_cons, List.append_assoc, List.cons_append]
        at hN hbound ⊢
      obtain ⟨bound, rfl⟩ : ∃ n, bound = n + 1 := ⟨bound - 1, by omega⟩
      cases hrun with
      | cons hx hxs =>
          have hread := hstep _ _ _ _ _ hn hx (hns.stops .array r)
            (by simp only [List.length_append, List.length_cons]; omega)
          rw [foldItems, nextItem_of_opens hw hw' (hn.opens.append _)]
          simp only [Container.closing] at hread
          simp only [hread]
          refine ih hxs ?_ ?_
          all_goals
            simp only [List.length_append, List.length_cons]
            omega

/-- Each array of the grammar is read to its end. -/
theorem foldItems_of_run
    (hstep : StepComplete N step T)
    (hbody : Listed Node.Written ns body)
    (hrun : Run T a ns c)
    (hN : (body ++ ']' :: r).length < N)
    (hbound : (body ++ ']' :: r).length < bound) :
    foldItems step bound true a (body ++ ']' :: r) = .ok (c, r) := by
  obtain ⟨bound, rfl⟩ : ∃ n, bound = n + 1 := ⟨bound - 1, by omega⟩
  cases hbody with
  | empty hw =>
      cases hrun
      rw [foldItems, nextItem_closed_iff.2 ⟨_, hw, rfl⟩]
  | @items n ns w t s hw hn hns =>
      simp only [List.length_append, List.length_cons, List.append_assoc] at hN hbound ⊢
      cases hrun with
      | cons hx hxs =>
          have hread := hstep _ _ _ _ _ hn hx (hns.stops .array r)
            (by simp only [List.length_append, List.length_cons]; omega)
          rw [foldItems, nextItem_first_of_opens hw (hn.opens.append _)]
          simp only [Container.closing] at hread
          simp only [hread]
          refine foldItems_of_more hstep hns hxs ?_ ?_
          all_goals
            simp only [List.length_append, List.length_cons]
            omega

variable {read : σ → String → List Char → Except Problem (σ × List Char)}
variable {U : σ → String × Node → σ → Prop} {ms : List (String × Node)}

/-- The members of a list under the units of their names. -/
def spelledNames (ms : List (String × Node)) : List (List Nat × Node) :=
  ms.map fun m => (textUnits m.1, m.2)

/-- Members are told by the units of their names. -/
theorem spelledNames_injective :
    Function.Injective spelledNames := by
  refine List.map_injective_iff.2 ?_
  rintro ⟨name, n⟩ ⟨name', n'⟩ h
  obtain ⟨hname, hn⟩ := Prod.mk.inj h
  exact Prod.ext (textUnits_injective hname) hn

/-- The member that a step reads from behind its name, and what it does to the state. -/
def MemberSound (read : σ → String → List Char → Except Problem (σ × List Char))
    (U : σ → String × Node → σ → Prop) : Prop :=
  ∀ a name s b r, read a name s = .ok (b, r) →
    ∃ w w' t n, Blank w ∧ Blank w' ∧ n.Written t ∧ U a (name, n) b ∧
      s = w ++ ':' :: (w' ++ (t ++ r))

/-- A step reads every member that the relation admits, in a text that is shorter than a bound. -/
def MemberComplete (N : Nat) (read : σ → String → List Char → Except Problem (σ × List Char))
    (U : σ → String × Node → σ → Prop) : Prop :=
  ∀ a name w w' t n b r, Blank w → Blank w' → n.Written t → U a (name, n) b → Stops r →
    (w ++ ':' :: (w' ++ (t ++ r))).length < N →
    read a name (w ++ ':' :: (w' ++ (t ++ r))) = .ok (b, r)

theorem exists_labelled
    {b : σ} {name : String} {t : List Char}
    (hread : MemberSound read U)
    (hname : readString s = .ok (name, t))
    (h : read a name t = .ok (b, r)) :
    ∃ n u, Labelled Node.Written (textUnits name, n) u ∧ U a (name, n) b ∧ '"' :: s = u ++ r := by
  obtain ⟨q, hq, rfl⟩ := readString_eq_ok_iff.1 hname
  obtain ⟨w, w', u, n, hw, hw', hn, hU, rfl⟩ := hread _ _ _ _ _ h
  exact ⟨n, _, .mk hq hw hw' hn, hU, by simp⟩

/-- Members that are read one after the other are written one after the other. -/
theorem exists_run_of_moreMembers
    (hread : MemberSound read U)
    (h : foldMembers read bound false a s = .ok (c, r)) :
    ∃ ms body, More (Labelled Node.Written) (spelledNames ms) body ∧ Run U a ms c ∧
      s = body ++ '}' :: r := by
  induction bound generalizing a s with
  | zero =>
      cases h
  | succ bound ih =>
      unfold foldMembers at h
      split at h
      · cases h
      · rename_i hnext
        cases h
        obtain ⟨w, hw, rfl⟩ := nextMember_closed_iff.1 hnext
        exact ⟨[], w, .done hw, .nil, rfl⟩
      · rename_i t hnext
        split at h
        · cases h
        · rename_i name t' hname
          split at h
          · cases h
          · rename_i b u hvalue
            obtain ⟨w, w', hw, hw', rfl⟩ := nextMember_item_iff.1 hnext
            obtain ⟨n, v, hv, hU, hsplit⟩ := exists_labelled hread hname hvalue
            obtain ⟨ms, body, hbody, hrun, rfl⟩ := ih h
            refine ⟨(name, n) :: ms, w ++ ',' :: (w' ++ (v ++ body)), .item hw hw' hv hbody,
              .cons hU hrun, ?_⟩
            rw [hsplit]
            simp

/-- An object that is read is one of the grammar. -/
theorem exists_run_of_foldMembers
    (hread : MemberSound read U)
    (h : foldMembers read bound true a s = .ok (c, r)) :
    ∃ ms body, Listed (Labelled Node.Written) (spelledNames ms) body ∧ Run U a ms c ∧
      s = body ++ '}' :: r := by
  cases bound with
  | zero =>
      cases h
  | succ bound =>
      unfold foldMembers at h
      split at h
      · cases h
      · rename_i hnext
        cases h
        obtain ⟨w, hw, rfl⟩ := nextMember_closed_iff.1 hnext
        exact ⟨[], w, .empty hw, .nil, rfl⟩
      · rename_i t hnext
        split at h
        · cases h
        · rename_i name t' hname
          split at h
          · cases h
          · rename_i b u hvalue
            obtain ⟨w, hw, rfl⟩ := nextMember_first_iff.1 hnext
            obtain ⟨n, v, hv, hU, hsplit⟩ := exists_labelled hread hname hvalue
            obtain ⟨ms, body, hbody, hrun, rfl⟩ := exists_run_of_moreMembers hread h
            refine ⟨(name, n) :: ms, w ++ (v ++ body), .items hw hv hbody, .cons hU hrun, ?_⟩
            rw [hsplit]
            simp

/-- Members that are written one after the other are read so. -/
theorem foldMembers_of_more
    (hread : MemberComplete N read U)
    (hbody : More (Labelled Node.Written) (spelledNames ms) body)
    (hrun : Run U a ms c)
    (hN : (body ++ '}' :: r).length ≤ N)
    (hbound : (body ++ '}' :: r).length ≤ bound) :
    foldMembers read bound false a (body ++ '}' :: r) = .ok (c, r) := by
  induction ms generalizing a bound body with
  | nil =>
      obtain ⟨bound, rfl⟩ : ∃ n, bound = n + 1 := by
        simp only [List.length_append, List.length_cons] at hbound
        exact ⟨bound - 1, by omega⟩
      cases hrun
      cases hbody with
      | done hw =>
          rw [foldMembers, nextMember_closed_iff.2 ⟨_, hw, rfl⟩]
  | cons m ms ih =>
      obtain ⟨name, n⟩ := m
      cases hrun with
      | cons hU hrun =>
          cases hbody with
          | @item _ _ w w' t s hw hw' hm hms =>
              obtain ⟨hname, hv, hv', hn⟩ := hm
              simp only [List.length_append, List.length_cons, List.append_assoc, List.cons_append]
                at hN hbound ⊢
              obtain ⟨bound, rfl⟩ : ∃ n, bound = n + 1 := ⟨bound - 1, by omega⟩
              have hvalue := hread _ _ _ _ _ _ _ _ hv hv' hn hU (hms.stops .object r)
                (by simp only [List.length_append, List.length_cons]; omega)
              simp only [Container.closing] at hvalue
              rw [foldMembers, nextMember_item_iff.2 ⟨w, w', hw, hw', rfl⟩]
              simp only [readString_eq_ok_iff.2 ⟨_, hname, rfl⟩, hvalue]
              refine ih hms hrun ?_ ?_
              all_goals
                simp only [List.length_append, List.length_cons]
                omega

/-- Each object of the grammar is read to its end. -/
theorem foldMembers_of_run
    (hread : MemberComplete N read U)
    (hbody : Listed (Labelled Node.Written) (spelledNames ms) body)
    (hrun : Run U a ms c)
    (hN : (body ++ '}' :: r).length < N)
    (hbound : (body ++ '}' :: r).length < bound) :
    foldMembers read bound true a (body ++ '}' :: r) = .ok (c, r) := by
  obtain ⟨bound, rfl⟩ : ∃ n, bound = n + 1 := ⟨bound - 1, by omega⟩
  cases ms with
  | nil =>
      cases hrun
      cases hbody with
      | empty hw =>
          rw [foldMembers, nextMember_closed_iff.2 ⟨_, hw, rfl⟩]
  | cons m ms =>
      obtain ⟨name, n⟩ := m
      cases hrun with
      | cons hU hrun =>
          cases hbody with
          | @items _ _ w t s hw hm hms =>
              obtain ⟨hname, hv, hv', hn⟩ := hm
              simp only [List.length_append, List.length_cons, List.append_assoc, List.cons_append]
                at hN hbound ⊢
              have hvalue := hread _ _ _ _ _ _ _ _ hv hv' hn hU (hms.stops .object r)
                (by simp only [List.length_append, List.length_cons]; omega)
              simp only [Container.closing] at hvalue
              rw [foldMembers, nextMember_first_iff.2 ⟨w, hw, rfl⟩]
              simp only [readString_eq_ok_iff.2 ⟨_, hname, rfl⟩, hvalue]
              refine foldMembers_of_more hread hms hrun ?_ ?_
              all_goals
                simp only [List.length_append, List.length_cons]
                omega

end Fold

end Json
end FilterQuery
