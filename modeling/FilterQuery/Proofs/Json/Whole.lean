import FilterQuery.Proofs.Json.Extent
import FilterQuery.Proofs.Json.Read

/-!
# Values that are read whole

Which values of the grammar an untyped reader takes, and as what (`Node.ReadsAs`).  Three things
stand in its way: a number that is out of range, a string with half of a pair of units, and a
container for which no depth is left.

**Denotation.** Whatever a value is read as, it denotes that (`Node.Denotes`).  How its numbers are
rounded is left open.

**Results.**
* `readValue_sound`, `readValue_complete`: exactly the values of the relation are read.
* `readValue_reads`: what is read whole is denoted by its tree.
* `readValue_text`, `readValue_texts`: strings and arrays of strings are read.
-/

namespace FilterQuery
namespace Json

namespace Node

/-- What a value that is no container is read as. -/
inductive IsScalar : Node → Json → Prop
  | null : IsScalar .null .null
  | boolean
      {b : Bool} :
      IsScalar (.boolean b) (.boolean b)
  | number
      {token : List Char} {x : Number}
      (hx : readNumber token = .ok (x, [])) :
      IsScalar (.number token) (.number x)
  | string
      {x : String} :
      IsScalar (.string (textUnits x)) (.string x)

/-- What a value is read as if so many containers may be opened, one inside the other. -/
def ReadsAs : Nat → Node → Json → Prop
  | 0, n, v => n.IsScalar v
  | depth + 1, n, v =>
      n.IsScalar v ∨ (∃ vs, n.IsArray (ReadsAs depth) vs ∧ v = .array vs) ∨
        ∃ vs, n.IsObject (ReadsAs depth) vs ∧ v = .object vs

/-- Whether a value can be read whole. -/
def Readable (depth : Nat) (n : Node) : Prop :=
  ∃ v, n.ReadsAs depth v

end Node

section Value

variable {n : Node} {v : Json} {s t r w : List Char}

theorem Node.IsScalar.readsAs
    (h : n.IsScalar v)
    (depth : Nat) :
    n.ReadsAs depth v := by
  cases depth with
  | zero =>
      exact h
  | succ =>
      exact .inl h

/-- What is read without brackets is written so, and has that value. -/
theorem readScalar_reads
    (h : readScalar s = .ok (v, r)) :
    ∃ n t, Node.Written n t ∧ n.IsScalar v ∧ s = t ++ r := by
  unfold readScalar at h
  split at h
  · cases h
  · obtain ⟨t, ht, h⟩ := bind_eq_ok_iff.1 h
    cases h
    obtain rfl := keyword_eq_ok_iff.1 ht
    exact ⟨_, _, .null, .null, rfl⟩
  · obtain ⟨t, ht, h⟩ := bind_eq_ok_iff.1 h
    cases h
    obtain rfl := keyword_eq_ok_iff.1 ht
    exact ⟨_, _, .yes, .boolean, rfl⟩
  · obtain ⟨t, ht, h⟩ := bind_eq_ok_iff.1 h
    cases h
    obtain rfl := keyword_eq_ok_iff.1 ht
    exact ⟨_, _, .no, .boolean, rfl⟩
  · obtain ⟨⟨x, t⟩, ht, h⟩ := bind_eq_ok_iff.1 h
    cases h
    obtain ⟨q, hq, rfl⟩ := readString_eq_ok_iff.1 ht
    exact ⟨_, _, .string hq, .string, by simp⟩
  · split at h
    · obtain ⟨⟨x, t⟩, ht, h⟩ := bind_eq_ok_iff.1 h
      cases h
      obtain ⟨token, htoken, heq, hx⟩ := exists_readNumber_split ht
      exact ⟨_, _, .number htoken, .number hx, heq⟩
    · cases h

theorem exists_cons_of_number
    (h : IsNumber t) :
    ∃ c u, t = c :: u ∧ (c = '-' ∨ c.isDigit = true) := by
  obtain @⟨sign, whole, f, e, rfl | rfl, hwhole, -, -⟩ := h
  · obtain ⟨c, ds, rfl⟩ := List.exists_cons_of_ne_nil hwhole.1.1
    exact ⟨c, ds ++ (f ++ e), rfl, .inr (hwhole.1.2 c (by simp))⟩
  · exact ⟨'-', whole ++ (f ++ e), rfl, .inl rfl⟩

/-- No value begins with a bracket unless it is a container. -/
theorem Node.IsScalar.head?_ne
    (hn : n.Written t)
    (hv : n.IsScalar v)
    (r : List Char) :
    (t ++ r).head? ≠ some '[' ∧ (t ++ r).head? ≠ some '{' := by
  cases hv with
  | number =>
      cases hn with
      | number htoken =>
          obtain ⟨c, u, rfl, hc⟩ := exists_cons_of_number htoken
          constructor
          all_goals
            rintro ⟨⟩
            revert hc
            decide
  | null | boolean | string =>
      cases hn <;> simp

/-- A value without brackets is read as it is. -/
theorem readScalar_accepts
    (hn : n.Written t)
    (hv : n.IsScalar v)
    (hr : Stops r) :
    readScalar (t ++ r) = .ok (v, r) := by
  cases hv with
  | null =>
      cases hn with
      | null =>
          exact bind_eq_ok_iff.2 ⟨_, keyword_eq_ok_iff.2 rfl, rfl⟩
  | boolean =>
      cases hn with
      | yes | no =>
          exact bind_eq_ok_iff.2 ⟨_, keyword_eq_ok_iff.2 rfl, rfl⟩
  | string =>
      cases hn with
      | @string _ s hs =>
          have hread := readString_eq_ok_iff.2 ⟨_, hs, Eq.refl (s ++ '"' :: r)⟩
          rw [List.cons_append, List.append_assoc, List.singleton_append]
          exact bind_eq_ok_iff.2 ⟨_, hread, rfl⟩
  | number hx =>
      cases hn with
      | number htoken =>
          have hread := readNumber_append htoken hx hr
          obtain ⟨c, u, rfl, hc⟩ := exists_cons_of_number htoken
          rw [List.cons_append] at hread ⊢
          rw [readScalar, if_pos hc]
          · exact bind_eq_ok_iff.2 ⟨_, hread, rfl⟩
          all_goals
            rintro rfl
            revert hc
            decide

/-- What is read whole is a value that can be read at its depth. -/
theorem readValue_sound (bound depth : Nat) :
    Reads (readValue bound depth) (Node.ReadsAs depth) := by
  have hscalar : ∀ depth s v r, readScalar (skipBlanks s) = .ok (v, r) →
      ∃ w t n, Blank w ∧ Node.Written n t ∧ n.ReadsAs depth v ∧ s = w ++ (t ++ r) := by
    intro depth s v r h
    obtain ⟨w, hw, heq⟩ := exists_blank s
    obtain ⟨n, t, hn, hv, hsplit⟩ := readScalar_reads h
    exact ⟨w, t, n, hw, hn, hv.readsAs depth, hsplit ▸ heq⟩
  induction depth with
  | zero =>
      intro s v r h
      unfold readValue at h
      split at h
      · cases h
      · cases h
      · exact hscalar 0 s v r h
  | succ depth ih =>
      intro s v r h
      unfold readValue at h
      split at h
      · rename_i t heq
        obtain ⟨⟨vs, r'⟩, hitems, h⟩ := bind_eq_ok_iff.1 h
        cases h
        obtain ⟨w, hw, rfl⟩ := exists_blank_of_skipBlanks_eq heq
        obtain ⟨ns, body, hbody, hns, rfl⟩ := exists_of_readItems ih hitems
        exact ⟨w, _, .array ns, hw, .array hbody, .inr (.inl ⟨vs, ⟨ns, rfl, hns⟩, rfl⟩), by simp⟩
      · rename_i t heq
        obtain ⟨⟨vs, r'⟩, hmembers, h⟩ := bind_eq_ok_iff.1 h
        cases h
        obtain ⟨w, hw, rfl⟩ := exists_blank_of_skipBlanks_eq heq
        obtain ⟨ms, body, hbody, hms, rfl⟩ := exists_of_readMembers ih hmembers
        exact ⟨w, _, .object ms, hw, .object hbody, .inr (.inr ⟨vs, ⟨ms, rfl, hms⟩, rfl⟩), by simp⟩
      · exact hscalar (depth + 1) s v r h

theorem readValue_of_scalar
    (bound depth : Nat)
    (hw : Blank w)
    (hn : n.Written t)
    (hv : n.IsScalar v)
    (hr : Stops r) :
    readValue bound depth (w ++ (t ++ r)) = .ok (v, r) := by
  have hskip : skipBlanks (w ++ (t ++ r)) = t ++ r :=
    skipBlanks_of_opens hw (hn.opens.append r)
  obtain ⟨hbracket, hbrace⟩ := hv.head?_ne hn r
  unfold readValue
  rw [hskip]
  split
  · rename_i heq
    exact absurd (congrArg List.head? heq) hbracket
  · rename_i heq
    exact absurd (congrArg List.head? heq) hbrace
  · exact readScalar_accepts hn hv hr

/-- Every value that can be read at its depth is read whole. -/
theorem readValue_complete (bound depth : Nat) :
    Accepts bound (readValue bound depth) (Node.ReadsAs depth) := by
  induction depth with
  | zero =>
      intro w t n v r hw hn hv hr _
      exact readValue_of_scalar bound 0 hw hn hv hr
  | succ depth ih =>
      intro w t n v r hw hn hv hr hlt
      obtain hv | ⟨vs, ⟨ns, rfl, hns⟩, rfl⟩ | ⟨vs, ⟨ms, rfl, hms⟩, rfl⟩ := hv
      · exact readValue_of_scalar bound (depth + 1) hw hn hv hr
      · cases hn with
        | array hs =>
            have hlength := length_behind_bracket hlt
            have hread := readItems_of_listed ih hs hns hlength hlength
            unfold readValue
            rw [skipBlanks_bracket hw (by decide)]
            exact bind_eq_ok_iff.2 ⟨_, hread, rfl⟩
      · cases hn with
        | object hs =>
            have hlength := length_behind_bracket hlt
            have hread := readMembers_of_listed ih hs hms hlength hlength
            unfold readValue
            rw [skipBlanks_bracket hw (by decide)]
            exact bind_eq_ok_iff.2 ⟨_, hread, rfl⟩

/-- What a tree denotes.  How numbers are rounded is left open. -/
inductive Node.Denotes : Node → Json → Prop
  | null : Denotes .null .null
  | boolean
      {b : Bool} :
      Denotes (.boolean b) (.boolean b)
  | number
      {token : List Char} {x : Number}
      (hx : ∀ k, x = .integer k → Decimal.integer? token = some k) :
      Denotes (.number token) (.number x)
  | string
      {x : String} :
      Denotes (.string (textUnits x)) (.string x)
  | array
      {ns : List Node} {vs : List Json}
      (hns : List.Forall₂ Denotes ns vs) :
      Denotes (.array ns) (.array vs)
  | object
      {ms : List (List Nat × Node)} {vs : List (String × Json)}
      (hms : List.Forall₂ (IsMember Denotes) ms vs) :
      Denotes (.object ms) (.object vs)

theorem Node.IsMember.imp
    {α : Type} {R R' : Node → α → Prop} {m : List Nat × Node} {y : String × α}
    (h : Node.IsMember R m y)
    (hR : ∀ {n x}, R n x → R' n x) :
    Node.IsMember R' m y := by
  cases h with
  | mk hx =>
      exact .mk (hR hx)

/-- A value without brackets denotes what it is read as. -/
theorem Node.IsScalar.denotes
    (h : n.IsScalar v) :
    n.Denotes v := by
  cases h with
  | null =>
      exact .null
  | boolean =>
      exact .boolean
  | string =>
      exact .string
  | number hx =>
      obtain ⟨token, -, heq, hinteger⟩ := exists_number_of_readNumber hx
      rw [List.append_nil] at heq
      subst heq
      exact .number fun k hk => (hinteger k hk).1

/-- A value denotes what it is read as, whatever depth it is given. -/
theorem Node.ReadsAs.denotes
    {depth : Nat}
    (h : n.ReadsAs depth v) :
    n.Denotes v := by
  induction depth generalizing n v with
  | zero =>
      exact Node.IsScalar.denotes h
  | succ depth ih =>
      obtain h | ⟨vs, ⟨ns, rfl, hns⟩, rfl⟩ | ⟨vs, ⟨ms, rfl, hms⟩, rfl⟩ := h
      · exact h.denotes
      · exact .array (hns.imp fun _ _ => ih)
      · exact .object (hms.imp fun _ _ hm => hm.imp ih)

/-- What is read whole is a value of the grammar, at any depth that is granted. -/
theorem readValue_reads (bound depth : Nat) :
    Reads (readValue bound depth) Node.Denotes := by
  intro s v r h
  obtain ⟨w, t, n, hw, hn, hv, hsplit⟩ := readValue_sound bound depth s v r h
  exact ⟨w, t, n, hw, hn, hv.denotes, hsplit⟩

/-- The relation of strings to their texts. -/
def Node.IsText (n : Node) (x : String) : Prop :=
  n = .string (textUnits x)

theorem expectString_reads :
    Reads expectString Node.IsText := by
  intro s x r h
  unfold expectString at h
  split at h
  · rename_i t heq
    obtain ⟨w, hw, rfl⟩ := exists_blank_of_skipBlanks_eq heq
    obtain ⟨q, hq, rfl⟩ := readString_eq_ok_iff.1 h
    exact ⟨w, _, _, hw, .string hq, rfl, by simp⟩
  · cases h

theorem expectString_accepts (N : Nat) :
    Accepts N expectString Node.IsText := by
  rintro w t n x r hw hn rfl hr hlt
  cases hn with
  | string hs =>
      unfold expectString
      rw [skipBlanks_bracket hw (by decide)]
      exact readString_eq_ok_iff.2 ⟨_, hs, rfl⟩

theorem readValue_text (bound depth N : Nat) :
    Accepts N (readValue bound depth) fun n v => ∃ x, n.IsText x ∧ v = .string x := by
  rintro w t n v r hw hn ⟨x, rfl, rfl⟩ hr -
  exact readValue_of_scalar bound depth hw hn .string hr

/-- An array of texts is read as one. -/
theorem readValue_texts (bound depth : Nat) :
    Accepts bound (readValue bound (depth + 1)) fun n v =>
      ∃ xs, n.IsArray Node.IsText xs ∧ v = .array (xs.map .string) := by
  rintro w t n v r hw hn ⟨xs, ⟨ns, rfl, hns⟩, rfl⟩ hr hlt
  have hitems : List.Forall₂ (Node.ReadsAs depth) ns (xs.map .string) := by
    rw [List.forall₂_map_right_iff]
    refine hns.imp fun n x hx => ?_
    obtain rfl : n = .string (textUnits x) := hx
    exact Node.IsScalar.string.readsAs depth
  exact readValue_complete bound (depth + 1) w t _ _ r hw hn
    (.inr (.inl ⟨_, ⟨ns, rfl, hitems⟩, rfl⟩)) hr hlt

/-- A value that gives a text is a string. -/
theorem isText_of_denotes
    {n : Node} {x : String}
    (hn : n.Denotes v)
    (hv : v.text? = some x) :
    n.IsText x := by
  cases hn with
  | string =>
      cases hv
      rfl
  | null | boolean | number | array | object =>
      cases hv

/-- The texts of an array are those of its items. -/
theorem isArray_of_denotes
    {n : Node} {xs : List String}
    (hn : n.Denotes v)
    (hv : v.texts? = some xs) :
    n.IsArray Node.IsText xs := by
  cases hn with
  | @array ns vs hns =>
      refine ⟨ns, rfl, ?_⟩
      rw [texts?] at hv
      induction hns generalizing xs with
      | nil =>
          cases hv
          exact .nil
      | cons hn hns ih =>
          simp only [List.mapM_cons, Option.bind_eq_bind, Option.pure_def,
            Option.bind_eq_some_iff, Option.some.injEq] at hv
          obtain ⟨x, hx, ys, hys, rfl⟩ := hv
          exact .cons (isText_of_denotes hn hx) (ih hys)
  | null | boolean | number | string | object =>
      cases hv

theorem texts?_array (xs : List String) :
    (Json.array (xs.map .string)).texts? = some xs := by
  rw [texts?]
  induction xs with
  | nil =>
      rfl
  | cons x xs ih =>
      simp [text?, ih]

end Value

end Json
end FilterQuery
