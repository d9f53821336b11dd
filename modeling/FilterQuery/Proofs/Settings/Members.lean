import FilterQuery.Proofs.Firsts
import FilterQuery.Proofs.Json.Whole
import FilterQuery.Proofs.Settings.Document

/-!
# The members of a settings document

All that a document says, with the names of its unknown members, as a relation to the members of its
object (`Describes`).  The relation is exact: a text is accepted if and only if its members describe
a document, and this is the one that is returned.

**Unknown members.** They are read whole, with the depth that is left behind the bracket of the
document.  Each name is kept where it appears first.

**Results.**
* `run_part_iff`: reading the members one by one amounts to looking at all of them.
* `parse_eq_ok_iff`: which texts are accepted, and as what.
* `isDocument_of_parse`: what is accepted is a document, and its number is what the tree says.
* `parse_of_isDocument`: documents without unknown members are accepted, whatever number they give.
-/

namespace FilterQuery
namespace Document

open Json

/-- The names of the members that mean nothing, with their repetitions. -/
def unknownNames (ms : List (String × Node)) : List String :=
  (ms.map Prod.fst).filter fun name => ¬ IsQueryName name

/-- Whether all members that mean nothing can be read whole where they stand: one container is open
around them. -/
def UnknownReadable (ms : List (String × Node)) : Prop :=
  ∀ m ∈ ms, ¬ IsQueryName m.1 → m.2.Readable (maxDepth - 1)

/-- Whether members describe a document: its number of rows and the names of those that mean
nothing. -/
structure Describes (ms : List (String × Node)) (d : Document) : Prop where
  query : ∃ field, Fills IsQuery none (fieldValues IsQueryName ms) field ∧ d.rows = field.join
  readable : UnknownReadable ms
  unknown : Keeps (unknownNames ms) d.unknown

inductive AddsPart : Parts → String × Node → Parts → Prop
  | query
      {name : String} {n : Node} {rows : Option UInt32} {unknown : List String}
      (hname : IsQueryName name)
      (hrows : IsQuery n rows) :
      AddsPart ⟨none, unknown⟩ (name, n) ⟨some rows, unknown⟩
  | unknown
      {name : String} {n : Node} {query : Option (Option UInt32)} {unknown : List String}
      (hname : ¬ IsQueryName name)
      (hn : n.Readable (maxDepth - 1)) :
      AddsPart ⟨query, unknown⟩ (name, n) ⟨query, name :: unknown⟩

variable {ms : List (String × Node)} {text : String} {d : Document}

section Names

variable {name : String} {n : Node}

theorem unknownNames_cons_of_pos
    (h : IsQueryName name) :
    unknownNames ((name, n) :: ms) = unknownNames ms := by
  simp [unknownNames, h]

theorem unknownNames_cons_of_neg
    (h : ¬ IsQueryName name) :
    unknownNames ((name, n) :: ms) = name :: unknownNames ms := by
  simp [unknownNames, h]

theorem unknownReadable_cons_of_pos
    (h : IsQueryName name) :
    UnknownReadable ((name, n) :: ms) ↔ UnknownReadable ms := by
  simp [UnknownReadable, h]

theorem unknownReadable_cons_of_neg
    (h : ¬ IsQueryName name) :
    UnknownReadable ((name, n) :: ms) ↔ n.Readable (maxDepth - 1) ∧ UnknownReadable ms := by
  simp [UnknownReadable, h]

end Names

/-- What is read as a member of a document adds to its parts. -/
theorem readMember_part (bound : Nat) :
    MemberSound (readMember bound) AddsPart := by
  rintro ⟨query, unknown⟩ name s parts' r h
  unfold readMember at h
  split at h
  · rename_i hname
    cases query with
    | some =>
        cases h
    | none =>
        obtain ⟨w, w', t, n, rows, u, hw, hw', hn, hquery, hk, rfl⟩ :=
          exists_of_member (readQuery_reads bound) h
        cases hk
        exact ⟨w, w', t, n, hw, hw', hn, .query hname hquery, rfl⟩
  · rename_i hname
    obtain ⟨w, w', t, n, v, u, hw, hw', hn, hv, hk, rfl⟩ :=
      exists_of_member (readValue_sound bound (maxDepth - 1)) h
    cases hk
    exact ⟨w, w', t, n, hw, hw', hn, .unknown hname ⟨v, hv⟩, rfl⟩

theorem readMember_of_part (bound : Nat) :
    MemberComplete bound (readMember bound) AddsPart := by
  rintro parts name w w' t n parts' r hw hw' hn hpart hr hlt
  unfold readMember
  cases hpart with
  | query hname hrows =>
      exact (if_pos hname).trans
        (member_of_written (readQuery_accepts bound) hw hw' hn hrows hr hlt)
  | unknown hname hreadable =>
      obtain ⟨v, hv⟩ := hreadable
      exact (if_neg hname).trans
        (member_of_written (readValue_complete bound (maxDepth - 1)) hw hw' hn hv hr hlt)

/-- Reading the members of a document one by one amounts to looking at all of them.  The induction
is on the members; a known one bears on the number of rows, and an unknown one on the rest. -/
theorem run_part_iff
    {a b : Parts} :
    Run AddsPart a ms b ↔
      Fills IsQuery a.query (fieldValues IsQueryName ms) b.query ∧ UnknownReadable ms ∧
        b.unknown = (unknownNames ms).reverse ++ a.unknown := by
  induction ms generalizing a with
  | nil =>
      obtain ⟨query, unknown⟩ := a
      constructor
      · intro h
        cases h
        exact ⟨.keep, by simp [UnknownReadable], rfl⟩
      · rintro ⟨hquery, -, hunknown⟩
        obtain rfl := fills_nil_iff.1 hquery
        obtain rfl : b.unknown = unknown := hunknown
        exact .nil
  | cons m ms ih =>
      obtain ⟨name, n⟩ := m
      obtain ⟨query, unknown⟩ := a
      by_cases hname : IsQueryName name
      · rw [fieldValues_cons_of_pos hname, unknownNames_cons_of_pos hname,
          unknownReadable_cons_of_pos hname, fills_cons_iff]
        constructor
        · intro h
          cases h with
          | cons hm hms =>
              cases hm with
              | query _ hrows =>
                  obtain ⟨hquery, hrest⟩ := ih.1 hms
                  exact ⟨⟨rfl, _, hrows, hquery⟩, hrest⟩
              | unknown hother =>
                  exact absurd hname hother
        · rintro ⟨⟨hnone, rows, hrows, hquery⟩, hrest⟩
          obtain rfl : query = none := hnone
          exact .cons (.query hname hrows) (ih.2 ⟨hquery, hrest⟩)
      · rw [fieldValues_cons_of_neg hname, unknownNames_cons_of_neg hname,
          unknownReadable_cons_of_neg hname, List.reverse_cons, List.append_assoc,
          List.singleton_append]
        constructor
        · intro h
          cases h with
          | cons hm hms =>
              cases hm with
              | query hother =>
                  exact absurd hother hname
              | unknown _ hn =>
                  obtain ⟨hquery, hreadable, hunknown⟩ := ih.1 hms
                  exact ⟨hquery, ⟨hn, hreadable⟩, hunknown⟩
        · rintro ⟨hquery, ⟨hn, hreadable⟩, hunknown⟩
          exact .cons (.unknown hname hn) (ih.2 ⟨hquery, hreadable, hunknown⟩)

theorem Describes.eq
    {field : Option (Option UInt32)}
    (h : Describes ms d)
    (hfield : Fills IsQuery none (fieldValues IsQueryName ms) field) :
    d = ⟨field.join, (unknownNames ms).eraseDups⟩ := by
  obtain ⟨rows, unknown⟩ := d
  obtain ⟨⟨field', hfield', hrows⟩, -, hunknown⟩ := h
  obtain rfl := hfield.unique hfield' IsQuery.unique
  obtain rfl : rows = field.join := hrows
  have hkept : unknown = (unknownNames ms).eraseDups :=
    hunknown.eq_firsts.trans (keeps_eraseDups _).eq_firsts.symm
  rw [hkept]

/-- A text that is read as a document has members that describe it. -/
theorem exists_describes_of_parse
    (h : parse text = .ok d) :
    ∃ ms, (Node.object (spelledNames ms)).Spelled text.toList ∧ Describes ms d := by
  unfold parse readText at h
  split at h
  · rename_i t heq
    obtain ⟨w, hw, hsplit⟩ := exists_blank_of_skipBlanks_eq heq
    obtain ⟨⟨parts, u⟩, hfold, h⟩ := bind_eq_ok_iff.1 h
    obtain ⟨_, hend, h⟩ := bind_eq_ok_iff.1 h
    cases h
    obtain ⟨ms, body, hbody, hrun, rfl⟩ := exists_run_of_foldMembers (readMember_part _) hfold
    obtain ⟨hquery, hreadable, hunknown⟩ := run_part_iff.1 hrun
    refine ⟨ms, ⟨w, _, u, hw, .object hbody, endText_eq_ok_iff.1 hend, by simpa using hsplit⟩,
      ⟨⟨_, hquery, rfl⟩, hreadable, ?_⟩⟩
    rw [hunknown, List.append_nil, List.reverse_reverse]
    exact keeps_eraseDups _
  · cases h

/-- A text has the members of one object only. -/
theorem describes_of_parse
    (hn : (Node.object (spelledNames ms)).Spelled text.toList)
    (h : parse text = .ok d) :
    Describes ms d := by
  obtain ⟨ms', hn', hdescribes⟩ := exists_describes_of_parse h
  have hmembers := hn.unique hn'
  rw [Node.object.injEq] at hmembers
  obtain rfl := spelledNames_injective hmembers
  exact hdescribes

/-- Members that describe a document are read as it. -/
theorem parse_of_describes
    (hn : (Node.object (spelledNames ms)).Spelled text.toList)
    (h : Describes ms d) :
    parse text = .ok d := by
  obtain ⟨field, hfield, -⟩ := h.query
  obtain rfl := h.eq hfield
  obtain ⟨w, t, w', hw, hwritten, hw', heq⟩ := hn
  cases hwritten with
  | @object _ s hs =>
      have hrun : Run AddsPart ⟨none, []⟩ ms ⟨field, (unknownNames ms).reverse⟩ :=
        run_part_iff.2 ⟨hfield, h.readable, by simp⟩
      have hbound : (w ++ ('{' :: (s ++ ['}']) ++ w')).length < text.toList.length + 1 := by
        rw [← heq]
        exact Nat.lt_succ_self _
      have hlength := length_behind_bracket hbound
      have hfold := foldMembers_of_run (readMember_of_part _) hs hrun hlength hlength
      unfold parse readText
      rw [heq, skipBlanks_bracket hw (by decide), ← heq]
      refine bind_eq_ok_iff.2 ⟨_, hfold, bind_eq_ok_iff.2 ⟨_, endText_eq_ok_iff.2 hw', ?_⟩⟩
      rw [List.reverse_reverse]
      rfl

/-- The texts that are accepted are those of objects whose members say something, and this is what
is returned. -/
theorem parse_eq_ok_iff :
    parse text = .ok d ↔
      ∃ ms, (Node.object (spelledNames ms)).Spelled text.toList ∧ Describes ms d := by
  constructor
  · exact exists_describes_of_parse
  · rintro ⟨ms, hn, h⟩
    exact parse_of_describes hn h

/-- What is accepted is a document, and its number of rows is what the tree says. -/
theorem isDocument_of_parse
    (h : parse text = .ok d) :
    ∃ n, Node.Spelled n text.toList ∧ IsDocument n d.rows := by
  obtain ⟨ms, hms, hdescribes⟩ := exists_describes_of_parse h
  obtain ⟨field, hfield, hrows⟩ := hdescribes.query
  exact ⟨_, hms, hrows ▸ .object hfield⟩

/-- A document that has no unknown members is accepted, whatever number it gives. -/
theorem parse_of_isDocument
    {n : Node} {rows : Option UInt32}
    (hn : n.Spelled text.toList)
    (hdocument : IsDocument n rows)
    (hknown : IsKnown n) :
    parse text = .ok ⟨rows, []⟩ := by
  cases hdocument with
  | @object ms field hquery =>
      have hms : ∀ m ∈ ms, IsQueryName m.1 := fun m hm =>
        textUnits_injective (hknown _ rfl _ (List.mem_map_of_mem hm))
      have hnone : unknownNames ms = [] := by
        simpa [unknownNames, List.filter_eq_nil_iff] using hms
      refine parse_of_describes hn ⟨⟨field, hquery, rfl⟩, ?_, ?_⟩
      · exact fun m hm hname => absurd (hms m hm) hname
      · rw [hnone]
        exact keeps_eraseDups []

end Document
end FilterQuery
