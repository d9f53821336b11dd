import FilterQuery.Disk.Tree
import FilterQuery.Proofs.Path.Expansion

/-!
# Files in trees

A file that is put into a tree at a path is what the path leads to, and the other files stay where
they are.  So an argument that names a file is read as the text that was put there.

**Model.** Names lead from one directory to the next (`Leads`).  The walk along the pieces of a path
does the same, and more: it passes over the pieces that stay where they are, and refuses what no
disk has a file at.  The two are compared for the addresses of files (`IsAddress`).

**Results.**
* `lookup_eq_ok_iff`: what the address of a file leads to.
* `lookup_insertAt`, `lookup_insertAt_of_apart`: a file is found where it was put, and what stands
  elsewhere is found as before.
* `readArgument_insertAt`: an argument that names a file is read as the text of that file.
-/

namespace FilterQuery
namespace Tree

/-- Whether names lead from a tree to another, one directory after the other. -/
inductive Leads : Tree → List String → Tree → Prop
  | here
      (t : Tree) :
      Leads t [] t
  | step
      {t u v : Tree} {name : String} {names : List String}
      (hchild : t.child? name = some u)
      (hnames : Leads u names v) :
      Leads t (name :: names) v

variable {root t u new place : Tree} {name other path : String} {names others : List String}

theorem child?_setChild_self (parent : Tree) (name : String) (t : Tree) :
    (parent.setChild name t).child? name = some t := by
  cases parent <;> simp [setChild, child?]

/-- What a directory contains under other names stays. -/
theorem child?_setChild_of_ne
    {parent : Tree}
    (hne : other ≠ name)
    (hchild : parent.child? other = some u) :
    (parent.setChild name t).child? other = some u := by
  cases parent with
  | file bytes =>
      cases hchild
  | directory children =>
      rw [child?] at hchild
      rw [setChild, child?, List.find?_cons_of_neg (by simpa using hne.symm), List.find?_filter,
        ← hchild]
      congr 2
      funext c
      by_cases hc : c.1 = other
      · simp [hc, hne]
      · simp [hc]

/-- A file is put where its names lead. -/
theorem leads_insert (bytes : ByteArray) (names : List String) (t : Tree) :
    Leads (insert (.file bytes) names t) names (.file bytes) := by
  induction names generalizing t with
  | nil =>
      exact .here _
  | cons name names ih =>
      exact .step (child?_setChild_self _ _ _) (ih _)

/-- What other names lead to stays, unless they pass what was put there or end on the way to it. -/
theorem Leads.insert
    (h : Leads t others u)
    (hbefore : ¬ names <+: others)
    (hbehind : ¬ others <+: names) :
    Leads (Tree.insert new names t) others u := by
  induction names generalizing t others with
  | nil =>
      exact absurd List.nil_prefix hbefore
  | cons name names ih =>
      cases h with
      | here =>
          exact absurd List.nil_prefix hbehind
      | @step _ v _ other others hchild hothers =>
          rw [Tree.insert]
          by_cases hname : other = name
          · subst hname
            rw [List.cons_prefix_cons] at hbefore hbehind
            refine .step (child?_setChild_self _ _ _) ?_
            rw [hchild, Option.getD_some]
            exact ih hothers (fun h => hbefore ⟨rfl, h⟩) fun h => hbehind ⟨rfl, h⟩
          · exact .step (child?_setChild_of_ne hname hchild) hothers

/-- The names on the way to a path. -/
def namesOf (path : String) : List String :=
  (Path.components path.toList).map String.ofList

/-- Whether a path is the address that a file can have: it ends in a name, no name goes up, and no
disk refuses it. -/
structure IsAddress (path : String) : Prop where
  noNul : '\x00' ∉ path.toList
  short : byteCount path.toList ≤ maxPath
  names : ∀ name ∈ Path.components path.toList, name ≠ ['.', '.'] ∧ byteCount name ≤ maxName
  named : ∀ piece ∈ (Path.pieces path.toList).getLast?, piece ≠ [] ∧ piece ≠ ['.']

example : IsAddress "/home/ann/cars.json" :=
  ⟨by decide, by decide, by decide, by decide⟩

theorem Leads.exists_directory
    (h : Leads t (name :: names) u) :
    ∃ children, t = .directory children := by
  cases h with
  | step hchild =>
      cases t with
      | file bytes =>
          cases hchild
      | directory children =>
          exact ⟨children, rfl⟩

/-- The pieces that are names, as opposed to those that stay where they are. -/
theorem filter_pieces_cons (piece : List Char) (rest : List (List Char)) :
    ((piece :: rest).filter fun p => p ≠ [] ∧ p ≠ ['.']) =
      if piece = [] ∨ piece = ['.'] then rest.filter fun p => p ≠ [] ∧ p ≠ ['.']
      else piece :: rest.filter fun p => p ≠ [] ∧ p ≠ ['.'] := by
  by_cases hpiece : piece = [] ∨ piece = ['.']
  · rw [if_pos hpiece, List.filter_cons_of_neg (by rcases hpiece with rfl | rfl <;> simp)]
  · rw [if_neg hpiece, List.filter_cons_of_pos (by simpa [not_or] using hpiece)]

/-- The walk follows the names, and it does not leave the way while no name goes up. -/
theorem leads_of_walk
    {above : List Tree} {pieces : List (List Char)}
    (hnames : ∀ name ∈ pieces.filter fun p => p ≠ [] ∧ p ≠ ['.'], name ≠ ['.', '.'])
    (h : walk above place pieces = .ok t) :
    Leads place ((pieces.filter fun p => p ≠ [] ∧ p ≠ ['.']).map String.ofList) t := by
  induction pieces generalizing above place with
  | nil =>
      cases h
      exact .here _
  | cons piece rest ih =>
      rw [filter_pieces_cons] at hnames ⊢
      unfold walk at h
      split at h
      · cases h
      · split at h
        · rename_i hskip
          rw [if_pos hskip] at hnames ⊢
          exact ih hnames h
        · rename_i hskip
          rw [if_neg hskip] at hnames ⊢
          rw [List.forall_mem_cons] at hnames
          rw [if_neg hnames.1] at h
          split at h
          · cases h
          · split at h
            · cases h
            · rename_i hchild
              exact .step hchild (ih hnames.2 h)

theorem named_tail
    {piece : List Char} {rest : List (List Char)}
    (hnamed : ∀ last ∈ (piece :: rest).getLast?, last ≠ [] ∧ last ≠ ['.']) :
    ∀ last ∈ rest.getLast?, last ≠ [] ∧ last ≠ ['.'] := by
  intro last hlast
  refine hnamed last ?_
  rw [List.getLast?_cons, hlast]
  rfl

/-- Where the last piece is a name, names follow a piece that is none. -/
theorem filter_pieces_ne_nil
    {piece : List Char} {rest : List (List Char)}
    (hnamed : ∀ last ∈ (piece :: rest).getLast?, last ≠ [] ∧ last ≠ ['.'])
    (hskip : piece = [] ∨ piece = ['.']) :
    rest.filter (fun p => p ≠ [] ∧ p ≠ ['.']) ≠ [] := by
  have hrest : rest ≠ [] := by
    rintro rfl
    obtain ⟨hnil, hdot⟩ := hnamed piece rfl
    exact hskip.elim hnil hdot
  have hlast := named_tail hnamed (rest.getLast hrest) (List.getLast?_eq_some_getLast hrest)
  exact List.ne_nil_of_mem (List.mem_filter.2 ⟨List.getLast_mem hrest, by simpa using hlast⟩)

/-- The walk gets where the names lead if the last piece is a name: a file has nothing behind it. -/
theorem walk_of_leads
    {above : List Tree} {pieces : List (List Char)}
    (hnames : ∀ name ∈ pieces.filter fun p => p ≠ [] ∧ p ≠ ['.'],
      name ≠ ['.', '.'] ∧ byteCount name ≤ maxName)
    (hnamed : ∀ piece ∈ pieces.getLast?, piece ≠ [] ∧ piece ≠ ['.'])
    (h : Leads place ((pieces.filter fun p => p ≠ [] ∧ p ≠ ['.']).map String.ofList) t) :
    walk above place pieces = .ok t := by
  induction pieces generalizing above place with
  | nil =>
      cases h
      rfl
  | cons piece rest ih =>
      have hnamed' := named_tail hnamed
      rw [filter_pieces_cons] at hnames h
      by_cases hskip : piece = [] ∨ piece = ['.']
      · rw [if_pos hskip] at hnames h
        obtain ⟨name, names, hcons⟩ :=
          List.exists_cons_of_ne_nil (filter_pieces_ne_nil hnamed hskip)
        have hdirectory := h
        rw [hcons, List.map_cons] at hdirectory
        obtain ⟨children, rfl⟩ := hdirectory.exists_directory
        exact (if_pos hskip).trans (ih hnames hnamed' h)
      · rw [if_neg hskip] at hnames h
        rw [List.forall_mem_cons] at hnames
        obtain ⟨children, rfl⟩ := h.exists_directory
        cases h with
        | step hchild hrest =>
            unfold walk
            simp only [if_neg hskip, if_neg hnames.1.1, if_neg (Nat.not_lt.2 hnames.1.2), hchild]
            exact ih hnames.2 hnamed' hrest

/-- The address of a file leads to what its names lead to. -/
theorem lookup_eq_ok_iff
    (h : IsAddress path) :
    root.lookup path = .ok t ↔ Leads root (namesOf path) t := by
  rw [lookup, if_neg (by simpa using h.noNul), if_neg (Nat.not_lt.2 h.short)]
  constructor
  · exact leads_of_walk fun name hname => (h.names name hname).1
  · exact walk_of_leads h.names h.named

/-- A file is found where it was put. -/
theorem lookup_insertAt
    (h : IsAddress path)
    (root : Tree) (bytes : ByteArray) :
    (root.insertAt path (.file bytes)).lookup path = .ok (.file bytes) :=
  (lookup_eq_ok_iff h).2 (leads_insert bytes _ root)

/-- What stands elsewhere is found as before. -/
theorem lookup_insertAt_of_apart
    (h : IsAddress other)
    (hbefore : ¬ namesOf path <+: namesOf other)
    (hbehind : ¬ namesOf other <+: namesOf path)
    (hother : root.lookup other = .ok t) :
    (root.insertAt path new).lookup other = .ok t :=
  (lookup_eq_ok_iff h).2 (((lookup_eq_ok_iff h).1 hother).insert hbefore hbehind)

/-- The text of a file is the text that was put there. -/
theorem readText_insertAt
    (h : IsAddress path)
    (root : Tree) (text : String) :
    (root.insertAt path (.file text.toUTF8)).toDisk.readText path = .ok text := by
  have htext : String.fromUTF8? text.toUTF8 = some text :=
    dif_pos text.isValidUTF8
  simp only [Disk.readText, toDisk, lookup_insertAt h, htext]

/-- An argument that names a file is read as the text of that file. -/
theorem readArgument_insertAt
    {places : Places}
    (h : IsAddress (Path.expand places path))
    (root : Tree) (text : String) :
    readArgument (root.insertAt (Path.expand places path) (.file text.toUTF8)).toDisk places
      ("@" ++ path) = .ok text := by
  rw [readArgument, Path.argumentPath?_at]
  simp only [readText_insertAt h]

end Tree
end FilterQuery
