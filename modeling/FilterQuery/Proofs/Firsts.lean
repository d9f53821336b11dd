import Mathlib.Data.List.Induction
import Mathlib.Data.List.Nodup

/-!
# Lists without repetitions

What is kept of a list if the first of each item stays in its place and the others go
(`Keeps seen kept`).  Adding one item behind the list keeps this (`Keeps.concat`), and so does
adding a run of them (`Keeps.append`).

**Results.**
* `keeps_eraseDups`: the first of each item is kept, and nothing else is lost.
-/

namespace FilterQuery

universe u

section Keeps

variable {α : Type u} [DecidableEq α]

/-- Puts an item behind a list that does not have it. -/
def addNew (kept : List α) (a : α) : List α :=
  if a ∈ kept then kept else kept ++ [a]

/-- The items of a list that do not stand in front of their place as well. -/
def firsts (l : List α) : List α :=
  (l.zipIdx.filter fun p => p.1 ∉ l.take p.2).map Prod.fst

/-- Whether a list is what is left of another without repetitions. -/
structure Keeps (seen kept : List α) : Prop where
  eq_firsts : kept = firsts seen
  nodup : kept.Nodup
  subset : seen ⊆ kept
  sublist : kept.Sublist seen

theorem firsts_concat (l : List α) (a : α) :
    firsts (l ++ [a]) = if a ∈ l then firsts l else firsts l ++ [a] := by
  have hfront : (l.zipIdx.filter fun p => p.1 ∉ (l ++ [a]).take p.2) =
      l.zipIdx.filter fun p => p.1 ∉ l.take p.2 := by
    refine List.filter_congr ?_
    rintro ⟨b, i⟩ hb
    obtain ⟨-, hi, -⟩ := List.mem_zipIdx hb
    rw [List.take_append_of_le_length (by omega)]
  rw [firsts, List.zipIdx_append, List.filter_append, hfront]
  by_cases ha : a ∈ l <;> simp [firsts, ha]

variable {seen kept : List α}

/-- Adding an item to what is kept keeps what there is to be kept of the items seen. -/
theorem Keeps.concat
    (h : Keeps seen kept)
    (a : α) :
    Keeps (seen ++ [a]) (addNew kept a) := by
  have hmem : a ∈ kept ↔ a ∈ seen := ⟨fun ha => h.sublist.subset ha, fun ha => h.subset ha⟩
  rw [addNew]
  by_cases ha : a ∈ kept
  · rw [if_pos ha]
    exact {
      eq_firsts := by rw [firsts_concat, if_pos (hmem.1 ha), h.eq_firsts]
      nodup := h.nodup
      subset := List.append_subset.2 ⟨h.subset, by simpa using ha⟩
      sublist := h.sublist.trans (List.sublist_append_left seen [a]) }
  · rw [if_neg ha]
    exact {
      eq_firsts := by rw [firsts_concat, if_neg (hmem.not.1 ha), h.eq_firsts]
      nodup := List.nodup_append_comm.1 (List.nodup_cons.2 ⟨ha, h.nodup⟩)
      subset := List.append_subset.2
        ⟨fun b hb => List.mem_append_left [a] (h.subset hb), List.subset_append_right kept [a]⟩
      sublist := h.sublist.append (List.Sublist.refl [a]) }

/-- So does adding items one after the other. -/
theorem Keeps.append
    (h : Keeps seen kept)
    (l : List α) :
    Keeps (seen ++ l) (l.foldl addNew kept) := by
  induction l generalizing seen kept with
  | nil =>
      simpa using h
  | cons a l ih =>
      simpa using ih (h.concat a)

theorem foldl_addNew (l : List α) :
    l.foldl addNew [] = l.eraseDups := by
  induction l using List.reverseRecOn with
  | nil =>
      rfl
  | append_singleton l a ih =>
      rw [List.foldl_concat, ih, List.eraseDups_append, addNew]
      by_cases ha : a ∈ l <;> simp [List.removeAll, List.eraseDups_cons, ha]

/-- Leaving out repetitions keeps the first occurrences in their order. -/
theorem keeps_eraseDups (l : List α) :
    Keeps l l.eraseDups := by
  have hnil : Keeps ([] : List α) [] := ⟨rfl, .nil, List.nil_subset [], .refl []⟩
  simpa [foldl_addNew] using hnil.append l

end Keeps

end FilterQuery
