import FilterQuery.FilterMap.Basic
import Mathlib.Data.List.Dedup

/-!
# Maps from lists of filters

What a filter map gives for each name when it is put together filter by filter: of several filters
with one name the last counts, and the names are those of the list.

**Results.**
* `find?_ofList`: the entries of a name.
* `size_ofList`: the number of names.
-/

namespace FilterQuery

/-- The entries that the last filter of a name has in a list. -/
def lastEntries? (fs : List Filter) (name : String) : Option (List FilterEntry) :=
  (fs.reverse.find? fun f => f.name = name).map Filter.entries

/-- An insertion decides for one name and leaves the others alone. -/
theorem find?_insertMember
    (f : Filter) (l : List Filter) (name : String) :
    ((insertMember f l).find? fun g => g.name = name) =
      if f.name = name then some f else l.find? fun g => g.name = name := by
  induction l with
  | nil =>
      by_cases hf : f.name = name <;> simp [insertMember, hf]
  | cons g l ih =>
      unfold insertMember
      split
      · by_cases hf : f.name = name <;> simp [hf]
      · rename_i hfg
        split
        · rename_i hgf
          by_cases hg : g.name = name
          · have hf : f.name ≠ name := by
              rintro rfl
              exact String.lt_irrefl _ (hg ▸ hgf)
            simp [hg, hf]
          · rw [List.find?_cons_of_neg (by simpa using hg), ih]
            simp [hg]
        · rename_i hgf
          have hname : f.name = g.name :=
            String.le_antisymm (String.not_lt.1 hgf) (String.not_lt.1 hfg)
          by_cases hf : f.name = name
          · simp [hf]
          · simp [hf, ← hname]

namespace FilterMap

variable (m : FilterMap) (fs : List Filter)

theorem nodup_names :
    m.names.Nodup := by
  rw [names, List.Nodup, List.pairwise_map]
  refine m.ascending.imp ?_
  intro f g hlt heq
  exact String.lt_irrefl g.name (heq ▸ hlt)

theorem mem_names_iff
    {name : String} :
    name ∈ m.names ↔ (m.find? name).isSome := by
  simp [names, find?]

theorem find?_insert
    (f : Filter) (name : String) :
    (m.insert f).find? name = if f.name = name then some f.entries else m.find? name := by
  rw [find?, insert, find?_insertMember]
  split <;> rfl

/-- Of the filters with one name the last one counts. -/
theorem find?_foldl_insert
    (name : String) :
    (fs.foldl insert m).find? name = (lastEntries? fs name).or (m.find? name) := by
  induction fs generalizing m with
  | nil =>
      rfl
  | cons f fs ih =>
      rw [List.foldl_cons, ih, find?_insert]
      unfold lastEntries?
      rw [List.reverse_cons, List.find?_append]
      cases fs.reverse.find? fun g => g.name = name with
      | some g =>
          rfl
      | none =>
          by_cases hf : f.name = name <;> simp [hf]

/-- A map that is put together from a list gives for each name what its last filter has. -/
theorem find?_ofList
    (name : String) :
    (ofList fs).find? name = lastEntries? fs name := by
  have hempty : empty.find? name = none := rfl
  rw [ofList, find?_foldl_insert, hempty, Option.or_none]

theorem mem_names_ofList
    {name : String} :
    name ∈ (ofList fs).names ↔ name ∈ fs.map Filter.name := by
  rw [mem_names_iff, find?_ofList]
  simp [lastEntries?]

/-- A map has as many filters as there are distinct names. -/
theorem size_ofList :
    (ofList fs).size = (fs.map Filter.name).dedup.length := by
  have hperm : (ofList fs).names.Perm (fs.map Filter.name).dedup := by
    rw [List.perm_ext_iff_of_nodup (nodup_names _) (List.nodup_dedup _)]
    intro name
    rw [mem_names_ofList, List.mem_dedup]
  rw [← hperm.length_eq, names, List.length_map, size]

end FilterMap
end FilterQuery
