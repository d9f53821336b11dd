/-!
# Filter maps

The filters of a request as they were sent: for each name a list of entries, whose operators and
values nobody has interpreted yet.

**Model.** The members of a map stand in ascending order of their names, by code points, and no name
stands twice.  Hence a map is determined by what it gives for each name, whatever the order in which
the members were put in.

**Results.**
* `mem_insertMember`: an insertion puts nothing but its filter into the members.
* `pairwise_insertMember`: an insertion keeps the names ascending.
-/

namespace FilterQuery

/-- An entry of a filter: values and the code of the operator that tests them. -/
structure FilterEntry where
  values : List String
  operator : String
deriving DecidableEq

/-- A name with its entries. -/
structure Filter where
  name : String
  entries : List FilterEntry
deriving DecidableEq

/-- Puts a filter in its place in an ascending list; it replaces one of the same name. -/
def insertMember (f : Filter) : List Filter → List Filter
  | [] => [f]
  | g :: rest =>
      if f.name < g.name then f :: g :: rest
      else if g.name < f.name then g :: insertMember f rest
      else f :: rest

theorem mem_insertMember
    {f g : Filter} {l : List Filter}
    (h : g ∈ insertMember f l) :
    g = f ∨ g ∈ l := by
  induction l with
  | nil =>
      simpa [insertMember] using h
  | cons a l ih =>
      unfold insertMember at h
      split at h
      · simpa using h
      · split at h
        · rcases List.mem_cons.1 h with rfl | h
          · exact Or.inr (by simp)
          · rcases ih h with rfl | h
            · exact Or.inl rfl
            · exact Or.inr (by simp [h])
        · rcases List.mem_cons.1 h with rfl | h
          · exact Or.inl rfl
          · exact Or.inr (by simp [h])

theorem pairwise_insertMember
    (f : Filter) {l : List Filter}
    (h : l.Pairwise fun a b => a.name < b.name) :
    (insertMember f l).Pairwise fun a b => a.name < b.name := by
  induction l with
  | nil =>
      simp [insertMember]
  | cons a l ih =>
      rw [List.pairwise_cons] at h
      unfold insertMember
      split
      · rename_i hfa
        refine List.pairwise_cons.2 ⟨?_, List.pairwise_cons.2 h⟩
        intro b hb
        rcases List.mem_cons.1 hb with rfl | hb
        · exact hfa
        · exact String.lt_trans hfa (h.1 b hb)
      · rename_i hfa
        split
        · rename_i haf
          refine List.pairwise_cons.2 ⟨?_, ih h.2⟩
          intro b hb
          rcases mem_insertMember hb with rfl | hb
          · exact haf
          · exact h.1 b hb
        · rename_i haf
          have hname : f.name = a.name :=
            String.le_antisymm (String.not_lt.1 haf) (String.not_lt.1 hfa)
          refine List.pairwise_cons.2 ⟨?_, h.2⟩
          intro b hb
          rw [hname]
          exact h.1 b hb

/-- The filters of a request, by name. -/
structure FilterMap where
  members : List Filter
  ascending : members.Pairwise fun a b => a.name < b.name

namespace FilterMap

/-- The map without filters. -/
def empty : FilterMap :=
  ⟨[], List.Pairwise.nil⟩

/-- Gives a name its entries, in place of those it had. -/
def insert (m : FilterMap) (f : Filter) : FilterMap :=
  ⟨insertMember f m.members, pairwise_insertMember f m.ascending⟩

/-- The map of a list of filters; of two with one name the later counts. -/
def ofList (fs : List Filter) : FilterMap :=
  fs.foldl insert empty

/-- The number of names. -/
def size (m : FilterMap) : Nat :=
  m.members.length

/-- The names, in ascending order. -/
def names (m : FilterMap) : List String :=
  m.members.map Filter.name

/-- The entries of a name. -/
def find? (m : FilterMap) (name : String) : Option (List FilterEntry) :=
  (m.members.find? fun f => f.name = name).map Filter.entries

end FilterMap
end FilterQuery
