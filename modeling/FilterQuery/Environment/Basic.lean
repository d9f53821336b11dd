/-!
# Environment variables

The variables that a program is started with, by name.

**Model.** A variable is written as its name, an equals sign and its value, and a name is looked up
in the written forms.  Hence a name that holds an equals sign reads on into a value: with the value
`B=1` for `A`, the name `A=B` stands for `1`.

**Results.**
* `get?_setIfAbsent?`: a variable that had no value has the one it was given.
-/

namespace FilterQuery

/-- Variables with their values; of two with one name the first counts. -/
structure Environment where
  bindings : List (String × String)

namespace Environment

/-- The written form of a variable. -/
def written (name value : String) : List Char :=
  name.toList ++ '=' :: value.toList

/-- What a variable gives for a name, if its written form begins with that name and an equals
sign. -/
def valueAt? (name : String) (binding : String × String) : Option String :=
  ((name.toList ++ ['=']).isPrefixOf? (written binding.1 binding.2)).map String.ofList

/-- The value of a variable; no variable has the empty name. -/
def get? (env : Environment) (name : String) : Option String :=
  if name = "" then none else env.bindings.findSome? (valueAt? name)

/-- Whether a variable can hold a value, which ends at the first NUL. -/
def canHold (value : String) : Bool :=
  !value.toList.contains '\x00'

/-- Gives a variable a value, unless it has one; there is no such environment if the variable has
none and cannot hold the value. -/
def setIfAbsent? (env : Environment) (name value : String) : Option Environment :=
  if (env.get? name).isSome then some env
  else if canHold value then some ⟨(name, value) :: env.bindings⟩
  else none

theorem isPrefixOf?_append_self (s t : List Char) :
    s.isPrefixOf? (s ++ t) = some t := by
  induction s with
  | nil =>
      rfl
  | cons c s ih =>
      have hstep : (c :: s).isPrefixOf? (c :: (s ++ t)) =
          if c == c then s.isPrefixOf? (s ++ t) else none := rfl
      rw [List.cons_append, hstep, if_pos (beq_self_eq_true c)]
      exact ih

theorem valueAt?_self (name value : String) :
    valueAt? name (name, value) = some value := by
  have hwritten : written name value = (name.toList ++ ['=']) ++ value.toList := by
    simp [written]
  simp only [valueAt?, hwritten, isPrefixOf?_append_self, Option.map_some, String.ofList_toList]

theorem get?_setIfAbsent?
    {env env' : Environment} {name value : String}
    (hname : name ≠ "")
    (habsent : env.get? name = none)
    (h : env.setIfAbsent? name value = some env') :
    env'.get? name = some value := by
  unfold setIfAbsent? at h
  split at h
  · simp_all
  · split at h
    · simp only [Option.some.injEq] at h
      subst h
      simp [get?, hname, valueAt?_self]
    · simp at h

end Environment
end FilterQuery
