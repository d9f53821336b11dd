import FilterQuery.Environment.Basic

/-!
# Home directories

The home directory of a run: what the variable `HOME` says, or what the list of accounts says where
the variable is missing or empty.  There is none if the list does not say it either.

**Accounts.** The list has a line for each account, of seven fields with colons between them: the
third is the number of the account and the sixth its home directory.
-/

namespace FilterQuery
namespace Account

/-- The home directory that a line gives to the account of a number. -/
def homeInLine? (number line : String) : Option String :=
  match line.splitOn ":" with
  | [_, _, n, _, _, home, _] => if n = number then some home else none
  | _ => none

/-- The home directory that a list of accounts gives to the account of a number. -/
def home? (accounts number : String) : Option String :=
  (accounts.splitOn "\n").findSome? (homeInLine? number)

end Account

namespace Environment

/-- The home directory, given the one of the account; an empty text names no directory. -/
def home? (env : Environment) (ofAccount : Option String) : Option String :=
  [env.get? "HOME", ofAccount].findSome? fun directory? => directory?.filter fun d => d ≠ ""

end Environment
end FilterQuery
