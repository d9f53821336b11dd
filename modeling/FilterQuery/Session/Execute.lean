import FilterQuery.CommandLine.Options
import FilterQuery.Disk.Basic
import FilterQuery.FilterMap.Payload
import FilterQuery.Path
import FilterQuery.Query.Distinct
import FilterQuery.Query.Search

/-!
# Execution of commands

The output of a command, as JSON for people to read: a statement, or the list of columns.

**Filters** are given in place, or as `@` and the path of a file that holds them.
-/

namespace FilterQuery

/-- Why a command has no output. -/
inductive CommandFailure where
  | unreadable (path : String) (why : ReadFailure)
  | query (error : QueryError)
deriving DecidableEq

namespace CommandFailure

/-- The wording of a failure. -/
def message : CommandFailure → String
  | .unreadable path _ => "Failed to read file: " ++ path
  | .query error => error.message

/-- The wordings of what lies behind a failure. -/
def causes : CommandFailure → List String
  | .unreadable _ why => [why.message]
  | .query _ => []

end CommandFailure

/-- The path that an argument names. -/
def argumentPath? (places : Places) (arg : String) : Option String :=
  match arg.toList with
  | '@' :: rest => some (Path.expand places (String.ofList rest))
  | _ => none

/-- The text that an argument gives in place, or that stands in the file it names. -/
def readArgument (disk : Disk) (places : Places) (arg : String) :
    Except CommandFailure String :=
  match argumentPath? places arg with
  | some path =>
      match disk.readText path with
      | .ok text => .ok text
      | .error why => .error (.unreadable path why)
  | none => .ok arg

namespace Command

/-- The result of a query, among the results of commands. -/
def liftQuery {α : Type} : Except QueryError α → Except CommandFailure α
  | .ok a => .ok a
  | .error e => .error (.query e)

/-- The filter map that an argument gives. -/
def readFilters (disk : Disk) (places : Places) (arg : String) :
    Except CommandFailure FilterMap := do
  let text ← readArgument disk places arg
  liftQuery (FilterMap.parse text)

/-- The output of a command as data. -/
def output (disk : Disk) (places : Places) (rows : UInt32) :
    Command → Except CommandFailure Json
  | .distinct column filters => do
      let m ← readFilters disk places filters
      let s ← liftQuery (Query.distinct m column)
      return s.toJson
  | .search page filters => do
      let m ← readFilters disk places filters
      let s ← liftQuery (Query.search rows m page)
      return s.toJson
  | .columns => return .array (Column.all.map Column.toJson)

/-- The output of a command. -/
def execute (disk : Disk) (places : Places) (rows : UInt32) (command : Command) :
    Except CommandFailure String :=
  (command.output disk places rows).map Json.pretty

end Command
end FilterQuery
