import FilterQuery.CommandLine.Parse
import FilterQuery.Environment.File
import FilterQuery.Session.Account
import FilterQuery.Session.Execute

/-!
# A run of the program

From the arguments, the variables and the disk to what is printed and the exit code: variables files
come first, then the command line, then the settings, then the command.

**Exit codes.** 0 for output, help and the version; 1 for an error; 2 for a wrong command line; 101
for a run that is broken off because a variables file gives a value that no variable can hold.
-/

namespace FilterQuery

/-- What a program is started with. -/
structure Start where
  disk : Disk
  /-- The current directory. -/
  directory : String
  /-- The home directory of the account, if it has one. -/
  accountHome : Option String
  environment : Environment
  arguments : List String

/-- What a run sets out to do, and the directories that its paths are taken from. -/
structure Task where
  places : Places
  invocation : Invocation
deriving DecidableEq

/-- What a run comes to. -/
inductive Outcome where
  /-- The output of a command. -/
  | output (text : String)
  /-- The answer to a command line without an invocation. -/
  | usage (error : UsageError)
  /-- The wording of an error. -/
  | failure (message : String)
  /-- Nothing, for want of an environment. -/
  | brokenOff
deriving DecidableEq

namespace Outcome

/-- The name and the version of the program. -/
def version : String := "fmak 1.0.0"

/-- How the program is used, in short. -/
def usageText : String :=
  "Usage: fmak [--config <PATH>] [--rows-per-page <N>] <COMMAND>\n\nCommands:\n" ++
  "  distinct --column <COLUMN> --filters <FILTERS>\n" ++
  "  search [--page <PAGE>] --filters <FILTERS>\n" ++
  "  columns\n  help"

/-- The exit code of an outcome. -/
def exitCode : Outcome → UInt32
  | .output _ => 0
  | .usage .helpAsked => 0
  | .usage .versionAsked => 0
  | .usage _ => 2
  | .failure _ => 1
  | .brokenOff => 101

/-- What an outcome prints. -/
def printed : Outcome → String
  | .output text => text ++ "\n"
  | .usage .helpAsked => usageText ++ "\n"
  | .usage .versionAsked => version ++ "\n"
  | _ => ""

/-- The wording of the error of an outcome, if it is one. -/
def message? : Outcome → Option String
  | .failure message => some message
  | _ => none

end Outcome

namespace Task

/-- The paths, apart from those of variables files, that a task may look at. -/
def paths (t : Task) : List String :=
  let argument :=
    match t.invocation.command with
    | .distinct _ filters => argumentPath? t.places filters
    | .search _ filters => argumentPath? t.places filters
    | .columns => none
  let files := (Settings.profileSource? t.places).toList ++
    [Settings.overlaySource t.places t.invocation.settings.config]
  files.map Settings.Source.path ++ argument.toList

/-- The settings of a task. -/
def settings (t : Task) (disk : Disk) : Settings.Loaded :=
  Settings.load disk t.places t.invocation.settings

/-- What a task comes to. -/
def perform (t : Task) (disk : Disk) : Outcome :=
  match (t.settings disk).rows with
  | .error failure => .failure failure.message
  | .ok rows =>
      match t.invocation.command.execute disk t.places rows with
      | .error failure => .failure failure.message
      | .ok text => .output text

end Task

namespace Start

/-- The variables with those of a variables file, if they can hold their values. -/
def fullEnvironment? (s : Start) : Option Environment :=
  s.environment.load? s.disk s.directory

/-- The task of a run, or what the run comes to if it does not get that far. -/
def task (s : Start) : Except Outcome Task :=
  match s.fullEnvironment? with
  | none => .error .brokenOff
  | some env =>
      match CommandLine.parse env s.arguments with
      | .error e => .error (.usage e)
      | .ok i => .ok ⟨⟨env.home? s.accountHome, s.directory⟩, i⟩

/-- The names of unknown members in the settings files of a run, for each file that has some. -/
def warnings (s : Start) : List (List String) :=
  match s.task with
  | .ok t => (t.settings s.disk).warnings
  | .error _ => []

/-- What a run comes to. -/
def run (s : Start) : Outcome :=
  match s.task with
  | .error outcome => outcome
  | .ok t => t.perform s.disk

end Start
end FilterQuery
