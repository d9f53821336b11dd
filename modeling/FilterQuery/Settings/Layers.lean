import FilterQuery.Disk.Basic
import FilterQuery.Path
import FilterQuery.Settings.Document

/-!
# Settings

The number of rows of a page, from the highest of four layers that gives one: the command line, the
overlay file, the profile file, and a default.

**Files.** The profile is in the home directory, if there is one, and may be missing.  The overlay
is the file that was asked for, which must be there, or else the one in the current directory, which
may be missing.  A file that is there must be readable and well formed, even if a higher layer
decides.

**Warnings.** Each file that was read is reported if it has unknown members, also when a later step
fails.
-/

namespace FilterQuery
namespace Settings

/-- Why there are no settings. -/
inductive Failure where
  | unreadable (path : String) (why : ReadFailure)
  | malformed (path : String) (problem : Json.Problem)
  | overlayMissing (path : String)
  | zeroRows
deriving DecidableEq

namespace Failure

/-- The wording of a failure. -/
def message : Failure → String
  | .unreadable path _ => "Failed to read config file: " ++ path
  | .malformed path _ => "Failed to parse config file: " ++ path
  | .overlayMissing path => "Config file not found: " ++ path
  | .zeroRows => "Configuration error: query.rows_per_page must be greater than 0"

/-- The wordings of what lies behind a failure. -/
def causes : Failure → List String
  | .unreadable _ why => [why.message]
  | .malformed _ problem => [problem.message]
  | .overlayMissing _ => []
  | .zeroRows => []

end Failure

/-- What the command line and its variables say about settings. -/
structure Request where
  config : Option String
  rows : Option UInt32
deriving DecidableEq

/-- A settings file: where it is and how it is named in messages. -/
structure Source where
  path : String
  shown : String
deriving DecidableEq

/-- The outcome of loading, with the names of unknown members for each file that had some. -/
structure Loaded where
  warnings : List (List String)
  rows : Except Failure UInt32

/-- The name of a settings file. -/
def fileName : String := "fmak.json"

/-- The directory of the profile, below the home directory. -/
def profileFolder : String := ".fmak"

/-- The number of rows of a page that holds if nothing else is said. -/
def defaultRows : UInt32 := 20

/-- The document of a file. -/
def Source.load (source : Source) (disk : Disk) : Except Failure Document :=
  match disk.readText source.path with
  | .error why => .error (.unreadable source.shown why)
  | .ok text =>
      match Document.parse text with
      | .error problem => .error (.malformed source.shown problem)
      | .ok document => .ok document

/-- The document of a file, if there is a file. -/
def loadOption (disk : Disk) : Option Source → Except Failure (Option Document)
  | none => .ok none
  | some source => (source.load disk).map some

/-- Where the profile file is: below the home directory, if there is one, and named as that is
given. -/
def profileSource? (places : Places) : Option Source :=
  places.home?.map fun home =>
    let name := Path.join (Path.join home profileFolder) fileName
    ⟨Path.join places.current name, name⟩

/-- Where the overlay file is: at the path that is asked for, or in the current directory. -/
def overlaySource (places : Places) : Option String → Source
  | some text => ⟨Path.expand places text, Path.expand places text⟩
  | none => ⟨Path.join places.current fileName, fileName⟩

/-- The profile file, if it is there. -/
def profile? (disk : Disk) (places : Places) : Option Source :=
  (profileSource? places).filter fun source => disk.isPresent source.path

/-- The overlay file, which must be there if it is asked for. -/
def overlay? (disk : Disk) (places : Places) (config : Option String) :
    Except Failure (Option Source) :=
  let source := overlaySource places config
  if disk.isPresent source.path then .ok (some source)
  else if config.isSome then .error (.overlayMissing source.shown)
  else .ok none

/-- The warning that a document gives rise to. -/
def warnings (document : Option Document) : List (List String) :=
  match document with
  | some d => if d.unknown = [] then [] else [d.unknown]
  | none => []

/-- The number of rows of the highest layer that gives one; zero is refused. -/
def effective (requested overlay profile : Option UInt32) : Except Failure UInt32 :=
  let rows := ((requested.or overlay).or profile).getD defaultRows
  if rows = 0 then .error .zeroRows else .ok rows

/-- Loads the settings. -/
def load (disk : Disk) (places : Places) (request : Request) : Loaded :=
  match loadOption disk (profile? disk places) with
  | .error failure => ⟨[], .error failure⟩
  | .ok profile =>
      match (overlay? disk places request.config).bind (loadOption disk) with
      | .error failure => ⟨warnings profile, .error failure⟩
      | .ok overlay =>
          ⟨warnings profile ++ warnings overlay,
            effective request.rows (overlay.bind Document.rows) (profile.bind Document.rows)⟩

end Settings
end FilterQuery
