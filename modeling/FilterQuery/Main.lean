import FilterQuery.Session.Run

/-!
# The program

Collects what a run depends on (arguments, variables, directories and the files in question), lets
`Start.run` decide, and prints.
-/

namespace FilterQuery

/-- What the number of a system error says about a path; some are given with a minus sign. -/
def Status.ofErrorCode (code : UInt32) (text : String) : Status :=
  match if code < 0x80000000 then code else 0 - code with
  | 2 => .absent .notFound
  | 20 => .absent .notADirectory
  | 21 => .directory
  | 22 => .absent .nulInName
  | 36 => .absent .nameTooLong
  | _ => .absent (.other text)

/-- What a system error says about a path. -/
def Status.ofError (e : IO.Error) : Status :=
  match e with
  | .noFileOrDirectory _ code _ => .ofErrorCode code (toString e)
  | .inappropriateType _ code _ => .ofErrorCode code (toString e)
  | .invalidArgument _ code _ => .ofErrorCode code (toString e)
  | e => .absent (.other (toString e))

/-- What a path leads to at this moment. -/
def Status.find (path : String) : IO Status := do
  try
    return .file (← IO.FS.readBinFile path)
  catch e =>
    return Status.ofError e

/-- The disk as it is at this moment at some paths. -/
def Disk.capture (paths : List String) : IO Disk := do
  let found ← paths.mapM fun path => do
    return (path, ← Status.find path)
  return ⟨fun path => ((found.find? fun f => f.1 = path).map Prod.snd).getD (.absent .notFound)⟩

/-- The variables of a block of bytes, each with an equals sign and a NUL at its end. -/
def Environment.ofBlock (block : String) : Environment :=
  let assignment (entry : String) : String × String :=
    let s := entry.toList
    (String.ofList (s.takeWhile (· ≠ '=')), String.ofList ((s.dropWhile (· ≠ '=')).drop 1))
  ⟨(block.splitOn "\x00").map assignment⟩

/-- The variables that the program was started with. -/
def Environment.current : IO Environment := do
  let block ← IO.FS.readBinFile "/proc/self/environ"
  return Environment.ofBlock ((String.fromUTF8? block).getD "")

/-- The home directory of the account that the program runs for, if there is one. -/
def Account.currentHome? : IO (Option String) := do
  let status ← IO.FS.readFile "/proc/self/status"
  let number := (status.splitOn "\nUid:\t")[1]?.bind fun rest => (rest.splitOn "\t").head?
  let accounts ← IO.FS.readFile "/etc/passwd"
  return number.bind (Account.home? accounts)

/-- What the program was started with, the disk being captured where the run may look at it. -/
def Start.current (arguments : List String) : IO Start := do
  let environment ← Environment.current
  let directory := toString (← IO.currentDir)
  let accountHome ← Account.currentHome?
  let candidates := Environment.candidates directory
  let start : Start :=
    ⟨← Disk.capture candidates, directory, accountHome, environment, arguments⟩
  match start.task with
  | .error _ => return start
  | .ok t => return { start with disk := ← Disk.capture (candidates ++ t.paths) }

end FilterQuery

/-- Runs the program: output goes to standard output, errors to standard error. -/
def main (arguments : List String) : IO UInt32 := do
  let start ← FilterQuery.Start.current arguments
  for names in start.warnings do
    IO.eprintln ("Unknown fields in config file (possible typos): " ++ ", ".intercalate names)
  let outcome := start.run
  IO.print outcome.printed
  match outcome with
  | .failure message => IO.eprintln ("\nError: " ++ message ++ "\n")
  | .usage _ => if outcome.exitCode ≠ 0 then IO.eprintln FilterQuery.Outcome.usageText
  | .brokenOff => IO.eprintln "A variables file gives a value with a NUL."
  | .output _ => pure ()
  return outcome.exitCode
