/-!
# Disks

What a program can learn from a disk: what an absolute path leads to, and the text of a file.
-/

namespace FilterQuery

/-- Why a path gives no text. -/
inductive ReadFailure where
  | notFound
  | notADirectory
  | isADirectory
  | nameTooLong
  | nulInName
  | notText
  | other (text : String)
deriving DecidableEq

/-- The wording of a failure. -/
def ReadFailure.message : ReadFailure → String
  | .notFound => "No such file or directory (os error 2)"
  | .notADirectory => "Not a directory (os error 20)"
  | .isADirectory => "Is a directory (os error 21)"
  | .nameTooLong => "File name too long (os error 36)"
  | .nulInName => "file name contained an unexpected NUL byte"
  | .notText => "stream did not contain valid UTF-8"
  | .other text => text

/-- What a path leads to. -/
inductive Status where
  | absent (why : ReadFailure)
  | directory
  | file (bytes : ByteArray)

/-- A disk: what each absolute path leads to. -/
structure Disk where
  status : String → Status

namespace Disk

/-- Whether a path leads anywhere. -/
def isPresent (disk : Disk) (path : String) : Bool :=
  match disk.status path with
  | .absent _ => false
  | _ => true

/-- The text of the file that a path leads to. -/
def readText (disk : Disk) (path : String) : Except ReadFailure String :=
  match disk.status path with
  | .absent why => .error why
  | .directory => .error .isADirectory
  | .file bytes =>
      match String.fromUTF8? bytes with
      | some text => .ok text
      | none => .error .notText

end Disk
end FilterQuery
