/-!
# Errors of the disk

What the file system itself refuses, with the texts and the numbers that it
gives them.
-/

namespace SlottedFile

/-- **An error of the disk.** -/
inductive IoError where
  | notFound
  | alreadyExists
  | notADirectory
  | isADirectory
  | invalidArgument
  | nameTooLong
  /-- A file length that the file system cannot express. -/
  | lengthTooLarge
  /-- A path with a zero character in it. -/
  | zeroInPath
  deriving DecidableEq, Repr

namespace IoError

/-- What went wrong, without the number. -/
def reason : IoError → String
  | notFound => "No such file or directory"
  | alreadyExists => "File exists"
  | notADirectory => "Not a directory"
  | isADirectory => "Is a directory"
  | invalidArgument => "Invalid argument"
  | nameTooLong => "File name too long"
  | lengthTooLarge => "number too large to fit in target type"
  | zeroInPath => "file name contained an unexpected NUL byte"

/-- The number and the kind of an error that the file system reported itself. -/
def systemCode : IoError → Option (Nat × String)
  | notFound => some (2, "NotFound")
  | alreadyExists => some (17, "AlreadyExists")
  | notADirectory => some (20, "NotADirectory")
  | isADirectory => some (21, "IsADirectory")
  | invalidArgument => some (22, "InvalidInput")
  | nameTooLong => some (36, "InvalidFilename")
  | lengthTooLarge => none
  | zeroInPath => none

/-- The text of the error. -/
def message (e : IoError) : String :=
  match e.systemCode with
  | some (code, _) => s!"{e.reason} (os error {code})"
  | none => e.reason

/-- The error written as a term. -/
def term (e : IoError) : String :=
  match e.systemCode with
  | some (code, kind) => s!"Os \x7b code: {code}, kind: {kind}, message: \"{e.reason}\" \x7d"
  | none =>
    match e with
    | zeroInPath => s!"Error \x7b kind: InvalidInput, message: \"{e.reason}\" \x7d"
    | _ => "Custom \x7b kind: InvalidInput, error: TryFromIntError(()) \x7d"

end IoError

end SlottedFile
