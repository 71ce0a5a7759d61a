/-!
# Errors of the operating system

What can go wrong with a file or a program, and how the system words it. The number in parentheses is the system's own.
-/

namespace ReleaseGate

/-- Why the system refuses an operation. -/
inductive OsError where
  | notFound
  | permissionDenied
  | alreadyExists
  | notADirectory
  | isADirectory
  | directoryNotEmpty
  | nameTooLong
  | tooManyLinks
  | notExecutable
  /-- The path holds a zero character, so the system is not even asked. -/
  | zeroInPath
  /-- The file was read and is no text. -/
  | notText
  /-- Any other refusal, with its wording. -/
  | other (text : String)
  deriving DecidableEq, Repr

namespace OsError

/-- What a refusal is called. -/
def phrase : OsError → String
  | .notFound => "No such file or directory"
  | .permissionDenied => "Permission denied"
  | .alreadyExists => "File exists"
  | .notADirectory => "Not a directory"
  | .isADirectory => "Is a directory"
  | .directoryNotEmpty => "Directory not empty"
  | .nameTooLong => "File name too long"
  | .tooManyLinks => "Too many levels of symbolic links"
  | .notExecutable => "Exec format error"
  | .zeroInPath => "file name contained an unexpected NUL byte"
  | .notText => "stream did not contain valid UTF-8"
  | .other text => text

/-- The number of a refusal by the system. What never reached the system has none. -/
def number? : OsError → Option Nat
  | .notFound => some 2
  | .permissionDenied => some 13
  | .alreadyExists => some 17
  | .notADirectory => some 20
  | .isADirectory => some 21
  | .directoryNotEmpty => some 39
  | .nameTooLong => some 36
  | .tooManyLinks => some 40
  | .notExecutable => some 8
  | _ => none

/-- The wording of a refusal. -/
def message (e : OsError) : String :=
  match e.number? with
  | some n => s!"{e.phrase} (os error {n})"
  | none => e.phrase

end OsError

end ReleaseGate
