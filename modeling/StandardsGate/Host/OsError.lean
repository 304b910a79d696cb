/-!
Why an operation on files or programs fails.

Main definitions:

* `OsError` — the causes, each with the number and the wording that the system gives it;
* `IoError` — the same, and the causes that are found before the system is asked.
-/

namespace StandardsGate

/-- A failure that the operating system reports. -/
inductive OsError
  | notFound
  | badExecutable
  | accessDenied
  | busy
  | alreadyExists
  | notDirectory
  | isDirectory
  | nameTooLong
  | tooManyLinks
deriving DecidableEq, Repr, Inhabited

namespace OsError

/-- The number of a failure. -/
def number : OsError → Nat
  | notFound => 2
  | badExecutable => 8
  | accessDenied => 13
  | busy => 16
  | alreadyExists => 17
  | notDirectory => 20
  | isDirectory => 21
  | nameTooLong => 36
  | tooManyLinks => 40

/-- What a failure is called. -/
def wording : OsError → String
  | notFound => "No such file or directory"
  | badExecutable => "Exec format error"
  | accessDenied => "Permission denied"
  | busy => "Device or resource busy"
  | alreadyExists => "File exists"
  | notDirectory => "Not a directory"
  | isDirectory => "Is a directory"
  | nameTooLong => "File name too long"
  | tooManyLinks => "Too many levels of symbolic links"

/-- The wording of a failure with its number. -/
def message (e : OsError) : String := e.wording ++ " (os error " ++ toString e.number ++ ")"

end OsError

/-- A failure of reading, writing or starting something. -/
inductive IoError
  | os (e : OsError)
  /-- A file to be written has no name. -/
  | noFileName
  /-- Text was wanted and the bytes are none. -/
  | notText
  /-- A path holds a null character. -/
  | nullInPath
  /-- A program, an argument or a directory of a program to be started holds a null character. -/
  | nullInCommand
deriving DecidableEq, Repr, Inhabited

/-- The wording of a failure. -/
def IoError.message : IoError → String
  | os e => e.message
  | noFileName => "invalid file path"
  | notText => "stream did not contain valid UTF-8"
  | nullInPath => "file name contained an unexpected NUL byte"
  | nullInCommand => "nul byte found in provided data"

instance : Coe OsError IoError := ⟨IoError.os⟩

end StandardsGate
