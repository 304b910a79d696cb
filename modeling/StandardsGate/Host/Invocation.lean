import StandardsGate.Host.FileTree

/-!
Programs that are started.

Main definitions:

* `Invocation` — a program with all that it is given;
* `Finished` — how it ended and what it wrote.
-/

namespace StandardsGate

/-- A program to be started in a directory, with its input and the time it may take. -/
structure Invocation where
  program : String
  arguments : List String
  directory : Path
  input : Bytes
  /-- Milliseconds; `none` if it may take as long as it likes. -/
  limit : Option Nat
deriving Inhabited

/-- How a program ended. -/
inductive Ending
  | exited (status : Nat)
  /-- A signal ended it. -/
  | killed
  /-- It was still running when its time was over. -/
  | timedOut
deriving DecidableEq, Repr, Inhabited

/-- The exit status; `none` for a program that did not exit. -/
def Ending.status? : Ending → Option Nat
  | exited status => some status
  | _ => none

/-- How a program ended and what it wrote. -/
structure Finished where
  ending : Ending
  output : Bytes
  errors : Bytes
deriving Inhabited

end StandardsGate
