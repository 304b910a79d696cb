import StandardsGate.Error
import StandardsGate.Event.Timestamp
import StandardsGate.Host.Invocation

/-!
The host of a run.

Main definitions:

* `Host` — the files, the programs and the surroundings that a run works with;
* `Action` — work with a state that may fail;
* `Host.launch` — starting a program.
-/

namespace StandardsGate

/-- Work with a state. What it has done to the state stays done when it fails. -/
abbrev Action (σ : Type) := ExceptT Error (StateM σ)

/-- What a run works with. -/
structure Host where
  files : FileTree
  /-- The working directory. -/
  directory : Location
  /-- Where the running program itself is. -/
  executable : Path
  /-- What can be read from standard input. -/
  input : Bytes
  /-- Who started the run. -/
  actor : String
  now : Timestamp
  processId : Nat
  /-- How many files have been written atomically. -/
  writes : Nat
  /-- How programs run: what starting one from a directory comes to, and what it leaves behind. -/
  start : Location → Invocation → FileTree → Except IoError Finished × FileTree

namespace Host

/-- The absolute path of the working directory. -/
def directoryPath (h : Host) : Path := h.directory.path

/-- Starts a program. -/
def launch (h : Host) (i : Invocation) : Except IoError Finished × Host :=
  let (result, files) := h.start h.directory i h.files
  (result, { h with files := files })

end Host

/-- Runs something on the host that may fail, an error being made of its failure. -/
def onHost {ε α : Type} (mkError : ε → Error) (f : Host → Except ε α × Host) : Action Host α :=
  fun h =>
    match f h with
    | (.ok a, h) => (.ok a, h)
    | (.error e, h) => (.error (mkError e), h)

end StandardsGate
