import StandardsGate.Host.Host

/-!
Files that are written in one piece.

The content goes to a temporary file beside the target first, and that file is then renamed. Whoever
reads the target sees its old content or its new content, never a part of it.

Main definitions:

* `temporaryName`, `temporaryPath` — the name and the path of the temporary file;
* `WriteStep`, `writeAtomicallyWith` — the steps of a write, of which any may fail;
* `writeAtomically` — a write of which only those steps fail that the file tree refuses.
-/

namespace StandardsGate

/-- The name of the temporary file for a target, for one write of one process. -/
def temporaryName (name : List Char) (process write : Nat) : List Char :=
  '.' :: name ++ '.' :: (toString process).toList ++ '.' :: (toString write).toList ++
    ['.', 't', 'm', 'p']

/-- The path of the temporary file: it is beside the target. -/
def temporaryPath (target : Path) (process write : Nat) : Except IoError Path :=
  match target.fileName? with
  | some name =>
    .ok ((target.parent?.getD ⟨['.']⟩).join ⟨temporaryName name process write⟩)
  | none => .error .noFileName

/-- The steps of an atomic write. -/
inductive WriteStep
  | makeParent
  | choose
  | create
  | write
  | sync
  | rename
deriving DecidableEq, Repr

/-- Which steps of a write fail for reasons of their own. -/
abbrev WriteFaults := WriteStep → Option IoError

/-- A step that fails if it is bound to, and is done otherwise. -/
def WriteFaults.guard {α : Type} (faults : WriteFaults) (s : WriteStep)
    (done : Except IoError α) : Except IoError α :=
  match faults s with
  | some e => .error e
  | none => done

/-- Creates the directory of a target, if it is missing. -/
def ensureParent (faults : WriteFaults) (t : FileTree) (cwd : Location) (target : Path) :
    FileTree × Except IoError Unit :=
  match target.parent? with
  | none => (t, .ok ())
  | some parent =>
    if parent.chars.isEmpty || t.exists? cwd parent then (t, .ok ())
    else match faults .makeParent with
      | some e => (t, .error e)
      | none => t.makeDirectories cwd parent

/-- Writes the temporary file. The tree that comes with a failure may hold a part of it. -/
def writeTemporary (faults : WriteFaults) (t : FileTree) (cwd : Location) (temporary : Path)
    (content : Bytes) : FileTree × Except IoError Unit :=
  match faults.guard .create (t.create cwd temporary []) with
  | .error e => (t, .error e)
  | .ok created =>
    match faults.guard .write (created.create cwd temporary content) with
    | .error e => (created, .error e)
    | .ok written => (written, faults.guard .sync (.ok ()))

/-- Writes a file in one piece, where steps may fail. A temporary file that cannot be finished or
renamed is removed. -/
def writeAtomicallyWith (faults : WriteFaults) (h : Host) (target : Path) (content : Bytes) :
    Except IoError Unit × Host :=
  let (t, made) := ensureParent faults h.files h.directory target
  match made with
  | .error e => (.error e, { h with files := t })
  | .ok () =>
    match faults.guard .choose (temporaryPath target h.processId h.writes) with
    | .error e => (.error e, { h with files := t })
    | .ok temporary =>
      let h := { h with writes := h.writes + 1 }
      let (t, written) := writeTemporary faults t h.directory temporary content
      match written.bind fun () => faults.guard .rename (t.rename h.directory temporary target) with
      | .error e => (.error e, { h with files := t.remove h.directory temporary })
      | .ok t => (.ok (), { h with files := t })

/-- Writes a file in one piece. -/
def writeAtomically (h : Host) (target : Path) (content : Bytes) : Except IoError Unit × Host :=
  writeAtomicallyWith (fun _ => none) h target content

end StandardsGate
