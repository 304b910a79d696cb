import StandardsGate.Host.Host
import StandardsGate.Standards.Validation
import StandardsGate.Tool.Git

/-!
What a run reads.

Main definitions:

* `Config.load` — the configuration of a standards file;
* `DiffSource`, `DiffSource.read` — where the diff comes from, and the diff.
-/

namespace StandardsGate

/-- The text of bytes, which have to be UTF-8. -/
def textOf (bs : Bytes) : Except IoError String :=
  match Utf8.decode? bs with
  | some s => .ok s
  | none => .error .notText

/-- The configuration of a standards file. -/
def Config.load (file : Path) : Action Host Config := do
  let yaml ← onHost (fun e => .config (.unreadableStandards file e)) fun h =>
    ((h.files.read h.directory file).bind textOf, h)
  match Config.ofYaml yaml with
  | .ok c => return c
  | .error e => throw (.config e)

/-- Where a diff comes from. -/
inductive DiffSource
  /-- It is the diff of what is going to be committed to a repository. -/
  | staged (repoRoot : Path)
  | standardInput
  | file (p : Path)
deriving DecidableEq, Repr, Inhabited

namespace DiffSource

/-- The diff's source: a file, standard input for a dash, or what is staged if there is no
argument. -/
def ofArgument (argument : Option Path) (base repoRoot : Path) : DiffSource :=
  match argument with
  | none => staged repoRoot
  | some p => if p.same "-" then standardInput else file (p.absolutize base)

/-- The diff of a text that was read. -/
def parse (text : String) : Action Host Diff :=
  match Git.readDiff text with
  | .ok d => return d
  | .error e => throw e

/-- The diff. Standard input has to be UTF-8, in a file other bytes are replaced. -/
def read : DiffSource → Action Host Diff
  | staged repoRoot => Git.stagedChanges repoRoot
  | standardInput => do
    let text ← onHost (fun e => .user (.unreadableInput e)) fun h =>
      (textOf h.input, { h with input := [] })
    parse text
  | file p => do
    let bs ← onHost (fun e => .user (.unreadableDiff p e)) fun h =>
      (h.files.read h.directory p, h)
    parse (Utf8.decodeLossy bs)

end DiffSource

end StandardsGate
