import StandardsGate.CommandLine.Needs
import StandardsGate.Host.Loading
import StandardsGate.Shell.Start
import StandardsGate.Text.Decimal

/-!
The command line program.

The files that a command may read are taken into a file tree, the command is carried out on it, and
the files that it has changed are written. Programs are started only if they are scripts in that
tree.
-/

namespace StandardsGate

/-- Takes what stands at a path of the machine into a tree. -/
def takeIn (t : FileTree) (p : Path) : IO FileTree := do
  try
    return t.place p (← IO.FS.readBinFile p.text).toList
  catch
    | .inappropriateType .. => return t.placeDirectory p
    | _ => return t

/-- The text of a file of the machine; the empty text if it cannot be read. -/
def textAt (file : String) : IO String := do
  try IO.FS.readFile file catch _ => return ""

/-- The number that a text begins with. -/
def leadingNumber (cs : List Char) : Nat :=
  Text.decimalValue (cs.takeWhile Char.isDigit)

/-- The number behind a word at the beginning of a line. -/
def numberBehind (word : String) (text : String) : Nat :=
  let starts := (Text.lines text.toList).filter word.toList.isPrefixOf
  leadingNumber ((starts.headD []).drop word.length)

/-- The present time: the time at which the machine was started, and how long it has been up. -/
def presentTime : IO Timestamp := do
  let started := numberBehind "btime " (← textAt "/proc/stat")
  let up := leadingNumber (← textAt "/proc/uptime").toList
  return ⟨started + up, 0⟩

/-- Who runs the program, and where. -/
def presentActor : IO String := do
  let user ← match ← IO.getEnv "USER" with
    | some u => pure (some u)
    | none => IO.getEnv "USERNAME"
  let machine := Text.trim (← textAt "/etc/hostname")
  return user.getD "unknown" ++ "@" ++ (if machine.isEmpty then "unknown" else machine)

/-- All that can be read from a stream. -/
partial def readAll (s : IO.FS.Stream) (before : ByteArray) : IO ByteArray := do
  let more ← s.read 65536
  if more.isEmpty then return before else readAll s (before ++ more)

/-- The machine that the program runs on, with the files that a command may read. -/
def presentHost (command : Except ArgsError Command) : IO Host := do
  let base := Path.ofString (toString (← IO.currentDir))
  let executable := Path.ofString (toString (← IO.appPath))
  let files := FileTree.empty.placeDirectory base
  let directory := match files.find [] base with
    | .ok (l, _) => l
    | .error _ => []
  let processId := leadingNumber (← textAt "/proc/self/stat").toList
  let searchPath := ((← IO.getEnv "PATH").getD "").toList
  let h : Host := {
    files := files
    directory := directory
    executable := executable
    input := []
    actor := ← presentActor
    now := ← presentTime
    processId := processId
    writes := 0
    start := Shell.start searchPath processId }
  match command with
  | .ok (.checkStaged a) =>
    let input ← if a.readsInput base then readAll (← IO.getStdin) .empty else pure .empty
    let files ← (a.reads (executable.parent?.getD base) base).foldlM takeIn h.files
    let h := { h with files := files, input := input.toList }
    match a.lintConfigurations.run.run h with
    | (.ok ps, _) => return { h with files := ← ps.foldlM takeIn h.files }
    | _ => return h
  | _ => return h

/-- Writes a file of the tree on the machine. -/
def putOut (file : Path × Bytes) : IO Unit := do
  match file.1.parent? with
  | some d => IO.FS.createDirAll d.text
  | none => pure ()
  IO.FS.writeBinFile file.1.text ⟨file.2.toArray⟩

end StandardsGate

open StandardsGate in
/-- Carries the command line out and exits with the answer's code. -/
def main (arguments : List String) : IO UInt32 := do
  let h ← presentHost (Command.parse arguments)
  let interactive ← (← IO.getStdout).isTty
  let colours := coloured (← IO.getEnv "FORCE_COLOR") (← IO.getEnv "NO_COLOR")
    (← IO.getEnv "TERM") interactive
  let (a, after) := Answer.ofArguments colours arguments h
  (after.files.filesBeyond h.files).forM putOut
  IO.print a.output
  IO.eprint a.errors
  return a.exitCode.toUInt32
