import StandardsGate.Shell.Evaluate

/-!
Starting programs.

A program is a script in the file tree. Its first line names the shell that runs it.

Main definitions:

* `Shell.start` — the outcome of starting a program, and the file tree that it leaves.
-/

namespace StandardsGate.Shell

/-- The shells that a script's first line may name. -/
def interpreters : List String :=
  ["/bin/sh", "/usr/bin/sh", "/bin/dash", "/usr/bin/dash", "/bin/bash", "/usr/bin/bash",
   "/usr/bin/env sh", "/usr/bin/env bash"]

/-- The interpreter that a script names in its first line. -/
def interpreter? (script : List Char) : Option String :=
  match script with
  | '#' :: '!' :: rest =>
    let line := rest.takeWhile (· != '\n')
    let blank (c : Char) : Bool := c == ' ' || c == '\t'
    some (String.ofList ((line.dropWhile blank).reverse.dropWhile blank).reverse)
  | _ => none

/-- The script that a path leads to, if it can be run. -/
def runnable (files : FileTree) (cwd : Location) (p : Path) : Except IoError (List Char) := do
  match ← files.find cwd p with
  | (_, .file content true) =>
    let script := Utf8.decodeChars content
    match interpreter? script with
    | none => throw (.os .badExecutable)
    | some shell => if interpreters.contains shell then return script else throw (.os .notFound)
  | _ => throw (.os .accessDenied)

/-- Looks for a program in directories. A file that cannot be run is remembered as the reason of
failure. -/
def lookUp (files : FileTree) (cwd : Location) (name : List Char) (reason : IoError) :
    List (List Char) → Except IoError (Path × List Char)
  | [] => .error reason
  | d :: rest =>
    let p := (Path.mk d).join ⟨name⟩
    match runnable files cwd p with
    | .ok script => .ok (p, script)
    | .error (.os .accessDenied) => lookUp files cwd name (.os .accessDenied) rest
    | .error (.os .badExecutable) => .error (.os .badExecutable)
    | .error _ => lookUp files cwd name reason rest

/-- Finds the script of an invocation. -/
def locate (searchPath : List Char) (files : FileTree) (cwd : Location) (program : List Char) :
    Except IoError (Path × List Char) :=
  if program.isEmpty then .error (.os .notFound)
  else if program.contains '/' then
    (runnable files cwd ⟨program⟩).map fun script => (⟨program⟩, script)
  else lookUp files cwd program (.os .notFound) (Text.splitOn ':' searchPath)

/-- The directory in which an invocation runs. -/
def workingDirectory (files : FileTree) (cwd : Location) (p : Path) : Except IoError Location := do
  match ← files.find cwd p with
  | (l, .directory) => return l
  | _ => throw (.os .notDirectory)

/-- Whether anything that an invocation is given holds a null character. -/
def hasNull (i : Invocation) : Bool :=
  (i.program :: i.directory.text :: i.arguments).any fun s => s.toList.contains '\x00'

/-- Starts a program from a working directory. -/
def start (searchPath : List Char) (processId : Nat) (cwd : Location) (i : Invocation)
    (files : FileTree) : Except IoError Finished × FileTree :=
  if hasNull i then (.error .nullInCommand, files)
  else
    let found : Except IoError (Location × Path × List Char) := do
      let l ← workingDirectory files cwd i.directory
      return (l, ← locate searchPath files l i.program.toList)
    match found with
    | .error e => (.error e, files)
    | .ok (l, p, script) =>
      let (ending, s) := runScript script {
        files := files
        directory := l
        bindings := [("PATH".toList, searchPath)]
        arguments := i.arguments.map String.toList
        self := p.chars
        processId := processId
        status := 0
        input := i.input
        sinks := [(1, .buffer 1), (2, .buffer 2)]
        buffers := []
        nextBuffer := 3
        clock := 0
        limit := i.limit }
      (.ok ⟨ending, s.buffered 1, s.buffered 2⟩, s.files)

end StandardsGate.Shell
