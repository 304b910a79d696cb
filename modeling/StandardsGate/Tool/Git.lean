import StandardsGate.Diff.Parse
import StandardsGate.Host.Host
import StandardsGate.Text.Blank

/-!
What is asked of git.

Main definitions:

* `Git.repositoryRoot` — the root of the repository that a directory belongs to;
* `Git.stagedContent` — the content of a file as it is going to be committed;
* `Git.stagedChanges` — the diff of what is going to be committed.
-/

namespace StandardsGate.Git

/-- Starts git in a directory, with nothing to read. -/
def invocation (directory : Path) (arguments : List String) : Invocation :=
  ⟨"git", arguments, directory, [], none⟩

/-- The first argument, which names git's command. -/
def commandName (arguments : List String) : String := arguments.head?.getD ""

/-- What git printed, without blanks at the ends. -/
def printed (bs : Bytes) : String := Text.trim (Utf8.decodeLossy bs)

/-- The error of a git that ended with a failure. Its output stands in for the errors it did not
print. -/
def failure (arguments : List String) (f : Finished) : Error :=
  let errors := printed f.errors
  .git (.failed (commandName arguments) f.ending.status?
    (if errors.isEmpty then printed f.output else errors))

/-- Runs git: its output, byte for byte. -/
def run (directory : Path) (arguments : List String) : Action Host Bytes := do
  let f ← onHost (fun e => .git (.notStarted (commandName arguments) e))
    fun h => h.launch (invocation directory arguments)
  if f.ending = .exited 0 then return f.output else throw (failure arguments f)

/-- The root of the repository that a directory belongs to. -/
def repositoryRoot (directory : Path) : Action Host Path := do
  let f ← onHost (fun e => .user (.gitNotStarted e))
    fun h => h.launch (invocation directory ["rev-parse", "--show-toplevel"])
  if f.ending = .exited 0 then return .ofString (printed f.output)
  else throw (.user .outsideRepository)

/-- The content of a file as it is going to be committed. -/
def stagedContent (directory : Path) (file : String) : Action Host Bytes :=
  run directory ["show", ":" ++ file]

/-- The arguments for the diff of what is going to be committed: without context, without deleted
files, and with the prefixes that the reader of diffs looks for. -/
def diffArguments : List String :=
  ["diff", "-U0", "--diff-filter=ACMR", "--cached", "--no-color", "--no-ext-diff",
   "--src-prefix=a/", "--dst-prefix=b/"]

/-- A diff as it is kept, or the error of one whose line numbers are too large. -/
def readDiff (text : String) : Except Error Diff := (Diff.parse text).mapError fun o =>
  .overflow o.file

/-- The diff of what is going to be committed. -/
def stagedChanges (directory : Path) : Action Host Diff := do
  let bs ← run directory diffArguments
  readDiff (Utf8.decodeLossy bs)

end StandardsGate.Git
