import StandardsGate.Checker.Checker
import StandardsGate.Lint.Command
import StandardsGate.Lint.Policy
import StandardsGate.Lint.Report
import StandardsGate.Lint.Staging
import StandardsGate.Tool.Git

/-!
The checker that runs a linter.

The staged content of each file goes to the linter, and of its messages those about added lines are
kept.

Main definitions:

* `Collaborators` — where staged content comes from, and the linter;
* `Linting.build` — the checker with given collaborators;
* `Linting.buildWithGit` — the checker with git's index and the linter of the options.
-/

namespace StandardsGate

/-- A state that holds a host. -/
class Hosted (σ : Type) where
  host : σ → Host
  withHost : σ → Host → σ

instance : Hosted Host := ⟨id, fun _ h => h⟩

instance {ρ : Type} : Hosted (Host × ρ) := ⟨Prod.fst, fun s h => (h, s.2)⟩

/-- Work on the host of a state. -/
def Hosted.act {σ α : Type} [Hosted σ] (a : Action Host α) : Action σ α := fun s =>
  let (result, h) := a.run.run (host s)
  (result, withHost s h)

/-- Where staged content comes from, and the linter. -/
structure Collaborators (σ : Type) where
  stagedContent : String → Action σ Bytes
  lint : LintRequest → Action σ ToolOutput
  /-- The linter in messages. -/
  describe : String

namespace Linting

variable {σ : Type} [Hosted σ]

/-- The extensions of the files that are linted if nothing else is declared. -/
def extensions : List String := ["js", "ts", "tsx"]

/-- The report about one file. -/
def lintFile (c : Collaborators σ) (policy : FaultPolicy) (config : Path) (f : EditedFile) :
    Action σ (Option FileReport) := do
  let content ← c.stagedContent f.name
  let answer ← c.lint ⟨content, config, f.name⟩
  if policy.isFault answer.exitCode then
    throw (.tool (.failed (answer.describeFailure c.describe)))
  match FileReport.parse answer.output with
  | .ok report => return report
  | .error e => throw (.internal e)

/-- The messages of a report that count. -/
def keep (files : List EditedFile) (root : Path) (r : FileReport) : Action σ (List String) := do
  match correlate (Hosted.host (← get)) r files root with
  | .ok messages => return messages
  | .error e => throw (.internal e)

/-- Lints files one after the other. `files` are all those that reports may be about. -/
def lintAll (c : Collaborators σ) (policy : FaultPolicy) (root config : Path)
    (files : List EditedFile) : List EditedFile → Action σ (List String)
  | [] => return []
  | f :: rest => do
    let messages ← match ← lintFile c policy config f with
      | some report => keep files root report
      | none => pure []
    return messages ++ (← lintAll c policy root config files rest)

/-- The messages for files: the configuration is copied first. -/
def inspect (c : Collaborators σ) (policy : FaultPolicy) (s : Settings) (config : Path)
    (files : List EditedFile) : Action σ (List String) := do
  let copy ← Hosted.act (stageConfig config s.stagingDir)
  lintAll c policy s.repoRoot copy files files

/-- What the options say: the configuration, which must exist, and the policy. -/
def readOptions (h : Host) (s : Settings) : Except ConfigError (Path × FaultPolicy) := do
  let standard ← s.options.requireText s.name "standard"
  let config := s.configPath (.ofString standard)
  if !h.files.isFile h.directory config then throw (.noLintConfig config)
  return (config, ← FaultPolicy.parse (s.options.text? "tool_failure"))

/-- The checker with given collaborators. -/
def build (c : Collaborators σ) (s : Settings) : Action σ (Checker σ) := do
  match readOptions (Hosted.host (← get)) s with
  | .error e => throw (.config e)
  | .ok (config, policy) =>
    return { settings := s, defaultExtensions := extensions, inspect := inspect c policy s config }

/-- The linter of the options: a command line, or the linter of the installation. -/
def commandOf (s : Settings) : Except ConfigError LintCommand := do
  let words ← match s.options.text? "executable" with
    | some line => (Words.split line).mapError (.badExecutable s.name line)
    | none => pure [(s.tools.node.join "eslint").text]
  LintCommand.ofWords words s.repoRoot (← s.effectiveTimeout)

/-- The checker with git's index and the linter of the options. -/
def buildWithGit (s : Settings) : Action Host (Checker Host) := do
  match commandOf s with
  | .error e => throw (.config e)
  | .ok command =>
    let collaborators : Collaborators Host :=
      ⟨Git.stagedContent s.repoRoot, command.run, command.describe⟩
    build collaborators s

end Linting

end StandardsGate
