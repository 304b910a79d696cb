import StandardsGate.Checker.Checker
import StandardsGate.Diff.Parse
import StandardsGate.Event.Event
import StandardsGate.Run.Console
import StandardsGate.Standards.Grouping

/-!
A check run.

The files of a diff are assigned to standards, and the checkers of each standard are run on its
files. Messages are printed as they come, and any error ends the run.

Main definitions:

* `Recorder` — where events go;
* `RunSummary`, `Verdict` — the outcome of a run;
* `checkDiff` — the run.
-/

namespace StandardsGate

/-- Whether a commit is accepted. -/
inductive Verdict
  | accepted
  | rejected
deriving DecidableEq, Repr, Inhabited

/-- The name of a verdict. -/
def Verdict.name : Verdict → String
  | accepted => "accepted"
  | rejected => "rejected"

/-- The exit code of a process that ends with a verdict. -/
def Verdict.exitCode : Verdict → Nat
  | accepted => 0
  | rejected => 1

/-- The messages of one checker about one standard's files. -/
structure Finding where
  standard : String
  checker : String
  messages : List String
deriving DecidableEq, Repr, Inhabited

/-- The outcome of a run. -/
structure RunSummary where
  /-- The number of edited files. -/
  files : Nat
  /-- The standards whose checkers ran. -/
  checked : List String
  /-- The messages, of checkers that have some. -/
  findings : List Finding
  /-- The number of hunks whose headers could not be read. -/
  malformed : Nat
deriving DecidableEq, Repr, Inhabited

namespace RunSummary

/-- A commit is accepted if there are no messages. -/
def verdict (s : RunSummary) : Verdict := if s.findings.isEmpty then .accepted else .rejected

/-- The number of messages. -/
def violations (s : RunSummary) : Nat := 
  s.findings.foldr (fun f n => f.messages.length + n) 0

end RunSummary

/-- What is recorded, without the time and the actor. -/
structure Record where
  occurrence : Occurrence
  standard : Option String
  checker : Option String
  details : List (String × Json)
deriving Repr, Inhabited

/-- Where events go: how one is recorded, and how many milliseconds have passed. -/
structure Recorder (σ : Type) where
  record : Record → Action σ Unit
  clock : σ → Nat

/-- A run in progress: the state that checkers work with, and what has been printed. -/
structure Running (σ : Type) where
  world : σ
  console : List ConsoleLine

namespace Running

variable {σ : Type}

/-- Work on the state that checkers work with. -/
def onWorld {α : Type} (a : Action σ α) : Action (Running σ) α := fun r =>
  let (result, world) := a.run.run r.world
  (result, { r with world := world })

/-- Prints lines. -/
def print (lines : List ConsoleLine) : Action (Running σ) Unit :=
  modify fun r => { r with console := r.console ++ lines }

end Running

open Running

variable {σ : Type}

/-- The record of a run that begins. -/
def startRecord (config : Config) (d : Diff) : Record :=
  ⟨.runStart, none, none,
    [("files", .int d.files.size), ("standards", .int config.standards.size)]⟩

/-- The record of a hunk whose header could not be read. -/
def malformedRecord (m : MalformedHunk) : Record :=
  ⟨.malformedHunk, none, none, [("file", .str m.file), ("header", .str m.header)]⟩

/-- The record of a checker that has finished. -/
def checkerRecord (standard checker : String) (millis files violations : Nat) : Record :=
  ⟨.checkerFinished, some standard, some checker,
    [("duration_ms", .int millis), ("files", .int files), ("violations", .int violations)]⟩

/-- The record of a run that has finished. -/
def finishRecord (s : RunSummary) : Record :=
  ⟨.runFinished, none, none,
    [("files", .int s.files), ("malformed_hunks", .int s.malformed),
     ("standards", .arr (s.checked.map .str)), ("verdict", .str s.verdict.name),
     ("violations", .int s.violations)]⟩

/-- Runs one checker on a standard's files: its messages, if it has some. -/
def runChecker (rec : Recorder σ) (standard : String) (files : List EditedFile)
    (c : Checker σ) : Action (Running σ) (List Finding) := do
  let before := rec.clock (← get).world
  let messages ← onWorld (c.checkFiles files)
  let after := rec.clock (← get).world
  onWorld (rec.record
    (checkerRecord standard c.name (after - before) files.length messages.length))
  if messages.isEmpty then return []
  print (violationLines c.name messages)
  return [⟨standard, c.name, messages⟩]

/-- Runs checkers on a standard's files, one after the other. -/
def runCheckers (rec : Recorder σ) (standard : String) (files : List EditedFile) :
    List (Checker σ) → Action (Running σ) (List Finding)
  | [] => return []
  | c :: rest => do
    let found ← runChecker rec standard files c
    return found ++ (← runCheckers rec standard files rest)

/-- Runs the checkers of each group's standard: the standards that have some, and the messages. -/
def runGroups (rec : Recorder σ) (several : Bool)
    (checkers : List (String × List (Checker σ))) :
    List Group → Action (Running σ) (List String × List Finding)
  | [] => return ([], [])
  | g :: rest => do
    match (checkers.lookup g.standard).getD [] with
    | [] => runGroups rec several checkers rest
    | own =>
      if several then print [.standard g.standard]
      let found ← runCheckers rec g.standard g.files own
      let (checked, later) ← runGroups rec several checkers rest
      return (g.standard :: checked, found ++ later)

/-- Checks a diff against a configuration with its checkers. -/
def checkDiff (rec : Recorder σ) (config : Config) (checkers : List (String × List (Checker σ)))
    (d : Diff) : Action (Running σ) RunSummary := do
  onWorld (rec.record (startRecord config d))
  print startLines
  d.malformed.forM fun m => onWorld (rec.record (malformedRecord m))
  if !d.isClean then print [.malformed d.malformed.length]
  let assignment ← match Assignment.ofConfig config with
    | .ok a => pure a
    | .error e => throw (.config e)
  let (checked, findings) ←
    runGroups rec config.hasSeveral checkers (assignment.groups d.files.toList)
  let summary : RunSummary := ⟨d.files.size, checked, findings, d.malformed.length⟩
  print (finishLines (summary.verdict = .accepted))
  onWorld (rec.record (finishRecord summary))
  return summary

end StandardsGate
