import StandardsGate.Checker.Builtin
import StandardsGate.CommandLine.Args
import StandardsGate.Event.Log
import StandardsGate.Run.Check
import StandardsGate.Run.Inputs

/-!
Carrying out command lines.

Main definitions:

* `CheckArgs.context` — where a run that a command line asks for finds things;
* `Command.run` — carries a command out;
* `Answer`, `Answer.ofArguments` — what the process of a command line prints, and its exit code.
-/

namespace StandardsGate

open Running

/-! ### Checking -/

/-- The directory that the running program itself is in. -/
def installation : Action Host Path := do
  let executable := (← get).executable
  match executable.parent? with
  | some p => return p
  | none => throw (.user (.homelessExecutable executable))

/-- The root of the repository. If the diff comes from elsewhere, a working directory that is in no
repository stands in for it. -/
def CheckArgs.repositoryRoot (a : CheckArgs) (base : Path) : Action Host Path :=
  if a.diffFile.isSome then
    tryCatch (Git.repositoryRoot base) fun _ => return base
  else Git.repositoryRoot base

/-- Where the run finds things. Relative paths are read from the working directory on. -/
def CheckArgs.context (a : CheckArgs) : Action Host RunContext := do
  if a.timeout = 0 then throw (.user .zeroTimeout)
  let base := (← get).directoryPath
  let scriptPath ← match a.scriptPath with
    | some p => pure (p.absolutize base)
    | none => installation
  let repoRoot ← a.repositoryRoot base
  match standardsPath (← get) a.standardsConfig scriptPath base with
  | .error e => throw (.config e)
  | .ok standards =>
    let c := RunContext.new scriptPath repoRoot (standards.absolutize base)
    return { c with
      stagingDir := (a.stagingDir.map (·.absolutize base)).getD c.stagingDir
      timeout := a.timeout
      eventsLog := a.eventsLog.map (·.absolutize base) }

/-- Events are appended to the log, with the time of the host and the actor. -/
def EventLog.recorder (log : EventLog) : Recorder Host where
  record r := do
    let h ← get
    log.record ⟨h.now, r.occurrence, h.actor, r.standard, r.checker, .ofMembers r.details⟩
  clock h := (h.now.seconds * 1000).toNat + h.now.nanos / 1000000

/-- What a check works with. -/
structure Preparation where
  context : RunContext
  config : Config
  checkers : List (String × List (Checker Host))
  diff : Diff

/-- Prepares a check: whatever is wrong with the configuration is found before the diff is read. -/
def CheckArgs.prepare (a : CheckArgs) : Action Host Preparation := do
  let c ← a.context
  let config ← Config.load c.standardsPath
  let checkers ← Registry.builtin.instantiate config c
  let base := (← get).directoryPath
  let diff ← (DiffSource.ofArgument a.diffFile base c.repoRoot).read
  return ⟨c, config, checkers, diff⟩

/-- Checks a diff. -/
def CheckArgs.run (a : CheckArgs) : Action (Running Host) Verdict := do
  let p ← onWorld a.prepare
  let log : EventLog := ⟨p.context.eventsLog⟩
  let summary ← checkDiff log.recorder p.config p.checkers p.diff
  return summary.verdict

/-! ### Listing the checkers -/

/-- How wide the identities of listed checkers are at least. -/
def identityWidth : Nat := 16

/-- The line of a checker in the list: its identity, its extensions and its other spellings. -/
def checkerLine (identity : String) (extensions spellings : List String) : String :=
  let column := String.ofList (identity.toList.rightpad identityWidth ' ')
  let line := "  " ++ column ++ " extensions: " ++ ", ".intercalate extensions
  if spellings.isEmpty then line
  else line ++ " (alias: " ++ ", ".intercalate spellings ++ ")"

/-- The list of a registry's checkers. -/
def Registry.listing {σ : Type} (r : Registry σ) : List String :=
  "Available checkers:" :: r.identities.map fun (identity, extensions) =>
    checkerLine identity extensions ((r.spellings.filter (·.2 = identity)).map (·.1))

/-! ### Commands -/

/-- Carries a command out. -/
def Command.run : Command → Action (Running Host) Verdict
  | checkStaged a => a.run
  | checkers => do
    print (Registry.builtin.listing.map .message)
    return .accepted

/-- What a command has come to. -/
structure Outcome where
  result : Except Error Verdict
  console : List ConsoleLine

/-- What a command comes to on a host, and what it leaves. -/
def Command.outcome (c : Command) (h : Host) : Outcome × Host :=
  let (result, r) := c.run.run.run ⟨h, []⟩
  (⟨result, r.console⟩, r.world)

/-- The exit code of a process that ends with a result. -/
def Outcome.exitCode (o : Outcome) : Nat :=
  match o.result with
  | .ok verdict => verdict.exitCode
  | .error e => e.exitCode

/-- What the process of a command line prints, and its exit code. -/
structure Answer where
  exitCode : Nat
  output : String
  errors : String
deriving DecidableEq, Repr, Inhabited

/-- The answer to a command line that is not carried out. -/
def ArgsError.answer (e : ArgsError) : Answer :=
  if e.isAnswer then ⟨e.exitCode, e.rendered, ""⟩ else ⟨e.exitCode, "", e.rendered⟩

/-- The answer that an outcome is. -/
def Outcome.answer (o : Outcome) (coloured : Bool) : Answer where
  exitCode := o.exitCode
  output := ConsoleLine.renderAll coloured o.console
  errors :=
    match o.result with
    | .ok _ => ""
    | .error e => "Error: " ++ e.message ++ "\n"

/-- The answer to a command line, and the host that it leaves. -/
def Answer.ofArguments (coloured : Bool) (arguments : List String) (h : Host) : Answer × Host :=
  match Command.parse arguments with
  | .error e => (e.answer, h)
  | .ok c =>
    let (o, h) := c.outcome h
    (o.answer coloured, h)

end StandardsGate
