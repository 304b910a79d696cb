import StandardsGate.CommandLine.Answer

/-!
What has to be there before a command is carried out.

Main definitions:

* `CheckArgs.reads`, `CheckArgs.lintConfigurations` — the paths that a check may read;
* `CheckArgs.readsInput` — whether it reads standard input;
* `coloured` — whether the lines that are printed have colours.
-/

namespace StandardsGate

/-- The paths that a check may read whatever its standards say. -/
def CheckArgs.reads (a : CheckArgs) (installed base : Path) : List Path :=
  let scriptPath := (a.scriptPath.map (·.absolutize base)).getD installed
  let standards := a.standardsConfig.getD (scriptPath.join defaultStandards)
  (standards :: (a.diffFile.toList ++ a.eventsLog.toList)).map (·.absolutize base)

/-- Whether a check reads standard input. -/
def CheckArgs.readsInput (a : CheckArgs) (base : Path) : Bool :=
  a.diffFile.isSome && DiffSource.ofArgument a.diffFile base base = .standardInput

/-- The configurations that the standards of a check name for linters. -/
def CheckArgs.lintConfigurations (a : CheckArgs) : Action Host (List Path) := do
  let c ← a.context
  let config ← Config.load c.standardsPath
  let declared := config.standards.values.flatMap (·.checkers.values)
  return declared.filterMap fun d =>
    (d.options.text? "standard").map fun p => (Path.ofString p).absolutize c.configDir

/-- Whether printed lines have colours: if that is enforced, or on a terminal that shows them. -/
def coloured (force noColour terminal : Option String) (interactive : Bool) : Bool :=
  match force with
  | some value => value != "0" && value != "false"
  | none => interactive && noColour.isNone && terminal != some "dumb"

end StandardsGate
