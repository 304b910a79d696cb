import StandardsGate.Run.Context
import StandardsGate.Standards.Options

/-!
What a checker is told.

Main definitions:

* `Settings` — the name, the locations and the options of a checker;
* `Settings.ofContext` — the settings that all checkers of a run share;
* `Settings.effectiveTimeout` — how long the checker's tool may take.
-/

namespace StandardsGate

/-- What a checker is told besides the files that it inspects. -/
structure Settings where
  /-- The name under which it reports. -/
  name : String
  tools : ToolDirectories
  scriptPath : Path
  configDir : Path
  stagingDir : Path
  repoRoot : Path
  timeout : Nat
  /-- The extensions of the files to inspect, in the place of the checker's own. -/
  extensions : Option (List String)
  options : Options
deriving Inhabited

namespace Settings

/-- The settings that all checkers of a run share. -/
def ofContext (c : RunContext) : Settings where
  name := ""
  tools := c.tools
  scriptPath := c.scriptPath
  configDir := c.configDir
  stagingDir := c.stagingDir
  repoRoot := c.repoRoot
  timeout := c.timeout
  extensions := none
  options := ∅

/-- How many seconds the checker's tool may take. -/
def effectiveTimeout (s : Settings) : Except ConfigError Nat := do
  return (← s.options.positive? s.name "timeout_seconds").getD s.timeout

/-- A path in an option. -/
def configPath (s : Settings) (p : Path) : Path := p.absolutize s.configDir

end Settings

end StandardsGate
