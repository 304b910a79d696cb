import StandardsGate.Host.Host
import StandardsGate.Tool.Git

/-!
Where a run finds things.

Main definitions:

* `ToolDirectories`, `RunContext` — the locations and limits of a run;
* `RunContext.new` — a context from its main locations;
* `standardsPath` — the standards file to be used.
-/

namespace StandardsGate

/-- The directories of helper programs in an installation. -/
structure ToolDirectories where
  composer : Path
  node : Path
deriving DecidableEq, Repr, Inhabited

/-- The directories of helper programs below an installation. -/
def ToolDirectories.under (installation : Path) : ToolDirectories :=
  ⟨(installation.join "vendor").join "bin", (installation.join "node_modules").join ".bin"⟩

/-- The locations and limits of a run. -/
structure RunContext where
  /-- The directory of the installation. -/
  scriptPath : Path
  tools : ToolDirectories
  repoRoot : Path
  standardsPath : Path
  /-- The directory of the standards file. Paths in options are relative to it. -/
  configDir : Path
  /-- Where copies of linter configurations are put. -/
  stagingDir : Path
  /-- How many seconds a tool may take. -/
  timeout : Nat
  eventsLog : Option Path
deriving DecidableEq, Repr, Inhabited

/-- How many seconds a tool may take if nothing else is said. -/
def defaultTimeout : Nat := 120

/-- A context from its main locations. -/
def RunContext.new (scriptPath repoRoot standardsPath : Path) : RunContext where
  scriptPath := scriptPath
  tools := .under scriptPath
  repoRoot := repoRoot
  standardsPath := standardsPath
  configDir := standardsPath.parent?.getD "."
  stagingDir := scriptPath.join "eslint-config-copies"
  timeout := defaultTimeout
  eventsLog := none

/-- Where the standards file of an installation is. -/
def defaultStandards : Path := "config/standards.yml"

/-- The standards file to be used: the requested one or that of the installation, as it is written
or read from a base directory on. -/
def standardsPath (h : Host) (requested : Option Path) (scriptPath base : Path) :
    Except ConfigError Path :=
  let candidate := requested.getD (scriptPath.join defaultStandards)
  if h.files.exists? h.directory candidate then .ok candidate
  else if h.files.exists? h.directory (base.join candidate) then .ok (base.join candidate)
  else .error (.noStandards candidate)

end StandardsGate
