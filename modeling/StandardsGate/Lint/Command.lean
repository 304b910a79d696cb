import StandardsGate.Tool.Output

/-!
Running a linter.

Main definitions:

* `LintRequest` — the content to lint, the configuration and the name of the file;
* `LintCommand` — a linter's command line, with the directory and the time for it;
* `LintCommand.run` — the linter's answer to a request.
-/

namespace StandardsGate

/-- What a linter is asked. -/
structure LintRequest where
  content : Bytes
  /-- The copy of the configuration. -/
  config : Path
  /-- The name of the file, for the report only. -/
  file : String
deriving DecidableEq, Repr, Inhabited

/-- A linter's command line: the executable with its own arguments. -/
structure LintCommand where
  program : String
  ownArguments : List String
  directory : Path
  /-- How many seconds it may take. -/
  timeout : Nat
deriving DecidableEq, Repr, Inhabited

namespace LintCommand

/-- The command of a command line's words, of which there must be one. -/
def ofWords (words : List String) (directory : Path) (timeout : Nat) :
    Except ConfigError LintCommand :=
  match words with
  | [] => .error .noExecutable
  | program :: ownArguments => .ok ⟨program, ownArguments, directory, timeout⟩

/-- The arguments behind the executable. The linter shall look for no configuration, answer in
JSON, and read the content from its input. -/
def arguments (c : LintCommand) (r : LintRequest) : List String :=
  c.ownArguments ++ ["--no-eslintrc", "--format=json", "--config", r.config.text, "--stdin",
    "--stdin-filename=" ++ r.file]

/-- The command line in messages. -/
def describe (c : LintCommand) : String := " ".intercalate (c.program :: c.ownArguments)

/-- The linter's answer to a request. -/
def run (c : LintCommand) (r : LintRequest) : Action Host ToolOutput :=
  runTool c.program (c.arguments r) c.directory r.content (c.timeout * 1000)

end LintCommand

end StandardsGate
