import StandardsGate.Checker.Pattern
import StandardsGate.Glob.Reader
import StandardsGate.Host.OsError
import StandardsGate.Json.Reader
import StandardsGate.Json.Shape
import StandardsGate.Path
import StandardsGate.Text.Words
import StandardsGate.Yaml.ScalarText

/-!
Why a run fails.

A violation that a checker finds is no error. An error is of one of five kinds, and the kind decides
the exit code of the process. A diff that counts further than a machine can is an error of its own.

Main definitions:

* `Error` — the kinds of errors with their causes;
* `Error.message`, `Error.exitCode` — what the user is told, and what the process answers.
-/

namespace StandardsGate

/-- What is wrong with the invocation. -/
inductive UserError
  | zeroTimeout
  | homelessExecutable (executable : Path)
  | gitNotStarted (e : IoError)
  | outsideRepository
  | unreadableInput (e : IoError)
  | unreadableDiff (file : Path) (e : IoError)
  | eventsDirectory (directory : Path) (e : IoError)
  | eventsFile (file : Path) (e : IoError)
  | other (text : String)

/-- Which rules of a standard are meant. -/
inductive RuleKind
  /-- The rules that bring files into a standard. -/
  | inclusion
  /-- The rules that take files out of it again. -/
  | exclusion
deriving DecidableEq, Repr

/-- The name of a kind of rules in messages. -/
def RuleKind.name : RuleKind → String
  | inclusion => "file"
  | exclusion => "exclude"

/-- What is wrong with the standards, with a checker's options or with a linter's configuration. -/
inductive ConfigError
  | malformedStandards (f : Yaml.Fault)
  | unreadableStandards (file : Path) (e : IoError)
  | noStandards (file : Path)
  /-- A rule does not compile, found when the standards are read. -/
  | invalidRule (standard : String) (kind : RuleKind) (rule : String) (f : Glob.Fault)
  /-- A rule does not compile, found when files are assigned to standards. -/
  | unusableRule (standard : String) (kind : RuleKind) (rule : String) (f : Glob.Fault)
  | unnamedChecker (standard checker : String)
  | emptyExtension (standard checker : String)
  | dottedExtension (standard checker extension : String)
  | unknownChecker (identity checker : String) (known : List String)
  | missingOption (checker key : String)
  | notText (checker key : String)
  | notPositive (checker key : String)
  | badPattern (checker raw : String) (f : Pattern.Fault)
  | badExecutable (checker commandLine : String) (f : Words.Fault)
  | noExecutable
  | badPolicy (value : String)
  | noLintConfig (file : Path)
  | stagingDirectory (directory : Path) (e : IoError)
  | namelessConfig (file : Path)
  | unreadableConfig (file : Path) (e : IoError)
  | unwritableCopy (file : Path) (e : IoError)
  | other (text : String)

/-- What went wrong with an external tool. -/
inductive ToolError
  | notStarted (program : String) (e : IoError)
  | timedOut (program : String) (seconds : String)
  /-- The tool said that it failed; the text describes what it answered. -/
  | failed (description : String)
  | other (text : String)

/-- What went wrong with git. -/
inductive GitError
  | notStarted (command : String) (e : IoError)
  | failed (command : String) (status : Option Nat) (output : String)
  | other (text : String)

/-- What should not have happened. -/
inductive InternalError
  | unknownFile (name : String)
  | malformedReport (f : Json.Fault)
  /-- The report is JSON, but no array. -/
  | reportNotArray (found : Json)
  | unexpectedEntry (m : Json.Mismatch)
  | other (text : String)

/-- Why a run fails. -/
inductive Error
  | user (cause : UserError)
  | config (cause : ConfigError)
  | tool (cause : ToolError)
  | git (cause : GitError)
  | internal (cause : InternalError)
  /-- A line number of a diff exceeds what a machine can count. -/
  | overflow (file : String)

/-! ### Wording -/

/-- A text in single quotes. -/
def inQuotes (s : String) : String := "'" ++ s ++ "'"

/-- A text without dots in front. -/
def withoutDots (s : String) : String := String.ofList (s.toList.dropWhile (· == '.'))

/-- What the user is told of a wrong invocation. -/
def UserError.message : UserError → String
  | zeroTimeout => "--timeout must be at least 1 second"
  | homelessExecutable p => "executable path " ++ inQuotes p.text ++ " has no parent directory"
  | gitNotStarted e => "failed to execute git: " ++ e.message ++ " (is git installed?)"
  | outsideRepository =>
    "not inside a git repository. Run this command from within a git repository."
  | unreadableInput e => "failed to read diff from stdin: " ++ e.message
  | unreadableDiff p e => "failed to read diff file " ++ inQuotes p.text ++ ": " ++ e.message
  | eventsDirectory p e =>
    "failed to create events directory " ++ inQuotes p.text ++ ": " ++ e.message
  | eventsFile p e => "failed to open events file " ++ inQuotes p.text ++ ": " ++ e.message
  | other text => text

/-- What the user is told of a wrong configuration. -/
def ConfigError.message : ConfigError → String
  | malformedStandards f => "failed to parse standards YAML: " ++ f.message
  | unreadableStandards p e =>
    "failed to read standards file " ++ inQuotes p.text ++ ": " ++ e.message
  | noStandards p => "Project standards description file not found (" ++ p.text ++ ")"
  | invalidRule standard kind rule f =>
    "standard " ++ inQuotes standard ++ " has an invalid " ++ kind.name ++ " rule: " ++
      f.message rule
  | unusableRule standard kind rule f =>
    "invalid " ++ kind.name ++ " rule in standard " ++ inQuotes standard ++ ": " ++ f.message rule
  | unnamedChecker standard checker =>
    "checker " ++ inQuotes checker ++ " in standard " ++ inQuotes standard ++
      " does not name a checker implementation"
  | emptyExtension standard checker =>
    "checker " ++ inQuotes checker ++ " in standard " ++ inQuotes standard ++
      ": extensions entries must be non-empty"
  | dottedExtension standard checker extension =>
    "checker " ++ inQuotes checker ++ " in standard " ++ inQuotes standard ++
      ": extensions entries must not have leading dots (found " ++ inQuotes extension ++
      "). Use " ++ inQuotes (withoutDots extension) ++ " instead."
  | unknownChecker identity checker known =>
    "unknown checker " ++ inQuotes identity ++ " for " ++ inQuotes checker ++
      ". Known checkers: " ++ ", ".intercalate known
  | missingOption checker key =>
    "checker " ++ inQuotes checker ++ " requires option " ++ inQuotes key
  | notText checker key =>
    "checker " ++ inQuotes checker ++ " option " ++ inQuotes key ++ " must be a string"
  | notPositive checker key =>
    "checker " ++ inQuotes checker ++ " option " ++ inQuotes key ++ " must be a positive integer"
  | badPattern checker raw f =>
    "checker " ++ inQuotes checker ++ " has an invalid pattern " ++ inQuotes raw ++ ": " ++
      f.message
  | badExecutable checker commandLine f =>
    "checker " ++ inQuotes checker ++ " has an invalid executable " ++ inQuotes commandLine ++
      ": " ++ f.message
  | noExecutable => "ESLint executable must not be empty"
  | badPolicy value =>
    "invalid tool_failure " ++ inQuotes value ++ ": expected 'above_one' or 'exactly_two'"
  | noLintConfig p => "ESLint standard file not found (" ++ p.text ++ ")"
  | stagingDirectory p e =>
    "failed to create staging directory " ++ inQuotes p.text ++ ": " ++ e.message
  | namelessConfig p => "config path " ++ inQuotes p.text ++ " does not name a file"
  | unreadableConfig p e => "failed to read config file " ++ inQuotes p.text ++ ": " ++ e.message
  | unwritableCopy p e => "failed to stage config file " ++ inQuotes p.text ++ ": " ++ e.message
  | other text => text

/-- What the user is told of a tool. -/
def ToolError.message : ToolError → String
  | notStarted program e =>
    "failed to execute " ++ inQuotes program ++ ": " ++ e.message ++
      "\nFix: ensure the tool is installed."
  | timedOut program seconds =>
    inQuotes program ++ " did not finish within " ++ seconds ++ " seconds and was killed"
  | failed description => description
  | other text => text

/-- What the user is told of git. A git that was killed has the exit code -1. -/
def GitError.message : GitError → String
  | notStarted command e => "failed to execute git " ++ command ++ ": " ++ e.message
  | failed command status output =>
    "git " ++ command ++ " failed (exit code " ++ ((status.map toString).getD "-1") ++ "): " ++
      output
  | other text => text

/-- What the user is told of an internal error. -/
def InternalError.message : InternalError → String
  | unknownFile name =>
    "tool reported on " ++ inQuotes name ++ ", which is not among the checked files"
  | malformedReport f => "failed to parse ESLint JSON report: " ++ f.message
  | reportNotArray found =>
    "failed to parse ESLint JSON report: invalid type: " ++ found.describe ++
      ", expected a sequence"
  | unexpectedEntry m => "unexpected ESLint report entry: " ++ m.message
  | other text => text

namespace Error

/-- What the user is told. -/
def message : Error → String
  | user cause => cause.message
  | config cause => "Configuration error: " ++ cause.message
  | tool cause => "Tool invocation failed: " ++ cause.message
  | git cause => "Git operation failed: " ++ cause.message
  | internal cause => "Internal error: " ++ cause.message
  | overflow file => "line numbers of " ++ inQuotes file ++ " are too large"

/-- The exit code of a process that ends with an error. -/
def exitCode : Error → Nat
  | user _ => 2
  | config _ => 2
  | tool _ => 3
  | git _ => 4
  | internal _ => 5
  | overflow _ => 101

end Error

end StandardsGate
