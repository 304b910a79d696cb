import StandardsGate.Host.Host
import StandardsGate.Numeric.Double
import StandardsGate.Text.Blank
import StandardsGate.Text.Tail

/-!
External tools.

Main definitions:

* `ToolOutput` — the exit code of a tool and the texts that it printed;
* `ToolOutput.describeFailure` — what is said of a tool that failed;
* `runTool` — running a tool in limited time.
-/

namespace StandardsGate

/-- What a tool that has ended leaves. The exit code is `none` if a signal ended it. -/
structure ToolOutput where
  exitCode : Option Int
  output : String
  errors : String
deriving DecidableEq, Repr, Inhabited

namespace ToolOutput

/-- How many lines of a tool's output a message may show. -/
def maxLines : Nat := 50

/-- How many characters of a tool's output a message may show. -/
def maxChars : Nat := 4096

/-- The exit code in words. -/
def codeText (t : ToolOutput) : String :=
  match t.exitCode with
  | some code => toString code
  | none => "none (terminated by signal)"

/-- What the tool printed, errors last, without blanks at the ends. -/
def printed (t : ToolOutput) : List Char :=
  Text.trimChars
    (if t.errors.isEmpty then t.output.toList else t.output.toList ++ '\n' :: t.errors.toList)

/-- What is said of a tool that failed, with the end of what it printed. -/
def describeFailure (t : ToolOutput) (command : String) : String :=
  let first := command ++ " failed with exit code " ++ t.codeText
  let shown := Text.tailChars maxLines maxChars t.printed
  if shown.isEmpty then first else first ++ "\nOutput (truncated):\n" ++ String.ofList shown

end ToolOutput

/-- A number of milliseconds, in seconds. -/
def secondsText (millis : Nat) : String :=
  let whole := Double.ofNat (millis / 1000)
  let fraction := (Double.ofNat (millis % 1000 * 1000000)).div (Double.ofNat 1000000000)
  (whole.addPos fraction).toPlainText

/-- Runs a tool in a directory. It must end within `limit` milliseconds. -/
def runTool (program : String) (arguments : List String) (directory : Path) (input : Bytes)
    (limit : Nat) : Action Host ToolOutput := do
  let i : Invocation := ⟨program, arguments, directory, input, some limit⟩
  let f ← onHost (fun e => .tool (.notStarted program e)) fun h => h.launch i
  match f.ending with
  | .timedOut => throw (.tool (.timedOut program (secondsText limit)))
  | .exited status =>
    return ⟨some status, Utf8.decodeLossy f.output, Utf8.decodeLossy f.errors⟩
  | .killed => return ⟨none, Utf8.decodeLossy f.output, Utf8.decodeLossy f.errors⟩

end StandardsGate
