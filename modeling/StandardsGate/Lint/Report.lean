import StandardsGate.Host.Host
import StandardsGate.Standards.Grouping

/-!
The report of a linter.

A report is a JSON array of which the first item counts.

Main definitions:

* `LintMessage`, `FileReport` — a reported problem, and the problems of a file;
* `FileReport.parse` — the report of a text;
* `relativize` — the name of a reported file;
* `correlate` — the messages about added lines.
-/

namespace StandardsGate

/-- A reported problem. Some problems belong to no line. -/
structure LintMessage where
  line : Option Nat
  message : String
deriving DecidableEq, Repr, Inhabited

/-- The problems of a file. -/
structure FileReport where
  path : String
  messages : List LintMessage
deriving DecidableEq, Repr, Inhabited

/-- Reads a reported problem. -/
def LintMessage.ofJson : Json → Except Json.Mismatch LintMessage :=
  Json.record "LintMessage" ["line", "message"] fun _ members => do
    let line ← match members[0]? with
      | some (some v) => Json.optional Json.count v
      | _ => pure none
    let message ← match members[1]? with
      | some (some v) => v.text
      | _ => pure ""
    return ⟨line, message⟩

namespace FileReport

/-- Reads the problems of a file. -/
def ofJson : Json → Except Json.Mismatch FileReport :=
  Json.record "FileReport" ["filePath", "messages"] fun absent members => do
    let path ← match members[0]? with
      | some (some v) => (v.text).map some
      | _ => pure none
    let messages ← match members[1]? with
      | some (some v) => (← v.items).mapM LintMessage.ofJson
      | _ => pure []
    match path with
    | some path => return ⟨path, messages⟩
    | none => throw (absent "filePath" 0)

/-- Whether an item of a report says nothing. -/
def saysNothing : Json → Bool
  | .null => true
  | .obj [] => true
  | _ => false

/-- The report of a text; `none` if nothing is reported. -/
def parse (text : String) : Except InternalError (Option FileReport) :=
  let cs := Text.trimChars text.toList
  if cs.isEmpty then .ok none
  else match Json.parseChars cs with
    | .error f => .error (.malformedReport f)
    | .ok (.arr []) => .ok none
    | .ok (.arr (first :: _)) =>
      if saysNothing first then .ok none
      else ((ofJson first).map some).mapError .unexpectedEntry
    | .ok v => .error (.reportNotArray v)

end FileReport

/-- The name of a reported file: relative to the repository if it lies below its root or below the
place that the root leads to, and with slashes. -/
def relativize (h : Host) (path : String) (root : Path) : String :=
  let p : Path := path
  let inside : Option Path :=
    if !p.isAbsolute then none
    else match p.below? root with
      | some q => some q
      | none =>
        match h.files.canonical? h.directory root with
        | some c => p.below? c
        | none => none
  String.ofList (Path.slashed (inside.getD p).chars)

/-- The message about a line of a file. -/
def lineMessage (file : String) (line : Nat) (message : String) : String :=
  message ++ " in " ++ file ++ " on line " ++ toString line

/-- The messages of a report about added lines of the file that it is about. -/
def correlate (h : Host) (r : FileReport) (files : List EditedFile) (root : Path) :
    Except InternalError (List String) := do
  let f ← findFile files (relativize h r.path root)
  return r.messages.filterMap fun m =>
    match m.line with
    | some n => if f.isEdited n then some (lineMessage f.name n m.message) else none
    | none => none

end StandardsGate
